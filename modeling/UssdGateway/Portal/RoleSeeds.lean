import Mathlib.Data.Finset.Prod
import UssdGateway.Library.Growth
import UssdGateway.Portal.Middleware

/-!
What the roles may do. The migrations insert the roles, the permissions and which role holds which;
a file that stops half-way is run again from its start, and no statement takes a permission away.
-/

namespace UssdGateway

open Growth

/-- `roles`, `permissions` and `role_permissions`, by their keys. -/
structure RoleTables where
  roles : Finset String
  permissions : Finset String
  rolePermissions : Finset (String × String)

namespace RoleTables

def parts (tables : RoleTables) : Finset String × Finset String × Finset (String × String) :=
  (tables.roles, tables.permissions, tables.rolePermissions)

theorem parts_injective : Function.Injective parts := by
  rintro ⟨roles, permissions, granted⟩ ⟨_, _, _⟩ same
  obtain ⟨rfl, rfl, rfl⟩ := by simpa [parts] using same
  rfl

instance : PartialOrder RoleTables := PartialOrder.lift parts parts_injective

def empty : RoleTables := ⟨∅, ∅, ∅⟩

theorem le_iff {first second : RoleTables} :
    first ≤ second ↔ first.roles ⊆ second.roles ∧ first.permissions ⊆ second.permissions ∧
      first.rolePermissions ⊆ second.rolePermissions := Iff.rfl

instance (first second : RoleTables) : Decidable (first ≤ second) :=
  decidable_of_iff _ le_iff.symm

theorem empty_le (tables : RoleTables) : empty ≤ tables :=
  ⟨Finset.empty_subset _, Finset.empty_subset _, Finset.empty_subset _⟩

end RoleTables

/-- Each insert leaves alone what is there already. -/
inductive SeedStatement where
  | insertRoles (keys : List String)
  | insertPermissions (keys : List String)
  /-- `roles CROSS JOIN permissions` for one role. -/
  | grantEvery (role : String)
  | grant (roles permissions : List String)
deriving DecidableEq

namespace SeedStatement

def granted (tables : RoleTables) : SeedStatement → Finset (String × String)
  | .insertRoles _ | .insertPermissions _ => ∅
  | .grantEvery role => (tables.roles ∩ {role}) ×ˢ tables.permissions
  | .grant roles permissions =>
      (tables.roles ∩ roles.toFinset) ×ˢ (tables.permissions ∩ permissions.toFinset)

def addedRoles : SeedStatement → Finset String
  | .insertRoles keys => keys.toFinset
  | _ => ∅

def addedPermissions : SeedStatement → Finset String
  | .insertPermissions keys => keys.toFinset
  | _ => ∅

def execute (statement : SeedStatement) (tables : RoleTables) : RoleTables where
  roles := tables.roles ∪ statement.addedRoles
  permissions := tables.permissions ∪ statement.addedPermissions
  rolePermissions := tables.rolePermissions ∪ statement.granted tables

theorem granted_subset (statement : SeedStatement) {first second : RoleTables}
    (le : first ≤ second) : statement.granted first ⊆ statement.granted second := by
  obtain ⟨roles, permissions, _⟩ := RoleTables.le_iff.1 le
  cases statement with
  | insertRoles keys => exact Finset.Subset.refl _
  | insertPermissions keys => exact Finset.Subset.refl _
  | grantEvery role =>
      exact Finset.product_subset_product (Finset.inter_subset_inter_right roles) permissions
  | grant names keys =>
      exact Finset.product_subset_product (Finset.inter_subset_inter_right roles)
        (Finset.inter_subset_inter_right permissions)

def step (statement : SeedStatement) : Growth.Step RoleTables where
  run := statement.execute
  monotone := by
    intro first second le
    obtain ⟨roles, permissions, granted⟩ := RoleTables.le_iff.1 le
    exact ⟨Finset.union_subset_union_left roles, Finset.union_subset_union_left permissions,
      Finset.union_subset_union granted (statement.granted_subset le)⟩
  grows tables := ⟨Finset.subset_union_left, Finset.subset_union_left, Finset.subset_union_left⟩

end SeedStatement

/-! The statements, file by file. -/

def seed001 : List SeedStatement :=
  [.insertRoles ["super_admin", "client"],
    .insertPermissions
      ["reports.view_own", "reports.view_all", "shortcodes.manage", "portal_users.manage"],
    .grantEvery "super_admin", .grant ["client"] ["reports.view_own"]]

def seed010 : List SeedStatement :=
  [.insertPermissions
      ["shortcodes.view", "operators.view", "portal_users.view", "viewers.manage_own"],
    .insertRoles ["auditor", "client_viewer"], .grantEvery "super_admin",
    .grant ["auditor"]
      ["reports.view_all", "shortcodes.view", "operators.view", "portal_users.view"],
    .grant ["client_viewer"] ["reports.view_own"], .grant ["client"] ["viewers.manage_own"]]

def seed011 : List SeedStatement := [.insertPermissions ["audit.view"], .grantEvery "super_admin"]

def seed012 : List SeedStatement := [.grant ["auditor"] ["audit.view"]]

def seed024 : List SeedStatement :=
  [.insertPermissions ["shortcodes.manage_sandbox"],
    .grant ["super_admin", "client"] ["shortcodes.manage_sandbox"]]

def seed028 : List SeedStatement :=
  [.insertPermissions ["archive.view"], .grant ["super_admin"] ["archive.view"]]

def seed029 : List SeedStatement :=
  [.insertPermissions ["portal_users.impersonate"],
    .grant ["super_admin", "auditor"] ["portal_users.impersonate"]]

def seedStatements : List SeedStatement :=
  seed001 ++ seed010 ++ seed011 ++ seed012 ++ seed024 ++ seed028 ++ seed029

def execute (statements : List SeedStatement) (tables : RoleTables) : RoleTables :=
  runAll (statements.map SeedStatement.step) tables

def seededTables : RoleTables := execute seedStatements .empty

def superAdminPerms : List String :=
  [Perms.reportsViewOwn, Perms.reportsViewAll, Perms.shortcodesManage, "portal_users.manage",
    Perms.shortcodesView, Perms.operatorsView, Perms.portalUsersView, Perms.viewersManageOwn,
    Perms.auditView, Perms.shortcodesManageSandbox, Perms.archiveView,
    Perms.portalUsersImpersonate]

def auditorPerms : List String :=
  [Perms.reportsViewAll, Perms.shortcodesView, Perms.operatorsView, Perms.portalUsersView,
    Perms.auditView, Perms.portalUsersImpersonate]

def clientPerms : List String :=
  [Perms.reportsViewOwn, Perms.viewersManageOwn, Perms.shortcodesManageSandbox]

def seededRoles : List (String × List String) :=
  [("super_admin", superAdminPerms), ("auditor", auditorPerms), ("client", clientPerms),
    ("client_viewer", [Perms.reportsViewOwn])]

theorem seeded_closed : ∀ statement ∈ seedStatements,
    statement.execute seededTables ≤ seededTables := by
  decide +kernel

theorem seeded_rolePermissions : seededTables.rolePermissions =
    (seededRoles.flatMap fun role => role.2.map fun perm => (role.1, perm)).toFinset := by
  decide +kernel

theorem execute_map_closed {statements : List SeedStatement}
    (known : ∀ statement ∈ statements, statement ∈ seedStatements) :
    ∀ step ∈ statements.map SeedStatement.step, step.run seededTables ≤ seededTables := by
  intro step member
  obtain ⟨statement, inside, rfl⟩ := List.mem_map.1 member
  exact seeded_closed statement (known statement inside)

/-- However often and however far the files were run before, or are run again after it, one whole
pass leaves every role with the permissions of its list, and no others. -/
theorem roles_as_seeded {before statements : List SeedStatement}
    (earlier : ∀ statement ∈ before, statement ∈ seedStatements)
    (known : ∀ statement ∈ statements, statement ∈ seedStatements)
    (pass : seedStatements.Sublist statements) (role perm : String) :
    (role, perm) ∈ (execute statements (execute before .empty)).rolePermissions ↔
      ∃ perms, (role, perms) ∈ seededRoles ∧ perm ∈ perms := by
  have started : execute before .empty ≤ seededTables :=
    runAll_le_of_closed (execute_map_closed earlier) (RoleTables.empty_le _)
  have settled : execute statements (execute before .empty) = seededTables :=
    runAll_settles (pass.map SeedStatement.step) (execute_map_closed known)
      (RoleTables.empty_le _) started
  rw [settled, seeded_rolePermissions, List.mem_toFinset, List.mem_flatMap]
  constructor
  · rintro ⟨entry, member, inside⟩
    obtain ⟨held, listed, same⟩ := List.mem_map.1 inside
    obtain ⟨rfl, rfl⟩ := Prod.mk.inj same
    exact ⟨entry.2, member, listed⟩
  · rintro ⟨perms, member, listed⟩
    exact ⟨(role, perms), member, List.mem_map.2 ⟨perm, listed, rfl⟩⟩

/-- A first start that got as far as the second file, and a second one. -/
theorem second_start_as_seeded :
    ("client", Perms.viewersManageOwn) ∈
        (execute seedStatements (execute (seed001 ++ seed010.take 4) .empty)).rolePermissions ↔
      ∃ perms, ("client", perms) ∈ seededRoles ∧ Perms.viewersManageOwn ∈ perms :=
  roles_as_seeded (by decide) (fun _ member => member) (List.Sublist.refl _) _ _

end UssdGateway
