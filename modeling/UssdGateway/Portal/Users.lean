import UssdGateway.Library.KeyedTable

/-!
The dashboard's users, roles and viewer grants, as the tables hold them.
-/

namespace UssdGateway

inductive RoleKey where
  | superAdmin
  | client
  | auditor
  | clientViewer
deriving DecidableEq, Repr

structure RoleRow where
  id : Nat
  key : RoleKey
deriving DecidableEq

structure RoleTable where
  rows : List RoleRow
  idsUnique : (rows.map RoleRow.id).Nodup
  keysUnique : (rows.map RoleRow.key).Nodup

def RoleTable.keyOf (roles : RoleTable) (id : Nat) : Option RoleKey :=
  (roles.rows.find? fun role => role.id = id).map RoleRow.key

theorem RoleTable.keyOf_of_mem {roles : RoleTable} {role : RoleRow} (member : role ∈ roles.rows) :
    roles.keyOf role.id = some role.key := by
  rcases found : roles.rows.find? (fun other => other.id = role.id) with _ | other
  · rw [List.find?_eq_none] at found
    exact absurd (decide_eq_true rfl) (found role member)
  · have same : other = role := List.inj_on_of_nodup_map roles.idsUnique
      (List.mem_of_find?_eq_some found) member (by simpa using List.find?_some found)
    rw [RoleTable.keyOf, found, same]
    rfl

theorem RoleTable.id_of_keyOf {roles : RoleTable} {first second : Nat} {key : RoleKey}
    (firstKey : roles.keyOf first = some key) (secondKey : roles.keyOf second = some key) :
    first = second := by
  obtain ⟨firstRole, firstFound, firstSame⟩ := Option.map_eq_some_iff.1 firstKey
  obtain ⟨secondRole, secondFound, secondSame⟩ := Option.map_eq_some_iff.1 secondKey
  have equal : firstRole = secondRole :=
    List.inj_on_of_nodup_map roles.keysUnique (List.mem_of_find?_eq_some firstFound)
      (List.mem_of_find?_eq_some secondFound) (firstSame.trans secondSame.symm)
  have firstId : firstRole.id = first := by simpa using List.find?_some firstFound
  have secondId : secondRole.id = second := by simpa using List.find?_some secondFound
  rw [← firstId, ← secondId, equal]

structure PortalUserRow where
  id : Nat
  email : String
  name : String
  phone : Option String
  roleId : Nat
  active : Bool
  passwordHash : String
  passwordVersion : Nat
  createdByUserId : Option Nat
deriving DecidableEq

abbrev UserTable := KeyedTable Nat PortalUserRow PortalUserRow.id

end UssdGateway
