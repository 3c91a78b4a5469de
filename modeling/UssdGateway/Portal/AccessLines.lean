import UssdGateway.Portal.Claims
import UssdGateway.Reports.Filters

/-!
What the claims say of one shortcode. They are computed for all of a user's shortcodes at once, and
what comes out for each depends on the user's own lines of it alone.
-/

namespace UssdGateway

open Grouping SqlClause

def AccessTables.lines (tables : AccessTables) (userId id : Nat) : List AccessRow :=
  (tables.ownedRows userId ++ tables.grantedRows userId).filter fun access => access.id = id

def earliest (lines : List AccessRow) : Int := castBigint ((lines.map AccessRow.fromTs).min?.getD 0)

def lineFloor (lines : List AccessRow) : Int :=
  if lines.any AccessRow.floored then earliest lines else 0

def claimLine (id : Nat) (lines : List AccessRow) : AccessRow where
  id := id
  fromTs := earliest lines
  floored := lines.any AccessRow.floored

section

variable {tables : AccessTables} {userId id : Nat}

theorem mem_claimRows (access : AccessRow) :
    access ∈ tables.claimRows userId ∧ access.id = id ↔
      tables.lines userId id ≠ [] ∧ access = claimLine id (tables.lines userId id) := by
  simp only [AccessTables.claimRows, List.mem_insertionSort, List.mem_map, mem_groupBy]
  constructor
  · rintro ⟨⟨⟨wanted, members⟩, ⟨⟨line, inside, keyed⟩, whole⟩, rfl⟩, same⟩
    simp only at keyed whole same
    subst same
    have here : members = tables.lines userId wanted := whole
    refine ⟨List.ne_nil_of_mem (List.mem_filter.2 ⟨inside, decide_eq_true keyed⟩), ?_⟩
    rw [claimLine, ← here]
    rfl
  · rintro ⟨nonempty, rfl⟩
    obtain ⟨line, member⟩ := List.exists_mem_of_ne_nil _ nonempty
    obtain ⟨inside, keyed⟩ := List.mem_filter.1 member
    exact ⟨⟨(id, tables.lines userId id), ⟨⟨line, inside, of_decide_eq_true keyed⟩, rfl⟩, rfl⟩, rfl⟩

theorem mem_claimed_iff :
    id ∈ (tables.claimRows userId).map AccessRow.id ↔ tables.lines userId id ≠ [] := by
  rw [List.mem_map]
  constructor
  · rintro ⟨access, member, same⟩
    exact ((mem_claimRows access).1 ⟨member, same⟩).1
  · intro nonempty
    obtain ⟨member, same⟩ := (mem_claimRows _).2 ⟨nonempty, rfl⟩
    exact ⟨_, member, same⟩

variable {account : PortalAccount} {claims : SessionClaims}

theorem claims_of_restricted (active : tables.activeAccount userId = some account)
    (restricted : account.viewsAll = false) (loaded : loadUserClaims tables userId = some claims) :
    claims.shortcodeIds = some ((tables.claimRows userId).map AccessRow.id) ∧
      claims.shortcodeFrom = ((tables.claimRows userId).filter AccessRow.floored).map
        fun access => (access.id, access.fromTs) := by
  simp only [loadUserClaims, active, Option.map_some, restricted, Option.some.injEq] at loaded
  rw [← loaded]
  exact ⟨rfl, rfl⟩

theorem fromOf_claims
    (from_rows : claims.shortcodeFrom = ((tables.claimRows userId).filter AccessRow.floored).map
      fun access => (access.id, access.fromTs)) :
    claims.fromOf id = lineFloor (tables.lines userId id) := by
  have entry : ∀ secs, (id, secs) ∈ claims.shortcodeFrom ↔
      (tables.lines userId id).any AccessRow.floored = true ∧
        secs = earliest (tables.lines userId id) := by
    intro secs
    rw [from_rows, List.mem_map]
    constructor
    · rintro ⟨access, member, same⟩
      obtain ⟨inside, floored⟩ := List.mem_filter.1 member
      obtain ⟨sameId, sameTs⟩ := Prod.mk.inj same
      obtain ⟨_, whole⟩ := (mem_claimRows access).1 ⟨inside, sameId⟩
      rw [whole] at floored sameTs
      exact ⟨floored, sameTs.symm⟩
    · rintro ⟨floored, rfl⟩
      have nonempty : tables.lines userId id ≠ [] := by
        intro empty
        rw [empty] at floored
        cases floored
      obtain ⟨inside, _⟩ := (mem_claimRows _).2 ⟨nonempty, rfl⟩
      exact ⟨_, List.mem_filter.2 ⟨inside, floored⟩, rfl⟩
  rw [SessionClaims.fromOf, lineFloor]
  rcases found : List.lookup id claims.shortcodeFrom with _ | secs
  · have unfloored : ¬ (tables.lines userId id).any AccessRow.floored = true := by
      intro floored
      have absent := List.lookup_eq_none_iff.1 found _ ((entry _).2 ⟨floored, rfl⟩)
      simp at absent
    rw [if_neg unfloored, Option.getD_none]
  · obtain ⟨first, rest, split, _⟩ := List.lookup_eq_some_iff.1 found
    obtain ⟨floored, rfl⟩ := (entry secs).1 (by rw [split]; simp)
    rw [if_pos floored, Option.getD_some]

section

variable {ρ : Type} {columns : AclColumns ρ} {grain : Grain} {record : ρ}

theorem aclAdmits_claims (active : tables.activeAccount userId = some account)
    (restricted : account.viewsAll = false) (loaded : loadUserClaims tables userId = some claims)
    (about : columns.scCol record = some id) :
    aclAdmits columns grain (sessionAcl claims) record = true ↔
      tables.lines userId id ≠ [] ∧
        fromFloor columns grain (lineFloor (tables.lines userId id)) record = true := by
  obtain ⟨ids, floors⟩ := claims_of_restricted active restricted loaded
  simp only [aclAdmits, sessionAcl, ids, Option.map_some, List.any_map, Function.comp_def,
    List.any_eq_true, Bool.and_eq_true, decide_eq_true_eq, about, Option.some.injEq]
  constructor
  · rintro ⟨access, member, same, late⟩
    rw [← same, fromOf_claims floors] at late
    rw [← mem_claimed_iff]
    exact ⟨List.mem_map.2 ⟨access, member, same.symm⟩, by rw [same]; exact same ▸ late⟩
  · rintro ⟨held, late⟩
    obtain ⟨access, member, same⟩ := List.mem_map.1 (mem_claimed_iff.2 held)
    exact ⟨access, member, same.symm, by rw [same, fromOf_claims floors]; exact late⟩

theorem aclAdmits_viewsAll (active : tables.activeAccount userId = some account)
    (unrestricted : account.viewsAll = true) (loaded : loadUserClaims tables userId = some claims) :
    aclAdmits columns grain (sessionAcl claims) record = true := by
  simp only [loadUserClaims, active, Option.map_some, unrestricted, Option.some.injEq] at loaded
  rw [← loaded]
  rfl

end

end

def ShownTo (claims : SessionClaims) (legs : List LegRecord) (leg : LegRecord) : Prop :=
  leg ∈ select (aclClause legColumns .ts (sessionAcl claims)) legs

/-- A session the user opens now is shown the leg. -/
def Reads (tables : AccessTables) (userId : Nat) (legs : List LegRecord) (leg : LegRecord) : Prop :=
  ∃ claims, loadUserClaims tables userId = some claims ∧ ShownTo claims legs leg

theorem shownTo_iff {claims : SessionClaims} {legs : List LegRecord} {leg : LegRecord} :
    ShownTo claims legs leg ↔
      leg ∈ legs ∧ aclAdmits legColumns .ts (sessionAcl claims) leg = true := by
  rw [ShownTo, select_eq (denotes_aclClause _), List.mem_filter]

theorem shownTo_claims_iff {tables : AccessTables} {userId id : Nat} {account : PortalAccount}
    {claims : SessionClaims} {legs : List LegRecord} {leg : LegRecord}
    (active : tables.activeAccount userId = some account)
    (loaded : loadUserClaims tables userId = some claims) (about : leg.shortcodeId = some id) :
    ShownTo claims legs leg ↔ leg ∈ legs ∧ (account.viewsAll = true ∨
      tables.lines userId id ≠ [] ∧
        fromFloor legColumns .ts (lineFloor (tables.lines userId id)) leg = true) := by
  rw [shownTo_iff]
  rcases restricted : account.viewsAll with _ | _
  · rw [aclAdmits_claims active restricted loaded about]
    simp
  · simp [aclAdmits_viewsAll active restricted loaded]

theorem reads_iff {tables : AccessTables} {userId id : Nat} {legs : List LegRecord}
    {leg : LegRecord} (about : leg.shortcodeId = some id) :
    Reads tables userId legs leg ↔ ∃ account, tables.activeAccount userId = some account ∧
      leg ∈ legs ∧ (account.viewsAll = true ∨ tables.lines userId id ≠ [] ∧
        fromFloor legColumns .ts (lineFloor (tables.lines userId id)) leg = true) := by
  constructor
  · rintro ⟨claims, loaded, shown⟩
    obtain ⟨account, active, _⟩ := Option.map_eq_some_iff.1 loaded
    exact ⟨account, active, (shownTo_claims_iff active loaded about).1 shown⟩
  · rintro ⟨account, active, shown⟩
    obtain ⟨claims, loaded⟩ : ∃ claims, loadUserClaims tables userId = some claims := by
      simp only [loadUserClaims, active, Option.map_some]
      exact ⟨_, rfl⟩
    exact ⟨claims, loaded, (shownTo_claims_iff active loaded about).2 shown⟩

end UssdGateway
