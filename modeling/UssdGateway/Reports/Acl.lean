import UssdGateway.Library.SqlClause
import UssdGateway.Reports.Legs

/-!
Per-row access control: the shortcodes a session may read and from when, and the SQL predicate
built from them.
-/

namespace UssdGateway

open SqlClause

/-- A shortcode the caller may read, from a unix second on. 0 is no lower bound. -/
structure ShortcodeGrant where
  id : Nat
  fromSecs : Int
deriving DecidableEq

abbrev ShortcodeAcl := Option (List ShortcodeGrant)

inductive SqlValue where
  | number (value : Int)
  | ids (values : List Int)
  | day (value : Int)
  | text (value : String)
  | texts (values : List String)
deriving DecidableEq

inductive Grain where
  | ts
  | date
deriving DecidableEq

/-- The columns a predicate looks at: the shortcode, and the instant or the day of a row. -/
structure AclColumns (ρ : Type) where
  scCol : ρ → Option Nat
  tsCol : ρ → Int

def tanzaniaOffsetSecs : Int := 10800

def tanzaniaZone : Int := tanzaniaOffsetSecs * microsPerSecond

/-- The first whole day at or after an instant, as a day number. -/
def ceilToLocalDate (epochSeconds : Int) : Int :=
  let wall := epochSeconds + tanzaniaOffsetSecs
  let day := wall / 86400
  let hour := wall % 86400 / 3600
  let minute := wall % 3600 / 60
  let second := wall % 60
  if hour = 0 ∧ minute = 0 ∧ second = 0 then day else day + 1

def addGrant (id : Nat) (floor : Int) : List (Int × List Nat) → List (Int × List Nat)
  | [] => [(floor, [id])]
  | group :: rest =>
      if group.1 = floor then (group.1, group.2 ++ [id]) :: rest
      else group :: addGrant id floor rest

def byFrom (grants : List (Nat × Int)) : List (Int × List Nat) :=
  grants.foldl (fun groups grant => addGrant grant.1 grant.2 groups) []

def idIn (ids : List Int) (shortcodeId : Option Nat) : Bool :=
  shortcodeId.any fun id => decide (Int.ofNat id ∈ ids)

section

variable {ρ : Type} (columns : AclColumns ρ) (grain : Grain)

def idAny (ids : List Int) : Builder SqlValue ρ :=
  withValue (.ids ids) fun value row =>
    match value with
    | some (.ids wanted) => idIn wanted (columns.scCol row)
    | _ => false

def sinceFloor (floor : Int) : Builder SqlValue ρ :=
  match grain with
  | .ts => withValue (.number floor) fun value row =>
      match value with
      | some (.number secs) => decide (secs * microsPerSecond ≤ columns.tsCol row)
      | _ => false
  | .date => withValue (.day (ceilToLocalDate floor)) fun value row =>
      match value with
      | some (.day date) => decide (date ≤ columns.tsCol row)
      | _ => false

def aclBranch (group : Int × List Nat) : Builder SqlValue ρ :=
  if group.1 ≤ 0 then idAny columns (group.2.map Int.ofNat)
  else joined (· && ·) (idAny columns (group.2.map Int.ofNat))
    (sinceFloor columns grain group.1)

def aclClause (acl : ShortcodeAcl) : Builder SqlValue ρ :=
  match acl with
  | none => constant fun _ => true
  | some [] => constant fun _ => false
  | some (grant :: rest) =>
      anyOf ((byFrom ((grant :: rest).map fun grant => (grant.id, grant.fromSecs))).map
        (aclBranch columns grain))

def grantFloor (floor : Int) : Int :=
  match grain with
  | .ts => floor * microsPerSecond
  | .date => ceilToLocalDate floor

def fromFloor (floor : Int) (row : ρ) : Bool :=
  decide (floor ≤ 0) || decide (grantFloor grain floor ≤ columns.tsCol row)

def aclAdmits (acl : ShortcodeAcl) (row : ρ) : Bool :=
  match acl with
  | none => true
  | some grants => grants.any fun grant =>
      decide (columns.scCol row = some grant.id) && fromFloor columns grain grant.fromSecs row

end

theorem exists_addGrant (id : Nat) (floor : Int) (groups : List (Int × List Nat)) (other : Nat)
    (otherFloor : Int) :
    (∃ group ∈ addGrant id floor groups, group.1 = otherFloor ∧ other ∈ group.2) ↔
      (∃ group ∈ groups, group.1 = otherFloor ∧ other ∈ group.2) ∨
        (other = id ∧ otherFloor = floor) := by
  induction groups with
  | nil =>
      simp only [addGrant, List.mem_singleton, List.not_mem_nil, false_and, exists_false, false_or]
      constructor
      · rintro ⟨_, rfl, rfl, member⟩
        exact ⟨List.mem_singleton.1 member, rfl⟩
      · rintro ⟨rfl, rfl⟩
        exact ⟨_, rfl, rfl, List.mem_singleton.2 rfl⟩
  | cons group rest ih =>
      simp only [addGrant]
      split
      next same =>
        simp only [List.mem_cons, exists_eq_or_imp, List.mem_append, List.not_mem_nil, or_false]
        constructor
        · rintro (⟨rfl, inside | added⟩ | later)
          · exact Or.inl (Or.inl ⟨rfl, inside⟩)
          · exact Or.inr ⟨added, same⟩
          · exact Or.inl (Or.inr later)
        · rintro ((⟨rfl, inside⟩ | later) | ⟨rfl, rfl⟩)
          · exact Or.inl ⟨rfl, Or.inl inside⟩
          · exact Or.inr later
          · exact Or.inl ⟨same, Or.inr rfl⟩
      next =>
        simp only [List.mem_cons, exists_eq_or_imp, ih]
        rw [or_assoc]

theorem exists_byFrom (grants : List (Nat × Int)) (id : Nat) (floor : Int) :
    (∃ group ∈ byFrom grants, group.1 = floor ∧ id ∈ group.2) ↔ (id, floor) ∈ grants := by
  have folded : ∀ groups : List (Int × List Nat),
      (∃ group ∈ grants.foldl (fun groups grant => addGrant grant.1 grant.2 groups) groups,
        group.1 = floor ∧ id ∈ group.2) ↔
        (∃ group ∈ groups, group.1 = floor ∧ id ∈ group.2) ∨ (id, floor) ∈ grants := by
    induction grants with
    | nil => simp
    | cons grant rest ih =>
        intro groups
        rw [List.foldl_cons, ih, exists_addGrant, List.mem_cons, or_assoc]
        simp only [Prod.ext_iff]
  rw [byFrom, folded]
  simp

theorem addGrant_ids {id : Nat} {floor : Int} {groups : List (Int × List Nat)}
    (filled : ∀ group ∈ groups, group.2 ≠ []) :
    ∀ group ∈ addGrant id floor groups, group.2 ≠ [] := by
  induction groups with
  | nil =>
      intro group member
      rw [List.mem_singleton.1 member]
      exact List.cons_ne_nil id []
  | cons first rest ih =>
      obtain ⟨here, others⟩ := List.forall_mem_cons.1 filled
      rw [addGrant]
      split
      · refine List.forall_mem_cons.2 ⟨?_, others⟩
        exact List.append_ne_nil_of_left_ne_nil here [id]
      · exact List.forall_mem_cons.2 ⟨here, ih others⟩

theorem byFrom_ids (grants : List (Nat × Int)) : ∀ group ∈ byFrom grants, group.2 ≠ [] := by
  have folded : ∀ groups : List (Int × List Nat), (∀ group ∈ groups, group.2 ≠ []) →
      ∀ group ∈ grants.foldl (fun groups grant => addGrant grant.1 grant.2 groups) groups,
        group.2 ≠ [] := by
    induction grants with
    | nil => exact fun _ filled => filled
    | cons grant rest ih => exact fun groups filled => ih _ (addGrant_ids filled)
  exact folded [] fun _ member => absurd member List.not_mem_nil

section

variable {ρ : Type} {columns : AclColumns ρ} {grain : Grain}

theorem denotes_idAny (ids : List Int) :
    Denotes (idAny columns ids) fun row => idIn ids (columns.scCol row) :=
  denotes_withValue _ _

theorem denotes_sinceFloor (floor : Int) :
    Denotes (sinceFloor columns grain floor)
      fun row => decide (grantFloor grain floor ≤ columns.tsCol row) := by
  cases grain with
  | ts => exact denotes_withValue _ _
  | date => exact denotes_withValue _ _

theorem denotes_aclBranch (group : Int × List Nat) :
    Denotes (aclBranch columns grain group) fun row =>
      idIn (group.2.map Int.ofNat) (columns.scCol row) && fromFloor columns grain group.1 row := by
  simp only [aclBranch, fromFloor]
  split
  next unfloored =>
    simp only [unfloored, decide_true, Bool.true_or, Bool.and_true]
    exact denotes_idAny _
  next floored =>
    simp only [floored, decide_false, Bool.false_or]
    exact denotes_joined (· && ·) (denotes_idAny _) (denotes_sinceFloor _)

theorem idIn_map_iff (ids : List Nat) (shortcodeId : Option Nat) :
    idIn (ids.map Int.ofNat) shortcodeId = true ↔ ∃ id ∈ ids, shortcodeId = some id := by
  rcases shortcodeId with _ | id
  · simp [idIn]
  · simp only [idIn, Option.any_some, decide_eq_true_eq, List.mem_map, Option.some.injEq]
    constructor
    · rintro ⟨other, inside, same⟩
      exact ⟨other, inside, (Int.ofNat.inj same).symm⟩
    · rintro ⟨other, inside, same⟩
      exact ⟨other, inside, congrArg Int.ofNat same.symm⟩

theorem any_byFrom (grants : List (Nat × Int)) (row : ρ) :
    ((byFrom grants).any fun group =>
      idIn (group.2.map Int.ofNat) (columns.scCol row) && fromFloor columns grain group.1 row) =
      grants.any fun grant =>
        decide (columns.scCol row = some grant.1) && fromFloor columns grain grant.2 row := by
  rw [Bool.eq_iff_iff]
  simp only [List.any_eq_true, Bool.and_eq_true, idIn_map_iff, decide_eq_true_eq]
  constructor
  · rintro ⟨group, member, ⟨id, inside, named⟩, late⟩
    exact ⟨(id, group.1), (exists_byFrom _ _ _).1 ⟨group, member, rfl, inside⟩, named, late⟩
  · rintro ⟨grant, granted, named, late⟩
    obtain ⟨group, member, floor, inside⟩ := (exists_byFrom grants grant.1 grant.2).2 granted
    exact ⟨group, member, ⟨grant.1, inside, named⟩, floor ▸ late⟩

theorem denotes_aclClause (acl : ShortcodeAcl) :
    Denotes (aclClause columns grain acl) (aclAdmits columns grain acl) := by
  rcases acl with _ | grants
  · exact denotes_constant _
  rcases grants with _ | ⟨grant, rest⟩
  · exact denotes_constant _
  have branches := denotes_anyOf (byFrom ((grant :: rest).map fun grant =>
    (grant.id, grant.fromSecs))) (aclBranch columns grain)
    (fun group row => idIn (group.2.map Int.ofNat) (columns.scCol row) &&
      fromFloor columns grain group.1 row) fun group _ => denotes_aclBranch group
  simp only [any_byFrom, List.any_map, Function.comp_def] at branches
  exact branches

end

end UssdGateway
