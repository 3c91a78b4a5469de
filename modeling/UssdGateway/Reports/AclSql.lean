import UssdGateway.Library.SqlText
import UssdGateway.Reports.LocalDates

/-!
The access predicate as the text that `aclClause` returns, run with the parameters that it pushes.
-/

namespace UssdGateway

namespace AclSql

open SqlText

structure AclClauseOpts where
  scCol : Column
  tsCol : Column
  apart : scCol.name ≠ tsCol.name
  grain : Grain

abbrev Pushing := StateT (List SqlValue) Option

def push (value : SqlValue) : Pushing (List Char) := fun bound =>
  some (placeholderText (bound.length + 1), bound ++ [value])

def idsP (o : AclClauseOpts) (ids : List Nat) : Pushing (List Char) := do
  let placeholder ← push (.ids (ids.map Int.ofNat))
  return o.scCol.name ++ (" = ANY(".toList ++ (placeholder ++ "::int[])".toList))

def floorClause (o : AclClauseOpts) (from' : Int) : Pushing (List Char) := do
  let floor ← match o.grain with
    | .ts => do
        let placeholder ← push (.number from')
        pure ("to_timestamp(".toList ++ (placeholder ++ ")".toList))
    | .date => do
        let day ← StateT.lift (LocalDates.ceilToLocalDate from')
        let placeholder ← push (.text (String.ofList day))
        pure (placeholder ++ "::date".toList)
  return o.tsCol.name ++ (" >= ".toList ++ floor)

def branch (o : AclClauseOpts) (group : Int × List Nat) : Pushing (List Char) := do
  let ids ← idsP o group.2
  if group.1 ≤ 0 then return ids
  let floor ← floorClause o group.1
  return "(".toList ++ (ids ++ (" AND ".toList ++ (floor ++ ")".toList)))

def branches (o : AclClauseOpts) : List (Int × List Nat) → Pushing (List (List Char))
  | [] => pure []
  | group :: rest => do
      let text ← branch o group
      let later ← branches o rest
      return text :: later

def aclClause (acl : ShortcodeAcl) (o : AclClauseOpts) : Pushing (List Char) :=
  match acl with
  | none => pure "TRUE".toList
  | some [] => pure "FALSE".toList
  | some grants => do
      let texts ← branches o (byFrom (grants.map fun grant => (grant.id, grant.fromSecs)))
      match texts with
      | [text] => return text
      | texts => return "(".toList ++ (" OR ".toList.intercalate texts ++ ")".toList)

def roundToDouble (number : Int) : Int :=
  let unit : Int := 2 ^ (number.natAbs.log2 + 1 - 53)
  let below := number / unit
  if 2 * (number % unit) < unit ∨ 2 * (number % unit) = unit ∧ below % 2 = 0 then below * unit
  else (below + 1) * unit

def postgresEpoch : Int := 946684800

/-- The microseconds of `to_timestamp`, multiplied as doubles from the year 2000 on. -/
def toTimestamp (seconds : Int) : Option Int :=
  if -210866803200 ≤ seconds ∧ seconds < 9224318016000 then
    some (roundToDouble ((seconds - postgresEpoch) * microsPerSecond) +
      postgresEpoch * microsPerSecond)
  else none

def castInts (values : List Int) : Option (List Int) :=
  if ∀ value ∈ values, -2147483648 ≤ value ∧ value ≤ 2147483647 then some values else none

def casts : Casts SqlValue where
  ids
    | .ids values => castInts values
    | _ => none
  instant
    | .number seconds => toTimestamp seconds
    | _ => none
  date
    | .text text => LocalDates.castDate text.toList
    | _ => none

/-- What the clause says of a row, `none` where building it or running it fails. -/
def runClause (acl : ShortcodeAcl) (o : AclClauseOpts) (bound later : List SqlValue)
    (row : List Char → Option Int) : Option (Option Bool) :=
  (aclClause acl o bound).bind fun built =>
    (read built.1).bind (evaluate casts (built.2 ++ later) row)

/-! What the built text means, whatever is pushed before and after. -/

abbrev Meaning := (List Char → Option Int) → Option (Option Bool)

def Means (builder : Pushing (List Char)) (meaning : Meaning) : Prop :=
  ∀ bound, match builder bound with
    | none => ∀ row, meaning row = none
    | some (text, values) => ∃ condition added, ReadsAs text condition ∧ values = bound ++ added ∧
        ∀ later row, evaluate casts (bound ++ added ++ later) row condition = meaning row

def sqlFloor (grain : Grain) (from' : Int) : Option Int :=
  match grain with
  | .ts => toTimestamp from'
  | .date => (LocalDates.ceilToLocalDate from').bind LocalDates.castDate

def idsMeaning (o : AclClauseOpts) (ids : List Nat) : Meaning := fun row =>
  (castInts (ids.map Int.ofNat)).map fun ids => isAmong ids (row o.scCol.name)

def floorMeaning (o : AclClauseOpts) (from' : Int) : Meaning := fun row =>
  (sqlFloor o.grain from').map fun floor => notBefore floor (row o.tsCol.name)

def branchMeaning (o : AclClauseOpts) (group : Int × List Nat) : Meaning := fun row =>
  if group.1 ≤ 0 then idsMeaning o group.2 row
  else joinVerdicts kleeneAnd (idsMeaning o group.2 row) (floorMeaning o group.1 row)

theorem evaluated_pushed (bound later : List SqlValue) (value : SqlValue) :
    valueAt (bound ++ [value] ++ later) (bound.length + 1) = some value := by
  rw [List.append_assoc]
  exact valueAt_pushed bound value later

theorem means_idsP (o : AclClauseOpts) (ids : List Nat) :
    Means (idsP o ids) (idsMeaning o ids) := by
  intro bound
  refine ⟨_, [.ids (ids.map Int.ofNat)], reads_anyOf o.scCol (bound.length + 1), rfl, ?_⟩
  intro later row
  rw [evaluate, evaluated_pushed]
  rfl

theorem means_floorClause (o : AclClauseOpts) (from' : Int) :
    Means (floorClause o from') (floorMeaning o from') := by
  obtain ⟨scCol, tsCol, apart, grain⟩ := o
  intro bound
  cases grain with
  | ts =>
      refine ⟨_, [.number from'], reads_fromInstant tsCol (bound.length + 1), rfl, ?_⟩
      intro later row
      rw [evaluate, evaluated_pushed]
      rfl
  | date =>
      have built : floorClause ⟨scCol, tsCol, apart, .date⟩ from' bound =
          (LocalDates.ceilToLocalDate from').map fun day =>
            (tsCol.name ++ (" >= ".toList ++
              (placeholderText (bound.length + 1) ++ "::date".toList)),
              bound ++ [.text (String.ofList day)]) := by
        simp only [floorClause]
        cases LocalDates.ceilToLocalDate from' <;> rfl
      rw [built]
      cases dated : LocalDates.ceilToLocalDate from' with
      | none =>
          intro row
          simp only [floorMeaning, sqlFloor, dated, Option.bind_none, Option.map_none]
      | some day =>
          refine ⟨_, [.text (String.ofList day)], reads_fromDate tsCol (bound.length + 1), rfl, ?_⟩
          intro later row
          rw [evaluate, evaluated_pushed]
          simp only [casts, floorMeaning, sqlFloor, dated, Option.bind_some, String.toList_ofList]

theorem Means.both {first second : Pushing (List Char)} {left right : Meaning}
    (meansFirst : Means first left) (meansSecond : Means second right) :
    Means (do
      let ids ← first
      let floor ← second
      return "(".toList ++ (ids ++ (" AND ".toList ++ (floor ++ ")".toList))))
      fun row => joinVerdicts kleeneAnd (left row) (right row) := by
  intro bound
  have here := meansFirst bound
  simp only [bind, StateT.bind]
  generalize first bound = built at here ⊢
  rcases built with _ | ⟨text, values⟩
  · intro row
    simp only [here row]
    rfl
  · obtain ⟨condition, added, reads, rfl, means⟩ := here
    have next := meansSecond (bound ++ added)
    simp only [Option.bind_some]
    generalize second (bound ++ added) = built at next ⊢
    rcases built with _ | ⟨later, values⟩
    · intro row
      simp only [next row]
      cases left row <;> rfl
    · obtain ⟨other, pushed, readsLater, rfl, meansLater⟩ := next
      refine ⟨.both condition other, added ++ pushed, reads_both reads readsLater,
        List.append_assoc _ _ _, ?_⟩
      intro after row
      have earlier := means (pushed ++ after) row
      rw [← List.append_assoc] at earlier
      rw [← List.append_assoc, evaluate, earlier, meansLater]

theorem means_branch (o : AclClauseOpts) (group : Int × List Nat) :
    Means (branch o group) (branchMeaning o group) := by
  by_cases unfloored : group.1 ≤ 0
  · have alone : branch o group = idsP o group.2 := by
      simp only [branch, unfloored, if_true]
      exact bind_pure _
    have ids : branchMeaning o group = idsMeaning o group.2 := by
      funext row
      rw [branchMeaning, if_pos unfloored]
    rw [alone, ids]
    exact means_idsP o group.2
  · have both : branchMeaning o group = fun row =>
        joinVerdicts kleeneAnd (idsMeaning o group.2 row) (floorMeaning o group.1 row) := by
      funext row
      rw [branchMeaning, if_neg unfloored]
    rw [both]
    simp only [branch, if_neg unfloored]
    exact (means_idsP o group.2).both (means_floorClause o group.1)

theorem means_branches (o : AclClauseOpts) (groups : List (Int × List Nat))
    (bound : List SqlValue) :
    match branches o groups bound with
    | none => ∃ group ∈ groups, ∀ row, branchMeaning o group row = none
    | some (texts, values) => ∃ (parts : List (List Char × Condition)) (added : List SqlValue),
        parts.map Prod.fst = texts ∧ (∀ part ∈ parts, ReadsAs part.1 part.2) ∧
        values = bound ++ added ∧ ∀ later row,
          parts.map (fun part => evaluate casts (bound ++ added ++ later) row part.2) =
            groups.map fun group => branchMeaning o group row := by
  induction groups generalizing bound with
  | nil =>
      exact ⟨[], [], rfl, fun _ member => absurd member List.not_mem_nil,
        (List.append_nil bound).symm, fun _ _ => rfl⟩
  | cons group rest ih =>
      have here := means_branch o group bound
      simp only [branches, bind, StateT.bind]
      generalize branch o group bound = built at here ⊢
      rcases built with _ | ⟨text, values⟩
      · exact ⟨group, List.mem_cons_self, here⟩
      · obtain ⟨condition, added, reads, rfl, means⟩ := here
        have next := ih (bound ++ added)
        simp only [Option.bind_some]
        generalize branches o rest (bound ++ added) = built at next ⊢
        rcases built with _ | ⟨texts, values⟩
        · obtain ⟨other, member, fails⟩ := next
          exact ⟨other, List.mem_cons_of_mem group member, fails⟩
        · obtain ⟨parts, pushed, rfl, readParts, rfl, meansParts⟩ := next
          refine ⟨(text, condition) :: parts, added ++ pushed, rfl,
            List.forall_mem_cons.2 ⟨reads, readParts⟩, List.append_assoc _ _ _, ?_⟩
          intro after row
          have earlier := means (pushed ++ after) row
          rw [← List.append_assoc] at earlier
          rw [← List.append_assoc, List.map_cons, List.map_cons, earlier, meansParts]

def clauseMeaning (acl : ShortcodeAcl) (o : AclClauseOpts) : Meaning := fun row =>
  match acl with
  | none => some (some true)
  | some grants => anyVerdict ((byFrom (grants.map fun grant => (grant.id, grant.fromSecs))).map
      fun group => branchMeaning o group row)

theorem evaluate_parts (parts : List (List Char × Condition)) (values : List SqlValue)
    (row : List Char → Option Int) :
    evaluate casts values row (eitherAll (parts.map Prod.snd)) =
      anyVerdict (parts.map fun part => evaluate casts values row part.2) := by
  rw [evaluate_eitherAll, List.map_map]
  rfl

theorem read_joined {parts : List (List Char × Condition)} (nonempty : parts ≠ [])
    (reads : ∀ part ∈ parts, ReadsAs part.1 part.2) :
    read (match parts.map Prod.fst with
      | [text] => text
      | texts => "(".toList ++ (" OR ".toList.intercalate texts ++ ")".toList)) =
      some (eitherAll (parts.map Prod.snd)) := by
  rcases parts with _ | ⟨part, rest⟩
  · exact absurd rfl nonempty
  · rcases rest with _ | ⟨next, rest⟩
    · exact read_of_reads (reads part List.mem_cons_self)
    · exact read_of_reads (reads_eitherAll nonempty reads)

theorem runClause_eq (acl : ShortcodeAcl) (o : AclClauseOpts) (bound later : List SqlValue)
    (row : List Char → Option Int) : runClause acl o bound later row = clauseMeaning acl o row := by
  rcases acl with _ | grants
  · rfl
  rcases grants with _ | ⟨grant, rest⟩
  · rfl
  have means := means_branches o
    (byFrom ((grant :: rest).map fun grant => (grant.id, grant.fromSecs))) bound
  obtain ⟨group, member, _⟩ := (exists_byFrom
    ((grant :: rest).map fun grant => (grant.id, grant.fromSecs)) grant.id grant.fromSecs).2
    List.mem_cons_self
  rw [runClause, clauseMeaning]
  simp only [aclClause, bind, StateT.bind]
  generalize byFrom ((grant :: rest).map fun grant => (grant.id, grant.fromSecs)) = groups
    at means member ⊢
  generalize branches o groups bound = built at means ⊢
  rcases built with _ | ⟨texts, values⟩
  · obtain ⟨other, inside, fails⟩ := means
    exact (anyVerdict_eq_none (List.mem_map.2 ⟨other, inside, fails row⟩)).symm
  · obtain ⟨parts, added, rfl, reads, rfl, meansParts⟩ := means
    have nonempty : parts ≠ [] := by
      rintro rfl
      have same := meansParts later row
      rw [List.map_nil, eq_comm, List.map_eq_nil_iff] at same
      exact List.ne_nil_of_mem member same
    have reading := read_joined nonempty reads
    rw [← meansParts later row, ← evaluate_parts]
    have run := congrArg (fun condition =>
      condition.bind (evaluate casts (bound ++ added ++ later) row)) reading
    rcases parts with _ | ⟨part, _ | ⟨next, rest⟩⟩
    · exact absurd rfl nonempty
    · exact run
    · exact run

def Reaches (grain : Grain) (from' time : Int) : Prop :=
  match grain with
  | .ts => from' * microsPerSecond ≤ time
  | .date => ∃ first, IsLeast {day | from' ≤ LocalDates.dayStart day} first ∧ first ≤ time

def Admits (acl : ShortcodeAcl) (grain : Grain) (shortcodeId time : Option Int) : Prop :=
  match acl with
  | none => True
  | some grants => ∃ grant ∈ grants, shortcodeId = some (Int.ofNat grant.id) ∧
      (grant.fromSecs ≤ 0 ∨ ∃ reached, time = some reached ∧ Reaches grain grant.fromSecs reached)

/-- Whatever is pushed before and after, the clause runs and admits the rows it should. -/
def ClauseCorrect (acl : ShortcodeAcl) (o : AclClauseOpts) : Prop :=
  ∀ bound later row, ∃ verdict, runClause acl o bound later row = some verdict ∧
    (verdict = some true ↔ Admits acl o.grain (row o.scCol.name) (row o.tsCol.name)) ∧
    (acl ≠ none → row o.scCol.name = none → verdict ≠ some true)

def FloorHeld (grain : Grain) (from' : Int) : Prop :=
  match grain with
  | .ts => from' < 9224318016000
  | .date => LocalDates.DateFits from'

def FloorExact (grain : Grain) (from' : Int) : Prop :=
  match grain with
  | .ts => toTimestamp from' = some (from' * microsPerSecond)
  | .date => True

/-- An inexact floor does no harm beside a lower one. -/
def GrantFits (grants : List ShortcodeGrant) (grain : Grain) (grant : ShortcodeGrant) : Prop :=
  grant.id ≤ 2147483647 ∧ (grant.fromSecs ≤ 0 ∨ FloorHeld grain grant.fromSecs ∧
    (FloorExact grain grant.fromSecs ∨
      ∃ other ∈ grants, other.id = grant.id ∧ other.fromSecs < grant.fromSecs))

theorem reaches_iff (grain : Grain) (from' time : Int) :
    Reaches grain from' time ↔ grantFloor grain from' ≤ time := by
  cases grain with
  | ts => exact Iff.rfl
  | date =>
      constructor
      · rintro ⟨first, least, reached⟩
        rwa [least.unique (LocalDates.isLeast_ceilToLocalDate from')] at reached
      · exact fun reached => ⟨_, LocalDates.isLeast_ceilToLocalDate from', reached⟩

theorem roundToDouble_near {number : Int} (small : number.natAbs < 2 ^ 63) :
    number - 1024 ≤ roundToDouble number ∧ roundToDouble number ≤ number + 1024 := by
  have size : number.natAbs.log2 + 1 - 53 ≤ 10 := by
    by_cases zero : number.natAbs = 0
    · rw [zero]
      decide
    · have bits := (Nat.log2_lt zero).2 small
      omega
  have largest : (2 : Int) ^ (number.natAbs.log2 + 1 - 53) ≤ 2 ^ 10 := by
    exact_mod_cast Nat.pow_le_pow_right (Nat.succ_pos 1) size
  have positive : (0 : Int) < 2 ^ (number.natAbs.log2 + 1 - 53) := Int.pow_pos (by decide)
  simp only [roundToDouble]
  generalize (2 : Int) ^ (number.natAbs.log2 + 1 - 53) = unit at largest positive ⊢
  have whole := Int.ediv_mul_add_emod number unit
  have rest := Int.emod_nonneg number positive.ne'
  have restLt := Int.emod_lt_of_pos number positive
  split
  · omega
  · rw [Int.add_mul]
    omega

theorem roundToDouble_exact {number : Int}
    (divides : (2 : Int) ^ (number.natAbs.log2 + 1 - 53) ∣ number) :
    roundToDouble number = number := by
  simp only [roundToDouble]
  rw [if_pos (Or.inl _)]
  · exact Int.ediv_mul_cancel divides
  · rw [Int.emod_eq_zero_of_dvd divides]
    exact Int.pow_pos (by decide)

theorem toTimestamp_near {seconds floor : Int} (held : toTimestamp seconds = some floor) :
    seconds * microsPerSecond - 1024 ≤ floor ∧ floor ≤ seconds * microsPerSecond + 1024 := by
  obtain ⟨inside, same⟩ := Option.ite_none_right_eq_some.1 held
  obtain rfl := Option.some.inj same
  have near := @roundToDouble_near ((seconds - postgresEpoch) * microsPerSecond) (by
    simp only [postgresEpoch, microsPerSecond]
    omega)
  simp only [postgresEpoch, microsPerSecond] at near ⊢
  omega

theorem toTimestamp_exact {seconds : Int} (later : 0 ≤ seconds) (before : seconds ≤ 577407437103) :
    toTimestamp seconds = some (seconds * microsPerSecond) := by
  have size : ((seconds - postgresEpoch) * microsPerSecond).natAbs.log2 + 1 - 53 ≤ 6 := by
    by_cases zero : ((seconds - postgresEpoch) * microsPerSecond).natAbs = 0
    · rw [zero]
      decide
    · have bits : ((seconds - postgresEpoch) * microsPerSecond).natAbs.log2 < 59 :=
        (Nat.log2_lt zero).2 (by
          simp only [postgresEpoch, microsPerSecond]
          omega)
      omega
  have divides : (2 : Int) ^ (((seconds - postgresEpoch) * microsPerSecond).natAbs.log2 + 1 - 53) ∣
      (seconds - postgresEpoch) * microsPerSecond :=
    ((pow_dvd_pow 2 size).trans (by decide : (2 : Int) ^ 6 ∣ microsPerSecond)).trans
      (Int.dvd_mul_left _ _)
  rw [toTimestamp, if_pos (by omega), roundToDouble_exact divides, ← Int.add_mul,
    Int.sub_add_cancel]

theorem exists_sqlFloor {grain : Grain} {from' : Int} (floored : 0 < from') :
    (∃ floor, sqlFloor grain from' = some floor) ↔ FloorHeld grain from' := by
  cases grain with
  | ts =>
      simp only [sqlFloor, toTimestamp, FloorHeld]
      constructor
      · rintro ⟨floor, held⟩
        exact (Option.ite_none_right_eq_some.1 held).1.2
      · exact fun held => ⟨_, if_pos ⟨by omega, held⟩⟩
  | date =>
      simp only [sqlFloor, LocalDates.castDate_ceilToLocalDate floored, FloorHeld]
      constructor
      · rintro ⟨floor, held⟩
        exact (Option.ite_none_right_eq_some.1 held).1
      · exact fun held => ⟨_, if_pos held⟩

theorem sqlFloor_of_exact {grain : Grain} {from' : Int} (floored : 0 < from')
    (held : FloorHeld grain from') (unrounded : FloorExact grain from') :
    sqlFloor grain from' = some (grantFloor grain from') := by
  cases grain with
  | ts => exact unrounded
  | date =>
      simp only [sqlFloor, LocalDates.castDate_ceilToLocalDate floored]
      exact if_pos held

theorem sqlFloor_between {grain : Grain} {first second : Int} (floored : 0 < first)
    (below : first < second) :
    (∀ floor, sqlFloor grain first = some floor → floor ≤ grantFloor grain second) ∧
      ∀ floor, sqlFloor grain second = some floor → grantFloor grain first ≤ floor := by
  cases grain with
  | ts =>
      constructor
      · intro floor held
        have near := toTimestamp_near held
        simp only [grantFloor, microsPerSecond] at near ⊢
        omega
      · intro floor held
        have near := toTimestamp_near held
        simp only [grantFloor, microsPerSecond] at near ⊢
        omega
  | date =>
      have ordered : ceilToLocalDate first ≤ ceilToLocalDate second := by
        have starts := (LocalDates.isLeast_ceilToLocalDate second).1
        exact (LocalDates.isLeast_ceilToLocalDate first).2 (below.le.trans starts)
      simp only [sqlFloor, LocalDates.castDate_ceilToLocalDate floored,
        LocalDates.castDate_ceilToLocalDate (floored.trans below), grantFloor]
      constructor
      · intro floor held
        obtain rfl := Option.some.inj (Option.ite_none_right_eq_some.1 held).2
        exact ordered
      · intro floor held
        obtain rfl := Option.some.inj (Option.ite_none_right_eq_some.1 held).2
        exact ordered

/-! The rows. -/

def GrantAdmits (o : AclClauseOpts) (row : List Char → Option Int) (id : Nat) (from' : Int) :
    Prop :=
  row o.scCol.name = some (Int.ofNat id) ∧
    (from' ≤ 0 ∨ ∃ floor time, sqlFloor o.grain from' = some floor ∧
      row o.tsCol.name = some time ∧ floor ≤ time)

theorem idsMeaning_eq (o : AclClauseOpts) (ids : List Nat) (row : List Char → Option Int) :
    idsMeaning o ids row =
      if ∀ id ∈ ids, id ≤ 2147483647 then
        some (isAmong (ids.map Int.ofNat) (row o.scCol.name))
      else none := by
  have held : (∀ value ∈ ids.map Int.ofNat, -2147483648 ≤ value ∧ value ≤ 2147483647) ↔
      ∀ id ∈ ids, id ≤ 2147483647 := by
    rw [List.forall_mem_map]
    refine forall₂_congr fun id _ => ?_
    simp only [Int.ofNat_eq_natCast]
    omega
  simp only [idsMeaning, castInts, held]
  split <;> rfl

theorem member_ids (ids : List Nat) (value : Option Int) :
    isAmong (ids.map Int.ofNat) value = some true ↔ ∃ id ∈ ids, value = some (Int.ofNat id) := by
  rw [isAmong_eq_true]
  constructor
  · rintro ⟨_, inside, same⟩
    obtain ⟨id, member, rfl⟩ := List.mem_map.1 inside
    exact ⟨id, member, same⟩
  · rintro ⟨id, member, same⟩
    exact ⟨_, List.mem_map_of_mem member, same⟩

theorem floorMeaning_eq_true {o : AclClauseOpts} {from' : Int} {row : List Char → Option Int} :
    floorMeaning o from' row = some (some true) ↔
      ∃ floor time, sqlFloor o.grain from' = some floor ∧
        row o.tsCol.name = some time ∧ floor ≤ time := by
  simp only [floorMeaning, Option.map_eq_some_iff, notBefore_eq_true, exists_and_left]

theorem exists_branchMeaning {o : AclClauseOpts} {group : Int × List Nat}
    {row : List Char → Option Int} :
    (∃ verdict, branchMeaning o group row = some verdict) ↔
      (∀ id ∈ group.2, id ≤ 2147483647) ∧ (group.1 ≤ 0 ∨ FloorHeld o.grain group.1) := by
  rw [branchMeaning, idsMeaning_eq]
  by_cases small : ∀ id ∈ group.2, id ≤ 2147483647
  · rw [if_pos small]
    split
    next unfloored => exact iff_of_true ⟨_, rfl⟩ ⟨small, Or.inl unfloored⟩
    next floored =>
      rw [← exists_sqlFloor (Int.not_le.1 floored), or_iff_right floored, and_iff_right small]
      simp only [joinVerdicts, floorMeaning, Option.bind_some]
      cases sqlFloor o.grain group.1 <;> simp
  · rw [if_neg small]
    refine iff_of_false ?_ fun both => small both.1
    rintro ⟨verdict, same⟩
    split at same <;> cases same

theorem branchMeaning_eq_true {o : AclClauseOpts} {group : Int × List Nat}
    {row : List Char → Option Int} (small : ∀ id ∈ group.2, id ≤ 2147483647) :
    branchMeaning o group row = some (some true) ↔
      ∃ id ∈ group.2, GrantAdmits o row id group.1 := by
  have ids : idsMeaning o group.2 row = some (some true) ↔
      ∃ id ∈ group.2, row o.scCol.name = some (Int.ofNat id) := by
    rw [idsMeaning_eq, if_pos small, Option.some.injEq, member_ids]
  simp only [GrantAdmits, ← floorMeaning_eq_true]
  simp only [← and_assoc, exists_and_right, ← ids]
  rw [branchMeaning]
  split
  next unfloored => simp only [unfloored, true_or, and_true]
  next floored =>
    simp only [floored, false_or, joinVerdicts_eq_some, kleeneAnd_eq_true]
    constructor
    · rintro ⟨left, right, first, second, rfl, rfl⟩
      exact ⟨first, second⟩
    · rintro ⟨first, second⟩
      exact ⟨_, _, first, second, rfl, rfl⟩

theorem exists_group {grants : List ShortcodeGrant} (admits : Nat → Int → Prop) :
    (∃ group ∈ byFrom (grants.map fun grant => (grant.id, grant.fromSecs)),
      ∃ id ∈ group.2, admits id group.1) ↔
      ∃ grant ∈ grants, admits grant.id grant.fromSecs := by
  have grouped := exists_byFrom (grants.map fun grant => (grant.id, grant.fromSecs))
  constructor
  · rintro ⟨⟨floor, ids⟩, member, id, inside, admitted⟩
    obtain ⟨grant, granted, same⟩ := List.mem_map.1 ((grouped id floor).1
      ⟨(floor, ids), member, rfl, inside⟩)
    cases same
    exact ⟨grant, granted, admitted⟩
  · rintro ⟨grant, granted, admitted⟩
    obtain ⟨⟨floor, ids⟩, member, rfl, inside⟩ := (grouped grant.id grant.fromSecs).2
      (List.mem_map_of_mem granted)
    exact ⟨(grant.fromSecs, ids), member, grant.id, inside, admitted⟩

theorem exists_clauseMeaning {grants : List ShortcodeGrant} {o : AclClauseOpts}
    {row : List Char → Option Int} :
    (∃ verdict, clauseMeaning (some grants) o row = some verdict) ↔
      ∀ grant ∈ grants, grant.id ≤ 2147483647 ∧
        (grant.fromSecs ≤ 0 ∨ FloorHeld o.grain grant.fromSecs) := by
  have failing := @exists_group grants fun id from' =>
    ¬ (id ≤ 2147483647 ∧ (from' ≤ 0 ∨ FloorHeld o.grain from'))
  simp only [clauseMeaning, exists_anyVerdict, List.forall_mem_map, exists_branchMeaning]
  rw [← not_iff_not]
  simp only [not_forall, exists_prop]
  rw [← failing]
  refine exists_congr fun group => and_congr_right fun member => ?_
  obtain ⟨first, inside⟩ := List.exists_mem_of_ne_nil _ (byFrom_ids _ group member)
  constructor
  · intro fails
    by_contra none'
    refine fails ⟨fun id member => ?_, ?_⟩
    · by_contra large
      exact none' ⟨id, member, fun both => large both.1⟩
    · by_contra late
      exact none' ⟨first, inside, fun both => late both.2⟩
  · rintro ⟨id, member, fails⟩ ⟨small, held⟩
    exact fails ⟨small id member, held⟩

theorem clauseMeaning_eq_true {grants : List ShortcodeGrant} {o : AclClauseOpts}
    {row : List Char → Option Int}
    (settled : ∃ verdict, clauseMeaning (some grants) o row = some verdict) :
    clauseMeaning (some grants) o row = some (some true) ↔
      ∃ grant ∈ grants, GrantAdmits o row grant.id grant.fromSecs := by
  have branches := exists_anyVerdict.1 settled
  rw [clauseMeaning, anyVerdict_eq_true branches, List.mem_map, ← exists_group]
  refine exists_congr fun group => and_congr_right fun member => ?_
  exact branchMeaning_eq_true (exists_branchMeaning.1 (branches _ (List.mem_map_of_mem member))).1

section

variable {grants : List ShortcodeGrant} {o : AclClauseOpts}

theorem admits_of_fits (fits : ∀ grant ∈ grants, GrantFits grants o.grain grant)
    (row : List Char → Option Int) :
    (∃ grant ∈ grants, GrantAdmits o row grant.id grant.fromSecs) ↔
      Admits (some grants) o.grain (row o.scCol.name) (row o.tsCol.name) := by
  simp only [Admits, GrantAdmits, reaches_iff]
  constructor
  · rintro ⟨grant, granted, named, unfloored | ⟨floor, time, held, timed, reached⟩⟩
    · exact ⟨grant, granted, named, Or.inl unfloored⟩
    by_cases floored : grant.fromSecs ≤ 0
    · exact ⟨grant, granted, named, Or.inl floored⟩
    obtain ⟨fitting, unrounded | ⟨other, given, same, lower⟩⟩ := (fits grant granted).2.resolve_left
      floored
    · rw [sqlFloor_of_exact (Int.not_le.1 floored) fitting unrounded] at held
      obtain rfl := Option.some.inj held
      exact ⟨grant, granted, named, Or.inr ⟨time, timed, reached⟩⟩
    · refine ⟨other, given, by rw [same, named], ?_⟩
      by_cases otherFloored : other.fromSecs ≤ 0
      · exact Or.inl otherFloored
      · exact Or.inr ⟨time, timed,
          ((sqlFloor_between (Int.not_le.1 otherFloored) lower).2 floor held).trans reached⟩
  · rintro ⟨grant, granted, named, unfloored | ⟨time, timed, reached⟩⟩
    · exact ⟨grant, granted, named, Or.inl unfloored⟩
    by_cases floored : grant.fromSecs ≤ 0
    · exact ⟨grant, granted, named, Or.inl floored⟩
    obtain ⟨fitting, unrounded | ⟨other, given, same, lower⟩⟩ := (fits grant granted).2.resolve_left
      floored
    · exact ⟨grant, granted, named, Or.inr ⟨_, time,
        sqlFloor_of_exact (Int.not_le.1 floored) fitting unrounded, timed, reached⟩⟩
    · refine ⟨other, given, by rw [same, named], ?_⟩
      by_cases otherFloored : other.fromSecs ≤ 0
      · exact Or.inl otherFloored
      · obtain ⟨floor, held⟩ := (exists_sqlFloor (Int.not_le.1 otherFloored)).2
          ((fits other given).2.resolve_left otherFloored).1
        exact Or.inr ⟨floor, time, held, timed,
          ((sqlFloor_between (Int.not_le.1 otherFloored) lower).1 floor held).trans reached⟩

def rowAt (o : AclClauseOpts) (id : Nat) (time : Int) : List Char → Option Int := fun name =>
  if name = o.scCol.name then some (Int.ofNat id) else some time

theorem rowAt_scCol (id : Nat) (time : Int) :
    rowAt o id time o.scCol.name = some (Int.ofNat id) := if_pos rfl

theorem rowAt_tsCol (id : Nat) (time : Int) : rowAt o id time o.tsCol.name = some time :=
  if_neg o.apart.symm

theorem id_of_rowAt {id other : Nat} {time : Int}
    (named : rowAt o id time o.scCol.name = some (Int.ofNat other)) : other = id := by
  rw [rowAt_scCol] at named
  exact (Int.ofNat.inj (Option.some.inj named)).symm

theorem exact_of_admits {grant : ShortcodeGrant} (granted : grant ∈ grants)
    (floored : 0 < grant.fromSecs) (held : FloorHeld o.grain grant.fromSecs)
    (lowest : ∀ other ∈ grants, other.id = grant.id → grant.fromSecs ≤ other.fromSecs)
    (agree : ∀ row, (∃ grant ∈ grants, GrantAdmits o row grant.id grant.fromSecs) ↔
      Admits (some grants) o.grain (row o.scCol.name) (row o.tsCol.name)) :
    FloorExact o.grain grant.fromSecs := by
  obtain ⟨floor, rounded⟩ := (exists_sqlFloor floored).2 held
  simp only [Admits, GrantAdmits, reaches_iff] at agree
  cases grain : o.grain with
  | date => exact trivial
  | ts =>
      simp only [grain, sqlFloor, grantFloor] at rounded agree
      rw [FloorExact, rounded, Option.some.injEq]
      rcases Int.lt_trichotomy floor (grant.fromSecs * microsPerSecond) with early | same | late
      -- Rounded down, the floor lets its own instant in, which no grant of the shortcode reaches.
      · obtain ⟨other, given, named, open' | ⟨time, timed, reached⟩⟩ :=
          (agree (rowAt o grant.id floor)).1 ⟨grant, granted, rowAt_scCol _ _,
            Or.inr ⟨floor, floor, rounded, rowAt_tsCol _ _, le_rfl⟩⟩
        · have above := lowest other given (id_of_rowAt named)
          omega
        · have above := lowest other given (id_of_rowAt named)
          obtain rfl := Option.some.inj ((rowAt_tsCol _ _).symm.trans timed)
          simp only [microsPerSecond] at early reached
          omega
      · exact same
      -- Rounded up, it keeps the floor's instant out, and so does every later floor.
      · obtain ⟨other, given, named, open' | ⟨lower, time, held, timed, reached⟩⟩ :=
          (agree (rowAt o grant.id (grant.fromSecs * microsPerSecond))).2
            ⟨grant, granted, rowAt_scCol _ _, Or.inr ⟨_, rowAt_tsCol _ _, le_rfl⟩⟩
        · have above := lowest other given (id_of_rowAt named)
          omega
        · have above := lowest other given (id_of_rowAt named)
          obtain rfl := Option.some.inj ((rowAt_tsCol _ _).symm.trans timed)
          have near := toTimestamp_near held
          rcases Int.le_iff_lt_or_eq.1 above with higher | level
          · simp only [microsPerSecond] at near reached
            omega
          · rw [← level, rounded] at held
            obtain rfl := Option.some.inj held
            omega

end

theorem clauseCorrect_iff_meaning (grants : List ShortcodeGrant) (o : AclClauseOpts) :
    ClauseCorrect (some grants) o ↔ ∀ row, ∃ verdict,
      clauseMeaning (some grants) o row = some verdict ∧
      (verdict = some true ↔
        Admits (some grants) o.grain (row o.scCol.name) (row o.tsCol.name)) := by
  simp only [ClauseCorrect, runClause_eq]
  constructor
  · intro correct row
    obtain ⟨verdict, settled, admits, _⟩ := correct [] [] row
    exact ⟨verdict, settled, admits⟩
  · intro correct _ _ row
    obtain ⟨verdict, settled, admits⟩ := correct row
    refine ⟨verdict, settled, admits, fun _ unnamed admitted => ?_⟩
    obtain ⟨_, _, named, _⟩ := admits.1 admitted
    rw [unnamed] at named
    cases named

theorem clauseCorrect_of_fits {acl : ShortcodeAcl} {o : AclClauseOpts}
    (fits : ∀ grants ∈ acl, ∀ grant ∈ grants, GrantFits grants o.grain grant) :
    ClauseCorrect acl o := by
  rcases acl with _ | grants
  · exact fun bound later row => ⟨some true, runClause_eq none o bound later row,
      iff_of_true rfl trivial, fun listed => absurd rfl listed⟩
  have fits := fits grants rfl
  rw [clauseCorrect_iff_meaning]
  intro row
  obtain ⟨verdict, settled⟩ := (@exists_clauseMeaning grants o row).2 fun grant granted =>
    ⟨(fits grant granted).1, (fits grant granted).2.imp_right And.left⟩
  refine ⟨verdict, settled, ?_⟩
  rw [← admits_of_fits fits row, ← clauseMeaning_eq_true ⟨verdict, settled⟩, settled,
    Option.some.injEq]

theorem fits_of_clauseCorrect {grants : List ShortcodeGrant} {o : AclClauseOpts}
    (correct : ClauseCorrect (some grants) o) {grant : ShortcodeGrant} (granted : grant ∈ grants) :
    GrantFits grants o.grain grant := by
  have correct := (clauseCorrect_iff_meaning grants o).1 correct
  have runs : ∀ row, ∃ verdict, clauseMeaning (some grants) o row = some verdict := fun row =>
    (correct row).imp fun _ both => both.1
  obtain ⟨small, fits⟩ := exists_clauseMeaning.1 (runs fun _ => none) grant granted
  by_cases floored : grant.fromSecs ≤ 0
  · exact ⟨small, Or.inl floored⟩
  have held := fits.resolve_left floored
  refine ⟨small, Or.inr ⟨held, ?_⟩⟩
  by_cases lower : ∃ other ∈ grants, other.id = grant.id ∧ other.fromSecs < grant.fromSecs
  · exact Or.inr lower
  refine Or.inl (exact_of_admits granted (Int.not_le.1 floored) held ?_ fun row => ?_)
  · intro other given same
    by_contra below
    exact lower ⟨other, given, same, Int.not_le.1 below⟩
  · obtain ⟨verdict, settled, admits⟩ := correct row
    rw [← admits, ← clauseMeaning_eq_true (runs row), settled, Option.some.injEq]

theorem admits_iff_aclAdmits {ρ : Type} (columns : AclColumns ρ) (grain : Grain)
    (acl : ShortcodeAcl) (row : ρ) :
    Admits acl grain ((columns.scCol row).map Int.ofNat) (some (columns.tsCol row)) ↔
      aclAdmits columns grain acl row = true := by
  rcases acl with _ | grants
  · exact iff_of_true trivial rfl
  simp only [Admits, reaches_iff, Option.some.injEq, exists_eq_left', aclAdmits, List.any_eq_true,
    Bool.and_eq_true, decide_eq_true_eq, fromFloor, Bool.or_eq_true]
  refine exists_congr fun grant => and_congr_right fun _ => and_congr_left fun _ => ?_
  rcases columns.scCol row with _ | id
  · exact iff_of_false (fun named => Option.some_ne_none _ named.symm)
      fun named => Option.some_ne_none _ named.symm
  · rw [Option.map_some, Option.some.injEq, Option.some.injEq]
    exact ⟨Int.ofNat.inj, congrArg Int.ofNat⟩

theorem runClause_eq_aclAdmits {ρ : Type} {columns : AclColumns ρ} {acl : ShortcodeAcl}
    {o : AclClauseOpts} (fits : ∀ grants ∈ acl, ∀ grant ∈ grants, GrantFits grants o.grain grant)
    {row : ρ} {named : List Char → Option Int}
    (shortcode : named o.scCol.name = (columns.scCol row).map Int.ofNat)
    (timed : named o.tsCol.name = some (columns.tsCol row)) (bound later : List SqlValue) :
    runClause acl o bound later named = some (some true) ↔
      aclAdmits columns o.grain acl row = true := by
  obtain ⟨verdict, runs, admits, _⟩ := clauseCorrect_of_fits fits bound later named
  rw [runs, Option.some.injEq, admits, shortcode, timed, admits_iff_aclAdmits]

theorem clauseCorrect_until_9999 {acl : ShortcodeAcl} (o : AclClauseOpts)
    (held : ∀ grants ∈ acl, ∀ grant ∈ grants,
      grant.id ≤ 2147483647 ∧ grant.fromSecs ≤ LocalDates.lastFourDigitMidnight) :
    ClauseCorrect acl o := by
  refine clauseCorrect_of_fits fun grants listed grant granted => ?_
  obtain ⟨small, early⟩ := held grants listed grant granted
  refine ⟨small, ?_⟩
  by_cases floored : grant.fromSecs ≤ 0
  · exact Or.inl floored
  right
  cases o.grain with
  | ts =>
      simp only [LocalDates.lastFourDigitMidnight] at early
      have near : grant.fromSecs < 9224318016000 := by omega
      exact ⟨near, Or.inl (toTimestamp_exact (by omega) (by omega))⟩
  | date => exact ⟨Or.inl early, Or.inl trivial⟩

/-- The clause is right exactly for the access lists that the database holds. -/
theorem clauseCorrect_iff (acl : ShortcodeAcl) (o : AclClauseOpts) :
    ClauseCorrect acl o ↔
      ∀ grants ∈ acl, ∀ grant ∈ grants, GrantFits grants o.grain grant := by
  refine ⟨fun correct grants listed grant granted => ?_, clauseCorrect_of_fits⟩
  obtain rfl := Option.mem_def.1 listed
  exact fits_of_clauseCorrect correct granted

def summaryColumns : AclClauseOpts where
  scCol := ⟨"d.shortcode_id".toList, by decide, List.all_eq_true.1 (by decide), by decide⟩
  tsCol := ⟨"d.date".toList, by decide, List.all_eq_true.1 (by decide), by decide⟩
  apart := by decide
  grain := .date

/-- A second after midnight of 31 December 9999 rounds up to a text that is no date. -/
theorem clause_unreadable_floor :
    (aclClause (some [⟨1, 253402203601⟩]) summaryColumns []).map Prod.snd =
      some [.ids [1], .text "+010000-01"] ∧
    ¬ ClauseCorrect (some [⟨1, 253402203601⟩]) summaryColumns := by
  refine ⟨by decide +kernel, fun correct => ?_⟩
  have fails :
      runClause (some [⟨1, 253402203601⟩]) summaryColumns [] [] (fun _ => none) = none := by
    decide +kernel
  obtain ⟨verdict, runs, _⟩ := correct [] [] fun _ => none
  rw [fails] at runs
  cases runs

end AclSql

end UssdGateway
