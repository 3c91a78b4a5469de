import Mathlib.Data.List.Infix

/-!
SQL conditions as text: how they are read, and what they are for a row under the values bound to
the statement. The conditions are comparisons of columns with bound values, in the spacing that is
read here, joined by `AND` and `OR`.
-/

namespace SqlText

inductive Condition where
  | truth (value : Bool)
  | anyOf (column : List Char) (placeholder : Nat)
  | fromInstant (column : List Char) (placeholder : Nat)
  | fromDate (column : List Char) (placeholder : Nat)
  | both (first second : Condition)
  | either (first second : Condition)

def isNameChar (char : Char) : Bool := char.isAlphanum || char == '_' || char == '.'

def expect (mark text : List Char) : Option (List Char) :=
  if mark.isPrefixOf text then some (text.drop mark.length) else none

def readPlaceholder : List Char → Option (Nat × List Char)
  | '$' :: rest =>
      let digits := rest.takeWhile Char.isDigit
      if digits = [] then none
      else some (Nat.ofDigitChars 10 digits 0, rest.drop digits.length)
  | _ => none

def endsName (rest : List Char) : Bool := rest.head?.all fun char => !isNameChar char

def readComparison (column text : List Char) : Option (Condition × List Char) :=
  match expect " = ANY(".toList text with
  | some rest => do
      let (placeholder, rest) ← readPlaceholder rest
      let rest ← expect "::int[])".toList rest
      some (.anyOf column placeholder, rest)
  | none => do
      let rest ← expect " >= ".toList text
      match expect "to_timestamp(".toList rest with
      | some rest => do
          let (placeholder, rest) ← readPlaceholder rest
          let rest ← expect ")".toList rest
          some (.fromInstant column placeholder, rest)
      | none => do
          let (placeholder, rest) ← readPlaceholder rest
          let rest ← expect "::date".toList rest
          if endsName rest then some (.fromDate column placeholder, rest) else none

def readAtom (text : List Char) : Option (Condition × List Char) :=
  let name := text.takeWhile isNameChar
  let rest := text.drop name.length
  if name = [] then none
  else if name = "TRUE".toList then some (.truth true, rest)
  else if name = "FALSE".toList then some (.truth false, rest)
  else readComparison name rest

mutual

def readPrimary : Nat → List Char → Option (Condition × List Char)
  | 0, _ => none
  | fuel + 1, text =>
      match expect "(".toList text with
      | some inner => do
          let (condition, rest) ← readEither fuel inner
          let rest ← expect ")".toList rest
          some (condition, rest)
      | none => readAtom text

def readBoth : Nat → List Char → Option (Condition × List Char)
  | 0, _ => none
  | fuel + 1, text => do
      let (first, rest) ← readPrimary fuel text
      match expect " AND ".toList rest with
      | none => some (first, rest)
      | some later => do
          let (second, rest) ← readBoth fuel later
          some (.both first second, rest)

def readEither : Nat → List Char → Option (Condition × List Char)
  | 0, _ => none
  | fuel + 1, text => do
      let (first, rest) ← readBoth fuel text
      match expect " OR ".toList rest with
      | none => some (first, rest)
      | some later => do
          let (second, rest) ← readEither fuel later
          some (.either first second, rest)

end

def read (text : List Char) : Option Condition :=
  match readEither (3 * text.length + 3) text with
  | some (condition, []) => some condition
  | _ => none

/-- What a bound value is cast to, `none` where that is an error. -/
structure Casts (ν : Type) where
  ids : ν → Option (List Int)
  instant : ν → Option Int
  date : ν → Option Int

def valueAt {ν : Type} (values : List ν) (placeholder : Nat) : Option ν :=
  if placeholder = 0 then none else values[placeholder - 1]?

/-- `AND` of three values, `none` being NULL. -/
def kleeneAnd : Option Bool → Option Bool → Option Bool
  | some false, _ => some false
  | _, some false => some false
  | some true, some true => some true
  | _, _ => none

def kleeneOr : Option Bool → Option Bool → Option Bool
  | some true, _ => some true
  | _, some true => some true
  | some false, some false => some false
  | _, _ => none

def isAmong (ids : List Int) (value : Option Int) : Option Bool :=
  if ids = [] then some false else value.map fun id => decide (id ∈ ids)

def notBefore (floor : Int) (value : Option Int) : Option Bool :=
  value.map fun time => decide (floor ≤ time)

def joinVerdicts (join : Option Bool → Option Bool → Option Bool)
    (first second : Option (Option Bool)) : Option (Option Bool) :=
  first.bind fun left => second.map fun right => join left right

variable {ν : Type}

/-- `none` is an error of the statement, which no other part of the condition hides. -/
def evaluate (casts : Casts ν) (values : List ν) (row : List Char → Option Int) :
    Condition → Option (Option Bool)
  | .truth value => some (some value)
  | .anyOf column placeholder =>
      ((valueAt values placeholder).bind casts.ids).map fun ids => isAmong ids (row column)
  | .fromInstant column placeholder =>
      ((valueAt values placeholder).bind casts.instant).map fun floor =>
        notBefore floor (row column)
  | .fromDate column placeholder =>
      ((valueAt values placeholder).bind casts.date).map fun floor => notBefore floor (row column)
  | .both first second =>
      joinVerdicts kleeneAnd (evaluate casts values row first) (evaluate casts values row second)
  | .either first second =>
      joinVerdicts kleeneOr (evaluate casts values row first) (evaluate casts values row second)

theorem kleeneAnd_eq_true {first second : Option Bool} :
    kleeneAnd first second = some true ↔ first = some true ∧ second = some true := by
  rcases first with _ | _ | _ <;> rcases second with _ | _ | _ <;> decide

theorem kleeneOr_eq_true {first second : Option Bool} :
    kleeneOr first second = some true ↔ first = some true ∨ second = some true := by
  rcases first with _ | _ | _ <;> rcases second with _ | _ | _ <;> decide

theorem isAmong_eq_true {ids : List Int} {value : Option Int} :
    isAmong ids value = some true ↔ ∃ id ∈ ids, value = some id := by
  rw [isAmong]
  split
  next empty => simp only [empty, List.not_mem_nil, false_and, exists_false, Option.some.injEq,
    Bool.false_eq_true]
  next =>
    simp only [Option.map_eq_some_iff, decide_eq_true_eq]
    exact exists_congr fun _ => and_comm

theorem notBefore_eq_true {floor : Int} {value : Option Int} :
    notBefore floor value = some true ↔ ∃ time, value = some time ∧ floor ≤ time := by
  simp only [notBefore, Option.map_eq_some_iff, decide_eq_true_eq]

def anyVerdict (verdicts : List (Option (Option Bool))) : Option (Option Bool) :=
  verdicts.foldr (joinVerdicts kleeneOr) (some (some false))

theorem joinVerdicts_eq_some {join : Option Bool → Option Bool → Option Bool}
    {first second : Option (Option Bool)} {verdict : Option Bool} :
    joinVerdicts join first second = some verdict ↔
      ∃ left right, first = some left ∧ second = some right ∧ join left right = verdict := by
  simp only [joinVerdicts, Option.bind_eq_some_iff, Option.map_eq_some_iff]
  exact exists_congr fun left => ⟨fun ⟨one, right, two, joined⟩ => ⟨right, one, two, joined⟩,
    fun ⟨right, one, two, joined⟩ => ⟨one, right, two, joined⟩⟩

theorem exists_anyVerdict {verdicts : List (Option (Option Bool))} :
    (∃ verdict, anyVerdict verdicts = some verdict) ↔
      ∀ verdict ∈ verdicts, ∃ settled, verdict = some settled := by
  induction verdicts with
  | nil => exact ⟨fun _ _ member => absurd member List.not_mem_nil, fun _ => ⟨_, rfl⟩⟩
  | cons first rest ih =>
      rw [List.forall_mem_cons, ← ih]
      constructor
      · rintro ⟨verdict, joined⟩
        obtain ⟨left, right, one, others, _⟩ := joinVerdicts_eq_some.1 joined
        exact ⟨⟨left, one⟩, right, others⟩
      · rintro ⟨⟨left, one⟩, right, others⟩
        exact ⟨_, joinVerdicts_eq_some.2 ⟨left, right, one, others, rfl⟩⟩

theorem anyVerdict_eq_none {verdicts : List (Option (Option Bool))} (failing : none ∈ verdicts) :
    anyVerdict verdicts = none := by
  cases joined : anyVerdict verdicts with
  | none => rfl
  | some verdict =>
      obtain ⟨settled, same⟩ := exists_anyVerdict.1 ⟨verdict, joined⟩ none failing
      cases same

theorem anyVerdict_eq_true {verdicts : List (Option (Option Bool))}
    (settled : ∀ verdict ∈ verdicts, ∃ settled, verdict = some settled) :
    anyVerdict verdicts = some (some true) ↔ some (some true) ∈ verdicts := by
  induction verdicts with
  | nil => decide
  | cons first rest ih =>
      obtain ⟨⟨left, one⟩, others⟩ := List.forall_mem_cons.1 settled
      obtain ⟨right, rest_⟩ := exists_anyVerdict.2 others
      have joined : anyVerdict (first :: rest) = some (kleeneOr left right) :=
        joinVerdicts_eq_some.2 ⟨left, right, one, rest_, rfl⟩
      rw [joined, List.mem_cons, ← ih others, rest_, one, Option.some.injEq, Option.some.injEq,
        Option.some.injEq, kleeneOr_eq_true]
      exact or_congr_left eq_comm

theorem valueAt_pushed (bound : List ν) (value : ν) (later : List ν) :
    valueAt (bound ++ value :: later) (bound.length + 1) = some value := by
  rw [valueAt, if_neg (Nat.succ_ne_zero _), Nat.add_sub_cancel,
    List.getElem?_append_right (Nat.le_refl _), Nat.sub_self]
  rfl

/-! What is read of a text that was written. -/

structure Column where
  name : List Char
  nonempty : name ≠ []
  letters : ∀ char ∈ name, isNameChar char = true
  free : name ≠ "TRUE".toList ∧ name ≠ "FALSE".toList

def placeholderText (placeholder : Nat) : List Char := '$' :: Nat.toDigits 10 placeholder

theorem expect_append (mark rest : List Char) : expect mark (mark ++ rest) = some rest := by
  rw [expect, if_pos (List.isPrefixOf_iff_prefix.2 (List.prefix_append mark rest)),
    List.drop_left]

theorem takeWhile_until {kind : Char → Bool} {text rest : List Char}
    (inside : ∀ char ∈ text, kind char = true) (ends : ∀ char ∈ rest.head?, kind char = false) :
    (text ++ rest).takeWhile kind = text := by
  rw [List.takeWhile_append_of_pos inside]
  rcases rest with _ | ⟨char, rest⟩
  · rw [List.takeWhile_nil, List.append_nil]
  · rw [List.takeWhile_cons, ends char rfl]
    exact List.append_nil text

theorem readPlaceholder_text (placeholder : Nat) {rest : List Char}
    (ends : ∀ char ∈ rest.head?, char.isDigit = false) :
    readPlaceholder (placeholderText placeholder ++ rest) = some (placeholder, rest) := by
  have digits : ∀ char ∈ Nat.toDigits 10 placeholder, char.isDigit = true := fun char member =>
    Nat.isDigit_of_mem_toDigits (by decide) (by decide) member
  rw [placeholderText, List.cons_append, readPlaceholder, takeWhile_until digits ends,
    if_neg Nat.toDigits_ne_nil, List.drop_left, Nat.ofDigitChars_toDigits (by decide) (by decide)]

/-- With fuel for its length, a text is read as this condition, whatever ends its last name. -/
def ReadsAs (text : List Char) (condition : Condition) : Prop :=
  ∀ fuel, 3 * text.length ≤ fuel → ∀ rest, endsName rest = true →
    readPrimary fuel (text ++ rest) = some (condition, rest)

theorem Column.leads (column : Column) (rest : List Char) :
    expect "(".toList (column.name ++ rest) = none := by
  obtain ⟨first, later, spelled⟩ := List.exists_cons_of_ne_nil column.nonempty
  have letter := column.letters first (by rw [spelled]; exact List.mem_cons_self)
  rw [spelled, List.cons_append, expect, if_neg]
  intro opens
  obtain rfl : '(' = first := (List.cons_prefix_cons.1 (List.isPrefixOf_iff_prefix.1 opens)).1
  exact absurd letter (by decide)

theorem readAtom_column (column : Column) {rest : List Char}
    (ends : ∀ char ∈ rest.head?, isNameChar char = false) :
    readAtom (column.name ++ rest) = readComparison column.name rest := by
  rw [readAtom, takeWhile_until column.letters ends]
  simp only [List.drop_left, if_neg column.nonempty, if_neg column.free.1, if_neg column.free.2]

theorem reads_of_comparison {column : Column} {comparison : List Char} {condition : Condition}
    (spaced : comparison.head? = some ' ')
    (compared : ∀ rest, endsName rest = true →
      readComparison column.name (comparison ++ rest) = some (condition, rest)) :
    ReadsAs (column.name ++ comparison) condition := by
  intro fuel enough rest ends
  have positive := List.length_pos_iff.2 column.nonempty
  rw [List.length_append] at enough
  obtain ⟨less, rfl⟩ : ∃ less, fuel = less + 1 := ⟨fuel - 1, by omega⟩
  rw [List.append_assoc, readPrimary, column.leads, readAtom_column]
  · exact compared rest ends
  · intro char head
    rw [List.head?_append, spaced] at head
    obtain rfl := Option.some.inj head
    decide

theorem reads_anyOf (column : Column) (placeholder : Nat) :
    ReadsAs (column.name ++
      (" = ANY(".toList ++ (placeholderText placeholder ++ "::int[])".toList)))
      (.anyOf column.name placeholder) := by
  refine reads_of_comparison rfl fun rest _ => ?_
  rw [List.append_assoc, List.append_assoc, readComparison, expect_append]
  simp only
  rw [readPlaceholder_text]
  · simp only [Option.bind_eq_bind, Option.bind_some, expect_append]
  · intro char head
    obtain rfl := Option.some.inj head
    decide

theorem reads_fromInstant (column : Column) (placeholder : Nat) :
    ReadsAs (column.name ++ (" >= ".toList ++ ("to_timestamp(".toList ++
      (placeholderText placeholder ++ ")".toList)))) (.fromInstant column.name placeholder) := by
  refine reads_of_comparison rfl fun rest _ => ?_
  have other : ∀ later, expect " = ANY(".toList (" >= ".toList ++ later) = none := fun _ => rfl
  rw [List.append_assoc, List.append_assoc, List.append_assoc, readComparison, other]
  simp only [Option.bind_eq_bind, expect_append, Option.bind_some]
  rw [readPlaceholder_text]
  · simp only [Option.bind_some, expect_append]
  · intro char head
    obtain rfl := Option.some.inj head
    decide

theorem reads_fromDate (column : Column) (placeholder : Nat) :
    ReadsAs (column.name ++ (" >= ".toList ++ (placeholderText placeholder ++ "::date".toList)))
      (.fromDate column.name placeholder) := by
  refine reads_of_comparison rfl fun rest ends => ?_
  have other : ∀ later, expect " = ANY(".toList (" >= ".toList ++ later) = none := fun _ => rfl
  have plain : ∀ later, expect "to_timestamp(".toList (placeholderText placeholder ++ later) =
      none := fun _ => rfl
  rw [List.append_assoc, List.append_assoc, readComparison, other]
  simp only [Option.bind_eq_bind, expect_append, Option.bind_some, plain]
  rw [readPlaceholder_text]
  · simp only [Option.bind_some, expect_append, ends, if_true]
  · intro char head
    obtain rfl := Option.some.inj head
    decide

theorem readBoth_one {text rest : List Char} {condition : Condition}
    (reads : ReadsAs text condition) {fuel : Nat} (enough : 3 * text.length + 1 ≤ fuel)
    (ends : endsName rest = true) (last : expect " AND ".toList rest = none) :
    readBoth fuel (text ++ rest) = some (condition, rest) := by
  obtain ⟨less, rfl⟩ : ∃ less, fuel = less + 1 := ⟨fuel - 1, by omega⟩
  rw [readBoth, reads less (by omega) rest ends]
  simp only [Option.bind_eq_bind, Option.bind_some, last]

theorem reads_both {first second : List Char} {left right : Condition}
    (readsFirst : ReadsAs first left) (readsSecond : ReadsAs second right) :
    ReadsAs ("(".toList ++ (first ++ (" AND ".toList ++ (second ++ ")".toList))))
      (.both left right) := by
  intro fuel enough rest ends
  have sizes : "(".toList.length = 1 ∧ " AND ".toList.length = 5 ∧ ")".toList.length = 1 :=
    ⟨rfl, rfl, rfl⟩
  simp only [List.length_append] at enough
  obtain ⟨less, rfl⟩ : ∃ less, fuel = less + 4 := ⟨fuel - 4, by omega⟩
  have second_ : readBoth (less + 1) (second ++ (")".toList ++ rest)) =
      some (right, ")".toList ++ rest) :=
    readBoth_one readsSecond (by omega) rfl rfl
  have inner : readBoth (less + 2) (first ++ (" AND ".toList ++ (second ++ (")".toList ++ rest)))) =
      some (.both left right, ")".toList ++ rest) := by
    rw [readBoth, readsFirst (less + 1) (by omega)
      (" AND ".toList ++ (second ++ (")".toList ++ rest))) rfl]
    simp only [Option.bind_eq_bind, Option.bind_some, expect_append, second_]
  have single : expect " OR ".toList (")".toList ++ rest) = none := rfl
  simp only [List.append_assoc]
  rw [readPrimary, expect_append]
  simp only [Option.bind_eq_bind]
  rw [readEither, inner]
  simp only [Option.bind_eq_bind, Option.bind_some, single, expect_append]

def eitherAll : List Condition → Condition
  | [] => .truth false
  | [condition] => condition
  | condition :: rest => .either condition (eitherAll rest)

theorem evaluate_eitherAll (casts : Casts ν) (values : List ν) (row : List Char → Option Int)
    (conditions : List Condition) :
    evaluate casts values row (eitherAll conditions) =
      anyVerdict (conditions.map (evaluate casts values row)) := by
  induction conditions with
  | nil => rfl
  | cons first rest ih =>
      rcases rest with _ | ⟨second, rest⟩
      · have alone : ∀ verdict : Option (Option Bool),
            joinVerdicts kleeneOr verdict (some (some false)) = verdict := by
          rintro (_ | _ | _ | _) <;> rfl
        exact (alone _).symm
      · rw [eitherAll, evaluate, ih]
        · rfl
        · exact List.cons_ne_nil _ _

theorem readEither_one {text rest : List Char} {condition : Condition}
    (reads : ReadsAs text condition) {fuel : Nat} (enough : 3 * text.length + 2 ≤ fuel)
    (ends : endsName rest = true) (lastAnd : expect " AND ".toList rest = none)
    (lastOr : expect " OR ".toList rest = none) :
    readEither fuel (text ++ rest) = some (condition, rest) := by
  obtain ⟨less, rfl⟩ : ∃ less, fuel = less + 1 := ⟨fuel - 1, by omega⟩
  rw [readEither, readBoth_one reads (by omega) ends lastAnd]
  simp only [Option.bind_eq_bind, Option.bind_some, lastOr]

theorem intercalate_cons_cons {α : Type} (separator first second : List α)
    (rest : List (List α)) :
    separator.intercalate (first :: second :: rest) =
      first ++ (separator ++ separator.intercalate (second :: rest)) := by
  simp [List.intercalate, List.intersperse]

theorem readEither_all {parts : List (List Char × Condition)} (nonempty : parts ≠ [])
    (reads : ∀ part ∈ parts, ReadsAs part.1 part.2) {rest : List Char} (ends : endsName rest = true)
    (lastAnd : expect " AND ".toList rest = none) (lastOr : expect " OR ".toList rest = none)
    {fuel : Nat}
    (enough : 3 * (" OR ".toList.intercalate (parts.map Prod.fst)).length + 2 ≤ fuel) :
    readEither fuel (" OR ".toList.intercalate (parts.map Prod.fst) ++ rest) =
      some (eitherAll (parts.map Prod.snd), rest) := by
  induction parts generalizing fuel with
  | nil => exact absurd rfl nonempty
  | cons part later ih =>
      obtain ⟨here, others⟩ := List.forall_mem_cons.1 reads
      rcases later with _ | ⟨next, later⟩
      · have single : " OR ".toList.intercalate ([part].map Prod.fst) = part.1 := by
          simp [List.intercalate]
        rw [single] at enough ⊢
        exact readEither_one here enough ends lastAnd lastOr
      · have size : " OR ".toList.length = 4 := rfl
        simp only [List.map_cons] at ih enough ⊢
        rw [intercalate_cons_cons, List.length_append, List.length_append] at enough
        obtain ⟨less, rfl⟩ : ∃ less, fuel = less + 1 := ⟨fuel - 1, by omega⟩
        rw [intercalate_cons_cons, List.append_assoc, List.append_assoc, readEither,
          readBoth_one here (by omega) rfl rfl]
        simp only [Option.bind_eq_bind, Option.bind_some, expect_append]
        rw [ih (List.cons_ne_nil _ _) others (by omega)]
        rfl

theorem reads_eitherAll {parts : List (List Char × Condition)} (nonempty : parts ≠ [])
    (reads : ∀ part ∈ parts, ReadsAs part.1 part.2) :
    ReadsAs ("(".toList ++ (" OR ".toList.intercalate (parts.map Prod.fst) ++ ")".toList))
      (eitherAll (parts.map Prod.snd)) := by
  intro fuel enough rest ends
  have sizes : "(".toList.length = 1 ∧ ")".toList.length = 1 := ⟨rfl, rfl⟩
  simp only [List.length_append] at enough
  obtain ⟨less, rfl⟩ : ∃ less, fuel = less + 1 := ⟨fuel - 1, by omega⟩
  rw [List.append_assoc, List.append_assoc, readPrimary, expect_append]
  simp only [Option.bind_eq_bind]
  rw [readEither_all nonempty reads rfl rfl rfl (by omega)]
  simp only [Option.bind_some, expect_append]

theorem read_of_reads {text : List Char} {condition : Condition} (reads : ReadsAs text condition) :
    read text = some condition := by
  have whole := @readEither_one text [] condition reads (3 * text.length + 3) (by omega) rfl rfl rfl
  rw [List.append_nil] at whole
  rw [read, whole]

end SqlText
