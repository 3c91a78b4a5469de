import UssdGateway.Gateway.Text
import UssdGateway.Library.Trimming

/-!
JSON text. `json.loads` and `JSON.parse` read one grammar, but for the constants that only Python
takes and for Python's limits on depth and on digits.
-/

namespace UssdGateway

open Trimming

/-- A number keeps its literal. `NaN` and the infinities are constants. -/
inductive Json where
  | null
  | bool (value : Bool)
  | number (literal : Str)
  | constant (name : Str)
  | text (value : Str)
  | array (items : List Json)
  | object (members : List (Str × Json))

namespace Json

mutual

def leaves : Json → List Json
  | array items => itemLeaves items
  | object members => memberLeaves members
  | leaf => [leaf]

def itemLeaves : List Json → List Json
  | [] => []
  | item :: rest => leaves item ++ itemLeaves rest

def memberLeaves : List (Str × Json) → List Json
  | [] => []
  | (_, value) :: rest => leaves value ++ memberLeaves rest

end

mutual

def depth : Json → Nat
  | array items => itemDepth items + 1
  | object members => memberDepth members + 1
  | _ => 0

def itemDepth : List Json → Nat
  | [] => 0
  | item :: rest => max (depth item) (itemDepth rest)

def memberDepth : List (Str × Json) → Nat
  | [] => 0
  | (_, value) :: rest => max (depth value) (memberDepth rest)

end

end Json

namespace JsonText

def quote : CodePoint := 0x22
def comma : CodePoint := 0x2C
def colon : CodePoint := 0x3A
def openBracket : CodePoint := 0x5B
def backslash : CodePoint := 0x5C
def closeBracket : CodePoint := 0x5D
def openBrace : CodePoint := 0x7B
def closeBrace : CodePoint := 0x7D

def isBlank (point : CodePoint) : Bool :=
  decide (point.val = 0x20) || decide (point.val = 0x09) || decide (point.val = 0x0A) ||
  decide (point.val = 0x0D)

def skip (text : Str) : Str := text.dropWhile isBlank

def expect (wanted : CodePoint) (text : Str) : Option Str :=
  match skip text with
  | [] => none
  | point :: rest => if point = wanted then some rest else none

def hexDigit (point : CodePoint) : Option CodePoint :=
  if 0x30 ≤ point.val ∧ point.val ≤ 0x39 then some (point - 0x30)
  else if 0x41 ≤ point.val ∧ point.val ≤ 0x46 then some (point - 0x37)
  else if 0x61 ≤ point.val ∧ point.val ≤ 0x66 then some (point - 0x57)
  else none

/-- What stands after a backslash, `u` apart. -/
def unescape (point : CodePoint) : Option CodePoint :=
  List.lookup point
    [(quote, quote), (backslash, backslash), (0x2F, 0x2F), (0x62, 0x08), (0x66, 0x0C),
      (0x6E, 0x0A), (0x72, 0x0D), (0x74, 0x09)]

inductive ScanState where
  | plain
  | escape
  | hex (left : Nat) (value : CodePoint)

inductive ScanStep where
  | close
  | silent (next : ScanState)
  | emit (point : CodePoint)

def scanStep : ScanState → CodePoint → Option ScanStep
  | .plain, point =>
      if point = quote then some .close
      else if point = backslash then some (.silent .escape)
      else if point.val < 0x20 then none
      else some (.emit point)
  | .escape, point =>
      if point.val = 0x75 then some (.silent (.hex 3 0)) else (unescape point).map .emit
  | .hex (left + 1) value, point =>
      (hexDigit point).map fun digit => .silent (.hex left (value * 16 + digit))
  | .hex 0 value, point => (hexDigit point).map fun digit => .emit (value * 16 + digit)

def scanString (state : ScanState) : Str → Option (Str × Str)
  | [] => none
  | point :: rest =>
      match scanStep state point with
      | none => none
      | some .close => some ([], rest)
      | some (.silent next) => scanString next rest
      | some (.emit meant) =>
          (scanString .plain rest).map fun found => (meant :: found.1, found.2)

def joinPairs : Str → Str
  | high :: low :: rest =>
      if 0xD800 ≤ high.val ∧ high.val < 0xDC00 ∧ 0xDC00 ≤ low.val ∧ low.val < 0xE000 then
        (0x10000 + (high - 0xD800) * 0x400 + (low - 0xDC00)) :: joinPairs rest
      else high :: joinPairs (low :: rest)
  | text => text

def readString (text : Str) : Option (Str × Str) :=
  ((expect quote text).bind (scanString .plain)).map fun found => (joinPairs found.1, found.2)

def isDigit (point : CodePoint) : Bool := decide (0x30 ≤ point.val) && decide (point.val ≤ 0x39)

def isWordPoint (point : CodePoint) : Bool :=
  isDigit point || decide (point.val = 0x2B) || decide (point.val = 0x2D) ||
  decide (point.val = 0x2E) || (decide (0x41 ≤ point.val) && decide (point.val ≤ 0x5A)) ||
  (decide (0x61 ≤ point.val) && decide (point.val ≤ 0x7A))

def dropDigits (text : Str) : Option Str :=
  if text.takeWhile isDigit = [] then none else some (text.dropWhile isDigit)

def dropPoint (codes : List Nat) (text : Str) : Option Str :=
  match text with
  | [] => none
  | point :: rest => if point.val ∈ codes then some rest else none

def dropInteger (text : Str) : Option Str :=
  (dropPoint [0x30] text).orElse fun _ => dropDigits text

def dropFraction (text : Str) : Option Str :=
  match dropPoint [0x2E] text with
  | none => some text
  | some rest => dropDigits rest

def dropExponent (text : Str) : Option Str :=
  match dropPoint [0x45, 0x65] text with
  | none => some text
  | some rest => dropDigits ((dropPoint [0x2B, 0x2D] rest).getD rest)

def isNumber (word : Str) : Bool :=
  decide ((((dropInteger ((dropPoint [0x2D] word).getD word)).bind dropFraction).bind
    dropExponent) = some [])

def wordValue (word : Str) : Option Json :=
  if word = lit "null" then some .null
  else if word = lit "true" then some (.bool true)
  else if word = lit "false" then some (.bool false)
  else if word ∈ [lit "NaN", lit "Infinity", lit "-Infinity"] then some (.constant word)
  else if isNumber word then some (.number word)
  else none

def readWord (text : Str) : Option (Json × Str) :=
  (wordValue ((skip text).takeWhile isWordPoint)).map fun value =>
    (value, (skip text).dropWhile isWordPoint)

/-! Values. -/

def enclosed {β : Type} (start close : CodePoint) (inner : Str → Option (List β × Str))
    (text : Str) : Option (List β × Str) :=
  (expect start text).bind fun rest =>
    match expect close rest with
    | some after => some ([], after)
    | none => inner rest

def continued {β : Type} (close : CodePoint) (item : β) (inner : Str → Option (List β × Str))
    (text : Str) : Option (List β × Str) :=
  match expect close text with
  | some after => some ([item], after)
  | none =>
      (expect comma text).bind fun rest =>
        (inner rest).map fun found => (item :: found.1, found.2)

def readKey (text : Str) : Option (Str × Str) :=
  (readString text).bind fun key => (expect colon key.2).map fun rest => (key.1, rest)

mutual

def readValue : Nat → Str → Option (Json × Str)
  | 0, _ => none
  | fuel + 1, text =>
      if (skip text).head? = some quote then
        (readString text).map fun found => (.text found.1, found.2)
      else if (skip text).head? = some openBracket then
        (enclosed openBracket closeBracket (readItems fuel) text).map fun found =>
          (.array found.1, found.2)
      else if (skip text).head? = some openBrace then
        (enclosed openBrace closeBrace (readMembers fuel) text).map fun found =>
          (.object found.1, found.2)
      else readWord text

def readItems : Nat → Str → Option (List Json × Str)
  | 0, _ => none
  | fuel + 1, text =>
      (readValue fuel text).bind fun found =>
        continued closeBracket found.1 (readItems fuel) found.2

def readMembers : Nat → Str → Option (List (Str × Json) × Str)
  | 0, _ => none
  | fuel + 1, text =>
      (readKey text).bind fun key =>
        (readValue fuel key.2).bind fun found =>
          continued closeBrace (key.1, found.1) (readMembers fuel) found.2

end

/-- The fuel is one more than the text is long. -/
def readJson (text : Str) : Option Json :=
  (readValue (text.length + 1) text).bind fun found =>
    if skip found.2 = [] then some found.1 else none

theorem skip_token {blanks : Str} {point : CodePoint} {rest : Str}
    (blank : ∀ x ∈ blanks, isBlank x = true) (kept : isBlank point = false) :
    skip (blanks ++ point :: rest) = point :: rest := by
  rw [skip, List.dropWhile_append_of_pos blank]
  exact dropWhile_of_headKept (by simpa [HeadKept] using kept)

theorem expect_token {blanks : Str} {point wanted : CodePoint} {rest : Str}
    (blank : ∀ x ∈ blanks, isBlank x = true) (kept : isBlank point = false) :
    expect wanted (blanks ++ point :: rest) = if point = wanted then some rest else none := by
  rw [expect, skip_token blank kept]

theorem expect_eq_some {wanted : CodePoint} {text rest : Str}
    (found : expect wanted text = some rest) :
    ∃ blanks, text = blanks ++ wanted :: rest ∧ ∀ x ∈ blanks, isBlank x = true := by
  refine ⟨text.takeWhile isBlank, ?_, fun x member => List.mem_takeWhile_imp member⟩
  rw [expect] at found
  split at found
  · exact absurd found (by simp)
  next point tail left =>
    split at found
    next same =>
      obtain rfl := Option.some.inj found
      rw [← same, ← left, skip, List.takeWhile_append_dropWhile]
    · exact absurd found (by simp)

theorem head_of_expect {wanted : CodePoint} {text rest : Str}
    (found : expect wanted text = some rest) : (skip text).head? = some wanted := by
  rw [expect] at found
  split at found
  · exact absurd found (by simp)
  next point tail left =>
    split at found
    next same => rw [left, same]; rfl
    · exact absurd found (by simp)

theorem isWordPoint_of_blank {point : CodePoint} (blank : isBlank point = true) :
    isWordPoint point = false := by
  simp only [isBlank, Bool.or_eq_true, decide_eq_true_eq] at blank
  simp only [isWordPoint, isDigit, Bool.or_eq_false_iff, ← Bool.decide_and,
    decide_eq_false_iff_not]
  omega

theorem headKept_token {blanks : Str} {point : CodePoint} (rest : Str)
    (blank : ∀ x ∈ blanks, isBlank x = true) (kept : isWordPoint point = false) :
    HeadKept isWordPoint (blanks ++ point :: rest) := by
  rcases blanks with _ | ⟨head, blanks⟩
  · simpa [HeadKept] using kept
  · simp only [HeadKept, List.cons_append, List.head?_cons, Option.mem_def, Option.some.injEq]
    rintro _ rfl
    exact isWordPoint_of_blank (blank head List.mem_cons_self)

def Reads {β : Type} (read : Str → Option (β × Str)) (used : Str) (value : β) : Prop :=
  ∀ more, read (used ++ more) = some (value, more)

theorem scanString_reads {state : ScanState} {text rest value : Str}
    (found : scanString state text = some (value, rest)) :
    ∃ used, text = used ++ rest ∧ Reads (scanString state) used value := by
  induction text generalizing state value with
  | nil => exact absurd found (by simp [scanString])
  | cons point tail ih =>
      rw [scanString] at found
      rcases step : scanStep state point with _ | _ | next | meant
      · simp [step] at found
      · simp only [step, Option.some.injEq, Prod.mk.injEq] at found
        obtain ⟨rfl, rfl⟩ := found
        exact ⟨[point], rfl, fun more => by simp [scanString, step]⟩
      · simp only [step] at found
        obtain ⟨used, rfl, reads⟩ := ih found
        exact ⟨point :: used, rfl, fun more => by simp [scanString, step, reads more]⟩
      · simp only [step, Option.map_eq_some_iff, Prod.mk.injEq] at found
        obtain ⟨⟨back, after⟩, scanned, rfl, rfl⟩ := found
        obtain ⟨used, rfl, reads⟩ := ih scanned
        exact ⟨point :: used, rfl, fun more => by simp [scanString, step, reads more]⟩

theorem readString_reads {text rest value : Str} (found : readString text = some (value, rest)) :
    ∃ used, text = used ++ rest ∧ Reads readString used value := by
  simp only [readString, Option.map_eq_some_iff, Option.bind_eq_some_iff, Prod.mk.injEq] at found
  obtain ⟨⟨back, after⟩, ⟨body, opened, scanned⟩, rfl, rfl⟩ := found
  obtain ⟨blanks, rfl, blank⟩ := expect_eq_some opened
  obtain ⟨used, rfl, reads⟩ := scanString_reads scanned
  refine ⟨blanks ++ quote :: used, by simp, ?_⟩
  intro more
  have opens : expect quote (blanks ++ quote :: (used ++ more)) = some (used ++ more) := by
    rw [expect_token blank (by decide), if_pos rfl]
  simp [readString, opens, reads more]

theorem readString_head {text : Str} {found : Str × Str} (read : readString text = some found) :
    (skip text).head? = some quote := by
  simp only [readString, Option.map_eq_some_iff, Option.bind_eq_some_iff] at read
  obtain ⟨_, ⟨_, opened, _⟩, _⟩ := read
  exact head_of_expect opened

theorem wordValue_nil : wordValue [] = none := by decide

theorem readWord_reads {text rest : Str} {value : Json}
    (found : readWord text = some (value, rest)) :
    ∃ used, text = used ++ rest ∧ ∀ more, HeadKept isWordPoint more →
      readWord (used ++ more) = some (value, more) ∧
        (skip (used ++ more)).head? = (skip text).head? := by
  simp only [readWord, Option.map_eq_some_iff, Prod.mk.injEq] at found
  obtain ⟨_, known, rfl, rfl⟩ := found
  have whole : text.takeWhile isBlank ++ (skip text).takeWhile isWordPoint ++
      (skip text).dropWhile isWordPoint = text := by
    rw [List.append_assoc, List.takeWhile_append_dropWhile, skip,
      List.takeWhile_append_dropWhile]
  refine ⟨_, whole.symm, ?_⟩
  intro more kept
  rcases word : (skip text).takeWhile isWordPoint with _ | ⟨point, tail⟩
  · rw [word, wordValue_nil] at known
    exact absurd known (by simp)
  have wordPoints : ∀ x ∈ point :: tail, isWordPoint x = true := by
    intro x member
    rw [← word] at member
    exact List.mem_takeWhile_imp member
  have notBlank : isBlank point = false := by
    rcases blank : isBlank point with _ | _
    · rfl
    · have notWord := isWordPoint_of_blank blank
      rw [wordPoints point List.mem_cons_self] at notWord
      exact absurd notWord (by decide)
  have skipped : skip (text.takeWhile isBlank ++ (point :: tail) ++ more) =
      (point :: tail) ++ more := by
    rw [List.append_assoc]
    exact skip_token (fun x member => List.mem_takeWhile_imp member) notBlank
  have noWord : more.takeWhile isWordPoint = [] := by
    rcases more with _ | ⟨next, more⟩
    · rfl
    · rw [List.takeWhile_cons, kept next rfl]
      rfl
  have head : (skip text).head? = some point := by
    have front := List.takeWhile_append_dropWhile (l := skip text) (p := isWordPoint)
    rw [← front, word]
    rfl
  rw [readWord, skipped, List.takeWhile_append_of_pos wordPoints,
    List.dropWhile_append_of_pos wordPoints, noWord, List.append_nil, ← word, known,
    dropWhile_of_headKept kept, head, word]
  exact ⟨rfl, rfl⟩

theorem readKey_reads {text rest key : Str} (found : readKey text = some (key, rest)) :
    ∃ used, text = used ++ rest ∧ Reads readKey used key := by
  simp only [readKey, Option.bind_eq_some_iff, Option.map_eq_some_iff, Prod.mk.injEq] at found
  obtain ⟨⟨_, after⟩, read, _, separated, rfl, rfl⟩ := found
  obtain ⟨used, rfl, reads⟩ := readString_reads read
  obtain ⟨blanks, rfl, blank⟩ := expect_eq_some separated
  refine ⟨used ++ (blanks ++ [colon]), by simp, ?_⟩
  intro more
  have separates : expect colon (blanks ++ colon :: more) = some more := by
    rw [expect_token blank (by decide), if_pos rfl]
  have whole : used ++ (blanks ++ [colon]) ++ more = used ++ (blanks ++ colon :: more) := by simp
  simp [readKey, whole, reads (blanks ++ colon :: more), separates]

structure ReadsUpTo {β : Type} (close : CodePoint) (read : Nat → Str → Option (β × Str))
    (extra : Nat) (used : Str) (value : β) : Prop where
  last : used.getLast? = some close
  reads : ∀ fuel, used.length ≤ fuel + extra → Reads (read fuel) used value

theorem ReadsUpTo.nonempty {β : Type} {close : CodePoint} {read : Nat → Str → Option (β × Str)}
    {extra : Nat} {used : Str} {value : β} (upTo : ReadsUpTo close read extra used value) :
    used ≠ [] := by
  intro empty
  have last := upTo.last
  rw [empty] at last
  exact absurd last (by simp)

section

variable {β : Type} {close : CodePoint} {inner : Str → Option (List β × Str)}
  {list : Nat → Str → Option (List β × Str)}

theorem enclosed_reads {start : CodePoint} {text rest : Str} {items : List β}
    (marks : isBlank start = false ∧ isBlank close = false)
    (stable : ∀ {text rest items}, inner text = some (items, rest) →
      ∃ used, text = used ++ rest ∧ ReadsUpTo close list 0 used items)
    (closed : ∀ {fuel text after}, expect close text = some after → list fuel text = none)
    (found : enclosed start close inner text = some (items, rest)) :
    ∃ used, text = used ++ rest ∧
      ReadsUpTo close (fun fuel => enclosed start close (list fuel)) 1 used items := by
  simp only [enclosed, Option.bind_eq_some_iff] at found
  obtain ⟨body, opened, found⟩ := found
  obtain ⟨blanks, rfl, blank⟩ := expect_eq_some opened
  have opens : ∀ more, expect start (blanks ++ start :: more) = some more := by
    intro more
    rw [expect_token blank marks.1, if_pos rfl]
  rcases ended : expect close body with _ | after
  · rw [ended] at found
    obtain ⟨used, rfl, upTo⟩ := stable found
    refine ⟨blanks ++ start :: used, by simp, ?_, ?_⟩
    · rw [List.getLast?_append_of_ne_nil _ (by simp), List.getLast?_cons, upTo.last]
      rfl
    · intro fuel bound more
      simp only [List.length_append, List.length_cons] at bound
      have reads := upTo.reads fuel (by omega) more
      have goesOn : expect close (used ++ more) = none := by
        rcases stops : expect close (used ++ more) with _ | after
        · rfl
        · rw [closed stops] at reads
          exact absurd reads (by simp)
      have whole : blanks ++ start :: used ++ more = blanks ++ start :: (used ++ more) := by simp
      simp [enclosed, whole, opens, goesOn, reads]
  · simp only [ended, Option.some.injEq, Prod.mk.injEq] at found
    obtain ⟨rfl, rfl⟩ := found
    obtain ⟨inside, rfl, insideBlank⟩ := expect_eq_some ended
    refine ⟨blanks ++ start :: inside ++ [close], by simp, List.getLast?_concat, ?_⟩
    intro fuel _ more
    have closes : expect close (inside ++ close :: more) = some more := by
      rw [expect_token insideBlank marks.2, if_pos rfl]
    simp [enclosed, opens, closes]

theorem continued_reads {item : β} {text rest : Str} {items : List β}
    (mark : isBlank close = false ∧ isWordPoint close = false ∧ comma ≠ close)
    (stable : ∀ {text rest items}, inner text = some (items, rest) →
      ∃ used, text = used ++ rest ∧ ReadsUpTo close list 0 used items)
    (found : continued close item inner text = some (items, rest)) :
    ∃ used, text = used ++ rest ∧
      ReadsUpTo close (fun fuel => continued close item (list fuel)) 1 used items ∧
      ∀ more, HeadKept isWordPoint (used ++ more) := by
  rw [continued] at found
  rcases ended : expect close text with _ | after
  · simp only [ended, Option.bind_eq_some_iff, Option.map_eq_some_iff, Prod.mk.injEq] at found
    obtain ⟨body, separated, ⟨others, _⟩, read, rfl, rfl⟩ := found
    obtain ⟨blanks, rfl, blank⟩ := expect_eq_some separated
    obtain ⟨used, rfl, upTo⟩ := stable read
    refine ⟨blanks ++ [comma] ++ used, by simp, ⟨?_, ?_⟩, ?_⟩
    · rw [List.getLast?_append_of_ne_nil _ upTo.nonempty, upTo.last]
    · intro fuel bound more
      simp only [List.length_append, List.length_singleton] at bound
      have reads := upTo.reads fuel (by omega) more
      simp [continued, expect_token blank (show isBlank comma = false by decide), mark.2.2, reads]
    · intro more
      have whole : blanks ++ [comma] ++ used ++ more = blanks ++ comma :: (used ++ more) := by simp
      rw [whole]
      exact headKept_token _ blank (by decide)
  · simp only [ended, Option.some.injEq, Prod.mk.injEq] at found
    obtain ⟨rfl, rfl⟩ := found
    obtain ⟨blanks, rfl, blank⟩ := expect_eq_some ended
    have whole : ∀ more, blanks ++ [close] ++ more = blanks ++ close :: more := by simp
    refine ⟨blanks ++ [close], (whole after).symm, ⟨List.getLast?_concat, ?_⟩, ?_⟩
    · intro fuel _ more
      simp [continued, whole, expect_token blank mark.1]
    · intro more
      rw [whole]
      exact headKept_token _ blank mark.2.1

theorem head_of_enclosed {start : CodePoint} {text : Str} {found : List β × Str}
    (read : enclosed start close inner text = some found) :
    (skip text).head? = some start := by
  rw [enclosed, Option.bind_eq_some_iff] at read
  obtain ⟨_, opened, _⟩ := read
  exact head_of_expect opened

end

theorem readValue_closed {fuel : Nat} {close : CodePoint} {text after : Str}
    (marks : close ∈ [closeBracket, closeBrace]) (found : expect close text = some after) :
    readValue fuel text = none := by
  cases fuel with
  | zero => rfl
  | succ fuel =>
      obtain ⟨blanks, rfl, blank⟩ := expect_eq_some found
      have skipped : skip (blanks ++ close :: after) = close :: after := by
        apply skip_token blank
        rcases List.mem_pair.1 marks with rfl | rfl <;> decide
      rw [readValue, readWord, skipped]
      rcases List.mem_pair.1 marks with rfl | rfl <;> rfl

theorem readItems_closed {fuel : Nat} {text after : Str}
    (found : expect closeBracket text = some after) : readItems fuel text = none := by
  cases fuel with
  | zero => rfl
  | succ fuel => rw [readItems, readValue_closed (by decide) found]; rfl

theorem readMembers_closed {fuel : Nat} {text after : Str}
    (found : expect closeBrace text = some after) : readMembers fuel text = none := by
  cases fuel with
  | zero => rfl
  | succ fuel =>
      obtain ⟨blanks, rfl, blank⟩ := expect_eq_some found
      have noQuote : expect quote (blanks ++ closeBrace :: after) = none := by
        rw [expect_token blank (by decide), if_neg (by decide)]
      rw [readMembers, readKey, readString, noQuote]
      rfl

def ValuesRead (fuel : Nat) : Prop :=
  ∀ {text rest value}, readValue fuel text = some (value, rest) →
    ∃ used, text = used ++ rest ∧ ∀ fuel, used.length ≤ fuel → ∀ more,
      HeadKept isWordPoint more → readValue fuel (used ++ more) = some (value, more)

def ItemsRead (fuel : Nat) : Prop :=
  ∀ {text rest items}, readItems fuel text = some (items, rest) →
    ∃ used, text = used ++ rest ∧ ReadsUpTo closeBracket readItems 0 used items

def MembersRead (fuel : Nat) : Prop :=
  ∀ {text rest members}, readMembers fuel text = some (members, rest) →
    ∃ used, text = used ++ rest ∧ ReadsUpTo closeBrace readMembers 0 used members

section

variable {fuel : Nat}

theorem itemsRead_succ (values : ValuesRead fuel) (items : ItemsRead fuel) :
    ItemsRead (fuel + 1) := by
  intro text rest found read
  rw [readItems, Option.bind_eq_some_iff] at read
  obtain ⟨⟨item, after⟩, first, next⟩ := read
  obtain ⟨used, rfl, reads⟩ := values first
  obtain ⟨others, rfl, upTo, kept⟩ := continued_reads (by decide) items next
  have some := List.length_pos_iff.2 upTo.nonempty
  refine ⟨used ++ others, by simp, ?_, ?_⟩
  · rw [List.getLast?_append, upTo.last]
    rfl
  · intro enough bound more
    rw [List.length_append] at bound
    obtain ⟨enough, rfl⟩ := Nat.exists_eq_add_of_le' (show 1 ≤ enough by omega)
    rw [readItems, List.append_assoc, reads enough (by omega) _ (kept more)]
    exact upTo.reads enough (by omega) more

theorem membersRead_succ (values : ValuesRead fuel) (members : MembersRead fuel) :
    MembersRead (fuel + 1) := by
  intro text rest found read
  rw [readMembers, Option.bind_eq_some_iff] at read
  obtain ⟨⟨key, afterKey⟩, named, read⟩ := read
  rw [Option.bind_eq_some_iff] at read
  obtain ⟨⟨value, after⟩, first, next⟩ := read
  obtain ⟨name, rfl, names⟩ := readKey_reads named
  obtain ⟨used, rfl, reads⟩ := values first
  obtain ⟨others, rfl, upTo, kept⟩ := continued_reads (by decide) members next
  have some := List.length_pos_iff.2 upTo.nonempty
  refine ⟨name ++ used ++ others, by simp, ?_, ?_⟩
  · rw [List.getLast?_append, upTo.last]
    rfl
  · intro enough bound more
    rw [List.length_append, List.length_append] at bound
    obtain ⟨enough, rfl⟩ := Nat.exists_eq_add_of_le' (show 1 ≤ enough by omega)
    rw [readMembers, List.append_assoc, List.append_assoc, names, Option.bind_some,
      reads enough (by omega) _ (kept more)]
    exact upTo.reads enough (by omega) more

theorem readObject_reads (members : MembersRead fuel) {text rest : Str}
    {found : List (Str × Json)}
    (read : enclosed openBrace closeBrace (readMembers fuel) text = some (found, rest)) :
    ∃ used, text = used ++ rest ∧
      ReadsUpTo closeBrace (fun fuel => enclosed openBrace closeBrace (readMembers fuel)) 1 used
        found :=
  enclosed_reads (by decide) members readMembers_closed read

theorem valuesRead_succ (items : ItemsRead fuel) (members : MembersRead fuel) :
    ValuesRead (fuel + 1) := by
  intro text rest value read
  rw [readValue] at read
  split at read
  next quoted =>
    simp only [Option.map_eq_some_iff, Prod.mk.injEq] at read
    obtain ⟨⟨found, _⟩, string, rfl, rfl⟩ := read
    obtain ⟨used, rfl, reads⟩ := readString_reads string
    refine ⟨used, rfl, fun enough bound more _ => ?_⟩
    rcases enough with _ | enough
    · rw [List.length_eq_zero_iff.1 (Nat.le_zero.1 bound)] at reads
      exact absurd (reads []) (by simp [readString, expect, skip])
    rw [readValue, if_pos (readString_head (reads more)), reads more]
    rfl
  next noString =>
    split at read
    next bracket =>
      simp only [Option.map_eq_some_iff, Prod.mk.injEq] at read
      obtain ⟨⟨found, _⟩, array, rfl, rfl⟩ := read
      obtain ⟨used, rfl, upTo⟩ := enclosed_reads (by decide) items readItems_closed array
      have some := List.length_pos_iff.2 upTo.nonempty
      refine ⟨used, rfl, fun enough bound more _ => ?_⟩
      obtain ⟨enough, rfl⟩ := Nat.exists_eq_add_of_le' (show 1 ≤ enough by omega)
      have reads := upTo.reads enough bound more
      rw [readValue, head_of_enclosed reads, if_neg (by decide), if_pos rfl, reads]
      rfl
    next noArray =>
      split at read
      next brace =>
        simp only [Option.map_eq_some_iff, Prod.mk.injEq] at read
        obtain ⟨⟨found, _⟩, object, rfl, rfl⟩ := read
        obtain ⟨used, rfl, upTo⟩ := readObject_reads members object
        have some := List.length_pos_iff.2 upTo.nonempty
        refine ⟨used, rfl, fun enough bound more _ => ?_⟩
        obtain ⟨enough, rfl⟩ := Nat.exists_eq_add_of_le' (show 1 ≤ enough by omega)
        have reads := upTo.reads enough bound more
        rw [readValue, head_of_enclosed reads, if_neg (by decide), if_neg (by decide),
          if_pos rfl, reads]
        rfl
      next noObject =>
        obtain ⟨used, rfl, reads⟩ := readWord_reads read
        refine ⟨used, rfl, fun enough bound more kept => ?_⟩
        rcases enough with _ | enough
        · rw [List.length_eq_zero_iff.1 (Nat.le_zero.1 bound)] at reads
          exact absurd (reads [] (by simp [HeadKept])).1 (by simp [readWord, skip, wordValue_nil])
        obtain ⟨word, head⟩ := reads more kept
        rw [readValue, head, if_neg noString, if_neg noArray, if_neg noObject, word]

end

theorem reads_all (fuel : Nat) : ValuesRead fuel ∧ ItemsRead fuel ∧ MembersRead fuel := by
  induction fuel with
  | zero =>
      refine ⟨?_, ?_, ?_⟩
      · intro text rest value read
        exact absurd read (by simp [readValue])
      · intro text rest items read
        exact absurd read (by simp [readItems])
      · intro text rest members read
        exact absurd read (by simp [readMembers])
  | succ fuel ih =>
      obtain ⟨values, items, members⟩ := ih
      exact ⟨valuesRead_succ items members, itemsRead_succ values items,
        membersRead_succ values members⟩

theorem wordValue_ne_object {word : Str} {members : List (Str × Json)} :
    wordValue word ≠ some (.object members) := by
  intro known
  simp only [wordValue] at known
  split_ifs at known <;> simp at known

theorem readJson_object {text : Str} {members : List (Str × Json)}
    (read : readJson text = some (.object members)) :
    (skip text).head? = some openBrace ∧
      ∃ used blanks, text = used ++ blanks ∧ used.getLast? = some closeBrace ∧
        (∀ x ∈ blanks, isBlank x = true) ∧
        ∀ fuel, used.length ≤ fuel → ∀ more,
          readValue fuel (used ++ more) = some (.object members, more) := by
  rw [readJson, Option.bind_eq_some_iff] at read
  obtain ⟨⟨value, rest⟩, read, ended⟩ := read
  split_ifs at ended with blank
  obtain rfl := Option.some.inj ended
  rw [readValue] at read
  split_ifs at read with _ _ brace
  · simp at read
  · simp at read
  · simp only [Option.map_eq_some_iff, Prod.mk.injEq, Json.object.injEq] at read
    obtain ⟨⟨_, _⟩, object, rfl, rfl⟩ := read
    obtain ⟨used, same, upTo⟩ := readObject_reads (reads_all _).2.2 object
    refine ⟨brace, used, _, same, upTo.last, List.dropWhile_eq_nil_iff.1 blank, ?_⟩
    intro fuel bound more
    have some := List.length_pos_iff.2 upTo.nonempty
    obtain ⟨fuel, rfl⟩ := Nat.exists_eq_add_of_le' (show 1 ≤ fuel by omega)
    have reads := upTo.reads fuel bound more
    rw [readValue, head_of_enclosed reads, if_neg (by decide), if_neg (by decide), if_pos rfl,
      reads]
    rfl
  · simp only [readWord, Option.map_eq_some_iff, Prod.mk.injEq] at read
    obtain ⟨_, known, rfl, _⟩ := read
    exact absurd known wordValue_ne_object

theorem readJson_append_blank {text more : Str} {members others : List (Str × Json)}
    (read : readJson text = some (.object members))
    (longer : readJson (text ++ more) = some (.object others)) :
    ∀ x ∈ more, isBlank x = true := by
  obtain ⟨_, used, blanks, rfl, _, _, reads⟩ := readJson_object read
  rw [readJson, List.append_assoc, reads _ (by simp only [List.length_append]; omega),
    Option.bind_some] at longer
  split_ifs at longer with blank
  intro x member
  exact List.dropWhile_eq_nil_iff.1 blank x (List.mem_append_right _ member)

theorem readJson_last {text : Str} {members : List (Str × Json)}
    (read : readJson text = some (.object members)) (trimmed : LastKept isBlank text) :
    text.getLast? = some closeBrace := by
  obtain ⟨_, used, blanks, rfl, last, blank, _⟩ := readJson_object read
  rcases blanks.eq_nil_or_concat with rfl | ⟨front, point, rfl⟩
  · rwa [List.append_nil]
  · have kept := trimmed point (by simp)
    rw [blank point (by simp)] at kept
    exact absurd kept (by decide)

end JsonText

end UssdGateway
