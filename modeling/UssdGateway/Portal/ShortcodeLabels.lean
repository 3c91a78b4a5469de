import UssdGateway.Gateway.Database
import UssdGateway.Library.JoinedParts
import UssdGateway.Library.Utf16

/-!
The label of a shortcode, as the dashboard builds it and as migration 027 writes it anew.
-/

namespace UssdGateway

open Trimming JoinedParts Utf16

def labelSep : List Nat := [0x20, 0xB7, 0x20]

def sandboxNetworkLabel : List Char := "SANDBOX".toList

def ellipsis : Char := '…'

def jsTrim (text : List Nat) : List Nat := strip JsText.isSpaceCode text

def buildShortcodeLabel (ownerName code : List Nat) (operatorDisplayName : Option (List Nat))
    (environment : ShortcodeEnvironment) : List Nat :=
  let network :=
    if environment = .sandbox then encode sandboxNetworkLabel
    else jsTrim (operatorDisplayName.getD [])
  let code := jsTrim code
  let tail := [code, network].filter fun part => part ≠ []
  let budget : Int :=
    120 - tail.foldl (fun n part => n + (part.length : Int) + (labelSep.length : Int)) 0
  let owner := jsTrim ownerName
  let owner :=
    if budget < owner.length then
      if 1 < budget then owner.take (budget - 1).toNat ++ encode [ellipsis] else []
    else owner
  joinAll labelSep (owner :: tail)

structure LabelRow where
  ownerName : List Char
  ownerEmail : List Char
  code : List Char
  operatorDisplayName : List Char
  environment : ShortcodeEnvironment
  codeFits : code.length ≤ 32
  networkFits : operatorDisplayName.length ≤ 64

namespace LabelRow

def btrim (text : List Char) : List Char := strip (fun char => char == ' ') text

/-- `COALESCE(NULLIF(BTRIM(name), ''), email)`. -/
def owner (row : LabelRow) : List Char :=
  if btrim row.ownerName = [] then row.ownerEmail else btrim row.ownerName

def trimmedCode (row : LabelRow) : List Char := btrim row.code

def network (row : LabelRow) : List Char :=
  if row.environment = .sandbox then sandboxNetworkLabel else btrim row.operatorDisplayName

def budget (row : LabelRow) : Int :=
  120 - (if 0 < row.trimmedCode.length then (row.trimmedCode.length : Int) + 3 else 0) -
    (if 0 < row.network.length then (row.network.length : Int) + 3 else 0)

def clippedOwner (row : LabelRow) : List Char :=
  if (row.owner.length : Int) ≤ row.budget then row.owner
  else if 1 < row.budget then row.owner.take (row.budget - 1).toNat ++ [ellipsis]
  else []

def regeneratedLabel (row : LabelRow) : List Char :=
  joinAll [' ', '·', ' '] [row.clippedOwner, row.trimmedCode, row.network]

def dashboardLabel (row : LabelRow) : List Nat :=
  buildShortcodeLabel (encode row.owner) (encode row.code) (some (encode row.operatorDisplayName))
    row.environment

/-! When they agree. -/

def room (code network : Nat) : Int :=
  120 - (if 0 < code then (code : Int) + 3 else 0) -
    (if 0 < network then (network : Int) + 3 else 0)

/-- An owner against the room in characters and the room in units. One that fits the first must be
trimmed and fit the second. One that does not must start with no white space; then it is either
exactly what the cut leaves, or cut after as many units as characters. -/
def OwnerAgrees (owner : List Char) (characters units : Int) : Prop :=
  if (owner.length : Int) ≤ characters then
    strip JsText.isSpace owner = owner ∧ (owner = [] ∨ ((encode owner).length : Int) ≤ units)
  else
    HeadKept JsText.isSpace owner ∧
      if ((encode (strip JsText.isSpace owner)).length : Int) ≤ units then
        ((strip JsText.isSpace owner).length : Int) = characters ∧
          (strip JsText.isSpace owner).getLast? = some ellipsis
      else units = characters ∧ ∀ char ∈ owner.take (characters - 1).toNat, Basic char

/-- No part has white space other than spaces at its ends, and the owner agrees. -/
def PartsAgree (row : LabelRow) : Prop :=
  strip JsText.isSpace row.trimmedCode = row.trimmedCode ∧
    strip JsText.isSpace row.network = row.network ∧
    OwnerAgrees row.owner (room row.trimmedCode.length row.network.length)
      (room (encode row.trimmedCode).length (encode row.network).length)

/-- The dashboard's label is the database's, has at most 120 characters, and ends with the code and
the network. -/
def LabelsAgree (row : LabelRow) : Prop :=
  row.dashboardLabel = encode row.regeneratedLabel ∧ characters row.dashboardLabel ≤ 120 ∧
    joinAll labelSep [encode row.trimmedCode, encode row.network] <:+ row.dashboardLabel

theorem isSpace_of_space (char : Char) (space : (char == ' ') = true) :
    JsText.isSpace char = true := by
  rw [beq_iff_eq.1 space]
  rfl

theorem jsTrim_encode_btrim (text : List Char) :
    jsTrim (encode text) = jsTrim (encode (btrim text)) := by
  rw [jsTrim, jsTrim, strip_encode, strip_encode, btrim, strip_strip_narrower isSpace_of_space]

theorem head_encode_btrim (text : List Char) :
    ∀ unit ∈ (encode (btrim text)).head?, unit ≠ 0x20 := by
  have kept : HeadKept (fun char => char == ' ') (btrim text) := headKept_strip _ text
  intro unit found same
  rcases trimmed : btrim text with _ | ⟨char, rest⟩
  · rw [trimmed] at found
    exact absurd found (by simp [encode])
  rw [trimmed] at found kept
  have visible := kept char rfl
  rw [encode_cons, encodeChar] at found
  split at found
  next =>
    obtain rfl : char = ' ' := toNat_injective (by simpa using (Option.some.inj found).trans same)
    exact absurd visible (by decide)
  next =>
    have high := Option.some.inj found
    omega

theorem encode_joined (first second : List Char) :
    encode (joined [' ', '·', ' '] first second) =
      joined labelSep (encode first) (encode second) := by
  rw [joined, joined]
  simp only [encode_eq_nil_iff]
  split
  · rfl
  · split
    · rfl
    · rw [encode_append, encode_append]
      rfl

theorem encode_regeneratedLabel (row : LabelRow) :
    encode row.regeneratedLabel =
      joined labelSep (encode row.clippedOwner)
        (joined labelSep (encode row.trimmedCode) (encode row.network)) := by
  rw [regeneratedLabel, joinAll_three, encode_joined, encode_joined]

def fittedOwner (budget : Int) (owner : List Nat) : List Nat :=
  if budget < owner.length then
    if 1 < budget then owner.take (budget - 1).toNat ++ encode [ellipsis] else []
  else owner

theorem tail_room (code network : List Nat) :
    120 - ([code, network].filter fun part => part ≠ []).foldl
        (fun n part => n + (part.length : Int) + (labelSep.length : Int)) 0 =
      room code.length network.length := by
  have marks : (labelSep.length : Int) = 3 := rfl
  rw [room, marks]
  rcases code with _ | ⟨unit, code⟩ <;> rcases network with _ | ⟨unit', network⟩
  all_goals simp
  omega

theorem joinAll_filter (separator first : List Nat) (parts : List (List Nat)) :
    joinAll separator (first :: parts.filter fun part => part ≠ []) =
      joinAll separator (first :: parts) := by
  rw [joinAll, joinAll, List.filter_cons, List.filter_cons, List.filter_filter]
  simp

theorem buildShortcodeLabel_eq (ownerName code display : List Nat)
    (environment : ShortcodeEnvironment) :
    buildShortcodeLabel ownerName code (some display) environment =
      joined labelSep
        (fittedOwner (room (jsTrim code).length
          (if environment = .sandbox then encode sandboxNetworkLabel else jsTrim display).length)
          (jsTrim ownerName))
        (joined labelSep (jsTrim code)
          (if environment = .sandbox then encode sandboxNetworkLabel else jsTrim display)) := by
  rw [← joinAll_three, ← tail_room, ← joinAll_filter]
  rfl

theorem jsTrim_network (row : LabelRow) :
    (if row.environment = .sandbox then encode sandboxNetworkLabel
      else jsTrim (encode row.operatorDisplayName)) = jsTrim (encode row.network) := by
  rw [network]
  split
  · rfl
  · exact jsTrim_encode_btrim row.operatorDisplayName

def dashboardOwner (row : LabelRow) : List Nat :=
  fittedOwner (room (jsTrim (encode row.trimmedCode)).length (jsTrim (encode row.network)).length)
    (jsTrim (encode row.owner))

theorem dashboardLabel_eq (row : LabelRow) :
    row.dashboardLabel =
      joined labelSep row.dashboardOwner
        (joined labelSep (jsTrim (encode row.trimmedCode)) (jsTrim (encode row.network))) := by
  rw [dashboardLabel, buildShortcodeLabel_eq, jsTrim_network, jsTrim_encode_btrim row.code,
    ← trimmedCode, dashboardOwner]

theorem take_of_headKept {owner : List Char} (kept : HeadKept JsText.isSpace owner) :
    strip JsText.isSpace owner <+: owner := by
  rw [strip, dropWhile_of_headKept kept]
  exact List.rdropWhile_prefix _ _

theorem headKept_of_take {owner : List Char} {count : Nat} (some_ : 0 < count)
    (kept : HeadKept JsText.isSpace (owner.take count)) : HeadKept JsText.isSpace owner := by
  intro char found
  apply kept
  rw [List.head?_take, if_neg (Nat.ne_of_gt some_)]
  exact found

theorem fittedOwner_eq_iff_of_fits (owner : List Char) (units : Int) :
    encode owner = fittedOwner units (jsTrim (encode owner)) ↔
      strip JsText.isSpace owner = owner ∧
        (owner = [] ∨ ((encode owner).length : Int) ≤ units) := by
  rw [jsTrim, strip_encode, fittedOwner]
  by_cases long : units < ((encode (strip JsText.isSpace owner)).length : Int)
  · have unfit : ¬ (strip JsText.isSpace owner = owner ∧
        ((encode owner).length : Int) ≤ units) := by
      rintro ⟨trimmed, fits⟩
      rw [trimmed] at long
      omega
    rw [if_pos long]
    by_cases roomy : 1 < units
    · rw [if_pos roomy]
      refine iff_of_false (fun same => ?_) ?_
      · have size := congrArg List.length same
        obtain ⟨front, back, whole, _⟩ := strip_split JsText.isSpace owner
        have parts := congrArg (fun text => (encode text).length) whole
        simp only [encode_append, List.length_append, List.length_take] at size parts
        have mark : (encode [ellipsis]).length = 1 := rfl
        omega
      · rintro ⟨trimmed, rfl | fits⟩
        · rw [trimmed] at long
          have none_ : (encode []).length = 0 := rfl
          omega
        · exact unfit ⟨trimmed, fits⟩
    · rw [if_neg roomy, encode_eq_nil_iff]
      constructor
      · rintro rfl
        exact ⟨rfl, Or.inl rfl⟩
      · rintro ⟨trimmed, empty | fits⟩
        · exact empty
        · exact absurd ⟨trimmed, fits⟩ unfit
  · rw [if_neg long]
    constructor
    · intro same
      have trimmed := (encode_injective same).symm
      rw [trimmed] at long
      exact ⟨trimmed, Or.inr (by omega)⟩
    · rintro ⟨trimmed, _⟩
      rw [trimmed]

theorem length_take_chars {owner : List Char} {chars : Int} (roomy : 1 < chars)
    (cut : chars < (owner.length : Int)) :
    (owner.take (chars - 1).toNat).length = (chars - 1).toNat := by
  rw [List.length_take]
  omega

theorem cut_eq_strip_iff {owner : List Char} {chars : Int} (roomy : 1 < chars)
    (cut : chars < (owner.length : Int)) :
    owner.take (chars - 1).toNat ++ [ellipsis] = strip JsText.isSpace owner ↔
      HeadKept JsText.isSpace owner ∧ ((strip JsText.isSpace owner).length : Int) = chars ∧
        (strip JsText.isSpace owner).getLast? = some ellipsis := by
  have kept := headKept_strip JsText.isSpace owner
  have sized := length_take_chars roomy cut
  have positive : 0 < (chars - 1).toNat := by omega
  constructor
  · intro trimmed
    rw [← trimmed] at kept ⊢
    refine ⟨headKept_of_take positive fun char found => kept char ?_, ?_, ?_⟩
    · rw [List.head?_append, found]
      rfl
    · rw [List.length_append, sized]
      simp only [List.length_cons, List.length_nil]
      omega
    · exact List.getLast?_concat
  · rintro ⟨head, size, last⟩
    have start := (List.prefix_iff_eq_take.1 (take_of_headKept head)).symm
    have whole : strip JsText.isSpace owner =
        (strip JsText.isSpace owner).dropLast ++ [ellipsis] :=
      (List.dropLast_append_getLast? _ last).symm
    rw [whole, List.dropLast_eq_take, ← start, List.length_take, List.take_take]
    have counts : min (min (strip JsText.isSpace owner).length owner.length - 1)
        (strip JsText.isSpace owner).length = (chars - 1).toNat := by
      omega
    rw [counts]

theorem cut_eq_take_iff {owner : List Char} {chars units : Int} (roomy : 1 < chars)
    (fewer : units ≤ chars) (cut : chars < (owner.length : Int)) (some_ : 1 < units)
    (long : units < ((encode (strip JsText.isSpace owner)).length : Int)) :
    encode (owner.take (chars - 1).toNat) =
        (encode (strip JsText.isSpace owner)).take (units - 1).toNat ↔
      HeadKept JsText.isSpace owner ∧ units = chars ∧
        ∀ char ∈ owner.take (chars - 1).toNat, Basic char := by
  have shown := (headKept_encode _).2 (headKept_strip JsText.isSpace owner)
  have sized := length_take_chars roomy cut
  have positive : 0 < (chars - 1).toNat := by omega
  constructor
  · intro same
    have size := congrArg List.length same
    have least := length_le (owner.take (chars - 1).toNat)
    rw [List.length_take] at size
    refine ⟨headKept_of_take positive ((headKept_encode _).1 ?_), by omega,
      (length_eq_iff _).1 (by omega)⟩
    rw [same]
    intro unit found
    rw [List.head?_take, if_neg (by omega)] at found
    exact shown unit found
  · rintro ⟨head, rfl, basic⟩
    obtain ⟨back, whole⟩ := take_of_headKept head
    rw [← take_encode (by omega) basic, ← whole, encode_append,
      List.take_append_of_le_length (by omega), whole]

theorem fittedOwner_eq_iff_of_cut {owner : List Char} {chars units : Int} (roomy : 1 < chars)
    (fewer : units ≤ chars) (cut : chars < (owner.length : Int)) :
    encode (owner.take (chars - 1).toNat ++ [ellipsis]) =
        fittedOwner units (jsTrim (encode owner)) ↔
      HeadKept JsText.isSpace owner ∧
        if ((encode (strip JsText.isSpace owner)).length : Int) ≤ units then
          ((strip JsText.isSpace owner).length : Int) = chars ∧
            (strip JsText.isSpace owner).getLast? = some ellipsis
        else units = chars ∧ ∀ char ∈ owner.take (chars - 1).toNat, Basic char := by
  rw [jsTrim, strip_encode, fittedOwner]
  by_cases fits : ((encode (strip JsText.isSpace owner)).length : Int) ≤ units
  · rw [if_pos fits, if_neg (by omega), ← cut_eq_strip_iff roomy cut]
    exact ⟨fun same => encode_injective same, fun same => congrArg encode same⟩
  · rw [if_neg fits, if_pos (by omega)]
    by_cases some_ : 1 < units
    · rw [if_pos some_, encode_append, List.append_cancel_right_eq]
      exact cut_eq_take_iff roomy fewer cut some_ (by omega)
    · rw [if_neg some_, encode_eq_nil_iff]
      refine iff_of_false (by simp) ?_
      rintro ⟨_, same, _⟩
      omega

theorem lastKept_fittedOwner (budget : Int) (owner : List Nat) :
    LastKept JsText.isSpaceCode (fittedOwner budget (jsTrim owner)) := by
  rw [fittedOwner]
  split
  · split
    · intro unit found
      rw [List.getLast?_append_of_ne_nil _ (by decide)] at found
      obtain rfl := Option.some.inj found
      rfl
    · intro unit found
      exact absurd found (by simp)
  · exact lastKept_strip _ owner

theorem trimmedCode_length_le (row : LabelRow) : row.trimmedCode.length ≤ 32 := by
  obtain ⟨front, back, whole, _⟩ := strip_split (fun char => char == ' ') row.code
  have fits := row.codeFits
  rw [whole, List.length_append, List.length_append] at fits
  rw [trimmedCode, btrim]
  omega

theorem network_length_le (row : LabelRow) : row.network.length ≤ 64 := by
  rw [network]
  split
  · decide
  · obtain ⟨front, back, whole, _⟩ :=
      strip_split (fun char => char == ' ') row.operatorDisplayName
    have fits := row.networkFits
    rw [whole, List.length_append, List.length_append] at fits
    rw [btrim]
    omega

theorem budget_eq_room (row : LabelRow) :
    row.budget = room row.trimmedCode.length row.network.length := rfl

theorem budget_large (row : LabelRow) : 18 ≤ row.budget := by
  have code := trimmedCode_length_le row
  have name := network_length_le row
  rw [budget]
  split <;> split <;> omega

theorem room_antitone {code network code' network' : Nat} (codes : code ≤ code')
    (networks : network ≤ network') : room code' network' ≤ room code network := by
  rw [room, room]
  split <;> split <;> split <;> split <;> omega

theorem regeneratedLabel_length_le (row : LabelRow) : row.regeneratedLabel.length ≤ 120 := by
  have owner : (row.clippedOwner.length : Int) ≤ row.budget := by
    have large := budget_large row
    rw [clippedOwner]
    split
    next fits => exact fits
    · rw [if_pos (by omega), List.length_append, List.length_take]
      simp only [List.length_cons, List.length_nil]
      omega
  rw [budget] at owner
  rw [regeneratedLabel, joinAll_three]
  have marks : [' ', '·', ' '].length = 3 := rfl
  rw [length_joined, length_joined, marks]
  split at owner <;> split at owner <;> split <;> split <;> omega

theorem head_network (row : LabelRow) : ∀ unit ∈ (encode row.network).head?, unit ≠ 0x20 := by
  rw [network]
  split
  · intro unit found
    obtain rfl := Option.some.inj found
    decide
  · exact head_encode_btrim row.operatorDisplayName

theorem jsTrim_encode_eq_iff (text : List Char) :
    jsTrim (encode text) = encode text ↔ strip JsText.isSpace text = text := by
  rw [jsTrim, strip_encode]
  exact ⟨encode_injective, congrArg encode⟩

theorem owner_same_iff (row : LabelRow)
    (code : strip JsText.isSpace row.trimmedCode = row.trimmedCode)
    (name : strip JsText.isSpace row.network = row.network) :
    encode row.clippedOwner = row.dashboardOwner ↔
      OwnerAgrees row.owner (room row.trimmedCode.length row.network.length)
        (room (encode row.trimmedCode).length (encode row.network).length) := by
  rw [dashboardOwner, (jsTrim_encode_eq_iff _).2 code, (jsTrim_encode_eq_iff _).2 name,
    OwnerAgrees, clippedOwner, budget_eq_room]
  have large := budget_large row
  rw [budget_eq_room] at large
  split
  · exact fittedOwner_eq_iff_of_fits row.owner _
  · rw [if_pos (by omega)]
    exact fittedOwner_eq_iff_of_cut (by omega)
      (room_antitone (length_le row.trimmedCode) (length_le row.network)) (by omega)

theorem labels_same_iff (row : LabelRow) :
    row.dashboardLabel = encode row.regeneratedLabel ↔ row.PartsAgree := by
  have lastOwner : LastKept JsText.isSpaceCode row.dashboardOwner := lastKept_fittedOwner _ _
  have lastCode := @lastKept_joined _ _ labelSep _ _ lastOwner
    (lastKept_strip JsText.isSpaceCode (encode row.trimmedCode))
  have parts : row.dashboardLabel = encode row.regeneratedLabel ↔
      (encode row.clippedOwner = row.dashboardOwner ∧
        jsTrim (encode row.trimmedCode) = encode row.trimmedCode) ∧
        jsTrim (encode row.network) = encode row.network := by
    rw [eq_comm, encode_regeneratedLabel, dashboardLabel_eq, ← joined_assoc, ← joined_assoc]
    exact (joined_strip_iff rfl lastCode (head_network row)).trans
      (and_congr_left fun _ => joined_strip_iff rfl lastOwner (head_encode_btrim row.code))
  rw [parts, jsTrim_encode_eq_iff, jsTrim_encode_eq_iff, PartsAgree]
  constructor
  · rintro ⟨⟨owner, code⟩, name⟩
    exact ⟨code, name, (owner_same_iff row code name).1 owner⟩
  · rintro ⟨code, name, owner⟩
    exact ⟨⟨(owner_same_iff row code name).2 owner, code⟩, name⟩

/-- The labels agree just where the trims agree and the owner fits, or is cut, alike. -/
theorem labelsAgree_iff (row : LabelRow) : row.LabelsAgree ↔ row.PartsAgree := by
  rw [LabelsAgree, labels_same_iff]
  refine ⟨fun agree => agree.1, fun agree => ⟨agree, ?_⟩⟩
  rw [(labels_same_iff row).2 agree]
  refine ⟨?_, ?_⟩
  · rw [characters_encode]
    exact regeneratedLabel_length_le row
  · rw [encode_regeneratedLabel, joinAll_two]
    exact joined_suffix _ _ _

def facesRow : LabelRow where
  ownerName := List.replicate 47 '😀'
  ownerEmail := "faces@example.com".toList
  code := "*123#".toList
  operatorDisplayName := "Vodacom Tanzania".toList
  environment := .production
  codeFits := by decide
  networkFits := by decide

theorem faces_labelled_apart : ¬ facesRow.LabelsAgree := by
  intro agree
  have same : facesRow.dashboardLabel = encode facesRow.regeneratedLabel := agree.1
  exact absurd (congrArg (fun label => label.getD 92 0) same) (by decide)

end LabelRow

end UssdGateway
