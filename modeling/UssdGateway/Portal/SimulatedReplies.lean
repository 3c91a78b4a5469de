import UssdGateway.Gateway.World
import UssdGateway.Portal.Simulator

/-!
The simulator against the gateway: on which answers of a handler the two read the same action and
message.
-/

namespace UssdGateway

open JsonText Trimming

structure Reading where
  ok : Bool
  action : Option Action
  message : Option Str
deriving DecidableEq

namespace Reading

def ofReply (reply : Option UnifiedReply) : Reading where
  ok := reply.isSome
  action := reply.map UnifiedReply.action
  message := reply.map UnifiedReply.message

theorem ofReply_inj {reply other : Option UnifiedReply} :
    ofReply reply = ofReply other ↔ reply = other := by
  constructor
  · intro same
    rcases reply with _ | ⟨action, message⟩ <;> rcases other with _ | ⟨action', message'⟩
    · rfl
    · exact absurd (congrArg Reading.ok same) (by simp [ofReply])
    · exact absurd (congrArg Reading.ok same) (by simp [ofReply])
    · have actions := congrArg Reading.action same
      have messages := congrArg Reading.message same
      simp only [ofReply, Option.map_some, Option.some.injEq] at actions messages
      rw [actions, messages]
  · rintro rfl
    rfl

end Reading

def simulatedReading (printing : Printing) (status : Nat) (body : Str) : Reading :=
  let result := Simulator.runSimulatedLeg printing status body
  { ok := result.ok, action := result.action, message := result.message }

def gatewayReading (runtime : PyRuntime) (elapsedMs status : Nat) (body : Str) : Reading :=
  Reading.ofReply
    (handlerOutcome runtime { elapsedMs, result := .response status body }).reply

theorem simulatedReading_eq (printing : Printing) (status : Nat) (body : Str) :
    simulatedReading printing status body = Reading.ofReply
      (if 400 ≤ status then none
      else Simulator.parseHandlerReply printing (cutUnits Simulator.maxReplyUnits body).1) := by
  simp only [simulatedReading, Simulator.runSimulatedLeg]
  split
  · rfl
  · split
    next failed => rw [failed]; rfl
    next parsed read => rw [read]; rfl

theorem gatewayReading_eq (runtime : PyRuntime) (elapsedMs status : Nat) (body : Str) :
    gatewayReading runtime elapsedMs status body = Reading.ofReply
      (if 400 ≤ status then none else (parseHandlerReply runtime body).toOption) := by
  simp only [gatewayReading, handlerOutcome]
  split
  · rfl
  · split
    next kind failed => rw [failed]; rfl
    next reply read => rw [read]; rfl

def actionToken (text : Str) : Option Action :=
  if Str.startsWith (Str.upper text) (lit "CON") then some .CON
  else if Str.startsWith (Str.upper text) (lit "END") then some .END
  else none

theorem parseTextReply_eq (stripped : Str) :
    (parseTextReply stripped).toOption = (actionToken stripped).map fun action =>
      { action, message := Str.rstrip (Str.lstrip (stripped.drop 3)) } := by
  simp only [parseTextReply, actionToken]
  split
  · rfl
  · split <;> rfl

theorem parseText_eq (trimmed : Str) :
    Simulator.parseText trimmed = (actionToken trimmed).map fun action =>
      { action, message := Simulator.plainMessage (trimmed.drop 3) } := by
  simp only [Simulator.parseText, actionToken]
  split
  · rfl
  · split <;> rfl

def isLetter (point : CodePoint) : Bool :=
  (decide (0x41 ≤ point.val) && decide (point.val ≤ 0x5A)) ||
  (decide (0x61 ≤ point.val) && decide (point.val ≤ 0x7A))

theorem isLetter_of_toUpper {point upper : CodePoint} (same : point.toUpper = upper)
    (letter : 0x41 ≤ upper.val ∧ upper.val ≤ 0x5A) : isLetter point = true := by
  rw [CodePoint.toUpper] at same
  simp only [isLetter, Bool.or_eq_true, Bool.and_eq_true, decide_eq_true_eq]
  split at same
  next lower => exact Or.inr lower
  next => rw [same]; exact Or.inl letter

theorem isSpace_of_letter {point : CodePoint} (letter : isLetter point = true) :
    point.isSpace = false ∧ point.isJsSpace = false ∧ point.isSurrogate = false := by
  simp only [isLetter, Bool.or_eq_true, Bool.and_eq_true, decide_eq_true_eq] at letter
  simp only [CodePoint.isSpace, CodePoint.isJsSpace, CodePoint.isSurrogate, JsText.isSpaceCode,
    Bool.or_eq_false_iff, ← Bool.decide_and, decide_eq_false_iff_not]
  omega

theorem isSpace_of_blank {point : CodePoint} (blank : isBlank point = true) :
    point.isSpace = true ∧ point.isJsSpace = true := by
  simp only [isBlank, Bool.or_eq_true, decide_eq_true_eq] at blank
  simp only [CodePoint.isSpace, CodePoint.isJsSpace, JsText.isSpaceCode,
    Bool.or_eq_true, ← Bool.decide_and, decide_eq_true_eq]
  omega

def tokenOf : Action → CodePoint × CodePoint × CodePoint
  | .CON => (0x43, 0x4F, 0x4E)
  | .END => (0x45, 0x4E, 0x44)

theorem startsWith_three (text : Str) (first second third : CodePoint) :
    Str.startsWith (Str.upper text) [first, second, third] = true ↔
      ∃ x y z rest, text = x :: y :: z :: rest ∧
        (x.toUpper, y.toUpper, z.toUpper) = (first, second, third) := by
  rw [Str.startsWith, List.isPrefixOf_iff_prefix, Str.upper]
  constructor
  · rintro ⟨tail, whole⟩
    obtain ⟨x, others, rfl, head, whole⟩ := List.map_eq_cons_iff.1 whole.symm
    obtain ⟨y, others, rfl, next, whole⟩ := List.map_eq_cons_iff.1 whole
    obtain ⟨z, rest, rfl, last, _⟩ := List.map_eq_cons_iff.1 whole
    exact ⟨x, y, z, rest, rfl, by rw [head, next, last]⟩
  · rintro ⟨x, y, z, rest, rfl, same⟩
    simp only [Prod.mk.injEq] at same
    obtain ⟨rfl, rfl, rfl⟩ := same
    exact ⟨rest.map CodePoint.toUpper, rfl⟩

def StartsWithToken (action : Action) (text : Str) : Prop :=
  ∃ x y z rest, text = x :: y :: z :: rest ∧
    (x.toUpper, y.toUpper, z.toUpper) = tokenOf action

theorem StartsWithToken.unique {action other : Action} {text : Str}
    (first : StartsWithToken action text) (second : StartsWithToken other text) :
    action = other := by
  obtain ⟨x, y, z, rest, rfl, letters⟩ := first
  obtain ⟨x', y', z', rest', same, letters'⟩ := second
  simp only [List.cons.injEq] at same
  obtain ⟨rfl, rfl, rfl, _⟩ := same
  rw [letters] at letters'
  cases action <;> cases other
  · rfl
  · exact absurd letters' (by decide)
  · exact absurd letters' (by decide)
  · rfl

theorem actionToken_eq_some_iff {text : Str} {action : Action} :
    actionToken text = some action ↔ StartsWithToken action text := by
  have con : Str.startsWith (Str.upper text) (lit "CON") = true ↔ StartsWithToken .CON text :=
    startsWith_three text 0x43 0x4F 0x4E
  have conEnd : Str.startsWith (Str.upper text) (lit "END") = true ↔ StartsWithToken .END text :=
    startsWith_three text 0x45 0x4E 0x44
  rw [actionToken]
  split_ifs with isCon isEnd
  · constructor
    · rintro ⟨⟩
      exact con.1 isCon
    · intro starts
      rw [(con.1 isCon).unique starts]
  · constructor
    · rintro ⟨⟩
      exact conEnd.1 isEnd
    · intro starts
      rw [(conEnd.1 isEnd).unique starts]
  · constructor
    · intro none
      exact absurd none (by simp)
    · intro starts
      cases action
      · exact absurd (con.2 starts) isCon
      · exact absurd (conEnd.2 starts) isEnd

theorem tokenOf_upper (action : Action) :
    (0x41 ≤ (tokenOf action).1.val ∧ (tokenOf action).1.val ≤ 0x5A) ∧
      (0x41 ≤ (tokenOf action).2.1.val ∧ (tokenOf action).2.1.val ≤ 0x5A) ∧
      (0x41 ≤ (tokenOf action).2.2.val ∧ (tokenOf action).2.2.val ≤ 0x5A) := by
  cases action <;> decide

theorem exists_of_actionToken {text : Str} {action : Action}
    (token : actionToken text = some action) :
    ∃ x y z rest, text = x :: y :: z :: rest ∧
      (isLetter x = true ∧ isLetter y = true ∧ isLetter z = true) ∧
      ∀ other, actionToken (x :: y :: z :: other) = some action := by
  obtain ⟨x, y, z, rest, rfl, letters⟩ := actionToken_eq_some_iff.1 token
  have upper := tokenOf_upper action
  refine ⟨x, y, z, rest, rfl, ?_, ?_⟩
  · rw [← letters] at upper
    exact ⟨isLetter_of_toUpper rfl upper.1, isLetter_of_toUpper rfl upper.2.1,
      isLetter_of_toUpper rfl upper.2.2⟩
  · intro other
    exact actionToken_eq_some_iff.2 ⟨x, y, z, other, rfl, letters⟩

theorem actionToken_brace {point : CodePoint} {rest : Str} (brace : isLetter point = false) :
    actionToken (point :: rest) = none := by
  rcases token : actionToken (point :: rest) with _ | action
  · rfl
  · obtain ⟨x, y, z, tail, same, ⟨letter, _⟩, _⟩ := exists_of_actionToken token
    obtain ⟨rfl, _⟩ := List.cons.inj same
    rw [brace] at letter
    exact absurd letter (by decide)

/-! Which texts either answers, and with what. -/

section

variable (printing : Printing) (maxDepth : Nat)

def pyAction (members : List (Str × Json)) : Option Action :=
  ((memberOf members "action").map (decodedValue printing)).bind coerceAction

def pyMessage (members : List (Str × Json)) : Str :=
  ((memberOf members "message").map printing.pyShown).getD []

def jsAction (members : List (Str × Json)) : Option Action :=
  (memberOf members "action").bind Simulator.coerceAction

def jsMessage (members : List (Str × Json)) : Option Str :=
  ((memberOf members "message").map printing.jsShown).getD (some [])

def pyObject (text : Str) : Option UnifiedReply :=
  match loadsJson maxDepth text with
  | some (.object members) =>
      (pyAction printing members).map fun action =>
        { action, message := pyMessage printing members }
  | _ => none

end

theorem lookup_map_value {α β γ : Type} [BEq α] (entries : List (α × β)) (convert : β → γ)
    (key : α) :
    List.lookup key (entries.map fun entry => (entry.1, convert entry.2)) =
      (List.lookup key entries).map convert := by
  induction entries with
  | nil => rfl
  | cons entry rest ih =>
      obtain ⟨name, value⟩ := entry
      rw [List.map_cons, List.lookup_cons, List.lookup_cons, ih]
      cases key == name <;> rfl

theorem shown_decodedValue (printing : Printing) (value : Json) :
    (decodedValue printing value).shown = printing.pyShown value := by
  cases value <;> rfl

theorem parseJsonReply_eq (printing : Printing) (members : List (Str × Json)) :
    (parseJsonReply (members.reverse.map fun member =>
        (member.1, decodedValue printing member.2))).toOption =
      (pyAction printing members).map fun action =>
        { action, message := pyMessage printing members } := by
  rw [parseJsonReply, lookup_map_value, lookup_map_value]
  rcases action : pyAction printing members with _ | action
  · rw [pyAction, memberOf] at action
    rw [action]
    rfl
  · have message : (List.lookup (lit "message") members.reverse).map
        (JsonValue.shown ∘ decodedValue printing) =
          (memberOf members "message").map printing.pyShown := by
      have shows : JsonValue.shown ∘ decodedValue printing = printing.pyShown := by
        funext value
        exact shown_decodedValue printing value
      rw [shows, memberOf]
    rw [pyAction, memberOf] at action
    rw [action, Option.map_map, message]
    rfl

theorem object_head {text : Str} {members : List (Str × Json)}
    (trimmed : HeadKept isBlank text) (read : readJson text = some (.object members)) :
    text.head? = some openBrace := by
  obtain ⟨brace, _⟩ := readJson_object read
  rwa [skip, dropWhile_of_headKept trimmed] at brace

theorem readJson_of_loadsJson {maxDepth : Nat} {text : Str} {value : Json}
    (loaded : loadsJson maxDepth text = some value) : readJson text = some value := by
  rw [loadsJson] at loaded
  split at loaded
  · exact absurd loaded (by simp)
  next read =>
    split_ifs at loaded
    rwa [← loaded]

theorem readJson_of_parseJson {text : Str} {value : Json}
    (parsed : parseJson text = some value) : readJson text = some value := by
  rw [parseJson] at parsed
  split at parsed
  · exact absurd parsed (by simp)
  next read =>
    split_ifs at parsed
    rwa [← parsed]

theorem pyObject_head {printing : Printing} {maxDepth : Nat} {text : Str} {reply : UnifiedReply}
    (trimmed : HeadKept isBlank text) (read : pyObject printing maxDepth text = some reply) :
    text.head? = some openBrace := by
  rw [pyObject] at read
  split at read
  next members loaded => exact object_head trimmed (readJson_of_loadsJson loaded)
  · exact absurd read (by simp)

theorem parseObject_head {printing : Printing} {text : Str} {reply : UnifiedReply}
    (trimmed : HeadKept isBlank text)
    (read : Simulator.parseObject printing text = some reply) :
    text.head? = some openBrace := by
  rw [Simulator.parseObject] at read
  split at read
  next members parsed => exact object_head trimmed (readJson_of_parseJson parsed)
  · exact absurd read (by simp)

theorem strip_trimmed (text : Str) :
    HeadKept isBlank (Str.strip text) ∧ LastKept isBlank (Str.strip text) :=
  ⟨(headKept_strip CodePoint.isSpace text).narrow fun _ blank => (isSpace_of_blank blank).1,
    (lastKept_strip CodePoint.isSpace text).narrow fun _ blank => (isSpace_of_blank blank).1⟩

theorem jsTrim_trimmed (text : Str) :
    HeadKept isBlank (Str.jsTrim text) ∧ LastKept isBlank (Str.jsTrim text) :=
  ⟨(headKept_strip CodePoint.isJsSpace text).narrow fun _ blank => (isSpace_of_blank blank).2,
    (lastKept_strip CodePoint.isJsSpace text).narrow fun _ blank => (isSpace_of_blank blank).2⟩

def gatewayReply (printing : Printing) (maxDepth : Nat) (stripped : Str) : Option UnifiedReply :=
  ((actionToken stripped).map fun action =>
      { action, message := Str.rstrip (Str.lstrip (stripped.drop 3)) }).orElse
    fun _ => pyObject printing maxDepth stripped

def simulatorReply (printing : Printing) (trimmed : Str) : Option UnifiedReply :=
  ((actionToken trimmed).map fun action =>
      { action, message := Simulator.plainMessage (trimmed.drop 3) }).orElse
    fun _ => Simulator.parseObject printing trimmed

theorem parseHandlerReply_eq (runtime : PyRuntime) (printing : Printing) (maxDepth : Nat)
    (body : Str) :
    (parseHandlerReply (runtime.withJson printing maxDepth) body).toOption =
      gatewayReply printing maxDepth (Str.strip body) := by
  have trimmed := (strip_trimmed body).1
  rw [parseHandlerReply, gatewayReply]
  generalize Str.strip body = stripped at trimmed ⊢
  rcases stripped with _ | ⟨first, rest⟩
  · rfl
  simp only
  split
  next marked =>
    have brace : isLetter first = false := by
      rcases List.mem_pair.1 (show first ∈ [(0x7B : CodePoint), 0x5B] from marked) with rfl | rfl
        <;> rfl
    have loads : (runtime.withJson printing maxDepth).loads (first :: rest) =
        (loadsJson maxDepth (first :: rest)).map (decodedDocument printing) := rfl
    rw [actionToken_brace brace, Option.map_none, Option.orElse_none, pyObject, loads]
    rcases loadsJson maxDepth (first :: rest) with _ | value
    · rfl
    · cases value with
      | object members => exact parseJsonReply_eq printing members
      | _ => rfl
  next unmarked =>
    have noObject : pyObject printing maxDepth (first :: rest) = none := by
      rcases read : pyObject printing maxDepth (first :: rest) with _ | reply
      · rfl
      · have brace := pyObject_head trimmed read
        obtain rfl := Option.some.inj brace
        exact absurd (by decide) unmarked
    rw [noObject, parseTextReply_eq, Option.orElse_eq_or, Option.or_none]

theorem simulatorReply_eq (printing : Printing) (body : Str) :
    Simulator.parseHandlerReply printing body = simulatorReply printing (Str.jsTrim body) := by
  have trimmed := (jsTrim_trimmed body).1
  rw [Simulator.parseHandlerReply, simulatorReply]
  generalize Str.jsTrim body = text at trimmed ⊢
  rcases text with _ | ⟨first, rest⟩
  · rfl
  simp only [List.cons_ne_nil, if_false, parseText_eq]
  split
  next marked =>
    have brace : first = openBrace := by
      rw [Str.startsWith, List.isPrefixOf_iff_prefix] at marked
      obtain ⟨tail, whole⟩ := marked
      exact (List.cons.inj whole).1.symm
    have noToken : actionToken (first :: rest) = none := actionToken_brace (by rw [brace]; rfl)
    rw [noToken, Option.map_none, Option.orElse_none, Option.orElse_eq_or, Option.or_none]
  next unmarked =>
    have noObject : Simulator.parseObject printing (first :: rest) = none := by
      rcases read : Simulator.parseObject printing (first :: rest) with _ | reply
      · rfl
      · have brace := parseObject_head trimmed read
        obtain rfl := Option.some.inj brace
        exact absurd rfl unmarked
    rw [noObject, Option.orElse_eq_or, Option.or_none]

section

variable (printing : Printing) (maxDepth : Nat)

def gatewayAnswers (stripped : Str) : Bool :=
  (actionToken stripped).isSome ||
    match loadsJson maxDepth stripped with
    | some (.object members) => (pyAction printing members).isSome
    | _ => false

def simulatorAnswers (trimmed : Str) : Bool :=
  (actionToken trimmed).isSome ||
    match parseJson trimmed with
    | some (.object members) => (jsAction members).isSome && (jsMessage printing members).isSome
    | _ => false

theorem parseObject_eq (trimmed : Str) :
    Simulator.parseObject printing trimmed =
      match parseJson trimmed with
      | some (.object members) =>
          (jsAction members).bind fun action =>
            (jsMessage printing members).map fun message => { action, message }
      | _ => none := rfl

theorem isSome_gatewayReply (stripped : Str) :
    (gatewayReply printing maxDepth stripped).isSome =
      gatewayAnswers printing maxDepth stripped := by
  rw [gatewayReply, gatewayAnswers, Option.orElse_eq_or, Option.isSome_or, Option.isSome_map,
    pyObject]
  split <;> simp

theorem isSome_simulatorReply (trimmed : Str) :
    (simulatorReply printing trimmed).isSome = simulatorAnswers printing trimmed := by
  rw [simulatorReply, simulatorAnswers, Option.orElse_eq_or, Option.isSome_or, Option.isSome_map,
    parseObject_eq]
  split
  next members _ =>
    rcases jsAction members with _ | action
    · rfl
    · simp
  · rfl

end

theorem cutUnits_split (units : Nat) (text : Str) :
    text = (cutUnits units text).1 ++ (cutUnits units text).2 ∨
      ∃ front point rest high low, text = front ++ point :: rest ∧
        cutUnits units text = (front ++ [high], low :: rest) ∧
        high.isSurrogate = true ∧ low.isSurrogate = true := by
  induction text generalizing units with
  | nil => exact Or.inl (by cases units <;> rfl)
  | cons point rest ih =>
      have further : ∀ units cut, cut = cutUnits units rest →
          point :: rest = (point :: cut.1) ++ cut.2 ∨
            ∃ front half tail high low, point :: rest = front ++ half :: tail ∧
              (point :: cut.1, cut.2) = (front ++ [high], low :: tail) ∧
              high.isSurrogate = true ∧ low.isSurrogate = true := by
        rintro units _ rfl
        rcases ih units with whole | ⟨front, half, tail, high, low, whole, cut, surrogates⟩
        · exact Or.inl (by rw [List.cons_append, ← whole])
        · refine Or.inr ⟨point :: front, half, tail, high, low, by rw [whole]; rfl, ?_, surrogates⟩
          rw [cut]
          rfl
      rcases units with _ | units
      · exact Or.inl rfl
      rw [cutUnits.eq_def]
      simp only
      split
      · exact further units _ rfl
      next astral =>
        rcases units with _ | units
        · obtain ⟨high, low⟩ := isSurrogate_cut astral
          exact Or.inr ⟨[], point, rest, _, _, rfl, rfl, high, low⟩
        · exact further units _ rfl

theorem gatewayReply_head {printing : Printing} {maxDepth : Nat} {stripped : Str}
    {reply : UnifiedReply} (trimmed : HeadKept isBlank stripped)
    (read : gatewayReply printing maxDepth stripped = some reply) :
    ∃ point, stripped.head? = some point ∧ point.isJsSpace = false := by
  rw [gatewayReply, Option.orElse_eq_or, Option.or_eq_some_iff] at read
  rcases read with token | ⟨_, object⟩
  · obtain ⟨action, token, _⟩ := Option.map_eq_some_iff.1 token
    obtain ⟨x, y, z, rest, rfl, ⟨letter, _⟩, _⟩ := exists_of_actionToken token
    exact ⟨x, rfl, (isSpace_of_letter letter).2.1⟩
  · exact ⟨openBrace, pyObject_head trimmed object, rfl⟩

theorem simulatorReply_head {printing : Printing} {text : Str} {reply : UnifiedReply}
    (trimmed : HeadKept isBlank text) (read : simulatorReply printing text = some reply) :
    ∃ point, text.head? = some point ∧ point.isSpace = false := by
  rw [simulatorReply, Option.orElse_eq_or, Option.or_eq_some_iff] at read
  rcases read with token | ⟨_, object⟩
  · obtain ⟨action, token, _⟩ := Option.map_eq_some_iff.1 token
    obtain ⟨x, y, z, rest, rfl, ⟨letter, _⟩, _⟩ := exists_of_actionToken token
    exact ⟨x, rfl, (isSpace_of_letter letter).1⟩
  · exact ⟨openBrace, parseObject_head trimmed object, rfl⟩

theorem dropWhile_head {kind : CodePoint → Bool} {text : Str} {point : CodePoint}
    (head : ((text.dropWhile kind).rdropWhile kind).head? = some point) :
    ∃ rest, text.dropWhile kind = point :: rest := by
  obtain ⟨rest, whole⟩ := List.rdropWhile_prefix kind (text.dropWhile kind)
  rcases kept : (text.dropWhile kind).rdropWhile kind with _ | ⟨first, tail⟩
  · rw [kept] at head
    exact absurd head (by simp)
  · rw [kept] at head whole
    obtain rfl := Option.some.inj head
    exact ⟨tail ++ rest, whole.symm⟩

theorem starts_together {body kept beyond : Str} (whole : body = kept ++ beyond)
    {point other : CodePoint} (one : (Str.strip body).head? = some point)
    (two : (Str.jsTrim kept).head? = some other) (pointKept : point.isJsSpace = false)
    (otherKept : other.isSpace = false) :
    body.dropWhile CodePoint.isSpace = kept.dropWhile CodePoint.isJsSpace ++ beyond := by
  obtain ⟨rest, first⟩ := dropWhile_head (show _ = some point from one)
  obtain ⟨tail, second⟩ := dropWhile_head (show _ = some other from two)
  have inside : other ∈ kept := by
    apply (List.dropWhile_sublist CodePoint.isJsSpace).mem
    rw [second]
    exact List.mem_cons_self
  have some : kept.dropWhile CodePoint.isSpace ≠ [] := by
    intro blank
    have isBlank := List.dropWhile_eq_nil_iff.1 blank other inside
    rw [otherKept] at isBlank
    exact absurd isBlank (by decide)
  obtain ⟨head, front, frontEq⟩ := List.exists_cons_of_ne_nil some
  have split : body.dropWhile CodePoint.isSpace = kept.dropWhile CodePoint.isSpace ++ beyond := by
    rw [whole, List.dropWhile_append, frontEq]
    rfl
  rw [first, frontEq, List.cons_append] at split
  obtain ⟨rfl, _⟩ := List.cons.inj split
  have same := dropWhile_eq_of_kept _ _ frontEq second pointKept otherKept
  rw [first, split, ← List.cons_append, same, second]

/-! Plain replies. -/

theorem plainMessage_eq (rest : Str) :
    Simulator.plainMessage rest =
      (looseStart CodePoint.isJsSpace Simulator.startsMessage rest).rdropWhile
        CodePoint.isJsSpace := by
  cases rest <;> rfl

/-- The blanks around the message, and whatever the simulator cuts off after it, that the two trim
alike. -/
structure BlanksAlike (rest beyond : Str) : Prop where
  beyond : ∀ point ∈ beyond, point.isSpace = true
  trailing : ∀ point ∈ rest.rtakeWhile (either CodePoint.isSpace CodePoint.isJsSpace),
    both CodePoint.isSpace CodePoint.isJsSpace point = true
  leading : LeadAgrees CodePoint.isSpace CodePoint.isJsSpace Simulator.startsMessage
    (rest.rdropWhile CodePoint.isJsSpace)

theorem token_shapes {text : Str} {action : Action}
    (token : actionToken (text.rdropWhile CodePoint.isJsSpace) = some action) (beyond : Str) :
    ∃ x y z rest, text = x :: y :: z :: rest ∧
      (text ++ beyond).rdropWhile CodePoint.isSpace =
        x :: y :: z :: (rest ++ beyond).rdropWhile CodePoint.isSpace ∧
      text.rdropWhile CodePoint.isJsSpace =
        x :: y :: z :: rest.rdropWhile CodePoint.isJsSpace ∧
      ∀ other, actionToken (x :: y :: z :: other) = some action := by
  obtain ⟨x, y, z, tail, shape, ⟨_, _, letter⟩, sameToken⟩ := exists_of_actionToken token
  obtain ⟨cut, whole⟩ := List.rdropWhile_prefix CodePoint.isJsSpace text
  rw [shape] at whole
  obtain ⟨gatewayKeeps, simulatorKeeps, _⟩ := isSpace_of_letter letter
  refine ⟨x, y, z, tail ++ cut, whole.symm, ?_, ?_, sameToken⟩
  · rw [← whole]
    show ([x, y] ++ z :: (tail ++ cut ++ beyond)).rdropWhile CodePoint.isSpace = [x, y] ++ z :: _
    exact rdropWhile_append_kept gatewayKeeps (tail ++ cut ++ beyond)
  · rw [← whole]
    show ([x, y] ++ z :: (tail ++ cut)).rdropWhile CodePoint.isJsSpace = [x, y] ++ z :: _
    exact rdropWhile_append_kept simulatorKeeps (tail ++ cut)

theorem plain_replies_iff (printing : Printing) (maxDepth : Nat) {text : Str} (beyond : Str)
    {action : Action}
    (token : actionToken (text.rdropWhile CodePoint.isJsSpace) = some action) :
    gatewayReply printing maxDepth ((text ++ beyond).rdropWhile CodePoint.isSpace) =
        simulatorReply printing (text.rdropWhile CodePoint.isJsSpace) ↔
      BlanksAlike (text.drop 3) beyond := by
  obtain ⟨x, y, z, rest, shape, stripped, trimmed, sameToken⟩ := token_shapes token beyond
  have messages := trims_agree_iff CodePoint.isSpace CodePoint.isJsSpace Simulator.startsMessage
    rest beyond
  have drops : text.drop 3 = rest := by
    rw [shape]
    rfl
  rw [stripped, trimmed, gatewayReply, simulatorReply, sameToken, sameToken, drops]
  simp only [Option.map_some, Option.orElse_some, Option.some.injEq, UnifiedReply.mk.injEq,
    true_and, List.drop_succ_cons, List.drop_zero, plainMessage_eq]
  constructor
  · intro same
    obtain ⟨beyondBlank, trailing, leading⟩ := messages.1 same
    exact ⟨beyondBlank, trailing, leading⟩
  · rintro ⟨beyondBlank, trailing, leading⟩
    exact messages.2 ⟨beyondBlank, trailing, leading⟩

/-! Objects. -/

theorem actionToken_append {text : Str} {action : Action}
    (token : actionToken text = some action) (more : Str) :
    actionToken (text ++ more) = some action := by
  obtain ⟨x, y, z, rest, rfl, _, sameToken⟩ := exists_of_actionToken token
  exact sameToken (rest ++ more)

theorem actionToken_of_upper {text : Str} {action : Action}
    (same : (if Str.upper text = lit "CON" then some Action.CON
      else if Str.upper text = lit "END" then some Action.END else none) = some action) :
    actionToken text = some action := by
  rw [actionToken]
  split at same
  next con => rw [con]; exact same
  next =>
    split at same
    next conEnd => rw [conEnd]; exact same
    next => exact absurd same (by simp)

theorem actions_agree {printing : Printing} {members : List (Str × Json)} {action other : Action}
    (gateway : pyAction printing members = some action)
    (simulator : jsAction members = some other) : action = other := by
  rw [pyAction] at gateway
  rw [jsAction] at simulator
  rcases found : memberOf members "action" with _ | value
  · rw [found] at simulator
    exact absurd simulator (by simp)
  rw [found, Option.map_some, Option.bind_some] at gateway
  rw [found, Option.bind_some] at simulator
  cases value with
  | text raw =>
      have one : actionToken (Str.strip raw) = some action := actionToken_of_upper gateway
      have two : actionToken (Str.jsTrim raw) = some other := actionToken_of_upper simulator
      obtain ⟨x, _, _, _, first, ⟨letter, _⟩, _⟩ := exists_of_actionToken one
      obtain ⟨x', _, _, _, second, ⟨letter', _⟩, _⟩ := exists_of_actionToken two
      have together := starts_together (List.append_nil raw).symm (by rw [first]; rfl)
        (by rw [second]; rfl) (isSpace_of_letter letter).2.1 (isSpace_of_letter letter').1
      obtain ⟨cut, whole⟩ := List.rdropWhile_prefix CodePoint.isSpace
        (raw.dropWhile CodePoint.isSpace)
      obtain ⟨cut', whole'⟩ := List.rdropWhile_prefix CodePoint.isJsSpace
        (raw.dropWhile CodePoint.isJsSpace)
      have left : actionToken (raw.dropWhile CodePoint.isSpace) = some action := by
        rw [← whole]
        exact actionToken_append one cut
      have right : actionToken (raw.dropWhile CodePoint.isJsSpace) = some other := by
        rw [← whole']
        exact actionToken_append two cut'
      rw [together, List.append_nil, right] at left
      exact (Option.some.inj left).symm
  | _ => exact absurd simulator (by simp [Simulator.coerceAction])

theorem eq_nil_of_blank {text more : Str} (trimmed : LastKept isBlank (text ++ more))
    (blank : ∀ point ∈ more, isBlank point = true) : more = [] := by
  rcases more.eq_nil_or_concat with rfl | ⟨front, point, rfl⟩
  · rfl
  · have kept := trimmed point (by simp)
    rw [blank point (by simp)] at kept
    exact absurd kept (by decide)

theorem objects_alike {text beyond : Str} {members others : List (Str × Json)}
    (read : readJson ((text ++ beyond).rdropWhile CodePoint.isSpace) = some (.object members))
    (parsed : readJson (text.rdropWhile CodePoint.isJsSpace) = some (.object others)) :
    members = others := by
  have stripped : LastKept isBlank ((text ++ beyond).rdropWhile CodePoint.isSpace) :=
    (lastKept_rdropWhile _).narrow fun _ blank => (isSpace_of_blank blank).1
  have trimmed : LastKept isBlank (text.rdropWhile CodePoint.isJsSpace) :=
    (lastKept_rdropWhile _).narrow fun _ blank => (isSpace_of_blank blank).2
  have first := List.rdropWhile_prefix CodePoint.isSpace (text ++ beyond)
  have second := (List.rdropWhile_prefix CodePoint.isJsSpace text).trans
    (List.prefix_append text beyond)
  have same : (text ++ beyond).rdropWhile CodePoint.isSpace =
      text.rdropWhile CodePoint.isJsSpace := by
    rcases List.prefix_or_prefix_of_prefix first second with ⟨more, longer⟩ | ⟨more, longer⟩
    · rw [← longer] at parsed trimmed ⊢
      rw [eq_nil_of_blank trimmed (readJson_append_blank read parsed), List.append_nil]
    · rw [← longer] at read stripped ⊢
      rw [eq_nil_of_blank stripped (readJson_append_blank parsed read), List.append_nil]
  rw [same, parsed] at read
  exact (Json.object.inj (Option.some.inj read)).symm

theorem isJsSpace_of_surrogate {point : CodePoint} (surrogate : point.isSurrogate = true) :
    point.isJsSpace = false ∧ point.isSpace = false := by
  simp only [CodePoint.isSurrogate, Bool.and_eq_true, decide_eq_true_eq] at surrogate
  simp only [CodePoint.isSpace, CodePoint.isJsSpace, JsText.isSpaceCode,
    Bool.or_eq_false_iff, ← Bool.decide_and, decide_eq_false_iff_not]
  omega

theorem dropWhile_concat_kept {kind : CodePoint → Bool} {point : CodePoint}
    (kept : kind point = false) (front : Str) :
    (front ++ [point]).dropWhile kind = front.dropWhile kind ++ [point] := by
  rw [List.dropWhile_append]
  split
  next empty =>
    rw [List.isEmpty_iff.1 empty, List.dropWhile_cons, kept]
    rfl
  next => rfl

theorem jsTrim_halved {high : CodePoint} (surrogate : high.isSurrogate = true) (front : Str) :
    Str.jsTrim (front ++ [high]) = front.dropWhile CodePoint.isJsSpace ++ [high] := by
  have kept := (isJsSpace_of_surrogate surrogate).1
  show ((front ++ [high]).dropWhile CodePoint.isJsSpace).rdropWhile CodePoint.isJsSpace = _
  rw [dropWhile_concat_kept kept]
  exact List.rdropWhile_concat_neg _ _ _ (by simp [kept])

theorem mem_plainMessage {high : CodePoint} (surrogate : high.isSurrogate = true) (front : Str) :
    high ∈ Simulator.plainMessage (front ++ [high]) := by
  have kept := (isJsSpace_of_surrogate surrogate).1
  have ends : ∀ text : Str, high ∈ (text ++ [high]).rdropWhile CodePoint.isJsSpace := by
    intro text
    rw [List.rdropWhile_concat_neg _ _ _ (by simp [kept])]
    simp
  rw [plainMessage_eq]
  rcases looseStart_or : front ++ [high] with _ | ⟨point, rest⟩
  · exact absurd looseStart_or (by simp)
  · rw [looseStart, ← looseStart_or]
    split
    · rw [dropWhile_concat_kept kept]
      exact ends _
    · exact ends _

theorem halved_no_object {high : CodePoint} (surrogate : high.isSurrogate = true) {front : Str}
    {members : List (Str × Json)} :
    parseJson (Str.jsTrim (front ++ [high])) ≠ some (.object members) := by
  intro parsed
  have last := readJson_last (readJson_of_parseJson parsed) (jsTrim_trimmed _).2
  rw [jsTrim_halved surrogate, List.getLast?_concat] at last
  obtain rfl := Option.some.inj last
  exact absurd surrogate (by decide)

theorem mem_of_mem_message {body : Str} {point : CodePoint}
    (member : point ∈ Str.rstrip (Str.lstrip ((Str.strip body).drop 3))) : point ∈ body := by
  have trims : ∀ text : Str, Str.rstrip (Str.lstrip text) <:+: text := by
    intro text
    exact (List.rdropWhile_prefix _ _).isInfix.trans (List.dropWhile_suffix _).isInfix
  exact (trims body).subset (List.mem_of_mem_drop ((trims _).subset member))

theorem halved_replies_differ {printing : Printing} {maxDepth : Nat} {body front rest : Str}
    {point high : CodePoint} {reply : UnifiedReply} (encodable : body.Encodable)
    (whole : body = front ++ point :: rest) (surrogate : high.isSurrogate = true)
    (answered : simulatorReply printing (Str.jsTrim (front ++ [high])) = some reply) :
    gatewayReply printing maxDepth (Str.strip body) ≠ some reply := by
  intro read
  rw [simulatorReply, Option.orElse_eq_or, Option.or_eq_some_iff] at answered
  rcases answered with token | ⟨_, object⟩
  · obtain ⟨action, named, rfl⟩ := Option.map_eq_some_iff.1 token
    obtain ⟨x, y, z, tail, shape, ⟨letter, _, last⟩, _⟩ := exists_of_actionToken named
    have halved := shape
    rw [jsTrim_halved surrogate] at halved
    rcases tail.eq_nil_or_concat with rfl | ⟨tail, ending, rfl⟩
    · have same : high = z := by simpa using congrArg List.getLast? halved
      rw [same, (isSpace_of_letter last).2.2] at surrogate
      exact absurd surrogate (by decide)
    rw [List.concat_eq_append] at halved shape
    have ends : front.dropWhile CodePoint.isJsSpace = x :: y :: z :: tail ∧ high = ending := by
      simpa using List.append_inj' (show _ = (x :: y :: z :: tail) ++ [ending] from halved) rfl
    obtain ⟨starts, rfl⟩ := ends
    rw [gatewayReply, Option.orElse_eq_or, Option.or_eq_some_iff] at read
    rcases read with plain | ⟨_, object⟩
    · obtain ⟨_, _, same⟩ := Option.map_eq_some_iff.1 plain
      have inside := mem_plainMessage surrogate tail
      have message := congrArg UnifiedReply.message same
      simp only [shape, List.drop_succ_cons, List.drop_zero] at message
      rw [← message] at inside
      rw [encodable high (mem_of_mem_message inside)] at surrogate
      exact absurd surrogate (by decide)
    · have brace := pyObject_head (strip_trimmed body).1 object
      have first : (Str.jsTrim front).head? = some x := by
        show ((front.dropWhile CodePoint.isJsSpace).rdropWhile CodePoint.isJsSpace).head? = _
        have kept : ([] ++ x :: (y :: z :: tail)).rdropWhile CodePoint.isJsSpace =
            [] ++ x :: (y :: z :: tail).rdropWhile CodePoint.isJsSpace :=
          rdropWhile_append_kept (isSpace_of_letter letter).2.1 _
        rw [starts]
        exact congrArg List.head? kept
      have together := starts_together whole brace first (by decide) (isSpace_of_letter letter).1
      obtain ⟨_, marked⟩ := dropWhile_head (show _ = some openBrace from brace)
      rw [together, starts] at marked
      obtain ⟨rfl, _⟩ := List.cons.inj marked
      exact absurd letter (by decide)
  · rw [parseObject_eq] at object
    split at object
    next members parsed => exact halved_no_object surrogate parsed
    · exact absurd object (by simp)

/-! The gateway and the simulator on one answer. -/

/-- When the two read an answer alike. -/
inductive ReadsAlike (printing : Printing) (maxDepth status : Nat) (body : Str) : Prop
  | refused (error : 400 ≤ status)
  | unanswered (gateway : gatewayAnswers printing maxDepth (Str.strip body) = false)
      (simulator : simulatorAnswers printing
        (Str.jsTrim (cutUnits Simulator.maxReplyUnits body).1) = false)
  | plain (gateway : (actionToken (Str.strip body)).isSome = true)
      (simulator :
        (actionToken (Str.jsTrim (cutUnits Simulator.maxReplyUnits body).1)).isSome = true)
      (blanks : BlanksAlike
        ((Str.lstripBy CodePoint.isJsSpace (cutUnits Simulator.maxReplyUnits body).1).drop 3)
        (cutUnits Simulator.maxReplyUnits body).2)
  | object {members others : List (Str × Json)}
      (gateway : loadsJson maxDepth (Str.strip body) = some (.object members))
      (gatewayAction : (pyAction printing members).isSome = true)
      (simulator : parseJson (Str.jsTrim (cutUnits Simulator.maxReplyUnits body).1) =
        some (.object others))
      (simulatorAction : (jsAction others).isSome = true)
      (message : ∀ value, memberOf members "message" = some value →
        printing.jsShown value = some (printing.pyShown value))

theorem message_alike_iff (printing : Printing) (members : List (Str × Json)) :
    jsMessage printing members = some (pyMessage printing members) ↔
      ∀ value, memberOf members "message" = some value →
        printing.jsShown value = some (printing.pyShown value) := by
  rw [jsMessage, pyMessage]
  rcases memberOf members "message" with _ | value
  · simp
  · simp

section

variable {printing : Printing} {maxDepth : Nat} {stripped trimmed : Str}
  {members : List (Str × Json)}

theorem gatewayReply_object (trim : HeadKept isBlank stripped)
    (loaded : loadsJson maxDepth stripped = some (.object members)) :
    gatewayReply printing maxDepth stripped =
      (pyAction printing members).map fun action =>
        { action, message := pyMessage printing members } := by
  have brace := object_head trim (readJson_of_loadsJson loaded)
  rcases stripped with _ | ⟨point, rest⟩
  · exact absurd brace (by simp)
  obtain rfl := Option.some.inj brace
  rw [gatewayReply, actionToken_brace (by decide), pyObject, loaded]
  rfl

theorem simulatorReply_object (trim : HeadKept isBlank trimmed)
    (parsed : parseJson trimmed = some (.object members)) :
    simulatorReply printing trimmed =
      (jsAction members).bind fun action =>
        (jsMessage printing members).map fun message => { action, message } := by
  have brace := object_head trim (readJson_of_parseJson parsed)
  rcases trimmed with _ | ⟨point, rest⟩
  · exact absurd brace (by simp)
  obtain rfl := Option.some.inj brace
  rw [simulatorReply, actionToken_brace (by decide), parseObject_eq, parsed]
  rfl

end

theorem object_of_no_token {printing : Printing} {maxDepth : Nat} {stripped : Str}
    {reply : UnifiedReply} (read : gatewayReply printing maxDepth stripped = some reply)
    (noToken : actionToken stripped = none) :
    ∃ members, loadsJson maxDepth stripped = some (.object members) := by
  rw [gatewayReply, noToken, Option.map_none, Option.orElse_none, pyObject] at read
  split at read
  next members loaded => exact ⟨members, loaded⟩
  · exact absurd read (by simp)

theorem parsed_of_no_token {printing : Printing} {trimmed : Str} {reply : UnifiedReply}
    (read : simulatorReply printing trimmed = some reply)
    (noToken : actionToken trimmed = none) :
    ∃ members, parseJson trimmed = some (.object members) := by
  rw [simulatorReply, noToken, Option.map_none, Option.orElse_none, parseObject_eq] at read
  split at read
  next members parsed => exact ⟨members, parsed⟩
  · exact absurd read (by simp)

section

variable (printing : Printing) (maxDepth : Nat) {body kept beyond : Str}

theorem no_token_of_brace {text : Str} (brace : text.head? = some openBrace) :
    actionToken text = none := by
  rcases text with _ | ⟨point, rest⟩
  · rfl
  · obtain rfl := Option.some.inj brace
    exact actionToken_brace (by decide)

theorem object_replies_iff {members : List (Str × Json)} {gateway simulator : UnifiedReply}
    {stripped trimmed : Str} (stripTrim : HeadKept isBlank stripped)
    (trim : HeadKept isBlank trimmed)
    (answered : gatewayReply printing maxDepth stripped = some gateway)
    (shown : simulatorReply printing trimmed = some simulator)
    (loaded : loadsJson maxDepth stripped = some (.object members))
    (parsed : parseJson trimmed = some (.object members)) :
    gateway = simulator ↔ ∀ value, memberOf members "message" = some value →
      printing.jsShown value = some (printing.pyShown value) := by
  rw [gatewayReply_object stripTrim loaded, Option.map_eq_some_iff] at answered
  obtain ⟨action, gatewayAction, rfl⟩ := answered
  rw [simulatorReply_object trim parsed, Option.bind_eq_some_iff] at shown
  obtain ⟨other, simulatorAction, shown⟩ := shown
  obtain ⟨message, simulatorMessage, rfl⟩ := Option.map_eq_some_iff.1 shown
  rw [← message_alike_iff, simulatorMessage, actions_agree gatewayAction simulatorAction]
  simp only [UnifiedReply.mk.injEq, true_and, Option.some.injEq]
  exact eq_comm

theorem members_agree (whole : body = kept ++ beyond) {members others : List (Str × Json)}
    (loaded : loadsJson maxDepth (Str.strip body) = some (.object members))
    (parsed : parseJson (Str.jsTrim kept) = some (.object others)) : members = others := by
  have read := readJson_of_loadsJson loaded
  have shown := readJson_of_parseJson parsed
  have together := starts_together whole (object_head (strip_trimmed body).1 read)
    (object_head (jsTrim_trimmed kept).1 shown) (by decide) (by decide)
  have stripped : Str.strip body =
      (kept.dropWhile CodePoint.isJsSpace ++ beyond).rdropWhile CodePoint.isSpace := by
    rw [← together]
    rfl
  rw [stripped] at read
  exact objects_alike read shown

theorem replies_agree_iff (whole : body = kept ++ beyond) {gateway simulator : UnifiedReply}
    (answered : gatewayReply printing maxDepth (Str.strip body) = some gateway)
    (shown : simulatorReply printing (Str.jsTrim kept) = some simulator) :
    gateway = simulator ↔
      ((actionToken (Str.strip body)).isSome = true ∧
        (actionToken (Str.jsTrim kept)).isSome = true ∧
          BlanksAlike ((Str.lstripBy CodePoint.isJsSpace kept).drop 3) beyond) ∨
      ∃ members, loadsJson maxDepth (Str.strip body) = some (.object members) ∧
        parseJson (Str.jsTrim kept) = some (.object members) ∧
          ∀ value, memberOf members "message" = some value →
            printing.jsShown value = some (printing.pyShown value) := by
  obtain ⟨point, head, pointKept⟩ := gatewayReply_head (strip_trimmed body).1 answered
  obtain ⟨other, otherHead, otherKept⟩ := simulatorReply_head (jsTrim_trimmed kept).1 shown
  have together := starts_together whole head otherHead pointKept otherKept
  have stripped : Str.strip body =
      (kept.dropWhile CodePoint.isJsSpace ++ beyond).rdropWhile CodePoint.isSpace := by
    rw [← together]
    rfl
  have trimmed : Str.jsTrim kept =
      (kept.dropWhile CodePoint.isJsSpace).rdropWhile CodePoint.isJsSpace := rfl
  rcases token : actionToken (Str.jsTrim kept) with _ | action
  · obtain ⟨others, parsed⟩ := parsed_of_no_token shown token
    have brace := object_head (jsTrim_trimmed kept).1 (readJson_of_parseJson parsed)
    obtain ⟨tail, starts⟩ := dropWhile_head (show _ = some openBrace from brace)
    obtain ⟨rest, first⟩ := dropWhile_head (show _ = some point from head)
    rw [together, starts] at first
    obtain ⟨same, _⟩ := List.cons.inj first
    have noToken := no_token_of_brace (same ▸ head)
    obtain ⟨members, loaded⟩ := object_of_no_token answered noToken
    obtain rfl := members_agree maxDepth whole loaded parsed
    rw [object_replies_iff printing maxDepth (strip_trimmed body).1 (jsTrim_trimmed kept).1
      answered shown loaded parsed]
    constructor
    · intro message
      exact Or.inr ⟨members, loaded, parsed, message⟩
    · rintro (⟨_, absent, _⟩ | ⟨others, loaded', _, message⟩)
      · exact absurd absent (by simp)
      · rw [loaded] at loaded'
        obtain rfl := Json.object.inj (Option.some.inj loaded')
        exact message
  · have plain := plain_replies_iff printing maxDepth beyond (trimmed ▸ token)
    rw [← stripped, ← trimmed, answered, shown, Option.some.injEq] at plain
    obtain ⟨x, y, z, rest, _, gatewayShape, _, sameToken⟩ := token_shapes (trimmed ▸ token) beyond
    have gatewayToken : actionToken (Str.strip body) = some action := by
      rw [stripped, gatewayShape]
      exact sameToken _
    rw [plain, gatewayToken]
    constructor
    · intro blanks
      exact Or.inl ⟨rfl, rfl, blanks⟩
    · rintro (⟨_, _, blanks⟩ | ⟨members, _, parsed, _⟩)
      · exact blanks
      · have brace := object_head (jsTrim_trimmed kept).1 (readJson_of_parseJson parsed)
        rw [no_token_of_brace brace] at token
        exact absurd token (by simp)

end

theorem ReadsAlike.replies {printing : Printing} {maxDepth status : Nat} {body : Str}
    (alike : ReadsAlike printing maxDepth status body) (accepted : ¬ 400 ≤ status) :
    gatewayReply printing maxDepth (Str.strip body) =
      simulatorReply printing (Str.jsTrim (cutUnits Simulator.maxReplyUnits body).1) := by
  cases alike with
  | refused error => exact absurd error accepted
  | unanswered gateway simulator =>
      rw [← isSome_gatewayReply, Option.isSome_eq_false_iff, Option.isNone_iff_eq_none] at gateway
      rw [← isSome_simulatorReply, Option.isSome_eq_false_iff, Option.isNone_iff_eq_none]
        at simulator
      rw [gateway, simulator]
  | plain gateway simulator blanks =>
      rcases cutUnits_split Simulator.maxReplyUnits body with whole |
        ⟨front, point, rest, high, low, _, cut, _, surrogate⟩
      · obtain ⟨action, token⟩ := Option.isSome_iff_exists.1 gateway
        obtain ⟨other, otherToken⟩ := Option.isSome_iff_exists.1 simulator
        have answered : ∃ reply, gatewayReply printing maxDepth (Str.strip body) = some reply :=
          ⟨_, by rw [gatewayReply, token]; rfl⟩
        have shown : ∃ reply, simulatorReply printing
            (Str.jsTrim (cutUnits Simulator.maxReplyUnits body).1) = some reply :=
          ⟨_, by rw [simulatorReply, otherToken]; rfl⟩
        obtain ⟨reply, answered⟩ := answered
        obtain ⟨reply', shown⟩ := shown
        rw [answered, shown, (replies_agree_iff printing maxDepth whole answered shown).2
          (Or.inl ⟨gateway, simulator, blanks⟩)]
      · rw [cut] at blanks
        have blank := blanks.beyond low List.mem_cons_self
        rw [(isJsSpace_of_surrogate surrogate).2] at blank
        exact absurd blank (by decide)
  | object gateway gatewayAction simulator simulatorAction message =>
      rcases cutUnits_split Simulator.maxReplyUnits body with whole |
        ⟨front, point, rest, high, low, _, cut, surrogate, _⟩
      · obtain rfl := members_agree maxDepth whole gateway simulator
        obtain ⟨action, named⟩ := Option.isSome_iff_exists.1 gatewayAction
        obtain ⟨other, otherNamed⟩ := Option.isSome_iff_exists.1 simulatorAction
        rw [gatewayReply_object (strip_trimmed _).1 gateway,
          simulatorReply_object (jsTrim_trimmed _).1 simulator, named, otherNamed,
          (message_alike_iff printing _).2 message, actions_agree named otherNamed]
        rfl
      · rw [cut] at simulator
        exact absurd simulator (halved_no_object surrogate)

/-- For every status and answer, the simulator shows what the gateway derives if and only if the
status is an error's, neither recognises a reply, the two trim a plain reply alike, or both read one
object whose message they print alike. -/
theorem simulator_reads_alike_iff (runtime : PyRuntime) (printing : Printing)
    (maxDepth elapsedMs status : Nat) (body : EncodedText) :
    simulatedReading printing status body.text =
        gatewayReading (runtime.withJson printing maxDepth) elapsedMs status body.text ↔
      ReadsAlike printing maxDepth status body.text := by
  rw [simulatedReading_eq, gatewayReading_eq, Reading.ofReply_inj, parseHandlerReply_eq,
    simulatorReply_eq]
  by_cases error : 400 ≤ status
  · rw [if_pos error, if_pos error]
    exact ⟨fun _ => .refused error, fun _ => rfl⟩
  rw [if_neg error, if_neg error]
  constructor
  · intro same
    rcases answered : gatewayReply printing maxDepth (Str.strip body.text) with _ | reply
    · rw [answered] at same
      refine .unanswered ?_ ?_
      · rw [← isSome_gatewayReply, answered]
        rfl
      · rw [← isSome_simulatorReply, same]
        rfl
    rw [answered] at same
    rcases cutUnits_split Simulator.maxReplyUnits body.text with whole |
      ⟨front, point, rest, high, low, whole, cut, surrogate, _⟩
    · rcases (replies_agree_iff printing maxDepth whole answered same).1 rfl with
        ⟨gateway, simulator, blanks⟩ | ⟨members, loaded, parsed, message⟩
      · exact .plain gateway simulator blanks
      · refine .object loaded ?_ parsed ?_ message
        · rw [gatewayReply_object (strip_trimmed _).1 loaded, Option.map_eq_some_iff] at answered
          obtain ⟨action, gatewayAction, _⟩ := answered
          rw [gatewayAction]
          rfl
        · rw [simulatorReply_object (jsTrim_trimmed _).1 parsed, Option.bind_eq_some_iff] at same
          obtain ⟨action, simulatorAction, _⟩ := same
          rw [simulatorAction]
          rfl
    · rw [cut] at same
      exact absurd answered (halved_replies_differ body.encodable whole surrogate same)
  · intro alike
    exact (alike.replies error).symm

def samplePrinting : Printing where
  str _ := lit "0"
  string _ := some (lit "0")

def tabbedReply : EncodedText := ⟨lit "CON\tKaribu", Str.encodable_lit _⟩

def nullReply : EncodedText :=
  ⟨lit "\x7b\"action\": \"END\", \"message\": null\x7d", Str.encodable_lit _⟩

theorem tab_and_null_differ :
    simulatedReading samplePrinting 200 tabbedReply.text =
      { ok := true, action := some .CON, message := some (lit "\tKaribu") } ∧
    gatewayReading (sampleRuntime.withJson samplePrinting 1000) 20 200 tabbedReply.text =
      { ok := true, action := some .CON, message := some (lit "Karibu") } ∧
    simulatedReading samplePrinting 200 nullReply.text =
      { ok := true, action := some .END, message := some [] } ∧
    gatewayReading (sampleRuntime.withJson samplePrinting 1000) 20 200 nullReply.text =
      { ok := true, action := some .END, message := some (lit "None") } ∧
    simulatedReading samplePrinting 200 tabbedReply.text ≠
      gatewayReading (sampleRuntime.withJson samplePrinting 1000) 20 200 tabbedReply.text := by
  refine ⟨?_, ?_, ?_, ?_, ?_⟩ <;> decide +kernel

end UssdGateway
