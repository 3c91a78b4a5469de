import UssdGateway.Gateway.LegLog
import UssdGateway.Library.Trimming

/-!
A handler's reply that is rendered for the screen and parsed again.
-/

namespace UssdGateway

open Trimming

def jsonReplyPair (members : List (Str × JsonValue)) : Option UnifiedReply × Option Str :=
  let act := (List.lookup (lit "action") members).bind coerceAction
  let msg := List.lookup (lit "message") members
  match act with
  | none => (none, some (lit "bad_action"))
  | some action => (some ⟨action, (msg.map JsonValue.shown).getD []⟩, none)

def textReplyPair (stripped : Str) : List Str → Option UnifiedReply × Option Str
  | [] => (none, some (lit "bad_action"))
  | start :: others =>
      if Str.startsWith (Str.upper stripped) start then
        let msg := Str.lstrip (stripped.drop start.length)
        ((coerceAction (.text start)).map fun action => ⟨action, Str.rstrip msg⟩, none)
      else textReplyPair stripped others

def parseHandlerReplyPair (runtime : PyRuntime) (bodyText : Str) :
    Option UnifiedReply × Option Str :=
  let stripped := Str.strip bodyText
  match stripped with
  | [] => (none, some (lit "empty_body"))
  | first :: _ =>
      if first ∈ lit "\x7b[" then
        match runtime.loads stripped with
        | none => (none, some (lit "badjson"))
        | some .other => (none, some (lit "badjson_shape"))
        | some (.object members) => jsonReplyPair members
      else textReplyPair stripped [lit "CON", lit "END"]

def exceptPair : Except Str UnifiedReply → Option UnifiedReply × Option Str
  | .ok reply => (some reply, none)
  | .error kind => (none, some kind)

def ExactlyOne (pair : Option UnifiedReply × Option Str) : Prop :=
  (pair.1.isSome = true ∧ pair.2 = none) ∨ (pair.1 = none ∧ pair.2.isSome = true)

theorem exactlyOne_exceptPair (result : Except Str UnifiedReply) :
    ExactlyOne (exceptPair result) := by
  cases result with
  | ok reply => exact Or.inl ⟨rfl, rfl⟩
  | error kind => exact Or.inr ⟨rfl, rfl⟩

theorem jsonReplyPair_eq (members : List (Str × JsonValue)) :
    jsonReplyPair members = exceptPair (parseJsonReply members) := by
  simp only [jsonReplyPair, parseJsonReply]
  rcases (List.lookup (lit "action") members).bind coerceAction with _ | action <;> rfl

theorem coerceAction_con : coerceAction (.text (lit "CON")) = some .CON := by decide

theorem coerceAction_end : coerceAction (.text (lit "END")) = some .END := by decide

theorem textReplyPair_eq (stripped : Str) :
    textReplyPair stripped [lit "CON", lit "END"] = exceptPair (parseTextReply stripped) := by
  simp only [textReplyPair, parseTextReply, coerceAction_con, coerceAction_end, Option.map_some]
  split
  · rfl
  · split
    · rfl
    · rfl

theorem parseHandlerReplyPair_eq (runtime : PyRuntime) (bodyText : Str) :
    parseHandlerReplyPair runtime bodyText = exceptPair (parseHandlerReply runtime bodyText) := by
  simp only [parseHandlerReplyPair, parseHandlerReply]
  rcases Str.strip bodyText with _ | ⟨first, rest⟩
  · rfl
  · dsimp only
    split
    · rcases runtime.loads (first :: rest) with _ | document
      · rfl
      · cases document with
        | object members => exact jsonReplyPair_eq members
        | other => rfl
    · exact textReplyPair_eq _

theorem parseHandlerReplyPair_exactlyOne (runtime : PyRuntime) (bodyText : Str) :
    ExactlyOne (parseHandlerReplyPair runtime bodyText) := by
  rw [parseHandlerReplyPair_eq]
  exact exactlyOne_exceptPair _

/-! The rendered text read again. -/

theorem strip_blank_cons (message : Str) :
    Str.strip (lit " " ++ message) = Str.strip message := by
  have blank : CodePoint.isSpace (CodePoint.ofChar ' ') = true := by decide
  have dropped : Str.lstrip (lit " " ++ message) = Str.lstrip message :=
    List.dropWhile_cons_of_pos blank
  rw [Str.strip, Str.strip, dropped]

theorem strip_token (action : Action) (message : Str) :
    Str.strip (action.value ++ lit " " ++ message) =
      action.value ++ Str.rstrip (lit " " ++ message) := by
  cases action with
  | CON =>
      have kept : CodePoint.isSpace (CodePoint.ofChar 'N') = false := by decide
      exact @rdropWhile_append_kept _ _ (lit "CO") _ kept (lit " " ++ message)
  | END =>
      have kept : CodePoint.isSpace (CodePoint.ofChar 'D') = false := by decide
      exact @rdropWhile_append_kept _ _ (lit "EN") _ kept (lit " " ++ message)

theorem strip_rstrip (text : Str) : Str.rstrip (Str.lstrip (Str.rstrip text)) = Str.strip text :=
  strip_rdropWhile text

theorem parseTextReply_token (action : Action) (rest : Str) :
    parseTextReply (action.value ++ rest) =
      .ok ⟨action, Str.rstrip (Str.lstrip rest)⟩ := by
  cases action with
  | CON => rfl
  | END => rfl

theorem parseHandlerReply_render (runtime : PyRuntime) (reply : UnifiedReply) :
    parseHandlerReply runtime (reply.action.value ++ lit " " ++ reply.message) =
      .ok ⟨reply.action, Str.strip reply.message⟩ := by
  have stripped := strip_token reply.action reply.message
  have text := parseTextReply_token reply.action (Str.rstrip (lit " " ++ reply.message))
  rw [strip_rstrip, strip_blank_cons] at text
  rw [parseHandlerReply, stripped]
  cases action : reply.action with
  | CON =>
      rw [action] at text
      exact text
  | END =>
      rw [action] at text
      exact text

theorem reply_reads_back (runtime : PyRuntime) (bodyText : Str) :
    ExactlyOne (parseHandlerReplyPair runtime bodyText) ∧
      ∀ reply response, (parseHandlerReplyPair runtime bodyText).1 = some reply →
        plainTextReply reply = .ok response →
        parseHandlerReplyPair runtime response.content.text =
          (some ⟨reply.action, Str.strip reply.message⟩, none) := by
  refine ⟨parseHandlerReplyPair_exactlyOne runtime bodyText, ?_⟩
  intro reply response _ rendered
  have body : response.content.text = reply.action.value ++ lit " " ++ reply.message := by
    rw [plainTextReply, encodedResponse] at rendered
    split at rendered
    · rw [← Except.ok.inj rendered]
    · exact absurd rendered (by simp)
  rw [body, parseHandlerReplyPair_eq, parseHandlerReply_render]
  rfl

/-- A message that looks like JSON, sent without a blank after the token. -/
theorem braced_message_reads_back :
    ∃ response, plainTextReply ⟨.CON, lit "\x7b1\x7d"⟩ = .ok response ∧
      parseHandlerReplyPair sampleRuntime response.content.text =
        (some ⟨.CON, Str.strip (lit "\x7b1\x7d")⟩, none) := by
  have parsed : parseHandlerReplyPair sampleRuntime (lit "con\x7b1\x7d\n") =
      (some ⟨.CON, lit "\x7b1\x7d"⟩, none) := by decide
  obtain ⟨response, rendered⟩ := plainTextReply_eq_ok ⟨.CON, lit "\x7b1\x7d"⟩
    (Str.encodable_lit _)
  have readBack := (reply_reads_back sampleRuntime (lit "con\x7b1\x7d\n")).2 _ response
    (congrArg Prod.fst parsed) rendered
  exact ⟨response, rendered, readBack⟩

end UssdGateway
