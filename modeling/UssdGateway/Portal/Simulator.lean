import UssdGateway.Gateway.Forwarder
import UssdGateway.Gateway.JsonText
import UssdGateway.Library.JsText

/-!
The portal's handler simulator: what a simulated leg sends to the handler and what it shows of the
answer. The two languages' readings of JSON stand side by side, `JSON.parse` here and `json.loads`
for the gateway.
-/

namespace UssdGateway

open JsonText

/-- How the two languages turn numbers, arrays and objects into text. `String` may throw. -/
structure Printing where
  str : Json → Str
  string : Json → Option Str

namespace Printing

variable (printing : Printing)

/-- `str(value)`. -/
def pyShown : Json → Str
  | .text value => value
  | .null => lit "None"
  | .bool true => lit "True"
  | .bool false => lit "False"
  | value => printing.str value

/-- `String(value ?? "")`. -/
def jsShown : Json → Option Str
  | .text value => some value
  | .null => some []
  | .bool true => some (lit "true")
  | .bool false => some (lit "false")
  | value => printing.string value

end Printing

def memberOf (members : List (Str × Json)) (name : String) : Option Json :=
  List.lookup (lit name) members.reverse

/-! Python. -/

def maxStrDigits : Nat := 4300

def leafLoads : Json → Bool
  | .number literal =>
      decide ((0x2E : CodePoint) ∈ literal ∨ (0x45 : CodePoint) ∈ literal ∨
        (0x65 : CodePoint) ∈ literal ∨ (literal.filter isDigit).length ≤ maxStrDigits)
  | _ => true

/-- `json.loads`, with the interpreter's limit on depth. -/
def loadsJson (maxDepth : Nat) (text : Str) : Option Json :=
  match readJson text with
  | none => none
  | some value =>
      if value.depth ≤ maxDepth ∧ value.leaves.all leafLoads = true then some value else none

def decodedValue (printing : Printing) : Json → JsonValue
  | .text value => .text value
  | value => .other (printing.pyShown value)

def decodedDocument (printing : Printing) : Json → JsonDocument
  | .object members =>
      .object (members.reverse.map fun member => (member.1, decodedValue printing member.2))
  | _ => .other

def PyRuntime.withJson (runtime : PyRuntime) (printing : Printing) (maxDepth : Nat) : PyRuntime :=
  { runtime with loads := fun text => (loadsJson maxDepth text).map (decodedDocument printing) }

/-! JavaScript. -/

def CodePoint.isJsSpace (point : CodePoint) : Bool := JsText.isSpaceCode point.val

def Str.jsTrim (text : Str) : Str :=
  Str.rstripBy CodePoint.isJsSpace (Str.lstripBy CodePoint.isJsSpace text)

/-- What `text.slice(0, units)` keeps and what it cuts off. A code point past U+FFFF is two units,
and may be cut in half. -/
def cutUnits : Nat → Str → Str × Str
  | _, [] => ([], [])
  | 0, text => ([], text)
  | units + 1, point :: rest =>
      if point.val < 0x10000 then
        let cut := cutUnits units rest
        (point :: cut.1, cut.2)
      else
        match units with
        | 0 =>
            ([0xD800 + (point - 0x10000) / 0x400], (0xDC00 + (point - 0x10000) % 0x400) :: rest)
        | units + 1 =>
            let cut := cutUnits units rest
            (point :: cut.1, cut.2)

theorem isSurrogate_cut {point : CodePoint} (astral : ¬ point.val < 0x10000) :
    CodePoint.isSurrogate (0xD800 + (point - 0x10000) / 0x400) = true ∧
      CodePoint.isSurrogate (0xDC00 + (point - 0x10000) % 0x400) = true := by
  have bound := point.isLt
  have base : (0x10000 : CodePoint) ≤ point := by
    rw [Fin.le_def]
    exact Nat.le_of_not_lt astral
  have offset : (point - 0x10000).val = point.val - 0x10000 := Fin.sub_val_of_le base
  have high : (0xD800 + (point - 0x10000) / 0x400 : CodePoint).val =
      (0xD800 + (point.val - 0x10000) / 0x400) % 0x110000 := by
    rw [Fin.val_add, Fin.div_val, offset]
    rfl
  have low : (0xDC00 + (point - 0x10000) % 0x400 : CodePoint).val =
      (0xDC00 + (point.val - 0x10000) % 0x400) % 0x110000 := by
    rw [Fin.val_add, Fin.mod_val, offset]
    rfl
  simp only [CodePoint.isSurrogate, high, low, Bool.and_eq_true, decide_eq_true_eq]
  omega

def leafParses : Json → Bool
  | .constant _ => false
  | _ => true

def parseJson (text : Str) : Option Json :=
  match readJson text with
  | none => none
  | some value => if value.leaves.all leafParses = true then some value else none

namespace Simulator

/-! The request. -/

inductive SimEvent where
  | start
  | input

def SimEvent.value : SimEvent → Str
  | start => lit "start"
  | input => lit "input"

structure SimLegInput where
  msisdn : Str
  sessionId : Str
  event : SimEvent
  ussdString : Str

def sendInput (ussdTrail input : Str) : Str :=
  if ussdTrail = [] then input else ussdTrail ++ star :: input

def maxSessionIdUnits : Nat := 128

def maxTrailUnits : Nat := 512

def actionInput (raw : SimLegInput) : SimLegInput where
  msisdn := Str.jsTrim raw.msisdn
  sessionId := (cutUnits maxSessionIdUnits (Str.jsTrim raw.sessionId)).1
  event := raw.event
  ussdString := (cutUnits maxTrailUnits raw.ussdString).1

def requestBody (shortcode : ShortcodeRow) (input : SimLegInput) : List (Str × Json) :=
  match shortcode.payloadFormat with
  | .legacy =>
      [(lit "sessionId", .text input.sessionId),
        (lit "msisdn", .text input.msisdn),
        (lit "networkProvider", .text (Str.upper shortcode.operatorName)),
        (lit "serviceCode", .text shortcode.code),
        (lit "UssdString", .text input.ussdString)]
  | .gateway =>
      [(lit "operator", .text shortcode.operatorName),
        (lit "msisdn", .text input.msisdn),
        (lit "session_id", .text input.sessionId),
        (lit "service_code", .text shortcode.code),
        (lit "ussd_string", .text input.ussdString),
        (lit "event", .text input.event.value),
        (lit "raw_payload", .object [(lit "simulated", .bool true),
          (lit "source", .text (lit "portal-simulator"))])]

/-! The reply. -/

def coerceAction : Json → Option Action
  | .text raw =>
      let n := Str.upper (Str.jsTrim raw)
      if n = lit "CON" then some .CON
      else if n = lit "END" then some .END
      else none
  | _ => none

/-- The JSON path, which falls through where there is no action or `String` throws. -/
def parseObject (printing : Printing) (trimmed : Str) : Option UnifiedReply :=
  match parseJson trimmed with
  | some (.object members) =>
      ((memberOf members "action").bind coerceAction).bind fun action =>
        (((memberOf members "message").map printing.jsShown).getD (some [])).map fun message =>
          { action, message }
  | _ => none

def startsMessage (point : CodePoint) : Bool :=
  decide (point.val = 0x20) || decide (point.val = 0x0A) || decide (point.val = 0x0D)

def plainMessage (rest : Str) : Str :=
  Str.rstripBy CodePoint.isJsSpace
    (match rest with
    | [] => []
    | point :: _ =>
        if startsMessage point then Str.lstripBy CodePoint.isJsSpace rest else rest)

def parseText (trimmed : Str) : Option UnifiedReply :=
  let upper := Str.upper trimmed
  if Str.startsWith upper (lit "CON") then
    some { action := .CON, message := plainMessage (trimmed.drop 3) }
  else if Str.startsWith upper (lit "END") then
    some { action := .END, message := plainMessage (trimmed.drop 3) }
  else none

def parseHandlerReply (printing : Printing) (bodyText : Str) : Option UnifiedReply :=
  let trimmed := Str.jsTrim bodyText
  if trimmed = [] then none
  else if Str.startsWith trimmed (lit "\x7b") then
    (parseObject printing trimmed).orElse fun _ => parseText trimmed
  else parseText trimmed

inductive Verdict where
  | con
  | conEnd
  | badAction
  | non2xx
deriving DecidableEq

structure SimLegResult where
  ok : Bool
  action : Option Action
  message : Option Str
  verdict : Verdict
  detail : Option Str
  httpStatus : Nat
  rawReply : Str
deriving DecidableEq

def maxReplyUnits : Nat := 4000

def runSimulatedLeg (printing : Printing) (status : Nat) (text : Str) : SimLegResult :=
  let rawReply := (cutUnits maxReplyUnits text).1
  if 400 ≤ status then
    { ok := false, action := none, message := none, verdict := .non2xx
      detail := some (lit "Handler returned HTTP " ++ lit (toString status))
      httpStatus := status, rawReply }
  else
    match parseHandlerReply printing rawReply with
    | none =>
        { ok := false, action := none, message := none, verdict := .badAction
          detail := some (lit "Reply was not valid CON/END JSON or plain text.")
          httpStatus := status, rawReply }
    | some parsed =>
        { ok := true, action := some parsed.action, message := some parsed.message
          verdict := match parsed.action with
            | .CON => .con
            | .END => .conEnd
          detail := none, httpStatus := status, rawReply }

end Simulator

end UssdGateway
