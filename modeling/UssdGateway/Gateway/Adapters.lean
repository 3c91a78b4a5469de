import UssdGateway.Gateway.Operations

/-!
The four MNO adapters. Each turns an inbound request into a `UnifiedRequest`, reading and writing
the session cache on the way, and renders a reply in its operator's own shape.
-/

namespace UssdGateway

open EffectProgram

def star : CodePoint := CodePoint.ofChar '*'

def hash : CodePoint := CodePoint.ofChar '#'

def plus : CodePoint := CodePoint.ofChar '+'

def normaliseMsisdn (raw : Str) : Str := Str.strip (Str.lstripBy (· = plus) raw)

def canonicalShortcode (dialed : Str) : Str :=
  let core := Str.rstripBy (· = hash) (Str.lstripBy (· = star) (Str.strip dialed))
  if core = [] then []
  else
    let segments := (Str.split star core).filter fun segment => segment ≠ []
    if segments = [] then []
    else [star] ++ Str.join [star] (segments.take 2) ++ [hash]

def normaliseDialed (raw : Str) : Str :=
  let stripped := Str.strip raw
  if stripped = [] then []
  else
    let unquoted := Str.replace (lit "%23") [hash] stripped.length stripped
    let core := Str.rstripBy (· = hash) (Str.lstripBy (· = star) unquoted)
    if core = [] then [] else [star] ++ core ++ [hash]

def accumulateUssdString (prior newInput : Str) : Str :=
  let typed := Str.strip newInput
  if typed = [] then prior
  else if prior = [] then typed
  else prior ++ [star] ++ typed

structure ShortcodePrefixMatch where
  code : Str
  remainder : Str
deriving DecidableEq

def dialCandidates (segments : List Str) : List Str :=
  ((List.range segments.length).reverse.map fun shorter =>
    [star] ++ Str.join [star] (segments.take (shorter + 1)) ++ [hash])

def prefixMatch (core matched : Str) : ShortcodePrefixMatch :=
  let matchedCore := Str.rstripBy (· = hash) (Str.lstripBy (· = star) matched)
  { code := matched
    remainder := if core = matchedCore then [] else core.drop (matchedCore.length + 1) }

def lookupShortcodeByDialPrefix (operatorId : Nat) (canonicalDial : Str) :
    Program (Option ShortcodePrefixMatch) :=
  let core := Str.rstripBy (· = hash) (Str.lstripBy (· = star) canonicalDial)
  if core = [] then pure none
  else do
    let found ← Program.longestRegistered operatorId (dialCandidates (Str.split star core))
    pure (found.map (prefixMatch core))

def containsText (text part : Str) : Bool := text.tails.any fun tail => part.isPrefixOf tail

/-- Query string and body in one dictionary, the body winning. -/
def readQueryOrForm (runtime : PyRuntime) (request : Request) : Payload :=
  let fromQuery : Payload := request.queryParams.foldl
    (fun merged field => merged.set (runtime.lower field.1) (.text field.2)) []
  let ctype := runtime.lower (request.contentType.getD [])
  if containsText ctype (lit "application/json") then
    match request.body.json with
    | some members => members.foldl
        (fun (merged : Payload) member =>
          match member.2 with
          | some value => merged.set (runtime.lower member.1) (.text value)
          | none => merged) fromQuery
    | none => fromQuery
  else if containsText ctype (lit "application/x-www-form-urlencoded") ||
      containsText ctype (lit "multipart/form-data") then
    request.body.form.foldl
      (fun merged field => merged.set (runtime.lower field.1) (.text field.2)) fromQuery
  else fromQuery

def readXmlBody (request : Request) : Except PyError Element :=
  if request.body.isEmpty then .error (.httpException 400 (lit "empty XML body"))
  else
    match request.body.xml with
    | .ok root => .ok root
    | .error detail => .error (.httpException 400 (lit "malformed XML: " ++ detail))

def xtext (root : Element) (tag : Str) : Str :=
  match root.find tag with
  | some element => Str.strip (element.text.getD [])
  | none => []

def raiseOr {α : Type} : Except PyError α → Program α
  | .ok value => pure value
  | .error error => .raise error

def textOr (text : Str) (fallback : Option Str) : Option Str :=
  if text = [] then fallback else some text

/-- `Response(content=text)`: the text is encoded as UTF-8, strictly. -/
def encodedResponse (text mediaType : Str) : Except PyError Response :=
  if encodable : text.Encodable then .ok ⟨⟨text, encodable⟩, mediaType⟩
  else .error .unicodeEncodeError

def plainTextReply (reply : UnifiedReply) : Except PyError Response :=
  encodedResponse (reply.action.value ++ lit " " ++ reply.message) (lit "text/plain; charset=utf-8")

/-- One character of element text: markup is escaped, and what UTF-8 cannot encode becomes a
character reference. -/
def xmlCharacter (point : CodePoint) : Str :=
  if point = CodePoint.ofChar '&' then lit "&amp;"
  else if point = CodePoint.ofChar '<' then lit "&lt;"
  else if point = CodePoint.ofChar '>' then lit "&gt;"
  else if point.isSurrogate then lit "&#" ++ lit (toString point.val) ++ lit ";"
  else [point]

def xmlText (text : Str) : Str := text.flatMap xmlCharacter

theorem xmlText_encodable (text : Str) : (xmlText text).Encodable := by
  intro point member
  obtain ⟨source, _, inside⟩ := List.mem_flatMap.1 member
  simp only [xmlCharacter] at inside
  split at inside
  · exact Str.encodable_lit _ point inside
  · split at inside
    · exact Str.encodable_lit _ point inside
    · split at inside
      · exact Str.encodable_lit _ point inside
      · split at inside
        · simp only [List.append_assoc, List.mem_append] at inside
          rcases inside with opening | digits | closing
          · exact Str.encodable_lit _ point opening
          · exact Str.encodable_lit _ point digits
          · exact Str.encodable_lit _ point closing
        next plain =>
          rw [List.mem_singleton.1 inside]
          simpa using plain

def xmlLeaf (tag text : Str) : Str :=
  if text = [] then lit "<" ++ tag ++ lit " />"
  else lit "<" ++ tag ++ lit ">" ++ xmlText text ++ lit "</" ++ tag ++ lit ">"

def trurouteType : Action → Str
  | .CON => lit "2"
  | .END => lit "3"

def trurouteEnvelope (reply : UnifiedReply) : Str :=
  lit "<ussd>" ++ xmlLeaf (lit "type") (trurouteType reply.action) ++
    xmlLeaf (lit "msg") reply.message ++ lit "</ussd>"

theorem xmlLeaf_encodable (tag : String) (text : Str) : (xmlLeaf (lit tag) text).Encodable := by
  rw [xmlLeaf]
  split
  · simp
  · simp [xmlText_encodable]

theorem trurouteEnvelope_encodable (reply : UnifiedReply) :
    (trurouteEnvelope reply).Encodable := by
  simp [trurouteEnvelope, xmlLeaf_encodable]

def xmlReplyTruroute (reply : UnifiedReply) : Response where
  content := ⟨trurouteEnvelope reply, trurouteEnvelope_encodable reply⟩
  mediaType := lit "text/xml; charset=utf-8"

def soapAck (errorCode : String) : Response where
  content := ⟨lit (
    "<?xml version=\"1.0\" encoding=\"utf-8\"?>" ++
    "<soap:Envelope xmlns:soap=\"http://schemas.xmlsoap.org/soap/envelope/\">" ++
    "<soap:Body><ussdresponse><errorCode>" ++ errorCode ++ "</errorCode></ussdresponse>" ++
    "</soap:Body></soap:Envelope>"), Str.encodable_lit _⟩
  mediaType := lit "text/xml; charset=utf-8"

def soapAckOk : Response := soapAck "0"

def soapAckAuth : Response := soapAck "1"

end UssdGateway
