import UssdGateway.Gateway.Adapters

/-!
The `parse` of each adapter: wire decoding, then the session part, which opens, extends or reads
the cache row of the session the leg belongs to.
-/

namespace UssdGateway

open EffectProgram

/-- A START leg routes to the longest registered prefix of the dialed code, or else to the
fallback, and opens the session's cache row. -/
def openSession (sessionid : Str) (operatorId : Nat) (msisdn : Option Str)
    (fallback dialed : Str) : Program (Str × Str) := do
  let found ← lookupShortcodeByDialPrefix operatorId dialed
  let routed := match found with
    | some known => (known.code, known.remainder)
    | none => (fallback, [])
  Program.upsertActiveSession
    { sessionId := sessionid, operatorId, serviceCode := routed.1, shortcodeId := none
      msisdn, ussdString := routed.2 }
  pure routed

def extendSession (prior : ActiveSession) (sessionid : Str) (operatorId : Nat)
    (msisdn : Option Str) (serviceCode newInput : Str) : Program Str := do
  let ussdString := accumulateUssdString prior.ussdString newInput
  Program.upsertActiveSession
    { sessionId := sessionid, operatorId, serviceCode, shortcodeId := prior.shortcodeId
      msisdn, ussdString }
  pure ussdString

/-! Vodacom: TruRoute XML. -/

namespace Vodacom

structure Fields where
  msisdn : Str
  sessionid : Str
  trurouteType : Str
  msg : Str
  raw : Payload

def missingFields (fields : Fields) : List Str :=
  ([(lit "msisdn", fields.msisdn), (lit "sessionid", fields.sessionid),
    (lit "type", fields.trurouteType)].filter fun entry => entry.2 = []).map Prod.fst

def xmlFields (root : Element) : Fields :=
  let raw : Payload :=
    [lit "msisdn", lit "sessionid", lit "type", lit "msg"].map fun tag =>
      (tag, .text (xtext root tag))
  { msisdn := xtext root (lit "msisdn"), sessionid := xtext root (lit "sessionid")
    trurouteType := xtext root (lit "type"), msg := xtext root (lit "msg"), raw }

def formFields (raw : Payload) : Fields where
  msisdn := raw.getText (lit "msisdn")
  sessionid := raw.getText (lit "sessionid")
  trurouteType := raw.getText (lit "type")
  msg := raw.getText (lit "msg")
  raw := raw

def parseFields (runtime : PyRuntime) (request : Request) : Except PyError Fields := do
  let ctype := runtime.lower (request.contentType.getD [])
  let fields ←
    if containsText ctype (lit "xml") then do
      let root ← readXmlBody request
      if root.tag = lit "ussd" then pure (xmlFields root)
      else throw (.httpException 400
        (lit "expected <ussd> root, got <" ++ root.tag ++ lit ">"))
    else pure (formFields (readQueryOrForm runtime request))
  let missing := missingFields fields
  if missing = [] then pure fields
  else throw (.httpException 400
    (lit "missing required TruRoute field(s): " ++ Str.join (lit ", ") missing))

def eventOf (trurouteType : Str) : Option SessionEvent :=
  List.lookup trurouteType
    [(lit "1", .start), (lit "2", .input), (lit "3", .userCancelledSession),
      (lit "4", .providerSessionTermination), (lit "10", .providerSessionTermination)]

def providerIdleCutoffMicros : Int := 55000000

/-- A cancel on a session idle for the operator's own cut-off is that cut-off. -/
def terminalEvent (event : SessionEvent) (prior : Option ActiveSession) : SessionEvent :=
  match event, prior with
  | .userCancelledSession, some session =>
      if providerIdleCutoffMicros ≤ session.idleMicros then .providerSessionTermination
      else .userCancelledSession
  | event, _ => event

def sessionPart (fields : Fields) (event : SessionEvent) : Program UnifiedRequest := do
  let msisdn := normaliseMsisdn fields.msisdn
  let operatorId ← Program.operatorId Adapter.vodacom.operator
  let request (serviceCode ussdString : Str) (event : SessionEvent)
      (shortcodeId : Option Nat) : UnifiedRequest :=
    { operator := Adapter.vodacom.operator, msisdn := some msisdn, sessionId := fields.sessionid
      serviceCode, ussdString, event, rawPayload := fields.raw, shortcodeId }
  match event with
  | .start => do
      let dialed := normaliseDialed fields.msg
      let routed ← openSession fields.sessionid operatorId (some msisdn) dialed dialed
      pure (request routed.1 routed.2 .start none)
  | .input => do
      match ← Program.getActiveSession (fields.sessionid, operatorId) with
      | none => pure (request [] (Str.strip fields.msg) .input none)
      | some prior => do
          let ussdString ← extendSession prior fields.sessionid operatorId
            (textOr msisdn prior.msisdn) prior.serviceCode fields.msg
          pure (request prior.serviceCode ussdString .input none)
  | event => do
      let prior ← Program.getActiveSession (fields.sessionid, operatorId)
      pure (request ((prior.map ActiveSession.serviceCode).getD [])
        ((prior.map ActiveSession.ussdString).getD fields.msg) (terminalEvent event prior)
        (prior.bind ActiveSession.shortcodeId))

def parse (runtime : PyRuntime) (request : Request) : Program UnifiedRequest := do
  let fields ← raiseOr (parseFields runtime request)
  match eventOf fields.trurouteType with
  | none =>
      Program.httpError 400
        (lit "unknown TruRoute type=" ++ runtime.repr fields.trurouteType)
  | some event => sessionPart fields event

end Vodacom

/-! Tigo: query or form, one URL slug per partner. -/

namespace Tigo

/-- `d.get(first) or d.get(second)`, empty when both are. -/
def eitherField (fields : Payload) (first second : Str) : Str :=
  Str.orElse (fields.getText first) (fields.getText second)

def isNewRequest (fields : Payload) : Bool :=
  Str.strip (eitherField fields (lit "new_request") (lit "newrequest")) ∈
    [lit "1", lit "true", lit "yes", lit "y"]

def partnerSlugFromPath (runtime : PyRuntime) (request : Request) : Str :=
  Str.orElse (runtime.lower (Str.strip (request.partnerSlug.getD []))) (lit "tigo")

def dialedCode (fields : Payload) (isNew : Bool) : Str :=
  let shortCode := Str.strip (fields.getText (lit "short_code"))
  if shortCode ≠ [] then shortCode
  else if isNew then Str.strip (fields.getText (lit "ussd_string"))
  else []

def userInput (fields : Payload) (isNew : Bool) : Str :=
  if isNew then []
  else Str.strip (eitherField fields (lit "input") (lit "ussd_string"))

def sessionPart (fields : Payload) (msisdnRaw sessionid slug : Str) : Program UnifiedRequest := do
  let isNew := isNewRequest fields
  let msisdn := normaliseMsisdn msisdnRaw
  let operatorId ← Program.operatorId Adapter.tigo.operator
  let dialed := dialedCode fields isNew
  let typed := userInput fields isNew
  let raw := if dialed = [] then fields else fields.set (lit "dialed_code") (.text dialed)
  let request (serviceCode ussdString : Str) (event : SessionEvent) : UnifiedRequest :=
    { operator := Adapter.tigo.operator, msisdn := some msisdn, sessionId := sessionid
      serviceCode, ussdString, event, rawPayload := raw }
  if isNew then do
    let routed ← openSession sessionid operatorId (some msisdn) slug (normaliseDialed dialed)
    pure (request routed.1 routed.2 .start)
  else do
    match ← Program.getActiveSession (sessionid, operatorId) with
    | none => pure (request slug typed .input)
    | some prior => do
        let serviceCode := Str.orElse prior.serviceCode slug
        let ussdString ← extendSession prior sessionid operatorId
          (textOr msisdn prior.msisdn) serviceCode typed
        pure (request serviceCode ussdString .input)

def parse (runtime : PyRuntime) (request : Request) : Program UnifiedRequest := do
  let fields := readQueryOrForm runtime request
  let msisdnRaw := fields.getText (lit "msisdn")
  let sessionid := eitherField fields (lit "sessionid") (lit "session_id")
  if msisdnRaw = [] then Program.httpError 400 (lit "tigo: missing msisdn")
  else if sessionid = [] then
    Program.httpError 400 (lit "tigo: missing sessionid / Session_id")
  else sessionPart fields msisdnRaw sessionid (partnerSlugFromPath runtime request)

end Tigo

/-! Airtel: query or form, the cache deciding between START and INPUT. -/

namespace Airtel

def partnerSlugFromPath (runtime : PyRuntime) (request : Request) : Str :=
  Str.orElse (runtime.lower (Str.strip (request.partnerSlug.getD []))) (lit "airtel")

def sessionPart (fields : Payload) (msisdnRaw sessionid slug : Str) : Program UnifiedRequest := do
  let input := Str.strip (fields.getText (lit "input"))
  let msisdn := normaliseMsisdn msisdnRaw
  let operatorId ← Program.operatorId Adapter.airtel.operator
  let request (serviceCode ussdString : Str) (event : SessionEvent) (raw : Payload) :
      UnifiedRequest :=
    { operator := Adapter.airtel.operator, msisdn := some msisdn, sessionId := sessionid
      serviceCode, ussdString, event, rawPayload := raw }
  match ← Program.getActiveSession (sessionid, operatorId) with
  | none => do
      let dialed := normaliseDialed input
      let routed ← openSession sessionid operatorId (some msisdn) slug dialed
      pure (request routed.1 routed.2 .start (fields.set (lit "dialed_code") (.text dialed)))
  | some prior => do
      let serviceCode := Str.orElse prior.serviceCode slug
      let ussdString ← extendSession prior sessionid operatorId
        (textOr msisdn prior.msisdn) serviceCode input
      pure (request serviceCode ussdString .input fields)

def parse (runtime : PyRuntime) (request : Request) : Program UnifiedRequest := do
  let fields := readQueryOrForm runtime request
  let msisdnRaw := fields.getText (lit "msisdn")
  let sessionid := fields.getText (lit "sessionid")
  if msisdnRaw = [] then Program.httpError 400 (lit "airtel: missing msisdn")
  else if sessionid = [] then Program.httpError 400 (lit "airtel: missing sessionid")
  else sessionPart fields msisdnRaw sessionid (partnerSlugFromPath runtime request)

end Airtel

/-! Halotel: SOAP. -/

namespace Halotel

structure Fields where
  user : Str
  pass : Str
  msisdn : Str
  msg : Str
  sessionid : Str
  transactionid : Str
  requesttype : Str
  ussdgwId : Str
  imsi : Str

def soapTag (name : String) : Str :=
  lit "\x7bhttp://schemas.xmlsoap.org/soap/envelope/\x7d" ++ lit name

def tempuriTag (name : String) : Str := lit "\x7bhttp://tempuri.org/\x7d" ++ lit name

def insertMoText (insertMo : Element) (localName : String) : Str :=
  xtext insertMo (tempuriTag localName)

def soapFields (insertMo : Element) : Fields where
  user := insertMoText insertMo "user"
  pass := insertMoText insertMo "pass"
  msisdn := insertMoText insertMo "msisdn"
  msg := insertMoText insertMo "msg"
  sessionid := insertMoText insertMo "sessionid"
  transactionid := insertMoText insertMo "transactionid"
  requesttype := insertMoText insertMo "requestType"
  ussdgwId := insertMoText insertMo "ussdgw_id"
  imsi := insertMoText insertMo "imsi"

def parseSoap (body : RequestBody) : Except PyError Fields :=
  if body.isEmpty then .error (.httpException 400 (lit "halotel: empty SOAP body"))
  else
    match body.xml with
    | .error detail => .error (.httpException 400 (lit "halotel: malformed XML: " ++ detail))
    | .ok root =>
        match root.find (soapTag "Body") with
        | none => .error (.httpException 400 (lit "halotel: missing soap:Body"))
        | some bodyElement =>
            match bodyElement.find (tempuriTag "InsertMO") with
            | none => .error (.httpException 400 (lit "halotel: missing InsertMO"))
            | some insertMo => .ok (soapFields insertMo)

def rawPayload (fields : Fields) : Payload :=
  [(lit "user", .text fields.user), (lit "pass", .text fields.pass),
    (lit "msisdn", .text fields.msisdn), (lit "msg", .text fields.msg),
    (lit "sessionid", .text fields.sessionid), (lit "transactionid", .text fields.transactionid),
    (lit "requesttype", .text fields.requesttype), (lit "ussdgw_id", .text fields.ussdgwId),
    (lit "imsi", .text fields.imsi)]

def eventOf (requestType : Str) : Option SessionEvent :=
  List.lookup requestType
    [(lit "100", .start), (lit "101", .input), (lit "102", .userCancelledSession),
      (lit "103", .deliveryAck), (lit "104", .providerSessionTermination)]

def sessionPart (fields : Fields) (event : SessionEvent) : Program UnifiedRequest := do
  let operatorId ← Program.operatorId Adapter.halotel.operator
  let request (msisdn : Option Str) (serviceCode ussdString : Str)
      (shortcodeId : Option Nat) : UnifiedRequest :=
    { operator := Adapter.halotel.operator, msisdn, sessionId := fields.transactionid
      serviceCode, ussdString, event, rawPayload := rawPayload fields, shortcodeId }
  match event with
  | .start => do
      let dialed := normaliseDialed fields.msg
      let routed ← openSession fields.transactionid operatorId (some fields.msisdn) dialed dialed
      pure (request (some fields.msisdn) routed.1 routed.2 none)
  | .input => do
      match ← Program.getActiveSession (fields.transactionid, operatorId) with
      | none => pure (request (some fields.msisdn) [] (Str.strip fields.msg) none)
      | some prior => do
          let msisdn := textOr fields.msisdn prior.msisdn
          let ussdString ← extendSession prior fields.transactionid operatorId msisdn
            prior.serviceCode fields.msg
          pure (request msisdn prior.serviceCode ussdString prior.shortcodeId)
  | _ => do
      let prior ← Program.getActiveSession (fields.transactionid, operatorId)
      let msisdn := match prior with
        | some session => textOr fields.msisdn session.msisdn
        | none => some fields.msisdn
      pure (request msisdn ((prior.map ActiveSession.serviceCode).getD [])
        ((prior.map ActiveSession.ussdString).getD []) (prior.bind ActiveSession.shortcodeId))

def parse (runtime : PyRuntime) (request : Request) : Program UnifiedRequest := do
  let fields ← raiseOr (parseSoap request.body)
  match eventOf fields.requesttype with
  | none =>
      Program.httpError 400
        (lit "halotel: unknown requestType=" ++ runtime.repr fields.requesttype)
  | some event =>
      if fields.transactionid = [] then
        Program.httpError 400 (lit "halotel: missing transactionid")
      else sessionPart fields event

end Halotel

namespace Adapter

def parse (runtime : PyRuntime) (request : Request) : Adapter → Program UnifiedRequest
  | vodacom => Vodacom.parse runtime request
  | airtel => Airtel.parse runtime request
  | tigo => Tigo.parse runtime request
  | halotel => Halotel.parse runtime request

def render (adapter : Adapter) (reply : UnifiedReply) : Except PyError Response :=
  match adapter with
  | vodacom => .ok (xmlReplyTruroute reply)
  | airtel => plainTextReply reply
  | tigo => plainTextReply reply
  | halotel => .ok soapAckOk

/-- Only Halotel has `render_auth_failed`. -/
def renderAuthFailed : Adapter → Option Response
  | halotel => some soapAckAuth
  | _ => none

end Adapter

end UssdGateway
