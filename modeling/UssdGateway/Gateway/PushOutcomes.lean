import UssdGateway.Gateway.LegLog

/-!
What the row of an asynchronous leg says of its two exchanges, the handler's and the push's.
-/

namespace UssdGateway

open EffectProgram

namespace Halotel

def ackSearches (root : Element) : List (List Element) :=
  let anyBodies := root.descendants.filter fun element => element.tag = soapTag "Body"
  let under (elements : List Element) :=
    childrenTagged (lit "errorCode") (childrenTagged (lit "ussdresponse") elements)
  [under (childrenTagged (soapTag "Body") [root]), under anyBodies,
    root.descendants.filter fun element => element.tag = lit "errorCode"]

def firstErrorCode (root : Element) : Option Element :=
  (ackSearches root).findSome? fun found =>
    found.head?.filter fun element => element.text.isSome

def HasErrorCode (runtime : PyRuntime) (bodyText code : Str) : Prop :=
  bodyText ≠ [] ∧ ∃ root element text, runtime.fromstring bodyText = .ok root ∧
    firstErrorCode root = some element ∧ element.text = some text ∧ Str.strip text = code

theorem firstText_eq_some_iff {found : List Element} {code : Str} :
    firstText found = some code ↔
      ∃ element text, found.head?.filter (fun element => element.text.isSome) = some element ∧
        element.text = some text ∧ Str.strip text = code := by
  rcases found with _ | ⟨element, _⟩
  · simp [firstText]
  · rcases shown : element.text with _ | text
    · simp [firstText, shown]
    · simp [firstText, shown, Option.filter]

theorem firstText_eq_none_iff {found : List Element} :
    firstText found = none ↔
      found.head?.filter (fun element => element.text.isSome) = none := by
  rcases found with _ | ⟨element, _⟩
  · simp [firstText]
  · rcases shown : element.text with _ | text
    · simp [firstText, shown]
    · simp [firstText, shown, Option.filter]

theorem findSome_firstText (searches : List (List Element)) (code : Str) :
    searches.findSome? firstText = some code ↔
      ∃ element text, (searches.findSome? fun found =>
          found.head?.filter fun element => element.text.isSome) = some element ∧
        element.text = some text ∧ Str.strip text = code := by
  induction searches with
  | nil => simp
  | cons found rest ih =>
      rcases first : firstText found with _ | text
      · rw [List.findSome?_cons, List.findSome?_cons, first, firstText_eq_none_iff.1 first]
        exact ih
      · obtain ⟨element, shown, head, holds, stripped⟩ := firstText_eq_some_iff.1 first
        rw [List.findSome?_cons, List.findSome?_cons, first, head]
        simp only [Option.some.injEq, exists_and_left, exists_eq_left', holds]
        rw [← stripped]

theorem orElse_firstText (first second third : List Element) :
    ((firstText first).orElse fun _ => (firstText second).orElse fun _ => firstText third) =
      [first, second, third].findSome? firstText := by
  simp only [List.findSome?_cons, List.findSome?_nil]
  rcases firstText first with _ | code
  · rcases firstText second with _ | code
    · rcases firstText third with _ | code <;> rfl
    · rfl
  · rfl

theorem parseOutboundAck_parsed {runtime : PyRuntime} {bodyText : Str} {root : Element}
    (nonempty : bodyText ≠ []) (parsed : runtime.fromstring bodyText = .ok root) (code : Str) :
    parseOutboundAck runtime bodyText = (some code, none) ↔
      (ackSearches root).findSome? firstText = some code := by
  simp only [parseOutboundAck, if_neg nonempty, parsed, orElse_firstText]
  rw [ackSearches]
  split
  next read found => simp [found]
  next found => simp [found]

theorem parseOutboundAck_iff (runtime : PyRuntime) (bodyText code : Str) :
    parseOutboundAck runtime bodyText = (some code, none) ↔
      HasErrorCode runtime bodyText code := by
  rw [HasErrorCode]
  by_cases empty : bodyText = []
  · simp [parseOutboundAck, empty]
  rcases parsed : runtime.fromstring bodyText with detail | root
  · simp [parseOutboundAck, empty, parsed]
  · rw [parseOutboundAck_parsed empty parsed, findSome_firstText]
    constructor
    · rintro ⟨element, text, found, shown, stripped⟩
      exact ⟨empty, root, element, text, rfl, found, shown, stripped⟩
    · rintro ⟨_, other, element, text, same, found, shown, stripped⟩
      obtain rfl := Except.ok.inj same
      exact ⟨element, text, found, shown, stripped⟩

end Halotel

/-- Halotel took a reply: the push is configured, and was answered below 400 with the error
code 0. -/
def PushConfirmed (runtime : PyRuntime) (settings : Settings) (environment : Environment)
    (ur : UnifiedRequest) (reply : UnifiedReply) : Prop :=
  settings.halotel.outboundUrl ≠ [] ∧
    ∃ exchange status bodyText,
      environment.push (Halotel.outboundCall settings.halotel ur reply) = .ok exchange ∧
      exchange.result = .response status bodyText ∧ status < 400 ∧
      Halotel.HasErrorCode runtime bodyText (lit "0")

/-- The row the leg hands to the log writer, once its handler was called. -/
structure AsyncRow (runtime : PyRuntime) (settings : Settings) (environment : Environment)
    (ur : UnifiedRequest) (outcome : HandlerOutcome) (row : LogRow) : Prop where
  clean : row.errorClass = none ↔ outcome.reply.isSome = true ∧
    PushConfirmed runtime settings environment ur (replyOf outcome)
  handlerFirst : ∀ kind, outcome.errorClass = some kind → row.errorClass = some kind

section

variable {runtime : PyRuntime} {settings : Settings} {environment : Environment}
  {ur : UnifiedRequest}

theorem pushAccepted_iff {reply : UnifiedReply} :
    PushAccepted runtime settings environment ur reply ↔
      PushConfirmed runtime settings environment ur reply := by
  simp only [PushAccepted, PushConfirmed, Halotel.parseOutboundAck_iff]

theorem optionalOr_of_some {kind : Str} (nonempty : kind ≠ []) (second : Option Str) :
    optionalOr (some kind) second = some kind := if_neg nonempty

theorem pushedRow_asyncRow (shortcode : ShortcodeRow) (exchange : HttpExchange) :
    AsyncRow runtime settings environment ur (handlerOutcome runtime exchange)
      (pushedRow ur shortcode (handlerOutcome runtime exchange)
        (replyOf (handlerOutcome runtime exchange))
        (pushLogged runtime settings environment ur
          (replyOf (handlerOutcome runtime exchange)))) where
  clean := by
    have named := handlerOutcome_errorClass_ne_nil runtime exchange
    rw [Option.isSome_iff_exists, ← handlerOutcome_errorClass_eq_none_iff, ← pushAccepted_iff,
      ← pushLogged_error_eq_none_iff]
    exact optionalOr_eq_none_iff _ named
  handlerFirst := by
    intro kind failed
    have nonempty : kind ≠ [] := by
      rintro rfl
      exact handlerOutcome_errorClass_ne_nil runtime exchange failed
    simp only [pushedRow, failed]
    exact optionalOr_of_some nonempty _

end

theorem async_leg_row (runtime : PyRuntime) (settings : Settings) (environment : Environment)
    (ur : UnifiedRequest) (shortcode : ShortcodeRow) (world : World) (exchange : HttpExchange)
    (answered : environment.answer (handlerCall settings shortcode ur) = .ok exchange) :
    ∃ row after,
      (asyncForwardThenPush runtime settings .halotel ur shortcode).run (perform environment)
        world = (.ok (), after) ∧
      after.logQueue = world.logQueue.putNowait row ∧
      AsyncRow runtime settings environment ur (handlerOutcome runtime exchange) row := by
  have told := @pushedRow_asyncRow runtime settings environment ur shortcode exchange
  rw [run_asyncForwardThenPush answered]
  exact ⟨_, _, rfl, rfl, told.clean, told.handlerFirst⟩

def ackText : Str := lit "<ussdresponse><errorCode> 0 </errorCode></ussdresponse>"

def ackTree : Element :=
  .node (lit "ussdresponse") none [.node (lit "errorCode") (some (lit " 0 ")) []]

def ackRuntime : PyRuntime :=
  { sampleRuntime with
    fromstring := fun text =>
      if text = ackText then .ok ackTree
      else .error (lit "no element found: line 1, column 0") }

def ackSettings : Settings :=
  { sampleSettings with
    halotel := { sampleSettings.halotel with outboundUrl := lit "https://halotel.example/push" } }

def ackEnvironment : Environment :=
  { sampleEnvironment (lit "CON Karibu") with
    push := fun _ => .ok { elapsedMs := 30, result := .response 200 ackText } }

def pushedLeg : UnifiedRequest where
  operator := lit "halotel"
  msisdn := some (lit "255620000001")
  sessionId := lit "T1"
  serviceCode := lit "*149*01#"
  ussdString := []
  event := .start
  rawPayload := []

theorem taken_push_logged_clean :
    ∃ row, (∃ after,
        (asyncForwardThenPush ackRuntime ackSettings .halotel pushedLeg
          ((sampleShortcode 10 4 "*149*01#").row (lit "halotel"))).run (perform ackEnvironment)
          sampleWorld = (.ok (), after) ∧
        after.logQueue = sampleWorld.logQueue.putNowait row) ∧
      row.errorClass = none := by
  obtain ⟨row, after, ran, queued, told⟩ := async_leg_row ackRuntime ackSettings ackEnvironment
    pushedLeg ((sampleShortcode 10 4 "*149*01#").row (lit "halotel")) sampleWorld _ rfl
  have parsed : ackRuntime.fromstring ackText = .ok ackTree := by
    simp [ackRuntime]
  have zero : Halotel.HasErrorCode ackRuntime ackText (lit "0") :=
    ⟨by decide, ackTree, .node (lit "errorCode") (some (lit " 0 ")) [], lit " 0 ", parsed, rfl, rfl,
      by decide⟩
  exact ⟨row, ⟨after, ran, queued⟩,
    told.clean.2 ⟨by decide, by decide, _, _, _, rfl, rfl, by decide, zero⟩⟩

end UssdGateway
