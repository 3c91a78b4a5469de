import UssdGateway.Gateway.World

/-!
What `parse` does in a run: it touches nothing but the session cache, and that in one of four ways.
-/

namespace UssdGateway

open EffectProgram

def Registry.dialMatch (registry : Registry) (operatorId : Nat) (canonicalDial : Str) :
    Option ShortcodePrefixMatch :=
  let core := Str.rstripBy (· = hash) (Str.lstripBy (· = star) canonicalDial)
  if core = [] then none
  else (registry.longestRegistered operatorId (dialCandidates (Str.split star core))).map
    (prefixMatch core)

def Registry.startRoute (registry : Registry) (operatorId : Nat) (fallback dialed : Str) :
    Str × Str :=
  match registry.dialMatch operatorId dialed with
  | some known => (known.code, known.remainder)
  | none => (fallback, [])

def openedValues (sessionId : Str) (operatorId : Nat) (msisdn : Option Str)
    (route : Str × Str) : SessionUpsert where
  sessionId := sessionId
  operatorId := operatorId
  serviceCode := route.1
  shortcodeId := none
  msisdn := msisdn
  ussdString := route.2

def extendedValues (prior : ActiveSession) (sessionId : Str) (operatorId : Nat)
    (msisdn : Option Str) (serviceCode newInput : Str) : SessionUpsert where
  sessionId := sessionId
  operatorId := operatorId
  serviceCode := serviceCode
  shortcodeId := prior.shortcodeId
  msisdn := msisdn
  ussdString := accumulateUssdString prior.ussdString newInput

section

variable (environment : Environment) (world : World)

@[simp] theorem run_lookupShortcodeByDialPrefix (operatorId : Nat) (canonicalDial : Str) :
    (lookupShortcodeByDialPrefix operatorId canonicalDial).run (perform environment) world =
      (.ok (world.registry.dialMatch operatorId canonicalDial), world) := by
  simp only [lookupShortcodeByDialPrefix, Registry.dialMatch]
  split
  · rfl
  · simp [Prog.run_bind]

@[simp] theorem run_openSession (sessionid : Str) (operatorId : Nat) (msisdn : Option Str)
    (fallback dialed : Str) :
    (openSession sessionid operatorId msisdn fallback dialed).run (perform environment) world =
      (.ok (world.registry.startRoute operatorId fallback dialed),
        world.upserted (openedValues sessionid operatorId msisdn
          (world.registry.startRoute operatorId fallback dialed))) := by
  simp only [openSession, Prog.run_bind, run_lookupShortcodeByDialPrefix,
    run_upsertActiveSession, Registry.startRoute, openedValues]
  rcases world.registry.dialMatch operatorId dialed with _ | known <;> rfl

@[simp] theorem run_extendSession (prior : ActiveSession) (sessionid : Str) (operatorId : Nat)
    (msisdn : Option Str) (serviceCode newInput : Str) :
    (extendSession prior sessionid operatorId msisdn serviceCode newInput).run
        (perform environment) world =
      (.ok (accumulateUssdString prior.ussdString newInput),
        world.upserted
          (extendedValues prior sessionid operatorId msisdn serviceCode newInput)) := by
  simp [extendSession, Prog.run_bind, extendedValues]

end

def Adapter.lostCode (runtime : PyRuntime) (request : Request) : Adapter → Str
  | tigo => Tigo.partnerSlugFromPath runtime request
  | _ => []

def legKey (world : World) (adapter : Adapter) (ur : UnifiedRequest) : SessionKey :=
  (ur.sessionId, world.registry.operatorId adapter.operator)

/-- The four ways a parsed leg meets the session cache. -/
inductive ParseCase (adapter : Adapter) (lostCode : Str) (before : World) (ur : UnifiedRequest)
    (sessions : SessionTable) : Prop where
  | opened (values : SessionUpsert) (event : ur.event = .start)
      (keyed : values.key = legKey before adapter ur) (trail : values.ussdString = ur.ussdString)
      (fresh : adapter = .airtel → before.sessions.find (legKey before adapter ur) = none)
      (written : sessions = SessionTable.upsertActiveSession before.sessions before.now values)
  | extended (prior : ActiveSessionRow) (values : SessionUpsert) (event : ur.event = .input)
      (cached : before.sessions.find (legKey before adapter ur) = some prior)
      (keyed : values.key = legKey before adapter ur) (trail : values.ussdString = ur.ussdString)
      (written : sessions = SessionTable.upsertActiveSession before.sessions before.now values)
  | lost (event : ur.event = .input)
      (absent : before.sessions.find (legKey before adapter ur) = none)
      (notAirtel : adapter ≠ .airtel) (code : ur.serviceCode = lostCode)
      (unchanged : sessions = before.sessions)
  | observed (event : ur.event.isTerminal = true ∨ ur.event = .deliveryAck)
      (unchanged : sessions = before.sessions)

structure ParsedLeg (adapter : Adapter) (lostCode : Str) (before : World) (ur : UnifiedRequest)
    (parsed : World) : Prop where
  operator : ur.operator = adapter.operator
  authenticated : isAuthFailed adapter ur = false
  frame : parsed = { before with sessions := parsed.sessions }
  cases : ParseCase adapter lostCode before ur parsed.sessions

section

variable {environment : Environment} {before parsed : World} {ur : UnifiedRequest}

theorem getActiveSession_eq_some {table : SessionTable} {now : Nat} {key : SessionKey}
    {session : ActiveSession} (found : SessionTable.getActiveSession table now key = some session) :
    ∃ row, table.find key = some row ∧ session.ussdString = row.ussdString ∧
      session.serviceCode = row.serviceCode := by
  obtain ⟨row, cached, rfl⟩ := Option.map_eq_some_iff.1 found
  exact ⟨row, cached, rfl, rfl⟩

theorem isAuthFailed_of_sync {adapter : Adapter} (ur : UnifiedRequest)
    (plain : adapter.renderAuthFailed = none) : isAuthFailed adapter ur = false := by
  simp [isAuthFailed, plain]

theorem terminalEvent_isTerminal {event : SessionEvent} (prior : Option ActiveSession)
    (terminal : event.isTerminal = true) :
    (Vodacom.terminalEvent event prior).isTerminal = true := by
  cases event <;> simp only [SessionEvent.isTerminal, Bool.false_eq_true] at terminal
  · simp only [Vodacom.terminalEvent]
    split
    · split <;> rfl
    · rfl
  · rfl

theorem vodacom_sessionPart {fields : Vodacom.Fields} {event : SessionEvent}
    (wire : event = .start ∨ event = .input ∨ event.isTerminal = true)
    (ran : (Vodacom.sessionPart fields event).run (perform environment) before =
      (.ok ur, parsed)) : ParsedLeg .vodacom [] before ur parsed := by
  rcases wire with rfl | rfl | terminal
  · simp only [Vodacom.sessionPart, Prog.run_bind, run_operatorId, run_openSession,
      Prog.pure_eq_done, Prog.run_done, Prod.mk.injEq, Except.ok.injEq] at ran
    obtain ⟨rfl, rfl⟩ := ran
    exact ⟨rfl, isAuthFailed_of_sync _ rfl, rfl,
      .opened _ rfl rfl rfl (by simp) rfl⟩
  · simp only [Vodacom.sessionPart, Prog.run_bind, run_operatorId, run_getActiveSession] at ran
    split at ran
    next missing =>
      simp only [Prog.pure_eq_done, Prog.run_done, Prod.mk.injEq, Except.ok.injEq] at ran
      obtain ⟨rfl, rfl⟩ := ran
      exact ⟨rfl, isAuthFailed_of_sync _ rfl, rfl,
        .lost rfl ((SessionTable.getActiveSession_eq_none_iff _ _ _).1 missing) (by simp) rfl rfl⟩
    next prior found =>
      obtain ⟨row, cached, _⟩ := getActiveSession_eq_some found
      simp only [Prog.run_bind, run_extendSession, Prog.pure_eq_done, Prog.run_done,
        Prod.mk.injEq, Except.ok.injEq] at ran
      obtain ⟨rfl, rfl⟩ := ran
      exact ⟨rfl, isAuthFailed_of_sync _ rfl, rfl, .extended row _ rfl cached rfl rfl rfl⟩
  · have observes : (Vodacom.sessionPart fields event).run (perform environment) before =
        (.ok ur, parsed) → ur.operator = Adapter.vodacom.operator ∧ parsed = before ∧
          ur.event = Vodacom.terminalEvent event
            (SessionTable.getActiveSession before.sessions before.now
              (fields.sessionid, before.registry.operatorId Adapter.vodacom.operator)) := by
      cases event <;> simp only [SessionEvent.isTerminal, Bool.false_eq_true] at terminal <;>
      · simp only [Vodacom.sessionPart, Prog.run_bind, run_operatorId, run_getActiveSession,
          Prog.pure_eq_done, Prog.run_done, Prod.mk.injEq, Except.ok.injEq]
        rintro ⟨rfl, rfl⟩
        exact ⟨rfl, rfl, rfl⟩
    obtain ⟨operator, same, event'⟩ := observes ran
    subst same
    exact ⟨operator, isAuthFailed_of_sync _ rfl, rfl,
      .observed (Or.inl (event' ▸ terminalEvent_isTerminal _ terminal)) rfl⟩

theorem tigo_sessionPart {fields : Payload} {msisdnRaw sessionid slug : Str}
    (ran : (Tigo.sessionPart fields msisdnRaw sessionid slug).run (perform environment) before =
      (.ok ur, parsed)) : ParsedLeg .tigo slug before ur parsed := by
  simp only [Tigo.sessionPart, Prog.run_bind, run_operatorId] at ran
  split at ran
  next =>
    simp only [Prog.run_bind, run_openSession, Prog.pure_eq_done, Prog.run_done, Prod.mk.injEq,
      Except.ok.injEq] at ran
    obtain ⟨rfl, rfl⟩ := ran
    exact ⟨rfl, isAuthFailed_of_sync _ rfl, rfl, .opened _ rfl rfl rfl (by simp) rfl⟩
  next =>
    simp only [Prog.run_bind, run_getActiveSession] at ran
    split at ran
    next missing =>
      simp only [Prog.pure_eq_done, Prog.run_done, Prod.mk.injEq, Except.ok.injEq] at ran
      obtain ⟨rfl, rfl⟩ := ran
      exact ⟨rfl, isAuthFailed_of_sync _ rfl, rfl,
        .lost rfl ((SessionTable.getActiveSession_eq_none_iff _ _ _).1 missing) (by simp) rfl rfl⟩
    next prior found =>
      obtain ⟨row, cached, _⟩ := getActiveSession_eq_some found
      simp only [Prog.run_bind, run_extendSession, Prog.pure_eq_done, Prog.run_done,
        Prod.mk.injEq, Except.ok.injEq] at ran
      obtain ⟨rfl, rfl⟩ := ran
      exact ⟨rfl, isAuthFailed_of_sync _ rfl, rfl, .extended row _ rfl cached rfl rfl rfl⟩

theorem airtel_sessionPart {fields : Payload} {msisdnRaw sessionid slug : Str} (lostCode : Str)
    (ran : (Airtel.sessionPart fields msisdnRaw sessionid slug).run (perform environment) before =
      (.ok ur, parsed)) : ParsedLeg .airtel lostCode before ur parsed := by
  simp only [Airtel.sessionPart, Prog.run_bind, run_operatorId, run_getActiveSession] at ran
  split at ran
  next missing =>
    simp only [Prog.run_bind, run_openSession, Prog.pure_eq_done, Prog.run_done, Prod.mk.injEq,
      Except.ok.injEq] at ran
    obtain ⟨rfl, rfl⟩ := ran
    exact ⟨rfl, isAuthFailed_of_sync _ rfl, rfl, .opened _ rfl rfl rfl
      (fun _ => (SessionTable.getActiveSession_eq_none_iff _ _ _).1 missing) rfl⟩
  next prior found =>
    obtain ⟨row, cached, _⟩ := getActiveSession_eq_some found
    simp only [Prog.run_bind, run_extendSession, Prog.pure_eq_done, Prog.run_done,
      Prod.mk.injEq, Except.ok.injEq] at ran
    obtain ⟨rfl, rfl⟩ := ran
    exact ⟨rfl, isAuthFailed_of_sync _ rfl, rfl, .extended row _ rfl cached rfl rfl rfl⟩

theorem halotel_isAuthFailed {fields : Halotel.Fields}
    (raw : ur.rawPayload = Halotel.rawPayload fields) : isAuthFailed .halotel ur = false := by
  have absent : ur.rawPayload.get (lit "_auth_ok") = none := by
    have keys : (Halotel.rawPayload fields).map Prod.fst =
        [lit "user", lit "pass", lit "msisdn", lit "msg", lit "sessionid", lit "transactionid",
          lit "requesttype", lit "ussdgw_id", lit "imsi"] := rfl
    have apart : ∀ key ∈ (Halotel.rawPayload fields).map Prod.fst,
        (lit "_auth_ok" != key) = true := by
      rw [keys]
      decide
    rw [raw, Payload.get, List.lookup_eq_none_iff]
    exact fun entry member => apart entry.1 (List.mem_map_of_mem member)
  simp [isAuthFailed, absent]

theorem halotel_sessionPart {fields : Halotel.Fields} {event : SessionEvent}
    (wire : event ≠ .systemSessionTermination)
    (ran : (Halotel.sessionPart fields event).run (perform environment) before =
      (.ok ur, parsed)) : ParsedLeg .halotel [] before ur parsed := by
  have observes : ∀ event, event ≠ .start → event ≠ .input →
      (Halotel.sessionPart fields event).run (perform environment) before = (.ok ur, parsed) →
      ur.operator = Adapter.halotel.operator ∧ ur.rawPayload = Halotel.rawPayload fields ∧
        parsed = before ∧ ur.event = event := by
    intro event notStart notInput
    cases event <;> simp only [ne_eq, not_true_eq_false] at notStart notInput <;>
    · simp only [Halotel.sessionPart, Prog.run_bind, run_operatorId, run_getActiveSession,
        Prog.pure_eq_done, Prog.run_done, Prod.mk.injEq, Except.ok.injEq]
      rintro ⟨rfl, rfl⟩
      exact ⟨rfl, rfl, rfl, rfl⟩
  by_cases start : event = .start
  · subst start
    simp only [Halotel.sessionPart, Prog.run_bind, run_operatorId, run_openSession,
      Prog.pure_eq_done, Prog.run_done, Prod.mk.injEq, Except.ok.injEq] at ran
    obtain ⟨rfl, rfl⟩ := ran
    exact ⟨rfl, halotel_isAuthFailed rfl, rfl, .opened _ rfl rfl rfl (by simp) rfl⟩
  by_cases input : event = .input
  · subst input
    simp only [Halotel.sessionPart, Prog.run_bind, run_operatorId, run_getActiveSession] at ran
    split at ran
    next missing =>
      simp only [Prog.pure_eq_done, Prog.run_done, Prod.mk.injEq, Except.ok.injEq] at ran
      obtain ⟨rfl, rfl⟩ := ran
      exact ⟨rfl, halotel_isAuthFailed rfl, rfl,
        .lost rfl ((SessionTable.getActiveSession_eq_none_iff _ _ _).1 missing) (by simp) rfl rfl⟩
    next prior found =>
      obtain ⟨row, cached, _⟩ := getActiveSession_eq_some found
      simp only [Prog.run_bind, run_extendSession, Prog.pure_eq_done, Prog.run_done,
        Prod.mk.injEq, Except.ok.injEq] at ran
      obtain ⟨rfl, rfl⟩ := ran
      exact ⟨rfl, halotel_isAuthFailed rfl, rfl, .extended row _ rfl cached rfl rfl rfl⟩
  obtain ⟨operator, raw, same, rfl⟩ := observes event start input ran
  subst same
  refine ⟨operator, halotel_isAuthFailed raw, rfl, .observed ?_ rfl⟩
  rcases ended : ur.event <;> simp_all [SessionEvent.isTerminal]

theorem lookup_mem {α β : Type} [BEq α] [LawfulBEq α] {wanted : α} {value : β}
    {table : List (α × β)} (found : List.lookup wanted table = some value) :
    (wanted, value) ∈ table := by
  obtain ⟨before, after, rfl, _⟩ := List.lookup_eq_some_iff.1 found
  simp

theorem vodacom_eventOf {trurouteType : Str} {event : SessionEvent}
    (known : Vodacom.eventOf trurouteType = some event) :
    event = .start ∨ event = .input ∨ event.isTerminal = true := by
  have member := lookup_mem known
  simp only [List.mem_cons, Prod.mk.injEq, List.not_mem_nil, or_false] at member
  rcases member with ⟨_, rfl⟩ | ⟨_, rfl⟩ | ⟨_, rfl⟩ | ⟨_, rfl⟩ | ⟨_, rfl⟩ <;>
    simp [SessionEvent.isTerminal]

theorem halotel_eventOf {requestType : Str} {event : SessionEvent}
    (known : Halotel.eventOf requestType = some event) :
    event ≠ .systemSessionTermination := by
  have member := lookup_mem known
  simp only [List.mem_cons, Prod.mk.injEq, List.not_mem_nil, or_false] at member
  rcases member with ⟨_, rfl⟩ | ⟨_, rfl⟩ | ⟨_, rfl⟩ | ⟨_, rfl⟩ | ⟨_, rfl⟩ <;> simp

inductive SessionPart (runtime : PyRuntime) (request : Request) :
    Adapter → Program UnifiedRequest → Prop where
  | vodacom {fields : Vodacom.Fields} {event : SessionEvent}
      (decoded : Vodacom.parseFields runtime request = .ok fields)
      (wire : event = .start ∨ event = .input ∨ event.isTerminal = true) :
      SessionPart runtime request .vodacom (Vodacom.sessionPart fields event)
  | airtel (msisdnRaw sessionid slug : Str) :
      SessionPart runtime request .airtel
        (Airtel.sessionPart (readQueryOrForm runtime request) msisdnRaw sessionid slug)
  | tigo (msisdnRaw sessionid : Str) :
      SessionPart runtime request .tigo
        (Tigo.sessionPart (readQueryOrForm runtime request) msisdnRaw sessionid
          (Tigo.partnerSlugFromPath runtime request))
  | halotel {fields : Halotel.Fields} {event : SessionEvent}
      (decoded : Halotel.parseSoap request.body = .ok fields)
      (wire : event ≠ .systemSessionTermination) :
      SessionPart runtime request .halotel (Halotel.sessionPart fields event)

theorem parse_cases (runtime : PyRuntime) (request : Request) (adapter : Adapter) :
    (∃ error, (adapter.parse runtime request).run (perform environment) before =
      (.error error, before)) ∨
    ∃ part, adapter.parse runtime request = part ∧ SessionPart runtime request adapter part := by
  cases adapter with
  | vodacom =>
      simp only [Adapter.parse, Vodacom.parse]
      rcases decoded : Vodacom.parseFields runtime request with error | fields
      · exact Or.inl ⟨error, rfl⟩
      · simp only [raiseOr, Prog.pure_eq_done, Prog.done_bind]
        rcases known : Vodacom.eventOf fields.trurouteType with _ | event
        · exact Or.inl ⟨_, rfl⟩
        · exact Or.inr ⟨_, rfl, .vodacom decoded (vodacom_eventOf known)⟩
  | airtel =>
      simp only [Adapter.parse, Airtel.parse]
      split
      · exact Or.inl ⟨_, rfl⟩
      · split
        · exact Or.inl ⟨_, rfl⟩
        · exact Or.inr ⟨_, rfl, .airtel _ _ _⟩
  | tigo =>
      simp only [Adapter.parse, Tigo.parse]
      split
      · exact Or.inl ⟨_, rfl⟩
      · split
        · exact Or.inl ⟨_, rfl⟩
        · exact Or.inr ⟨_, rfl, .tigo _ _⟩
  | halotel =>
      simp only [Adapter.parse, Halotel.parse]
      rcases decoded : Halotel.parseSoap request.body with error | fields
      · exact Or.inl ⟨error, rfl⟩
      · simp only [raiseOr, Prog.pure_eq_done, Prog.done_bind]
        rcases known : Halotel.eventOf fields.requesttype with _ | event
        · exact Or.inl ⟨_, rfl⟩
        · dsimp only
          split
          · exact Or.inl ⟨_, rfl⟩
          · exact Or.inr ⟨_, rfl, .halotel decoded (halotel_eventOf known)⟩

theorem exists_sessionPart {runtime : PyRuntime} {request : Request} {adapter : Adapter}
    (ran : (adapter.parse runtime request).run (perform environment) before = (.ok ur, parsed)) :
    ∃ part, adapter.parse runtime request = part ∧ SessionPart runtime request adapter part := by
  rcases @parse_cases environment before runtime request adapter with ⟨error, refused⟩ | known
  · rw [refused] at ran
    cases ran
  · exact known

theorem sessionPart_answers {runtime : PyRuntime} {request : Request} {adapter : Adapter}
    {part : Program UnifiedRequest} (known : SessionPart runtime request adapter part) :
    ∃ ur after, part.run (perform environment) before = (.ok ur, after) := by
  cases known with
  | @vodacom fields event =>
      cases event with
      | input =>
          simp only [Vodacom.sessionPart, Prog.run_bind, run_operatorId, run_getActiveSession]
          split <;>
          · simp only [Prog.run_bind, run_extendSession, Prog.pure_eq_done, Prog.run_done]
            exact ⟨_, _, rfl⟩
      | _ =>
          simp only [Vodacom.sessionPart, Prog.run_bind, run_operatorId, run_openSession,
            run_getActiveSession, Prog.pure_eq_done, Prog.run_done]
          exact ⟨_, _, rfl⟩
  | airtel =>
      simp only [Airtel.sessionPart, Prog.run_bind, run_operatorId, run_getActiveSession]
      split <;>
      · simp only [Prog.run_bind, run_openSession, run_extendSession, Prog.pure_eq_done,
          Prog.run_done]
        exact ⟨_, _, rfl⟩
  | tigo =>
      simp only [Tigo.sessionPart, Prog.run_bind, run_operatorId]
      split
      · simp only [Prog.run_bind, run_openSession, Prog.pure_eq_done, Prog.run_done]
        exact ⟨_, _, rfl⟩
      · simp only [Prog.run_bind, run_getActiveSession]
        split <;>
        · simp only [Prog.run_bind, run_extendSession, Prog.pure_eq_done, Prog.run_done]
          exact ⟨_, _, rfl⟩
  | @halotel fields event =>
      cases event with
      | input =>
          simp only [Halotel.sessionPart, Prog.run_bind, run_operatorId, run_getActiveSession]
          split <;>
          · simp only [Prog.run_bind, run_extendSession, Prog.pure_eq_done, Prog.run_done]
            exact ⟨_, _, rfl⟩
      | _ =>
          simp only [Halotel.sessionPart, Prog.run_bind, run_operatorId, run_openSession,
            run_getActiveSession, Prog.pure_eq_done, Prog.run_done]
          exact ⟨_, _, rfl⟩

theorem refused_unchanged {runtime : PyRuntime} {request : Request} {adapter : Adapter}
    {error : PyError}
    (ran : (adapter.parse runtime request).run (perform environment) before =
      (.error error, parsed)) : parsed = before := by
  rcases @parse_cases environment before runtime request adapter with
    ⟨other, refused⟩ | ⟨part, same, known⟩
  · exact congrArg Prod.snd (ran.symm.trans refused)
  · obtain ⟨ur, after, answered⟩ := @sessionPart_answers environment before _ _ _ _ known
    rw [same, answered] at ran
    cases ran

/-- Every leg that parses, on every adapter, meets the cache in one of the four ways. -/
theorem parse_spec {runtime : PyRuntime} {request : Request} {adapter : Adapter}
    (ran : (adapter.parse runtime request).run (perform environment) before = (.ok ur, parsed)) :
    ParsedLeg adapter (adapter.lostCode runtime request) before ur parsed := by
  obtain ⟨part, same, sessionPart⟩ := exists_sessionPart ran
  rw [same] at ran
  cases sessionPart with
  | vodacom _ wire => exact vodacom_sessionPart wire ran
  | airtel => exact airtel_sessionPart _ ran
  | tigo => exact tigo_sessionPart ran
  | halotel _ wire => exact halotel_sessionPart wire ran

theorem vodacom_leg {fields : Vodacom.Fields} {event : SessionEvent}
    (ran : (Vodacom.sessionPart fields event).run (perform environment) before =
      (.ok ur, parsed)) :
    ur.sessionId = fields.sessionid ∧
      (ur.event = event ∨ event.isTerminal = true ∧ ur.event.isTerminal = true) := by
  cases event with
  | start =>
      simp only [Vodacom.sessionPart, Prog.run_bind, run_operatorId, run_openSession,
        Prog.pure_eq_done, Prog.run_done, Prod.mk.injEq, Except.ok.injEq] at ran
      exact ran.1 ▸ ⟨rfl, Or.inl rfl⟩
  | input =>
      simp only [Vodacom.sessionPart, Prog.run_bind, run_operatorId, run_getActiveSession] at ran
      split at ran <;>
      · simp only [Prog.run_bind, run_extendSession, Prog.pure_eq_done, Prog.run_done,
          Prod.mk.injEq, Except.ok.injEq] at ran
        exact ran.1 ▸ ⟨rfl, Or.inl rfl⟩
  | userCancelledSession =>
      simp only [Vodacom.sessionPart, Prog.run_bind, run_operatorId, run_getActiveSession,
        Prog.pure_eq_done, Prog.run_done, Prod.mk.injEq, Except.ok.injEq] at ran
      exact ran.1 ▸ ⟨rfl, Or.inr ⟨rfl, terminalEvent_isTerminal _ rfl⟩⟩
  | _ =>
      simp only [Vodacom.sessionPart, Prog.run_bind, run_operatorId, run_getActiveSession,
        Prog.pure_eq_done, Prog.run_done, Prod.mk.injEq, Except.ok.injEq] at ran
      exact ran.1 ▸ ⟨rfl, Or.inl rfl⟩

theorem halotel_leg {fields : Halotel.Fields} {event : SessionEvent}
    (ran : (Halotel.sessionPart fields event).run (perform environment) before =
      (.ok ur, parsed)) : ur.sessionId = fields.transactionid ∧ ur.event = event := by
  cases event with
  | start =>
      simp only [Halotel.sessionPart, Prog.run_bind, run_operatorId, run_openSession,
        Prog.pure_eq_done, Prog.run_done, Prod.mk.injEq, Except.ok.injEq] at ran
      exact ran.1 ▸ ⟨rfl, rfl⟩
  | input =>
      simp only [Halotel.sessionPart, Prog.run_bind, run_operatorId, run_getActiveSession] at ran
      split at ran <;>
      · simp only [Prog.run_bind, run_extendSession, Prog.pure_eq_done, Prog.run_done,
          Prod.mk.injEq, Except.ok.injEq] at ran
        exact ran.1 ▸ ⟨rfl, rfl⟩
  | _ =>
      simp only [Halotel.sessionPart, Prog.run_bind, run_operatorId, run_getActiveSession,
        Prog.pure_eq_done, Prog.run_done, Prod.mk.injEq, Except.ok.injEq] at ran
      exact ran.1 ▸ ⟨rfl, rfl⟩

theorem tigo_leg {fields : Payload} {msisdnRaw sessionid slug : Str}
    (ran : (Tigo.sessionPart fields msisdnRaw sessionid slug).run (perform environment) before =
      (.ok ur, parsed)) :
    ur.sessionId = sessionid ∧ ur.event = if Tigo.isNewRequest fields then .start else .input := by
  simp only [Tigo.sessionPart, Prog.run_bind, run_operatorId] at ran
  split at ran
  next opened =>
    simp only [Prog.run_bind, run_openSession, Prog.pure_eq_done, Prog.run_done, Prod.mk.injEq,
      Except.ok.injEq] at ran
    rw [if_pos opened]
    exact ran.1 ▸ ⟨rfl, rfl⟩
  next continued =>
    rw [if_neg continued]
    simp only [Prog.run_bind, run_getActiveSession] at ran
    split at ran <;>
    · simp only [Prog.run_bind, run_extendSession, Prog.pure_eq_done, Prog.run_done,
        Prod.mk.injEq, Except.ok.injEq] at ran
      exact ran.1 ▸ ⟨rfl, rfl⟩

theorem airtel_leg {fields : Payload} {msisdnRaw sessionid slug : Str}
    (ran : (Airtel.sessionPart fields msisdnRaw sessionid slug).run (perform environment) before =
      (.ok ur, parsed)) :
    ur.sessionId = sessionid ∧ (ur.event = .start ∨ ur.event = .input) := by
  simp only [Airtel.sessionPart, Prog.run_bind, run_operatorId, run_getActiveSession] at ran
  split at ran <;>
  · simp only [Prog.run_bind, run_openSession, run_extendSession, Prog.pure_eq_done,
      Prog.run_done, Prod.mk.injEq, Except.ok.injEq] at ran
    rw [← ran.1]
    simp

end

end UssdGateway
