import UssdGateway.Gateway.DialedCodes
import UssdGateway.Gateway.InputRaces

/-!
A menu path dialed with the code against the same path walked leg by leg.
-/

namespace UssdGateway

open EffectProgram

def Adapter.dialed (runtime : PyRuntime) (request : Request) : Adapter → Str
  | vodacom =>
      match Vodacom.parseFields runtime request with
      | .ok fields => fields.msg
      | .error _ => []
  | airtel => Str.strip ((readQueryOrForm runtime request).getText (lit "input"))
  | tigo =>
      Tigo.dialedCode (readQueryOrForm runtime request)
        (Tigo.isNewRequest (readQueryOrForm runtime request))
  | halotel =>
      match Halotel.parseSoap request.body with
      | .ok fields => fields.msg
      | .error _ => []

structure Reaches (code trail : Str) (key : SessionKey) (ur : UnifiedRequest) (parsed : World) :
    Prop where
  menu : ur.event.isMenu = true
  routed : ur.serviceCode = code
  forwarded : ur.ussdString = trail
  cached : ∃ row, parsed.sessions.find key = some row ∧ row.serviceCode = code ∧
    row.ussdString = trail

theorem partnerSlugFromPath_ne_nil (runtime : PyRuntime) (request : Request) :
    Tigo.partnerSlugFromPath runtime request ≠ [] := by
  rw [Tigo.partnerSlugFromPath, Str.orElse]
  split
  · exact lit_ne_nil (by decide)
  next nonempty => exact nonempty

section

variable {runtime : PyRuntime} {environment : Environment} {request : Request} {adapter : Adapter}
  {before parsed : World} {ur : UnifiedRequest}

theorem start_program (ran : (adapter.parse runtime request).run (perform environment) before =
      (.ok ur, parsed)) (start : ur.event = .start) :
    ∃ fallback msisdn route, (adapter = .tigo → fallback ≠ []) ∧
      route = before.registry.startRoute (before.registry.operatorId adapter.operator) fallback
        (normaliseDialed (adapter.dialed runtime request)) ∧
      ur.serviceCode = route.1 ∧ ur.ussdString = route.2 ∧
      parsed = before.upserted (openedValues ur.sessionId
        (before.registry.operatorId adapter.operator) msisdn route) := by
  obtain ⟨part, same, sessionPart⟩ := exists_sessionPart ran
  rw [same] at ran
  cases sessionPart with
  | @vodacom fields event decoded wire =>
      obtain ⟨_, here | ⟨_, terminal⟩⟩ := vodacom_leg ran
      · have dialed : Adapter.vodacom.dialed runtime request = fields.msg := by
          rw [Adapter.dialed, decoded]
        rw [dialed]
        rw [start] at here
        subst here
        simp only [Vodacom.sessionPart, Prog.run_bind, run_operatorId, run_openSession,
          Prog.pure_eq_done, Prog.run_done, Prod.mk.injEq, Except.ok.injEq] at ran
        obtain ⟨rfl, rfl⟩ := ran
        refine ⟨normaliseDialed fields.msg, some (normaliseMsisdn fields.msisdn), _,
          by rintro ⟨⟩, rfl, ?_, ?_, ?_⟩ <;> dsimp only
      · rw [start] at terminal
        cases terminal
  | airtel msisdnRaw sessionid slug =>
      rw [Adapter.dialed]
      simp only [Airtel.sessionPart, Prog.run_bind, run_operatorId, run_getActiveSession] at ran
      split at ran
      next =>
        simp only [Prog.run_bind, run_openSession, Prog.pure_eq_done, Prog.run_done,
          Prod.mk.injEq, Except.ok.injEq] at ran
        obtain ⟨rfl, rfl⟩ := ran
        refine ⟨slug, some (normaliseMsisdn msisdnRaw), _, by rintro ⟨⟩, rfl, ?_, ?_, ?_⟩ <;>
          dsimp only
      next =>
        simp only [Prog.run_bind, run_extendSession, Prog.pure_eq_done, Prog.run_done,
          Prod.mk.injEq, Except.ok.injEq] at ran
        obtain ⟨rfl, rfl⟩ := ran
        cases start
  | tigo msisdnRaw =>
      obtain ⟨_, here⟩ := tigo_leg ran
      have opened : Tigo.isNewRequest (readQueryOrForm runtime request) = true := by
        by_contra continued
        rw [if_neg continued, start] at here
        cases here
      rw [Adapter.dialed, opened]
      simp only [Tigo.sessionPart, Prog.run_bind, run_operatorId, opened, if_true,
        run_openSession, Prog.pure_eq_done, Prog.run_done, Prod.mk.injEq, Except.ok.injEq] at ran
      obtain ⟨rfl, rfl⟩ := ran
      refine ⟨Tigo.partnerSlugFromPath runtime request, some (normaliseMsisdn msisdnRaw), _,
        fun _ => partnerSlugFromPath_ne_nil runtime request, rfl, ?_, ?_, ?_⟩ <;> dsimp only
  | @halotel fields event decoded wire =>
      obtain ⟨_, here⟩ := halotel_leg ran
      have dialed : Adapter.halotel.dialed runtime request = fields.msg := by
        rw [Adapter.dialed, decoded]
      rw [dialed]
      rw [start] at here
      subst here
      simp only [Halotel.sessionPart, Prog.run_bind, run_operatorId, run_openSession,
        Prog.pure_eq_done, Prog.run_done, Prod.mk.injEq, Except.ok.injEq] at ran
      obtain ⟨rfl, rfl⟩ := ran
      refine ⟨normaliseDialed fields.msg, some fields.msisdn, _, by rintro ⟨⟩, rfl, ?_, ?_, ?_⟩ <;>
        dsimp only

theorem World.find_upserted (world : World) (values : SessionUpsert) :
    (world.upserted values).sessions.find values.key =
      some (((world.sessions.find values.key).map
        (SessionTable.refresh values world.now)).getD (SessionTable.freshRow values world.now)) :=
  SessionTable.find_upsertActiveSession_self world.sessions world.now values

theorem reaches_of_extended {prior : ActiveSession} {row : ActiveSessionRow} {sessionId : Str}
    {operatorId : Nat} {msisdn : Option Str} {serviceCode typed : Str}
    (cached : before.sessions.find (sessionId, operatorId) = some row)
    (trail : prior.ussdString = row.ussdString) (input : ur.event = .input)
    (routed : ur.serviceCode = row.serviceCode)
    (forwarded : ur.ussdString = accumulateUssdString prior.ussdString typed) :
    Reaches row.serviceCode (accumulateUssdString row.ussdString typed) (sessionId, operatorId) ur
      (before.upserted (extendedValues prior sessionId operatorId msisdn serviceCode typed)) where
  menu := by rw [input]; rfl
  routed := routed
  forwarded := by rw [forwarded, trail]
  cached := by
    refine ⟨_, World.find_upserted before
      (extendedValues prior sessionId operatorId msisdn serviceCode typed), ?_⟩
    have found : before.sessions.find
        (extendedValues prior sessionId operatorId msisdn serviceCode typed).key = some row :=
      cached
    rw [found, ← trail]
    exact ⟨rfl, rfl⟩

theorem input_reaches (ran : (adapter.parse runtime request).run (perform environment)
      before = (.ok ur, parsed)) (input : ur.event = .input) {row : ActiveSessionRow}
    (cached : before.sessions.find (legKey before adapter ur) = some row)
    (coded : adapter = .airtel ∨ adapter = .tigo → row.serviceCode ≠ []) :
    Reaches row.serviceCode
      (accumulateUssdString row.ussdString (adapter.typedInput runtime request))
      (legKey before adapter ur) ur parsed := by
  obtain ⟨part, same, sessionPart⟩ := exists_sessionPart ran
  rw [same] at ran
  rw [legKey] at cached ⊢
  cases sessionPart with
  | @vodacom fields event decoded wire =>
      obtain ⟨named, here | ⟨_, terminal⟩⟩ := vodacom_leg ran
      · have typed : Adapter.vodacom.typedInput runtime request = fields.msg := by
          rw [Adapter.typedInput, decoded]
        rw [input] at here
        subst here
        rw [named] at cached
        simp only [Vodacom.sessionPart, Prog.run_bind, run_operatorId, run_getActiveSession,
          SessionTable.getActiveSession, cached, Option.map_some, run_extendSession,
          Prog.pure_eq_done, Prog.run_done, Prod.mk.injEq, Except.ok.injEq] at ran
        obtain ⟨rfl, rfl⟩ := ran
        rw [typed]
        exact reaches_of_extended cached rfl rfl rfl rfl
      · rw [input] at terminal
        cases terminal
  | airtel =>
      rw [(airtel_leg ran).1] at cached
      simp only [Airtel.sessionPart, Prog.run_bind, run_operatorId, run_getActiveSession,
        SessionTable.getActiveSession, cached, Option.map_some, run_extendSession,
        Prog.pure_eq_done, Prog.run_done, Prod.mk.injEq, Except.ok.injEq] at ran
      obtain ⟨rfl, rfl⟩ := ran
      exact reaches_of_extended cached rfl rfl (if_neg (coded (Or.inl rfl))) rfl
  | tigo =>
      obtain ⟨named, here⟩ := tigo_leg ran
      have continued : Tigo.isNewRequest (readQueryOrForm runtime request) = false := by
        by_contra opened
        rw [if_pos (by simpa using opened), input] at here
        cases here
      rw [named] at cached
      simp only [Tigo.sessionPart, Prog.run_bind, run_operatorId, continued, Bool.false_eq_true,
        if_false, run_getActiveSession, SessionTable.getActiveSession, cached, Option.map_some,
        run_extendSession, Prog.pure_eq_done, Prog.run_done, Prod.mk.injEq,
        Except.ok.injEq] at ran
      obtain ⟨rfl, rfl⟩ := ran
      rw [Adapter.typedInput, continued]
      exact reaches_of_extended cached rfl rfl (if_neg (coded (Or.inr rfl))) rfl
  | @halotel fields event decoded wire =>
      obtain ⟨named, here⟩ := halotel_leg ran
      have typed : Adapter.halotel.typedInput runtime request = fields.msg := by
        rw [Adapter.typedInput, decoded]
      rw [input] at here
      subst here
      rw [named] at cached
      simp only [Halotel.sessionPart, Prog.run_bind, run_operatorId, run_getActiveSession,
        SessionTable.getActiveSession, cached, Option.map_some, run_extendSession,
        Prog.pure_eq_done, Prog.run_done, Prod.mk.injEq, Except.ok.injEq] at ran
      obtain ⟨rfl, rfl⟩ := ran
      rw [typed]
      exact reaches_of_extended cached rfl rfl rfl rfl

theorem start_reaches (ran : (adapter.parse runtime request).run (perform environment) before =
      (.ok ur, parsed)) (start : ur.event = .start) {known : ShortcodePrefixMatch}
    (found : before.registry.dialMatch (before.registry.operatorId adapter.operator)
      (normaliseDialed (adapter.dialed runtime request)) = some known)
    (fresh : before.sessions.find (legKey before adapter ur) = none) :
    Reaches known.code known.remainder (legKey before adapter ur) ur parsed := by
  obtain ⟨fallback, msisdn, route, _, routed, code, rest, rfl⟩ := start_program ran start
  rw [Registry.startRoute, found] at routed
  subst routed
  refine ⟨by rw [start]; rfl, code, rest, ?_⟩
  let values := openedValues ur.sessionId (before.registry.operatorId adapter.operator) msisdn
    (known.code, known.remainder)
  have written := World.find_upserted before values
  have absent : before.sessions.find values.key = none := fresh
  rw [absent] at written
  exact ⟨_, written, rfl, rfl⟩

end

/-- What may happen between two legs of a session: its row and its operator stay. -/
structure Meanwhile (adapter : Adapter) (key : SessionKey) (before after : World) : Prop where
  operator : after.registry.operatorId adapter.operator =
    before.registry.operatorId adapter.operator
  row : after.sessions.find key = before.sessions.find key

/-- A fresh session dials a code and then types these inputs, a leg each. -/
inductive StepByStep (runtime : PyRuntime) (adapter : Adapter) (key : SessionKey) (code : Str)
    (first : World) : List Str → UnifiedRequest → World → Prop where
  | start (leg : Leg) {ur : UnifiedRequest} {parsed : World} (on : leg.adapter = adapter)
      (ran : leg.parsed runtime first = (.ok ur, parsed))
      (event : ur.event = .start) (keyed : legKey first adapter ur = key)
      (fresh : first.sessions.find key = none)
      (dials : adapter.dialed runtime leg.request = code) :
      StepByStep runtime adapter key code first [] ur parsed
  | input (leg : Leg) (before : World) {previous ur : UnifiedRequest} {reached parsed : World}
      {inputs : List Str} {typed : Str}
      (walked : StepByStep runtime adapter key code first inputs previous reached)
      (meanwhile : Meanwhile adapter key reached before) (on : leg.adapter = adapter)
      (ran : leg.parsed runtime before = (.ok ur, parsed))
      (event : ur.event = .input) (keyed : legKey before adapter ur = key)
      (types : adapter.typedInput runtime leg.request = typed) :
      StepByStep runtime adapter key code first (inputs ++ [typed]) ur parsed

section

variable {runtime : PyRuntime} {settings : Settings} {environment : Environment}

theorem registry_run {α : Type} (program : Program α) (world : World) :
    (program.run (perform environment) world).2.registry = world.registry := by
  have kept : ∀ op (state : World), state.registry = world.registry →
      (perform environment op state).2.registry = world.registry := by
    intro op state same
    exact (perform_registry environment op state).trans same
  exact @Prog.run_keeps _ _ _ _ _ (fun after : World => after.registry = world.registry) kept
    program _ rfl

theorem registry_runBackground (tasks : List BackgroundTask) (world : World) :
    (runBackground runtime settings environment tasks world).registry = world.registry := by
  induction tasks generalizing world with
  | nil => rfl
  | cons task rest ih => exact (ih _).trans (registry_run _ world)

theorem served_meanwhile {before world : World} {ur : UnifiedRequest} {leg : Leg}
    {shortcode : ShortcodeRow} (parsed : leg.parsed runtime before = (.ok ur, world))
    (menu : ur.event.isMenu = true)
    (resolved : world.registry.resolveShortcode leg.adapter.operator ur.serviceCode =
      some shortcode) (active : shortcode.status = .active)
    (replies : RepliesCon runtime settings leg.environment leg.adapter ur shortcode) :
    Meanwhile leg.adapter (legKey before leg.adapter ur) world
      (leg.served runtime settings before).2 where
  operator := by
    have routes : (leg.served runtime settings before).2.registry = before.registry := by
      rw [Leg.served, serve, registry_runBackground, World.idle_registry, registry_run,
        World.idle_registry]
    have parsedRoutes : world.registry = before.registry := by
      rw [(parse_spec parsed).frame]
      rfl
    rw [routes, parsedRoutes]
  row := by
    rw [Leg.served_of_parsed parsed menu,
      (menuLeg_continued (ParsedLeg.quiet (parse_spec parsed)) resolved active replies).2]

end

theorem accumulate_join {parts : List Str} (named : ∀ part ∈ parts, part ≠ []) (typed : Str) :
    accumulateUssdString (Str.join [star] parts) typed =
      Str.join [star] (parts ++ [Str.strip typed].filter (· ≠ [])) := by
  by_cases blank : Str.strip typed = []
  · simp [accumulateUssdString, blank]
  · simp only [accumulateUssdString, blank, if_false, ne_eq, not_false_eq_true, decide_true,
      List.filter_cons_of_pos, List.filter_nil]
    rcases parts with _ | ⟨first, rest⟩
    · simp [Str.join, List.intercalate]
    · have started : first ≠ [] := named first List.mem_cons_self
      rw [join_eq_menuPath, if_neg (by simp [started]), List.cons_append, join_eq_menuPath]
      simp [menuPath]

theorem join_concat {inputs : List Str} {typed : Str}
    (typeable : ∀ input ∈ inputs, Typeable input) (last : Typeable typed) :
    accumulateUssdString (Str.join [star] inputs) typed = Str.join [star] (inputs ++ [typed]) := by
  rw [accumulate_join fun input member => (typeable input member).nonempty, last.trimmed]
  simp [last.nonempty]

theorem StepByStep.reaches {runtime : PyRuntime} {adapter : Adapter} {key : SessionKey}
    {code : Str} {first : World} {inputs : List Str} {ur : UnifiedRequest} {parsed : World}
    (walked : StepByStep runtime adapter key code first inputs ur parsed)
    (other : adapter ≠ .airtel) (typeable : ∀ input ∈ inputs, Typeable input) (coded : code ≠ [])
    (routed : first.registry.dialMatch (first.registry.operatorId adapter.operator)
      (normaliseDialed code) = some { code, remainder := [] }) :
    Reaches code (Str.join [star] inputs) key ur parsed := by
  induction walked with
  | start leg on ran event keyed fresh dials =>
      subst on keyed
      exact start_reaches ran event (by rw [dials]; exact routed) fresh
  | input leg next walked meanwhile on ran event keyed types ih =>
      have before := fun input member => typeable input (List.mem_append_left _ member)
      obtain ⟨row, found, here, trail⟩ := (ih before).cached
      subst on keyed
      rw [← meanwhile.row] at found
      have extended := input_reaches ran event found (fun _ => here ▸ coded)
      rw [here, trail, types, join_concat before (typeable _ (by simp))] at extended
      exact extended

section

variable {runtime : PyRuntime} {leg : Leg} {before first inlined walked : World}
  {ur last : UnifiedRequest} {code : Str} {inputs : List Str} {key : SessionKey}

/-- On Vodacom, Halotel and Tigo a menu path dialed with the code leaves the session with the code
and the trail that dialing the code and typing the path leaves it with. -/
theorem inline_dial_as_steps (other : leg.adapter ≠ .airtel)
    (typeable : ∀ input ∈ inputs, Typeable input)
    (longest : LongestRegisteredPrefix before.registry
      (before.registry.operatorId leg.adapter.operator) (inlineDial code inputs) code)
    (ran : leg.parsed runtime before = (.ok ur, inlined)) (start : ur.event = .start)
    (fresh : before.sessions.find (legKey before leg.adapter ur) = none)
    (dials : leg.adapter.dialed runtime leg.request = inlineDial code inputs)
    (stepped : StepByStep runtime leg.adapter key code first inputs last walked)
    (routes : first.registry = before.registry) :
    (∃ row steps, inlined.sessions.find (legKey before leg.adapter ur) = some row ∧
      walked.sessions.find key = some steps ∧ row.serviceCode = steps.serviceCode ∧
      row.ussdString = steps.ussdString) ∧
    ur.serviceCode = last.serviceCode ∧
    ∀ settings shortcode, (handlerCall settings shortcode ur).payload.ussdString =
      (handlerCall settings shortcode last).payload.ussdString := by
  have whole := start_reaches ran start
    (by rw [dials]; exact dialMatch_inline longest typeable) fresh
  obtain ⟨alone, short⟩ := longest.of_inline typeable
  have routed := dialMatch_inline short (by simp)
  rw [alone] at routed
  have coded : code ≠ [] := by
    rw [← alone, inlineDial]
    simp
  have steps := stepped.reaches other typeable coded (by rw [routes]; exact routed)
  obtain ⟨row, found, rowCode, rowTrail⟩ := whole.cached
  obtain ⟨stepRow, stepFound, stepCode, stepTrail⟩ := steps.cached
  refine ⟨⟨row, stepRow, found, stepFound, rowCode.trans stepCode.symm,
    rowTrail.trans stepTrail.symm⟩, whole.routed.trans steps.routed.symm, ?_⟩
  intro settings shortcode
  rw [handlerCall_ussdString shortcode whole.menu, handlerCall_ussdString shortcode steps.menu,
    whole.forwarded, steps.forwarded]

end

def dialRegistry : Registry where
  operators := sampleRegistry.operators
  shortcodes := [sampleShortcode 12 1 "*149*46#", sampleShortcode 13 1 "*149#"]
  operatorIdsUnique := sampleRegistry.operatorIdsUnique
  operatorNamesUnique := sampleRegistry.operatorNamesUnique
  codesUnique := by decide
  messagesEncodable := by decide

def dialWorld : World := { sampleWorld with registry := dialRegistry }

def dialLeg (sessionid trurouteType msg : String) : Leg where
  environment := sampleEnvironment (lit "CON Karibu")
  adapter := .vodacom
  request :=
    { partnerSlug := none
      queryParams := [(lit "msisdn", lit "255750000001"), (lit "sessionid", lit sessionid),
        (lit "type", lit trurouteType), (lit "msg", lit msg)]
      contentType := none
      body := { isEmpty := true, xml := .error [], json := none, form := [] } }

def afterLegs (legs : List Leg) : World :=
  legs.foldl (fun world leg => (leg.served sampleRuntime sampleSettings world).2) dialWorld

def codeLeg : Leg := dialLeg "V2" "1" "*149*46#"

def firstInput : Leg := dialLeg "V2" "2" "1"

def secondInput : Leg := dialLeg "V2" "2" "22"

theorem dialRegistry_longest :
    LongestRegisteredPrefix dialRegistry 1 (inlineDial (lit "*149*46#") [lit "1", lit "22"])
      (lit "*149*46#") where
  registered := by decide
  isPrefix := by decide
  longest := by decide

theorem typeable_inputs : ∀ input ∈ [lit "1", lit "22"], Typeable input := by
  rintro input (_ | ⟨_, _ | ⟨_, ⟨⟩⟩⟩)
  · exact ⟨by decide, by decide, by decide, by decide, by decide⟩
  · exact ⟨by decide, by decide, by decide, by decide, by decide⟩

theorem walked_inputs :
    ∃ last walked,
      secondInput.parsed sampleRuntime (afterLegs [codeLeg, firstInput]) = (.ok last, walked) ∧
      StepByStep sampleRuntime .vodacom (lit "V2", 1) (lit "*149*46#") dialWorld
        (([] ++ [lit "1"]) ++ [lit "22"]) last walked := by
  have opened := @StepByStep.start sampleRuntime .vodacom (lit "V2", 1) (lit "*149*46#") dialWorld
    codeLeg _ _ rfl rfl rfl rfl rfl rfl
  have between := @served_meanwhile sampleRuntime sampleSettings dialWorld _ _ codeLeg
    (sampleShortcode 12 1 "*149*46#" |>.row (lit "vodacom")) rfl rfl rfl rfl
    ⟨_, lit "Karibu", rfl, rfl, by decide, by decide⟩
  have typed := @StepByStep.input sampleRuntime .vodacom (lit "V2", 1) (lit "*149*46#") dialWorld
    firstInput (afterLegs [codeLeg]) _ _ _ _ _ _ opened between rfl rfl rfl rfl rfl
  exact ⟨_, _, rfl, .input secondInput (afterLegs [codeLeg, firstInput]) typed ⟨rfl, rfl⟩ rfl rfl
    rfl rfl rfl⟩

theorem path_dialed_as_walked :
    ∃ ur last inlined walked,
      (dialLeg "V1" "1" "*149*46*1*22#").parsed sampleRuntime dialWorld = (.ok ur, inlined) ∧
      secondInput.parsed sampleRuntime (afterLegs [codeLeg, firstInput]) = (.ok last, walked) ∧
      (∃ row steps, inlined.sessions.find (lit "V1", 1) = some row ∧
        walked.sessions.find (lit "V2", 1) = some steps ∧ row.serviceCode = steps.serviceCode ∧
        row.ussdString = steps.ussdString) ∧
      ur.serviceCode = last.serviceCode ∧
      ∀ settings shortcode, (handlerCall settings shortcode ur).payload.ussdString =
        (handlerCall settings shortcode last).payload.ussdString := by
  obtain ⟨last, walked, ran, steps⟩ := walked_inputs
  refine ⟨_, last, _, walked, rfl, ran, ?_⟩
  exact @inline_dial_as_steps sampleRuntime (dialLeg "V1" "1" "*149*46*1*22#") dialWorld
    dialWorld _ _ _ _ _ _ _ (by decide) typeable_inputs dialRegistry_longest rfl rfl rfl rfl
    steps rfl

end UssdGateway
