import UssdGateway.Gateway.InlineDialing
import UssdGateway.Gateway.SessionRows

/-!
The code a session is routed by. The START leg computes it, and the cache row carries it to the
INPUT legs; a START leg that finds a row leaves the row's code as it is.
-/

namespace UssdGateway

open EffectProgram

structure RoutedWorld extends World where
  started : SessionKey → Option Str

def Registry.Knows (registry : Registry) (adapter : Adapter) : Prop :=
  ∃ operator ∈ registry.operators, operator.name = adapter.operator

instance (registry : Registry) (adapter : Adapter) : Decidable (registry.Knows adapter) :=
  inferInstanceAs (Decidable (∃ operator ∈ registry.operators, _))

section

variable (runtime : PyRuntime) (settings : Settings)

def RoutedWorld.startedBy (world : RoutedWorld) (leg : Leg) : SessionKey → Option Str :=
  match (leg.parsed runtime world.toWorld).1 with
  | .ok ur =>
      if ur.event = .start then
        Function.update world.started (legKey world.toWorld leg.adapter ur) (some ur.serviceCode)
      else world.started
  | .error _ => world.started

def RoutedWorld.step (world : RoutedWorld) (event : ServiceEvent) : Option RoutedWorld :=
  let after := serviceEvent runtime settings world.toWorld event
  match event with
  | .gateway (.leg leg) =>
      if world.registry.Knows leg.adapter then
        some { toWorld := after, started := world.startedBy runtime leg }
      else none
  | .gateway (.registryChanged registry) =>
      if registry.operators = world.registry.operators then
        some { toWorld := after, started := world.started }
      else none
  | _ => some { toWorld := after, started := world.started }

def routedRuns : StepSystem RoutedWorld ServiceEvent where
  initial world := world.sessions.rows = []
  step := RoutedWorld.step runtime settings

/-- An INPUT leg that finds its session's row goes to the code of the session's last START. -/
def RoutedAsStarted (world : RoutedWorld) : ServiceEvent → Prop
  | .gateway (.leg leg) => ∀ ur parsed row, leg.adapter ≠ .airtel →
      world.registry.Knows leg.adapter →
      leg.parsed runtime world.toWorld = (.ok ur, parsed) → ur.event = .input →
      world.sessions.find (legKey world.toWorld leg.adapter ur) = some row →
      world.started (legKey world.toWorld leg.adapter ur) = some ur.serviceCode
  | _ => True

/-- A START leg finds no row of its session with another code. -/
def StartsAlike (world : RoutedWorld) : ServiceEvent → Prop
  | .gateway (.leg leg) => ∀ ur parsed row,
      leg.parsed runtime world.toWorld = (.ok ur, parsed) → ur.event = .start →
      world.sessions.find (legKey world.toWorld leg.adapter ur) = some row →
      row.serviceCode = ur.serviceCode
  | _ => True

end

structure RoutedWorld.Agrees (world : RoutedWorld) : Prop where
  started : ∀ row ∈ world.sessions.rows, world.started row.key = some row.serviceCode
  coded : world.registry.Knows .tigo → ∀ row ∈ world.sessions.rows,
    row.operatorId = world.registry.operatorId Adapter.tigo.operator → row.serviceCode ≠ []

inductive RouteCase (adapter : Adapter) (before : World) (ur : UnifiedRequest)
    (sessions : SessionTable) : Prop where
  | opened (values : SessionUpsert) (event : ur.event = .start)
      (keyed : values.key = legKey before adapter ur)
      (carried : values.serviceCode = ur.serviceCode)
      (coded : adapter = .tigo → ur.serviceCode ≠ [])
      (written : sessions = SessionTable.upsertActiveSession before.sessions before.now values)
  | extended (prior : ActiveSessionRow) (values : SessionUpsert) (event : ur.event = .input)
      (cached : before.sessions.find (legKey before adapter ur) = some prior)
      (keyed : values.key = legKey before adapter ur)
      (routed : adapter ≠ .airtel → (adapter = .tigo → prior.serviceCode ≠ []) →
        ur.serviceCode = prior.serviceCode)
      (written : sessions = SessionTable.upsertActiveSession before.sessions before.now values)
  | unchanged (event : ur.event ≠ .start)
      (absent : ur.event = .input → before.sessions.find (legKey before adapter ur) = none)
      (same : sessions = before.sessions)

theorem startRoute_ne_nil (registry : Registry) (operatorId : Nat) {fallback : Str}
    (nonempty : fallback ≠ []) (dialed : Str) :
    (registry.startRoute operatorId fallback dialed).1 ≠ [] := by
  rw [Registry.startRoute]
  split
  next known found => exact dialMatch_ne_nil found
  next => exact nonempty

section

variable {runtime : PyRuntime} {settings : Settings} {environment : Environment}
  {request : Request} {adapter : Adapter} {before parsed : World} {ur : UnifiedRequest}

theorem input_routed (ran : (adapter.parse runtime request).run (perform environment) before =
      (.ok ur, parsed)) (input : ur.event = .input) (other : adapter ≠ .airtel)
    {row : ActiveSessionRow} (cached : before.sessions.find (legKey before adapter ur) = some row)
    (coded : adapter = .tigo → row.serviceCode ≠ []) : ur.serviceCode = row.serviceCode := by
  refine (input_reaches ran input cached ?_).routed
  rintro (airtel | tigo)
  · exact absurd airtel other
  · exact coded tigo

theorem parse_routes (ran : (adapter.parse runtime request).run (perform environment) before =
      (.ok ur, parsed)) : RouteCase adapter before ur parsed.sessions := by
  have spec := parse_spec ran
  cases spec.cases with
  | opened _ event =>
      obtain ⟨fallback, msisdn, _, coded, rfl, routed, _, rfl⟩ := start_program ran event
      refine .opened (openedValues _ _ msisdn _) event rfl routed.symm ?_ rfl
      rw [routed]
      exact fun tigo => startRoute_ne_nil _ _ (coded tigo) _
  | extended prior values event cached keyed _ written =>
      exact .extended prior values event cached keyed
        (fun other coded => input_routed ran event other cached coded) written
  | lost event absent _ _ same => exact .unchanged (by rw [event]; nofun) (fun _ => absent) same
  | observed event same =>
      refine .unchanged ?_ ?_ same
      · intro start
        simp [start, SessionEvent.isTerminal] at event
      · intro input
        simp [input, SessionEvent.isTerminal] at event

theorem RoutedWorld.Agrees.of_shrunk {world after : RoutedWorld} (agrees : world.Agrees)
    (shrunk : Shrunk world.toWorld after.toWorld) (started : after.started = world.started) :
    after.Agrees where
  started row member := by
    rw [started]
    exact agrees.started row (shrunk.rows row member)
  coded := by
    rw [shrunk.registry]
    exact fun knows row member => agrees.coded knows row (shrunk.rows row member)

theorem eq_of_operatorId {registry : Registry} {first second : Adapter}
    (firstKnown : registry.Knows first) (secondKnown : registry.Knows second)
    (same : registry.operatorId first.operator = registry.operatorId second.operator) :
    first = second := by
  have named : ∀ adapter : Adapter, registry.Knows adapter → ∃ operator ∈ registry.operators,
      operator.id = registry.operatorId adapter.operator ∧ operator.name = adapter.operator := by
    rintro adapter ⟨operator, member, name⟩
    rcases found : registry.operators.find? (fun other => other.name = adapter.operator) with
      _ | other
    · rw [List.find?_eq_none] at found
      exact absurd (decide_eq_true name) (found operator member)
    · refine ⟨other, List.mem_of_find?_eq_some found, ?_, by simpa using List.find?_some found⟩
      rw [Registry.operatorId, found]
      rfl
  obtain ⟨one, oneMember, oneId, oneName⟩ := named first firstKnown
  obtain ⟨two, twoMember, twoId, twoName⟩ := named second secondKnown
  have equal : one = two := List.inj_on_of_nodup_map registry.operatorIdsUnique oneMember twoMember
    (oneId.trans (same.trans twoId.symm))
  have names : first.operator = second.operator := by
    rw [← oneName, ← twoName, equal]
  exact Option.some.inj ((ofKey_operator first).symm.trans
    ((congrArg Adapter.ofKey names).trans (ofKey_operator second)))

theorem RoutedWorld.Agrees.written {world : RoutedWorld} (agrees : world.Agrees)
    (known : world.registry.Knows adapter) {values : SessionUpsert} {code : Str}
    (keyed : values.key = (ur.sessionId, world.registry.operatorId adapter.operator))
    (kept : ∀ old, world.sessions.find values.key = some old → old.serviceCode = code)
    (fresh : world.sessions.find values.key = none → values.serviceCode = code)
    (coded : adapter = .tigo → code ≠ []) :
    RoutedWorld.Agrees { world with
      sessions := SessionTable.upsertActiveSession world.sessions world.now values
      started := Function.update world.started values.key (some code) } where
  started := by
    intro row member
    rcases mem_upsertActiveSession member with ⟨old, apart⟩ | ⟨same, carries⟩
    · exact (Function.update_of_ne apart _ _).trans (agrees.started row old)
    · change Function.update world.started values.key (some code) row.key = _
      rw [same, Function.update_self, carries code kept fresh]
  coded := by
    intro tigo row member owned
    rcases mem_upsertActiveSession member with ⟨old, _⟩ | ⟨same, carries⟩
    · exact agrees.coded tigo row old owned
    · rw [carries code kept fresh]
      apply coded
      apply eq_of_operatorId known tigo
      exact (congrArg Prod.snd (same.trans keyed)).symm.trans owned

theorem RoutedWorld.Agrees.legged {world after : RoutedWorld} {leg : Leg}
    (agrees : world.Agrees) (alike : StartsAlike runtime world (.gateway (.leg leg)))
    (stepped : world.step runtime settings (.gateway (.leg leg)) = some after) :
    after.Agrees := by
  obtain ⟨known, rfl⟩ : world.registry.Knows leg.adapter ∧ after =
      { toWorld := (leg.served runtime settings world.toWorld).2
        started := world.startedBy runtime leg } := by
    obtain ⟨known, moved⟩ := Option.ite_none_right_eq_some.1 stepped
    exact ⟨known, (Option.some.inj moved).symm⟩
  rcases ran : leg.parsed runtime world.toWorld with ⟨error | ur, parsed⟩
  · refine agrees.of_shrunk (shrunk_refused ran) ?_
    rw [RoutedWorld.startedBy, ran]
  · have frame := (parse_spec ran).frame
    have served := @shrunk_served _ settings _ _ _ _ ran
    have routes : parsed.registry = world.registry := by
      rw [frame]
      rfl
    have startedBy : world.startedBy runtime leg =
        if ur.event = .start then
          Function.update world.started (legKey world.toWorld leg.adapter ur)
            (some ur.serviceCode)
        else world.started := by
      rw [RoutedWorld.startedBy, ran]
    cases parse_routes ran with
    | opened values event keyed carried coded written =>
        rw [startedBy, if_pos event]
        have kept := fun old found => alike ur parsed old ran event (keyed ▸ found)
        refine (agrees.written known keyed kept (fun _ => carried) coded).of_shrunk
          ⟨served.registry.trans routes, ?_⟩ ?_
        · intro row member
          exact written ▸ served.rows row member
        · exact congrArg (fun key => Function.update world.started key (some ur.serviceCode))
            keyed.symm
    | extended prior values event cached keyed _ written =>
        rw [startedBy, if_neg (by rw [event]; nofun)]
        obtain ⟨member, named⟩ := (KeyedTable.find_eq_some_iff _ _ _).1 cached
        have found : world.sessions.find values.key = some prior := keyed ▸ cached
        have begun : world.started values.key = some prior.serviceCode :=
          keyed ▸ named ▸ agrees.started prior member
        have coded : leg.adapter = .tigo → prior.serviceCode ≠ [] := fun tigo =>
          agrees.coded (tigo ▸ known) prior member (tigo ▸ congrArg Prod.snd named)
        have kept : ∀ old, world.sessions.find values.key = some old →
            old.serviceCode = prior.serviceCode := fun old same =>
          congrArg _ (Option.some.inj (same.symm.trans found))
        have fresh : world.sessions.find values.key = none →
            values.serviceCode = prior.serviceCode := fun absent =>
          absurd (absent.symm.trans found) nofun
        refine (agrees.written known keyed kept fresh coded).of_shrunk
          ⟨served.registry.trans routes, ?_⟩ ?_
        · intro row member
          exact written ▸ served.rows row member
        · change world.started = Function.update world.started values.key _
          rw [← begun, Function.update_eq_self]
    | unchanged event _ same =>
        rw [startedBy, if_neg event]
        refine agrees.of_shrunk ⟨served.registry.trans routes, ?_⟩ rfl
        intro row member
        exact same ▸ served.rows row member

theorem RoutedWorld.Agrees.kept {world after : RoutedWorld} {event : ServiceEvent}
    (agrees : world.Agrees) (alike : StartsAlike runtime world event)
    (stepped : world.step runtime settings event = some after) : after.Agrees := by
  rcases event with (leg | lost | registry | micros) | environment
  · exact agrees.legged alike stepped
  · rw [← Option.some.inj stepped]
    exact agrees.of_shrunk ⟨rfl, fun row member => List.mem_of_mem_filter member⟩ rfl
  · obtain ⟨same, moved⟩ := Option.ite_none_right_eq_some.1 stepped
    rw [← Option.some.inj moved]
    refine ⟨agrees.started, ?_⟩
    intro known
    have operatorId : registry.operatorId Adapter.tigo.operator =
        world.registry.operatorId Adapter.tigo.operator := by
      rw [Registry.operatorId, Registry.operatorId, same]
    have before : world.registry.Knows .tigo := by
      rw [Registry.Knows, ← same]
      exact known
    intro row member owned
    exact agrees.coded before row member (owned.trans operatorId)
  · rw [← Option.some.inj stepped]
    exact agrees.of_shrunk ⟨rfl, fun _ member => member⟩ rfl
  · rw [← Option.some.inj stepped]
    exact agrees.of_shrunk (shrunk_swept _) rfl

theorem RoutedWorld.Agrees.routed {world : RoutedWorld} (agrees : world.Agrees)
    (event : ServiceEvent) : RoutedAsStarted runtime world event := by
  rcases event with (leg | _ | _ | _) | _
  case gateway.leg =>
    intro ur parsed row other known ran input found
    obtain ⟨member, named⟩ := (KeyedTable.find_eq_some_iff _ _ _).1 found
    have coded : leg.adapter = .tigo → row.serviceCode ≠ [] := fun tigo =>
      agrees.coded (tigo ▸ known) row member (tigo ▸ congrArg Prod.snd named)
    rw [input_routed ran input other found coded, ← named]
    exact agrees.started row member
  all_goals trivial

end

/-- In a run from an empty cache whose START legs find no row with another code, each INPUT leg of
Vodacom, Tigo and Halotel with a cache row goes to the code of the last START leg. -/
theorem inputs_routed_as_started (runtime : PyRuntime) (settings : Settings)
    {world : RoutedWorld} (initial : (routedRuns runtime settings).initial world)
    {events : List ServiceEvent}
    (alike : (routedRuns runtime settings).Along (StartsAlike runtime) world events) :
    (routedRuns runtime settings).Along (RoutedAsStarted runtime) world events := by
  have empty : world.sessions.rows = [] := initial
  have agrees : world.Agrees :=
    ⟨fun row member => absurd (empty ▸ member) List.not_mem_nil,
      fun _ row member => absurd (empty ▸ member) List.not_mem_nil⟩
  clear initial empty
  induction events generalizing world with
  | nil => trivial
  | cons event rest ih =>
      refine ⟨agrees.routed event, fun after stepped => ?_⟩
      exact ih (alike.2 after stepped) (agrees.kept alike.1 stepped)

def routedWorld : RoutedWorld := { dialWorld with started := fun _ => none }

theorem menu_routed_as_started :
    (routedRuns sampleRuntime sampleSettings).Along (RoutedAsStarted sampleRuntime) routedWorld
      [legEvent codeLeg, legEvent firstInput] := by
  refine @inputs_routed_as_started sampleRuntime sampleSettings routedWorld rfl _ ?_
  refine (StepSystem.along_cons rfl).2 ⟨?_, (StepSystem.along_cons rfl).2 ⟨?_, trivial⟩⟩
  · intro ur parsed row ran start found
    cases ran
    cases found
  · intro ur parsed row ran start found
    cases ran
    cases start

def reusedLeg : Leg := dialLeg "V2" "1" "*149#"

theorem step_codeLeg :
    RoutedWorld.step sampleRuntime sampleSettings routedWorld (legEvent codeLeg) =
      some { afterLegs [codeLeg] with
        started := Function.update (fun _ => none) (lit "V2", 1) (some (lit "*149*46#")) } := rfl

theorem step_reusedLeg (started : SessionKey → Option Str) :
    RoutedWorld.step sampleRuntime sampleSettings { afterLegs [codeLeg] with started }
        (legEvent reusedLeg) =
      some { afterLegs [codeLeg, reusedLeg] with
        started := Function.update started (lit "V2", 1) (some (lit "*149#")) } := rfl

theorem input_after_reuse :
    ∃ ur parsed row, firstInput.parsed sampleRuntime (afterLegs [codeLeg, reusedLeg]) =
        (.ok ur, parsed) ∧ ur.event = .input ∧ ur.serviceCode = lit "*149*46#" ∧
      (afterLegs [codeLeg, reusedLeg]).sessions.find
        (legKey (afterLegs [codeLeg, reusedLeg]) .vodacom ur) = some row ∧
      legKey (afterLegs [codeLeg, reusedLeg]) .vodacom ur = (lit "V2", 1) :=
  ⟨_, _, _, rfl, rfl, rfl, rfl, rfl⟩

/-- The second START dials another code, and the row keeps the first one. -/
theorem input_of_reused_session :
    (routedRuns sampleRuntime sampleSettings).initial routedWorld ∧
      ¬ (routedRuns sampleRuntime sampleSettings).Along (RoutedAsStarted sampleRuntime)
        routedWorld [legEvent codeLeg, legEvent reusedLeg, legEvent firstInput] := by
  refine ⟨rfl, ?_⟩
  intro along
  obtain ⟨ur, parsed, row, ran, input, kept, found, key⟩ := input_after_reuse
  have second := ((StepSystem.along_cons step_codeLeg).1 along).2
  have third := ((StepSystem.along_cons (step_reusedLeg _)).1 second).2
  have routed := third.1 ur parsed row nofun ⟨_, List.mem_cons_self, rfl⟩ ran input found
  rw [kept] at routed
  have apart : lit "*149#" ≠ lit "*149*46#" := by decide
  have last := key ▸ routed
  exact apart (Option.some.inj last)

end UssdGateway
