import UssdGateway.Gateway.ParsingRuns
import UssdGateway.Library.ReadModifyWrite

/-!
INPUT legs of one session side by side, in one worker or in several. Each reads the trail in one
statement and writes it back extended in another, so a leg that writes over another's input drops
it.
-/

namespace UssdGateway

open EffectProgram ReadModifyWrite

structure InputRace (ι : Type) where
  world : World
  legs : ι → Program UnifiedRequest
  seen : ι → Option Str

def trailRead : (op : GatewayOp) → Except PyError op.Answer → Option Str
  | .getActiveSession _, .ok session => session.map ActiveSession.ussdString
  | _, _ => none

section

variable {ι : Type} [DecidableEq ι] (environment : Environment)

def InputRace.step (race : InputRace ι) (leg : ι) : Option (InputRace ι) :=
  match race.legs leg with
  | .perform op next =>
      let answered := perform environment op race.world
      some { world := answered.2
             legs := Function.update race.legs leg (next answered.1)
             seen := Function.update race.seen leg
               ((trailRead op answered.1).orElse fun _ => race.seen leg) }
  | _ => none

def InputRace.start (runtime : PyRuntime) (adapter : Adapter) (requests : ι → Request)
    (world : World) : InputRace ι where
  world := world
  legs leg := adapter.parse runtime (requests leg)
  seen _ := none

def inputRaces (runtime : PyRuntime) (adapter : Adapter) (requests : ι → Request)
    (world : World) : StepSystem (InputRace ι) ι where
  initial race := race = InputRace.start runtime adapter requests world
  step := InputRace.step environment

end

def Adapter.typedInput (runtime : PyRuntime) (request : Request) : Adapter → Str
  | vodacom =>
      match Vodacom.parseFields runtime request with
      | .ok fields => fields.msg
      | .error _ => []
  | airtel => Str.strip ((readQueryOrForm runtime request).getText (lit "input"))
  | tigo =>
      Tigo.userInput (readQueryOrForm runtime request)
        (Tigo.isNewRequest (readQueryOrForm runtime request))
  | halotel =>
      match Halotel.parseSoap request.body with
      | .ok fields => fields.msg
      | .error _ => []

section

variable {ι : Type}

def InputRace.cachedTrail (race : InputRace ι) (key : SessionKey) : Option Str :=
  (race.world.sessions.find key).map ActiveSessionRow.ussdString

def Finished (program : Program UnifiedRequest) : Prop := ∃ ur, program = .done ur

def AboutToWrite (program : Program UnifiedRequest) : Prop :=
  ∃ values next, program = .perform (.upsertActiveSession values) next

def extendBy (typed : ι → Str) (leg : ι) (trail : Str) : Str :=
  accumulateUssdString trail (typed leg)

/-- The cached trail is the first one extended by the input of each finished leg, once. -/
def InputsKept (key : SessionKey) (trail : Str) (typed : ι → Str) (race : InputRace ι) : Prop :=
  ∃ order : List ι, order.Nodup ∧ (∀ leg, leg ∈ order ↔ Finished (race.legs leg)) ∧
    race.cachedTrail key = some (applyAll (extendBy typed) trail order)

/-- A leg that is about to write finds the trail it was answered. -/
def StillFinds (key : SessionKey) (race : InputRace ι) (leg : ι) : Prop :=
  AboutToWrite (race.legs leg) → ∀ trail, race.seen leg = some trail →
    race.cachedTrail key = some trail

end

def trailMeasure (trail : Str) : Nat := if trail = [] then 0 else trail.length + 1

def inputWeight (typed : Str) : Nat := trailMeasure (Str.strip typed)

theorem trailMeasure_accumulate (prior typed : Str) :
    trailMeasure (accumulateUssdString prior typed) = trailMeasure prior + inputWeight typed := by
  simp only [accumulateUssdString, inputWeight, trailMeasure]
  split
  next => simp
  next =>
    split
    next => simp
    next extended =>
      simp only [extended, if_false, List.append_eq_nil_iff, false_and, List.length_append,
        List.length_cons, List.length_nil]
      omega

theorem prefix_accumulate (prior typed : Str) : prior <+: accumulateUssdString prior typed := by
  rw [accumulateUssdString]
  split
  · exact List.prefix_refl _
  · split
    next fresh =>
      rw [fresh]
      exact List.nil_prefix
    next =>
      rw [List.append_assoc]
      exact List.prefix_append _ _

theorem trails_growing {ι : Type} (typed : ι → Str) :
    Growing (extendBy typed) (fun leg => inputWeight (typed leg)) trailMeasure (· <+: ·) where
  grows leg trail := trailMeasure_accumulate trail (typed leg)
  refl trail := List.prefix_refl trail
  step first second leg shorter := shorter.trans (prefix_accumulate second (typed leg))
  eq_of_measure first second shorter same := by
    apply shorter.eq_of_length
    have bound := shorter.length_le
    simp only [trailMeasure] at same
    split at same
    next empty =>
      split at same
      next alsoEmpty => rw [empty, alsoEmpty]
      next => omega
    next =>
      split at same
      next => omega
      next => omega

/-! The operations of an INPUT leg. -/

section

variable (key : SessionKey) (typed : Str)

def Extends (prior : ActiveSession) (program : Program UnifiedRequest) : Prop :=
  ∃ values ur, program = (Program.upsertActiveSession values >>= fun _ => pure ur) ∧
    values.key = key ∧ values.ussdString = accumulateUssdString prior.ussdString typed

def ReadsThenExtends (program : Program UnifiedRequest) : Prop :=
  ∃ rest, program = (Program.getActiveSession key >>= rest) ∧
    ∀ prior, Extends key typed prior (rest (some prior))

def IsInput (registry : Registry) (program : Program UnifiedRequest) : Prop :=
  ∃ name rest, program = (Program.operatorId name >>= rest) ∧
    ReadsThenExtends key typed (rest (registry.operatorId name))

end

theorem extends_extendSession (prior : ActiveSession) (sessionId : Str) (operatorId : Nat)
    (msisdn : Option Str) (serviceCode typed : Str) (rest : Str → UnifiedRequest) :
    Extends (sessionId, operatorId) typed prior
      (extendSession prior sessionId operatorId msisdn serviceCode typed >>= fun trail =>
        pure (rest trail)) :=
  ⟨extendedValues prior sessionId operatorId msisdn serviceCode typed, _,
    Prog.bind_assoc _ _ _, rfl, rfl⟩

section

variable {environment : Environment} {world after : World} {ur : UnifiedRequest}

theorem input_program {runtime : PyRuntime} {request : Request} {adapter : Adapter}
    (ran : (adapter.parse runtime request).run (perform environment) world = (.ok ur, after))
    (input : ur.event = .input) :
    IsInput (legKey world adapter ur) (adapter.typedInput runtime request) world.registry
      (adapter.parse runtime request) := by
  obtain ⟨part, same, sessionPart⟩ := exists_sessionPart ran
  rw [same] at ran ⊢
  rw [legKey]
  cases sessionPart with
  | @vodacom fields event decoded wire =>
      obtain ⟨named, here | ⟨_, terminal⟩⟩ := vodacom_leg ran
      · have typed : Adapter.vodacom.typedInput runtime request = fields.msg := by
          rw [Adapter.typedInput, decoded]
        rw [named, typed, ← here, input]
        exact ⟨_, _, rfl, _, rfl, fun prior => extends_extendSession prior _ _ _ _ _ _⟩
      · rw [input] at terminal
        cases terminal
  | airtel =>
      rw [(airtel_leg ran).1]
      exact ⟨_, _, rfl, _, rfl, fun prior => extends_extendSession prior _ _ _ _ _ _⟩
  | tigo =>
      obtain ⟨named, here⟩ := tigo_leg ran
      have continued : Tigo.isNewRequest (readQueryOrForm runtime request) = false := by
        by_contra opened
        rw [if_pos (by simpa using opened), input] at here
        cases here
      rw [named]
      simp only [Tigo.sessionPart, Adapter.typedInput, continued, Bool.false_eq_true, if_false]
      exact ⟨_, _, rfl, _, rfl, fun prior => extends_extendSession prior _ _ _ _ _ _⟩
  | @halotel fields event decoded wire =>
      obtain ⟨named, here⟩ := halotel_leg ran
      have typed : Adapter.halotel.typedInput runtime request = fields.msg := by
        rw [Adapter.typedInput, decoded]
      rw [named, typed, ← here, input]
      exact ⟨_, _, rfl, _, rfl, fun prior => extends_extendSession prior _ _ _ _ _ _⟩

end

section

variable {ι : Type} (key : SessionKey) (typed : ι → Str) (registry : Registry)

def LegAt (race : InputRace ι) (leg : ι) : Phase Str → Prop
  | .idle => IsInput key (typed leg) registry (race.legs leg) ∨
      ReadsThenExtends key (typed leg) (race.legs leg)
  | .holding trail => race.seen leg = some trail ∧
      ∃ prior : ActiveSession, prior.ussdString = trail ∧
        Extends key (typed leg) prior (race.legs leg)
  | .written => Finished (race.legs leg)

structure Traces (race : InputRace ι) (image : State ι Str) : Prop where
  routes : race.world.registry = registry
  cell : race.cachedTrail key = some image.cell
  legs : ∀ leg, LegAt key typed registry race leg (image.phase leg)
  nodup : image.order.Nodup
  order : ∀ leg, leg ∈ image.order ↔ image.phase leg = .written

def traceOf (race : InputRace ι) (leg : ι) : Option (Event ι) :=
  match race.legs leg with
  | .perform (.getActiveSession _) _ => some (.read leg)
  | .perform (.upsertActiveSession _) _ => some (.write leg)
  | _ => none

end

section

variable {ι : Type} {key : SessionKey} {typed : ι → Str} {registry : Registry}
  {race : InputRace ι} {image : State ι Str} {leg : ι}

theorem not_finished_call (op : GatewayOp) (rest : op.Answer → Program UnifiedRequest) :
    ¬ Finished (Prog.call (S := gatewayOps) op >>= rest) := by
  rintro ⟨ur, done⟩
  rw [Prog.call_bind] at done
  cases done

theorem finished_iff (traces : Traces key typed registry race image) (leg : ι) :
    Finished (race.legs leg) ↔ image.phase leg = .written := by
  have here := traces.legs leg
  rcases phase : image.phase leg with _ | trail | _
  · rw [phase] at here
    rcases here with ⟨name, rest, program, _⟩ | ⟨rest, program, _⟩ <;>
    · rw [program]
      exact iff_of_false (not_finished_call _ _) (by simp)
  · rw [phase] at here
    obtain ⟨_, prior, _, values, ur, program, _⟩ := here
    rw [program]
    exact iff_of_false (not_finished_call _ _) (by simp)
  · rw [phase] at here
    exact iff_of_true here rfl

theorem inputsKept_iff (traces : Traces key typed registry race image) (trail : Str) :
    InputsKept key trail typed race ↔ Merged (extendBy typed) trail image := by
  constructor
  · rintro ⟨order, nodup, finished, cached⟩
    refine ⟨order, ?_, Option.some.inj (traces.cell.symm.trans cached)⟩
    rw [List.perm_ext_iff_of_nodup nodup traces.nodup]
    intro leg
    rw [finished leg, finished_iff traces leg, traces.order leg]
  · rintro ⟨order, permuted, cell⟩
    refine ⟨order, permuted.nodup_iff.2 traces.nodup, ?_, cell ▸ traces.cell⟩
    intro leg
    rw [permuted.mem_iff, traces.order leg, finished_iff traces leg]

theorem stillFinds_iff (traces : Traces key typed registry race image)
    (event : Event ι) (traced : traceOf race leg = some event) :
    StillFinds key race leg ↔ FindsItsRead image event := by
  have here := traces.legs leg
  rcases phase : image.phase leg with _ | trail | _
  · rw [phase] at here
    rcases here with ⟨name, rest, program, _⟩ | ⟨rest, program, _⟩
    · rw [traceOf, program] at traced
      cases traced
    · rw [traceOf, program] at traced
      cases traced
      refine iff_of_true ?_ trivial
      rintro ⟨values, next, writes⟩
      rw [program] at writes
      cases writes
  · rw [phase] at here
    obtain ⟨seen, prior, _, values, ur, program, _⟩ := here
    rw [traceOf, program] at traced
    cases traced
    simp only [StillFinds, FindsItsRead, seen, phase, traces.cell, Option.some.injEq, forall_eq',
      Phase.holding.injEq]
    constructor
    · intro finds
      exact finds ⟨values, _, program⟩
    · intro finds _
      exact finds
  · rw [phase] at here
    obtain ⟨ur, program⟩ := here
    rw [traceOf, program] at traced
    cases traced

theorem stillFinds_of_untraced (untraced : traceOf race leg = none) : StillFinds key race leg := by
  rintro ⟨values, next, program⟩
  rw [traceOf, program] at untraced
  cases untraced

end

section

variable {ι : Type} [DecidableEq ι] {environment : Environment} {key : SessionKey}
  {typed : ι → Str} {registry : Registry} {race after : InputRace ι} {image : State ι Str}
  {leg : ι}

def InputRace.moved (race : InputRace ι) (leg : ι) (world : World)
    (program : Program UnifiedRequest) (seen : Option Str) : InputRace ι where
  world := world
  legs := Function.update race.legs leg program
  seen := Function.update race.seen leg seen

theorem step_call {op : GatewayOp} {rest : op.Answer → Program UnifiedRequest}
    {answer : op.Answer} {world : World}
    (program : race.legs leg = Prog.call (S := gatewayOps) op >>= rest)
    (answered : perform environment op race.world = (.ok answer, world)) :
    race.step environment leg = some (race.moved leg world (rest answer)
      ((trailRead op (.ok answer)).orElse fun _ => race.seen leg)) := by
  rw [InputRace.step, program, Prog.call_bind]
  simp only [answered, InputRace.moved]

theorem legs_moved (traces : Traces key typed registry race image) {world : World}
    {program : Program UnifiedRequest} {seen : Option Str} {phase : Phase Str}
    (here : LegAt key typed registry (race.moved leg world program seen) leg phase) (other : ι) :
    LegAt key typed registry (race.moved leg world program seen) other
      (Function.update image.phase leg phase other) := by
  by_cases same : other = leg
  · rw [same, Function.update_self]
    exact here
  · rw [Function.update_of_ne same]
    have before := traces.legs other
    simp only [LegAt, InputRace.moved, Function.update_of_ne same] at before ⊢
    exact before

theorem traces_operatorId (traces : Traces key typed registry race image)
    (phase : image.phase leg = .idle)
    (asks : IsInput key (typed leg) registry (race.legs leg))
    (stepped : race.step environment leg = some after) :
    traceOf race leg = none ∧ Traces key typed registry after image := by
  obtain ⟨name, rest, program, reads⟩ := asks
  have silent : traceOf race leg = none := by
    rw [traceOf, program]
    rfl
  have moved : after = race.moved leg race.world (rest (registry.operatorId name))
      (race.seen leg) := by
    rw [← traces.routes]
    exact Option.some.inj (stepped.symm.trans (step_call program rfl))
  refine ⟨silent, ?_⟩
  subst moved
  refine ⟨traces.routes, traces.cell, ?_, traces.nodup, traces.order⟩
  have here : LegAt key typed registry (race.moved leg race.world
      (rest (registry.operatorId name)) (race.seen leg)) leg .idle := by
    simp only [LegAt, InputRace.moved, Function.update_self]
    exact Or.inr reads
  have legs := legs_moved traces here
  rw [← phase, Function.update_eq_self] at legs
  exact legs

theorem traces_read (traces : Traces key typed registry race image)
    (phase : image.phase leg = .idle) (reads : ReadsThenExtends key (typed leg) (race.legs leg))
    (stepped : race.step environment leg = some after) :
    traceOf race leg = some (.read leg) ∧ ∃ image',
      ReadModifyWrite.step (extendBy typed) image (.read leg) = some image' ∧
        Traces key typed registry after image' := by
  obtain ⟨rest, program, extends_⟩ := reads
  have traced : traceOf race leg = some (.read leg) := by
    rw [traceOf, program]
    rfl
  obtain ⟨row, cached, trail⟩ := Option.map_eq_some_iff.1 traces.cell
  obtain ⟨prior, answered, same⟩ : ∃ prior : ActiveSession,
      SessionTable.getActiveSession race.world.sessions race.world.now key = some prior ∧
        prior.ussdString = image.cell := by
    rw [SessionTable.getActiveSession, cached]
    exact ⟨_, rfl, trail⟩
  have performed : perform environment (.getActiveSession key) race.world =
      (.ok (some prior), race.world) := by
    rw [perform, answered]
  have moved : after = race.moved leg race.world (rest (some prior)) (some image.cell) := by
    rw [← same]
    exact Option.some.inj (stepped.symm.trans (step_call program performed))
  refine ⟨traced, { image with
    phase := Function.update image.phase leg (.holding image.cell) }, ?_, ?_⟩
  · rw [ReadModifyWrite.step, phase]
  subst moved
  refine ⟨traces.routes, traces.cell, legs_moved traces ?_, traces.nodup, ?_⟩
  · simp only [LegAt, InputRace.moved, Function.update_self]
    exact ⟨trivial, prior, same, extends_ prior⟩
  · intro other
    rw [traces.order other]
    by_cases here : other = leg
    · subst here
      simp [phase]
    · simp only [Function.update_of_ne here]

theorem traces_write {trail : Str} {prior : ActiveSession}
    (traces : Traces key typed registry race image) (phase : image.phase leg = .holding trail)
    (held : prior.ussdString = trail) (writes : Extends key (typed leg) prior (race.legs leg))
    (stepped : race.step environment leg = some after) :
    traceOf race leg = some (.write leg) ∧ ∃ image',
      ReadModifyWrite.step (extendBy typed) image (.write leg) = some image' ∧
        Traces key typed registry after image' := by
  obtain ⟨values, ur, program, keyed, extended⟩ := writes
  have traced : traceOf race leg = some (.write leg) := by
    rw [traceOf, program]
    rfl
  have moved : after = race.moved leg (race.world.upserted values) (.done ur) (race.seen leg) :=
    Option.some.inj (stepped.symm.trans (step_call program rfl))
  obtain ⟨row, cached, trailed⟩ :=
    SessionTable.ussdString_upsertActiveSession race.world.sessions race.world.now values
  refine ⟨traced, { cell := extendBy typed leg trail
                    phase := Function.update image.phase leg .written
                    order := image.order ++ [leg] }, ?_, ?_⟩
  · rw [ReadModifyWrite.step, phase]
  subst moved
  have unwritten : leg ∉ image.order := by
    rw [traces.order leg, phase]
    simp
  refine ⟨traces.routes, ?_, legs_moved traces ?_, ?_, ?_⟩
  · rw [keyed] at cached
    simp only [InputRace.cachedTrail, InputRace.moved, World.upserted, cached, Option.map_some,
      trailed, extended, held, extendBy]
  · simp only [LegAt, InputRace.moved, Function.update_self]
    exact ⟨ur, rfl⟩
  · rw [← List.concat_eq_append]
    exact traces.nodup.concat unwritten
  · intro other
    rw [List.mem_append, List.mem_singleton, traces.order other]
    by_cases here : other = leg
    · simp [here]
    · simp [here]

theorem race_simulates (environment : Environment) (trail : Str) (start : InputRace ι → Prop) :
    StepSystem.Simulates ⟨start, InputRace.step environment⟩ (clients (extendBy typed) trail)
      (Traces key typed registry) traceOf where
  step := by
    intro race image leg after traces stepped
    have here := traces.legs leg
    rcases phase : image.phase leg with _ | held | _
    · rw [phase] at here
      rcases here with asks | reads
      · exact Or.inl (traces_operatorId traces phase asks stepped)
      · obtain ⟨traced, image', moved, kept⟩ := traces_read traces phase reads stepped
        exact Or.inr ⟨_, image', traced, moved, kept⟩
    · rw [phase] at here
      obtain ⟨_, prior, same, writes⟩ := here
      obtain ⟨traced, image', moved, kept⟩ := traces_write traces phase same writes stepped
      exact Or.inr ⟨_, image', traced, moved, kept⟩
    · rw [phase] at here
      obtain ⟨ur, done⟩ := here
      simp only [InputRace.step, done] at stepped
      cases stepped

theorem stillFinds_of_blocked (blocked : race.step environment leg = none) :
    StillFinds key race leg := by
  rintro ⟨values, next, program⟩
  simp only [InputRace.step, program] at blocked
  cases blocked

end

/-! No input is lost exactly when each write still finds the trail that was read. -/

section

variable {ι : Type} {runtime : PyRuntime} {environment : Environment}
  {adapter : Adapter} {world : World} {key : SessionKey} {trail : Str} {requests : ι → Request}

def AreInputs (runtime : PyRuntime) (environment : Environment) (adapter : Adapter)
    (world : World) (key : SessionKey) (requests : ι → Request) : Prop :=
  ∀ leg, ∃ ur after, (adapter.parse runtime (requests leg)).run (perform environment) world =
    (.ok ur, after) ∧ ur.event = .input ∧ legKey world adapter ur = key

theorem traces_start
    (cached : (world.sessions.find key).map ActiveSessionRow.ussdString = some trail)
    (inputs : AreInputs runtime environment adapter world key requests) :
    Traces key (fun leg => adapter.typedInput runtime (requests leg)) world.registry
      (InputRace.start runtime adapter requests world) (fresh trail) where
  routes := rfl
  cell := cached
  legs := by
    intro leg
    obtain ⟨ur, after, ran, input, keyed⟩ := inputs leg
    exact Or.inl (keyed ▸ input_program ran input)
  nodup := List.nodup_nil
  order leg := by simp [fresh]

/-- For every family of INPUT legs of one cached session and every interleaving of their reads and
writes: at each step the trail holds the input of every leg that has finished, each once, if and
only if each leg, as it writes, still finds the trail it read. -/
theorem inputs_kept_iff [DecidableEq ι]
    (cached : (world.sessions.find key).map ActiveSessionRow.ussdString = some trail)
    (inputs : AreInputs runtime environment adapter world key requests) (events : List ι) :
    (inputRaces environment runtime adapter requests world).Along
        (fun race leg => ∀ after, race.step environment leg = some after →
          InputsKept key trail (fun leg => adapter.typedInput runtime (requests leg)) after)
        (InputRace.start runtime adapter requests world) events ↔
      (inputRaces environment runtime adapter requests world).Along (StillFinds key)
        (InputRace.start runtime adapter requests world) events := by
  have related := traces_start cached inputs
  have simulates := @race_simulates ι _ key (fun leg => adapter.typedInput runtime (requests leg))
    world.registry environment trail
    fun race => race = InputRace.start runtime adapter requests world
  have merged := StepSystem.along_states_iff_of_simulates simulates
    (fun race image traces => inputsKept_iff traces trail) related
    ((inputsKept_iff related trail).2 ⟨[], List.Perm.refl _, rfl⟩) events
  have finds := StepSystem.along_iff_of_simulates simulates
    (fun race leg blocked => stillFinds_of_blocked blocked)
    (fun race image leg after _ _ untraced => stillFinds_of_untraced untraced)
    (fun race image leg after event traces _ traced => stillFinds_iff traces event traced)
    related events
  exact merged.trans ((merged_along_iff (trails_growing _) _).trans finds.symm)

end

def airtelInput (typed : String) : Request :=
  { airtelDial with
    queryParams := [(lit "msisdn", lit "255780000001"), (lit "sessionid", lit "S1"),
      (lit "input", lit typed)] }

def dialedWorld : World :=
  (serve sampleRuntime sampleSettings (sampleEnvironment (lit "CON Karibu"))
    (handleUssd sampleRuntime sampleSettings Adapter.airtel.operator airtelDial) sampleWorld).2

def dialedKey : SessionKey := (lit "S1", 2)

def twoInputs (second : Bool) : Request := airtelInput (if second then "2" else "1")

/-- Both legs read before either writes, and the second write drops the input of the first. -/
theorem second_write_drops_input :
    ∃ race, (inputRaces (sampleEnvironment []) sampleRuntime .airtel twoInputs dialedWorld).run
        (InputRace.start sampleRuntime .airtel twoInputs dialedWorld)
        [false, false, true, true, false, true] = some race ∧
      (∀ leg, Finished (race.legs leg)) ∧ race.cachedTrail dialedKey = some (lit "2") ∧
      ¬ InputsKept dialedKey []
        (fun leg => Adapter.airtel.typedInput sampleRuntime (twoInputs leg)) race := by
  refine ⟨_, rfl, ?_, rfl, ?_⟩
  · intro leg
    cases leg <;> exact ⟨_, rfl⟩
  · rintro ⟨order, nodup, finished, cached⟩
    have all : order.Perm [false, true] := by
      rw [List.perm_ext_iff_of_nodup nodup (by decide)]
      intro leg
      rw [finished leg]
      cases leg <;> exact iff_of_true ⟨_, rfl⟩ (by decide)
    let typed := fun leg => Adapter.airtel.typedInput sampleRuntime (twoInputs leg)
    have measured : trailMeasure (applyAll (extendBy typed) [] order) =
        trailMeasure [] + (order.map fun leg => inputWeight (typed leg)).sum :=
      measure_applyAll (trails_growing typed) order
    rw [← Option.some.inj cached, (all.map _).sum_eq] at measured
    exact absurd measured (by decide)

theorem two_inputs_in_turn :
    (inputRaces (sampleEnvironment []) sampleRuntime .airtel twoInputs dialedWorld).Along
      (fun race leg => ∀ after, race.step (sampleEnvironment []) leg = some after →
        InputsKept dialedKey []
          (fun leg => Adapter.airtel.typedInput sampleRuntime (twoInputs leg)) after)
      (InputRace.start sampleRuntime .airtel twoInputs dialedWorld)
      [false, false, false, true, true, true] := by
  have inputs : AreInputs sampleRuntime (sampleEnvironment []) .airtel dialedWorld dialedKey
      twoInputs := by
    intro leg
    cases leg <;> exact ⟨_, _, rfl, rfl, rfl⟩
  refine (inputs_kept_iff rfl inputs _).2 ?_
  have unread : ∀ race : InputRace Bool, ∀ leg, race.seen leg = none →
      StillFinds dialedKey race leg := by
    intro race leg none_ _ trail seen
    rw [none_] at seen
    cases seen
  have found : ∀ race : InputRace Bool, ∀ leg, race.seen leg = race.cachedTrail dialedKey →
      StillFinds dialedKey race leg := by
    intro race leg same _ trail seen
    exact same ▸ seen
  refine (StepSystem.along_cons rfl).2 ⟨unread _ _ rfl, ?_⟩
  refine (StepSystem.along_cons rfl).2 ⟨unread _ _ rfl, ?_⟩
  refine (StepSystem.along_cons rfl).2 ⟨found _ _ rfl, ?_⟩
  refine (StepSystem.along_cons rfl).2 ⟨unread _ _ rfl, ?_⟩
  refine (StepSystem.along_cons rfl).2 ⟨unread _ _ rfl, ?_⟩
  exact (StepSystem.along_cons rfl).2 ⟨found _ _ rfl, trivial⟩

end UssdGateway
