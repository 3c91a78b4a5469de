import UssdGateway.Gateway.Trails

/-!
The bodies by which a handler learns that a session is over, next to those of the session's START
and INPUT legs. In the legacy shape the trail field carries a sentinel there, and nothing else
tells the two apart.
-/

namespace UssdGateway

/-- The bodies of a session's end differ from that of this leg, and from one another by kind. -/
structure ToldApart (shortcode : ShortcodeRow) (ur : UnifiedRequest) : Prop where
  leg : ∀ ended : UnifiedRequest, ended.event.isSessionEnded = true →
    ended.operator = ur.operator → ended.sessionId = ur.sessionId →
    buildHandlerPayload shortcode ended ≠ buildHandlerPayload shortcode ur
  kinds : ∀ first second : UnifiedRequest, first.event.isSessionEnded = true →
    second.event.isSessionEnded = true → first.event ≠ second.event →
    buildHandlerPayload shortcode first ≠ buildHandlerPayload shortcode second

def SpeaksSentinel (texts : SessionTexts) : Prop :=
  ∃ event sentinel, legacySentinel event = some sentinel ∧ texts.spoken = [sentinel]

section

variable (runtime : PyRuntime) (shortcode : ShortcodeRow)

def EndsToldApart (world : TextedWorld) : ServiceEvent → Prop
  | .gateway (.leg leg) => ∀ ur parsed, leg.parsed runtime world.toWorld = (.ok ur, parsed) →
      ur.event.isMenu = true → ToldApart shortcode ur
  | _ => True

def SpeaksNoSentinel (world : TextedWorld) : ServiceEvent → Prop
  | .gateway (.leg leg) => ∀ ur parsed, leg.parsed runtime world.toWorld = (.ok ur, parsed) →
      ur.event.isMenu = true → shortcode.payloadFormat = .legacy →
      ¬ SpeaksSentinel (leg.texts runtime world ur)
  | _ => True

end

theorem SessionEvent.value_injective : Function.Injective SessionEvent.value := by
  intro first second same
  cases first <;> cases second <;> first | rfl | exact absurd same (by decide)

theorem legacySentinel_injective {first second : SessionEvent}
    (ended : first.isSessionEnded = true)
    (same : legacySentinel first = legacySentinel second) : first = second := by
  cases first <;> cases second <;> first | rfl | exact absurd same (by decide) | cases ended

theorem legacySentinel_isSome_iff (event : SessionEvent) :
    (legacySentinel event).isSome = true ↔ event.isSessionEnded = true := by
  cases event <;> decide

theorem sentinel_token {event : SessionEvent} {sentinel : Str}
    (found : legacySentinel event = some sentinel) : sentinel ≠ [] ∧ star ∉ sentinel := by
  cases event <;> simp only [legacySentinel, Option.some.injEq, reduceCtorEq] at found
  all_goals
    subst found
    exact ⟨lit_ne_nil (by decide), by decide⟩

theorem buildHandlerPayload_gateway {shortcode : ShortcodeRow} {first second : UnifiedRequest}
    (format : shortcode.payloadFormat = .gateway)
    (same : buildHandlerPayload shortcode first = buildHandlerPayload shortcode second) :
    first.event = second.event := by
  simp only [buildHandlerPayload, format, HandlerPayload.gateway.injEq] at same
  exact SessionEvent.value_injective same.2.2.2.2.2.1

theorem buildHandlerPayload_legacy {shortcode : ShortcodeRow} {first second : UnifiedRequest}
    (format : shortcode.payloadFormat = .legacy)
    (same : buildHandlerPayload shortcode first = buildHandlerPayload shortcode second) :
    (legacySentinel first.event).getD first.ussdString =
      (legacySentinel second.event).getD second.ussdString := by
  simp only [buildHandlerPayload, format, HandlerPayload.legacy.injEq] at same
  exact same.2.2.2.2

theorem isSessionEnded_of_isMenu {event : SessionEvent} (menu : event.isMenu = true) :
    event.isSessionEnded = false := by
  cases event <;> simp_all [SessionEvent.isMenu, SessionEvent.isSessionEnded,
    SessionEvent.isTerminal]

theorem kinds_apart {shortcode : ShortcodeRow} {first second : UnifiedRequest}
    (ended : first.event.isSessionEnded = true) (also : second.event.isSessionEnded = true)
    (apart : first.event ≠ second.event) :
    buildHandlerPayload shortcode first ≠ buildHandlerPayload shortcode second := by
  intro same
  rcases format : shortcode.payloadFormat with _ | _
  · exact apart (buildHandlerPayload_gateway format same)
  · obtain ⟨one, found⟩ := Option.isSome_iff_exists.1 ((legacySentinel_isSome_iff _).2 ended)
    obtain ⟨two, alsoFound⟩ := Option.isSome_iff_exists.1 ((legacySentinel_isSome_iff _).2 also)
    have tokens := buildHandlerPayload_legacy format same
    rw [found, alsoFound, Option.getD_some, Option.getD_some] at tokens
    exact apart (legacySentinel_injective ended (by rw [found, alsoFound, tokens]))

theorem toldApart_iff {shortcode : ShortcodeRow} {ur : UnifiedRequest}
    (menu : ur.event.isMenu = true) :
    ToldApart shortcode ur ↔ (shortcode.payloadFormat = .legacy →
      ¬ ∃ event, legacySentinel event = some ur.ussdString) := by
  have plain : legacySentinel ur.event = none := by
    rw [← Option.not_isSome_iff_eq_none, legacySentinel_isSome_iff, isSessionEnded_of_isMenu menu]
    nofun
  constructor
  · rintro apart format ⟨event, found⟩
    have ended := (legacySentinel_isSome_iff event).1 (by rw [found]; rfl)
    refine apart.leg { ur with event } ended rfl rfl ?_
    simp [buildHandlerPayload, format, found, plain]
  · intro silent
    refine ⟨?_, fun first second => kinds_apart⟩
    intro ended ends _ _ same
    rcases format : shortcode.payloadFormat with _ | _
    · rw [buildHandlerPayload_gateway format same, isSessionEnded_of_isMenu menu] at ends
      cases ends
    · obtain ⟨sentinel, found⟩ := Option.isSome_iff_exists.1 ((legacySentinel_isSome_iff _).2 ends)
      have trail := buildHandlerPayload_legacy format same
      rw [found, plain, Option.getD_some, Option.getD_none] at trail
      exact silent format ⟨ended.event, found.trans (congrArg some trail)⟩

/-- In every run from an empty cache the bodies of sessions' ends are told apart from the START and
INPUT legs exactly when no legacy session has a sentinel for its only text. -/
theorem ends_told_apart_iff (runtime : PyRuntime) (settings : Settings)
    (shortcode : ShortcodeRow) {world : TextedWorld}
    (initial : (textedRuns runtime settings).initial world) (events : List ServiceEvent) :
    (textedRuns runtime settings).Along (EndsToldApart runtime shortcode) world events ↔
      (textedRuns runtime settings).Along (SpeaksNoSentinel runtime shortcode) world events := by
  have empty : world.sessions.rows = [] := initial
  have start : world.TrailsKept := fun row member => absurd (empty ▸ member) List.not_mem_nil
  refine StepSystem.along_iff_of_kept ?_ ?_ start events
  · intro world event kept
    rcases event with (leg | _ | _ | _) | _
    case gateway.leg =>
      refine forall_congr' fun ur => forall_congr' fun parsed => forall_congr' fun ran =>
        forall_congr' fun menu => ?_
      rw [toldApart_iff menu, kept.leg_trail ran menu, SessionTexts.trail_eq_join]
      refine imp_congr_right fun _ => not_congr (exists_congr fun event => ?_)
      constructor
      · intro found
        obtain ⟨nonempty, whole⟩ := sentinel_token found
        exact ⟨_, found, (join_eq_token_iff nonempty whole).1 rfl⟩
      · rintro ⟨sentinel, found, spoken⟩
        obtain ⟨nonempty, whole⟩ := sentinel_token found
        rw [(join_eq_token_iff nonempty whole).2 spoken, found]
    all_goals exact Iff.rfl
  · intro world event after kept _ stepped
    rw [← Option.some.inj stepped]
    exact kept.kept event

def legacyShortcode : ShortcodeRow :=
  { (sampleShortcode 12 1 "*149*46#").row (lit "vodacom") with payloadFormat := .legacy }

def textedWorld : TextedWorld := { dialWorld with texts := fun _ => { dialed := [], typed := [] } }

def sentinelInput : Leg := dialLeg "V2" "2" "__TIMEOUT__"

theorem menu_told_apart :
    (textedRuns sampleRuntime sampleSettings).Along (EndsToldApart sampleRuntime legacyShortcode)
      textedWorld [legEvent codeLeg, legEvent firstInput] := by
  refine (@ends_told_apart_iff sampleRuntime sampleSettings legacyShortcode textedWorld rfl _).2 ?_
  refine (StepSystem.along_cons rfl).2 ⟨?_, (StepSystem.along_cons rfl).2 ⟨?_, trivial⟩⟩
  · rintro ur parsed ran menu format ⟨event, sentinel, found, spoken⟩
    cases ran
    exact absurd spoken nofun
  · rintro ur parsed ran menu format ⟨event, sentinel, found, spoken⟩
    cases ran
    have typed : [lit "1"] = [sentinel] := spoken
    rw [← List.cons.inj typed |>.1] at found
    cases event <;> exact absurd found (by decide)

theorem input_as_timeout :
    ∃ ur parsed, sentinelInput.parsed sampleRuntime (afterLegs [codeLeg]) = (.ok ur, parsed) ∧
      ur.event = .input ∧ ur.ussdString = lit "__TIMEOUT__" := ⟨_, _, rfl, rfl, rfl⟩

theorem sentinel_typed_as_timeout :
    (textedRuns sampleRuntime sampleSettings).initial textedWorld ∧
      ¬ (textedRuns sampleRuntime sampleSettings).Along
        (EndsToldApart sampleRuntime legacyShortcode) textedWorld
        [legEvent codeLeg, legEvent sentinelInput] := by
  refine ⟨rfl, ?_⟩
  intro along
  obtain ⟨ur, parsed, ran, input, trail⟩ := input_as_timeout
  have second := ((StepSystem.along_cons rfl).1 along).2
  have menu : ur.event.isMenu = true := by rw [input]; rfl
  have apart := (toldApart_iff menu).1 (second.1 ur parsed ran menu) rfl
  exact apart ⟨.providerSessionTermination, by rw [trail]; rfl⟩

end UssdGateway
