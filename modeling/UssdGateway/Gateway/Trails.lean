import UssdGateway.Gateway.InlineDialing
import UssdGateway.Gateway.SessionRows
import UssdGateway.Library.Trimming

/-!
The texts of a session and the trail that its legs make of them: what is dialed after the code, then
what each INPUT leg brings.
-/

namespace UssdGateway

open EffectProgram

structure SessionTexts where
  dialed : Str
  typed : List Str

namespace SessionTexts

def trail (texts : SessionTexts) : Str := texts.typed.foldl accumulateUssdString texts.dialed

def spoken (texts : SessionTexts) : List Str :=
  (texts.dialed :: texts.typed.map Str.strip).filter (· ≠ [])

def more (texts : SessionTexts) (input : Str) : SessionTexts :=
  { texts with typed := texts.typed ++ [input] }

theorem trail_more (texts : SessionTexts) (input : Str) :
    (texts.more input).trail = accumulateUssdString texts.trail input := by
  rw [trail, more, List.foldl_append]
  rfl

theorem spoken_more (texts : SessionTexts) (input : Str) :
    (texts.more input).spoken = texts.spoken ++ [Str.strip input].filter (· ≠ []) := by
  rw [spoken, more, List.map_append, ← List.cons_append, List.filter_append]
  rfl

theorem trail_eq_join (texts : SessionTexts) : texts.trail = Str.join [star] texts.spoken := by
  obtain ⟨dialed, typed⟩ := texts
  induction typed using List.reverseRecOn with
  | nil =>
      by_cases blank : dialed = []
      · simp [trail, spoken, blank, Str.join, List.intercalate]
      · simp [trail, spoken, blank, Str.join, List.intercalate]
  | append_singleton typed input ih =>
      change ((⟨dialed, typed⟩ : SessionTexts).more input).trail =
        Str.join [star] ((⟨dialed, typed⟩ : SessionTexts).more input).spoken
      rw [trail_more, spoken_more, ih]
      apply accumulate_join
      intro part member
      simpa using (List.mem_filter.1 member).2

end SessionTexts

theorem join_eq_token_iff {parts : List Str} {token : Str} (nonempty : token ≠ [])
    (whole : star ∉ token) : Str.join [star] parts = token ↔ parts = [token] := by
  rcases parts with _ | ⟨first, _ | ⟨second, rest⟩⟩
  · simp [Str.join, nonempty.symm]
  · simp [Str.join, List.intercalate]
  · rw [join_cons_cons]
    refine iff_of_false ?_ (by simp)
    rintro rfl
    exact whole (by simp)

def Registry.dialedRest (registry : Registry) (operatorId : Nat) (dialed : Str) : Str :=
  ((registry.dialMatch operatorId dialed).map ShortcodePrefixMatch.remainder).getD []

theorem startRoute_snd (registry : Registry) (operatorId : Nat) (fallback dialed : Str) :
    (registry.startRoute operatorId fallback dialed).2 = registry.dialedRest operatorId dialed := by
  rw [Registry.startRoute, Registry.dialedRest]
  rcases registry.dialMatch operatorId dialed with _ | known <;> rfl

theorem strip_strip (text : Str) : Str.strip (Str.strip text) = Str.strip text :=
  Trimming.strip_strip CodePoint.isSpace text

section

variable {runtime : PyRuntime} {environment : Environment} {request : Request} {adapter : Adapter}
  {before parsed : World} {ur : UnifiedRequest}

theorem start_trail (ran : (adapter.parse runtime request).run (perform environment) before =
      (.ok ur, parsed)) (start : ur.event = .start) :
    ur.ussdString = before.registry.dialedRest (before.registry.operatorId adapter.operator)
      (normaliseDialed (adapter.dialed runtime request)) := by
  obtain ⟨fallback, _, _, _, rfl, _, rest, _⟩ := start_program ran start
  rw [rest, startRoute_snd]

theorem input_trail (ran : (adapter.parse runtime request).run (perform environment) before =
      (.ok ur, parsed)) (input : ur.event = .input) {row : ActiveSessionRow}
    (cached : before.sessions.find (legKey before adapter ur) = some row) :
    ur.ussdString =
      accumulateUssdString row.ussdString (adapter.typedInput runtime request) := by
  obtain ⟨name, rest, same, more, reads, extended⟩ := input_program ran input
  have written : ∃ values, values.key = legKey before adapter ur ∧
      values.ussdString = accumulateUssdString row.ussdString (adapter.typedInput runtime request) ∧
      parsed = before.upserted values := by
    rw [same, Prog.run_bind, run_operatorId] at ran
    dsimp only at ran
    rw [reads, Prog.run_bind, run_getActiveSession, SessionTable.getActiveSession, cached] at ran
    dsimp only [Option.map_some] at ran
    obtain ⟨values, sent, writes, keyed, trail⟩ := extended _
    rw [writes, Prog.run_bind, run_upsertActiveSession] at ran
    exact ⟨values, keyed, trail, (congrArg Prod.snd ran).symm⟩
  obtain ⟨values, keyed, trail, rfl⟩ := written
  cases (parse_spec ran).cases with
  | opened _ event => rw [input] at event; cases event
  | lost _ absent => rw [absent] at cached; cases cached
  | observed event => simp [input, SessionEvent.isTerminal] at event
  | extended prior other _ _ otherKeyed otherTrail written =>
      rw [← trail, ← otherTrail]
      obtain ⟨one, found, carries⟩ := SessionTable.ussdString_upsertActiveSession
        before.sessions before.now values
      obtain ⟨two, otherFound, otherCarries⟩ := SessionTable.ussdString_upsertActiveSession
        before.sessions before.now other
      rw [← written, otherKeyed, ← keyed] at otherFound
      rw [← carries, ← otherCarries, Option.some.inj (found.symm.trans otherFound)]

theorem lost_trail (ran : (adapter.parse runtime request).run (perform environment) before =
      (.ok ur, parsed)) (input : ur.event = .input)
    (absent : before.sessions.find (legKey before adapter ur) = none) :
    ur.ussdString = Str.strip (adapter.typedInput runtime request) := by
  obtain ⟨part, same, sessionPart⟩ := exists_sessionPart ran
  rw [same] at ran
  rw [legKey] at absent
  cases sessionPart with
  | @vodacom fields event decoded wire =>
      obtain ⟨named, here | ⟨_, terminal⟩⟩ := vodacom_leg ran
      · have typed : Adapter.vodacom.typedInput runtime request = fields.msg := by
          rw [Adapter.typedInput, decoded]
        rw [input] at here
        subst here
        rw [named] at absent
        simp only [Vodacom.sessionPart, Prog.run_bind, run_operatorId, run_getActiveSession,
          SessionTable.getActiveSession, absent, Option.map_none, Prog.pure_eq_done,
          Prog.run_done, Prod.mk.injEq, Except.ok.injEq] at ran
        rw [← ran.1, typed]
      · rw [input] at terminal
        cases terminal
  | airtel =>
      rw [(airtel_leg ran).1] at absent
      simp only [Airtel.sessionPart, Prog.run_bind, run_operatorId, run_getActiveSession,
        SessionTable.getActiveSession, absent, Option.map_none, run_openSession,
        Prog.pure_eq_done, Prog.run_done, Prod.mk.injEq, Except.ok.injEq] at ran
      rw [← ran.1] at input
      cases input
  | tigo =>
      obtain ⟨named, here⟩ := tigo_leg ran
      have continued : Tigo.isNewRequest (readQueryOrForm runtime request) = false := by
        by_contra opened
        rw [if_pos (by simpa using opened), input] at here
        cases here
      rw [named] at absent
      simp only [Tigo.sessionPart, Prog.run_bind, run_operatorId, continued, Bool.false_eq_true,
        if_false, run_getActiveSession, SessionTable.getActiveSession, absent, Option.map_none,
        Prog.pure_eq_done, Prog.run_done, Prod.mk.injEq, Except.ok.injEq] at ran
      rw [← ran.1, Adapter.typedInput, continued]
      exact (strip_strip _).symm
  | @halotel fields event decoded wire =>
      obtain ⟨named, here⟩ := halotel_leg ran
      have typed : Adapter.halotel.typedInput runtime request = fields.msg := by
        rw [Adapter.typedInput, decoded]
      rw [input] at here
      subst here
      rw [named] at absent
      simp only [Halotel.sessionPart, Prog.run_bind, run_operatorId, run_getActiveSession,
        SessionTable.getActiveSession, absent, Option.map_none, Prog.pure_eq_done,
        Prog.run_done, Prod.mk.injEq, Except.ok.injEq] at ran
      rw [← ran.1, typed]

end

structure TextedWorld extends World where
  texts : SessionKey → SessionTexts

section

variable (runtime : PyRuntime) (settings : Settings)

/-- A START leg begins a session's texts, and so does an INPUT leg without a cache row. -/
def Leg.texts (leg : Leg) (world : TextedWorld) (ur : UnifiedRequest) : SessionTexts :=
  let key := legKey world.toWorld leg.adapter ur
  let typed := leg.adapter.typedInput runtime leg.request
  if ur.event = .start then
    { dialed := world.registry.dialedRest (world.registry.operatorId leg.adapter.operator)
        (normaliseDialed (leg.adapter.dialed runtime leg.request))
      typed := [] }
  else
    match world.sessions.find key with
    | some _ => (world.texts key).more typed
    | none => { dialed := [], typed := [typed] }

def TextedWorld.textsAfter (world : TextedWorld) (leg : Leg) : SessionKey → SessionTexts :=
  match (leg.parsed runtime world.toWorld).1 with
  | .ok ur =>
      if ur.event.isMenu then
        Function.update world.texts (legKey world.toWorld leg.adapter ur)
          (leg.texts runtime world ur)
      else world.texts
  | .error _ => world.texts

def TextedWorld.step (world : TextedWorld) (event : ServiceEvent) : TextedWorld where
  toWorld := serviceEvent runtime settings world.toWorld event
  texts :=
    match event with
    | .gateway (.leg leg) => world.textsAfter runtime leg
    | _ => world.texts

def textedRuns : StepSystem TextedWorld ServiceEvent where
  initial world := world.sessions.rows = []
  step world event := some (world.step runtime settings event)

end

/-- The cache rows carry the trails of their sessions' texts. -/
def TextedWorld.TrailsKept (world : TextedWorld) : Prop :=
  ∀ row ∈ world.sessions.rows, row.ussdString = (world.texts row.key).trail

section

variable {runtime : PyRuntime} {settings : Settings} {world : TextedWorld}

theorem TextedWorld.TrailsKept.leg_trail (kept : world.TrailsKept) {leg : Leg}
    {ur : UnifiedRequest} {parsed : World}
    (ran : leg.parsed runtime world.toWorld = (.ok ur, parsed)) (menu : ur.event.isMenu = true) :
    ur.ussdString = (leg.texts runtime world ur).trail := by
  have alone : (leg.adapter.parse runtime leg.request).run (perform leg.environment)
      world.toWorld.idle = (.ok ur, parsed) := ran
  rw [Leg.texts]
  by_cases start : ur.event = .start
  · rw [if_pos start]
    have trail := start_trail alone start
    exact trail
  · have input : ur.event = .input := by
      rcases event : ur.event <;> simp_all [SessionEvent.isMenu]
    rw [if_neg start]
    rcases found : world.sessions.find (legKey world.toWorld leg.adapter ur) with _ | row
    · dsimp only
      rw [lost_trail alone input found, SessionTexts.trail, List.foldl_cons, List.foldl_nil,
        accumulateUssdString]
      split
      next blank => exact blank
      next => rfl
    · obtain ⟨member, named⟩ := (KeyedTable.find_eq_some_iff _ _ _).1 found
      dsimp only
      rw [input_trail alone input found, kept row member, SessionTexts.trail_more]
      exact congrArg (fun key => accumulateUssdString (world.texts key).trail _) named

theorem TextedWorld.TrailsKept.of_shrunk {after : TextedWorld} (kept : world.TrailsKept)
    (shrunk : Shrunk world.toWorld after.toWorld) (texts : after.texts = world.texts) :
    after.TrailsKept := by
  intro row member
  rw [texts]
  exact kept row (shrunk.rows row member)

theorem ussdString_of_mem_upsert {table : SessionTable} {now : Nat} {values : SessionUpsert}
    {row : ActiveSessionRow}
    (member : row ∈ (SessionTable.upsertActiveSession table now values).rows)
    (keyed : row.key = values.key) : row.ussdString = values.ussdString := by
  obtain ⟨written, found, carries⟩ := SessionTable.ussdString_upsertActiveSession table now values
  have same := (KeyedTable.find_eq_some_iff _ _ _).2 ⟨member, keyed⟩
  rw [← carries, Option.some.inj (same.symm.trans found)]

theorem TextedWorld.TrailsKept.written (kept : world.TrailsKept) {values : SessionUpsert}
    {texts : SessionTexts} (trail : values.ussdString = texts.trail) :
    TextedWorld.TrailsKept { world with
      sessions := SessionTable.upsertActiveSession world.sessions world.now values
      texts := Function.update world.texts values.key texts } := by
  intro row member
  rcases mem_upsertActiveSession member with ⟨old, apart⟩ | ⟨keyed, _⟩
  · exact (kept row old).trans
      (congrArg SessionTexts.trail (Function.update_of_ne apart _ _).symm)
  · change _ = (Function.update world.texts values.key texts row.key).trail
    rw [keyed, Function.update_self, ussdString_of_mem_upsert member keyed, trail]

theorem TextedWorld.TrailsKept.legged (kept : world.TrailsKept) (leg : Leg) :
    (world.step runtime settings (.gateway (.leg leg))).TrailsKept := by
  have after : (world.step runtime settings (.gateway (.leg leg))).texts =
      world.textsAfter runtime leg := rfl
  rcases ran : leg.parsed runtime world.toWorld with ⟨error | ur, parsed⟩
  · refine kept.of_shrunk (shrunk_refused ran) ?_
    rw [after, TextedWorld.textsAfter, ran]
  · have served := @shrunk_served _ settings _ _ _ _ ran
    have texts : (world.step runtime settings (.gateway (.leg leg))).texts =
        if ur.event.isMenu then
          Function.update world.texts (legKey world.toWorld leg.adapter ur)
            (leg.texts runtime world ur)
        else world.texts := by
      rw [after, TextedWorld.textsAfter, ran]
    have frame := (parse_spec ran).frame
    have written : ∀ values : SessionUpsert, ur.event.isMenu = true →
        values.key = legKey world.toWorld leg.adapter ur → values.ussdString = ur.ussdString →
        parsed.sessions =
          SessionTable.upsertActiveSession world.sessions world.now values →
        (world.step runtime settings (.gateway (.leg leg))).TrailsKept := by
      intro values menu keyed trail rows
      refine (kept.written (trail.trans (kept.leg_trail ran menu))).of_shrunk
        ⟨served.registry.trans (by rw [frame]; rfl), ?_⟩ ?_
      · intro row member
        exact rows ▸ served.rows row member
      · rw [texts, if_pos menu, keyed]
    have unwritten : parsed.sessions = world.sessions →
        (ur.event.isMenu = true →
          world.sessions.find (legKey world.toWorld leg.adapter ur) = none) →
        (world.step runtime settings (.gateway (.leg leg))).TrailsKept := by
      intro same absent row member
      have old : row ∈ world.sessions.rows := same ▸ served.rows row member
      rw [texts]
      split
      next menu =>
        have apart : row.key ≠ legKey world.toWorld leg.adapter ur := by
          rintro keyed
          have found := (KeyedTable.find_eq_some_iff _ _ _).2 ⟨old, keyed⟩
          exact nomatch found.symm.trans (absent menu)
        rw [Function.update_of_ne apart]
        exact kept row old
      next => exact kept row old
    cases (parse_spec ran).cases with
    | opened values event keyed trail _ rows =>
        exact written values (by rw [event]; rfl) keyed trail rows
    | extended prior values event cached keyed trail rows =>
        exact written values (by rw [event]; rfl) keyed trail rows
    | lost _ absent _ _ same => exact unwritten same fun _ => absent
    | observed event same =>
        refine unwritten same fun menu => ?_
        rcases event with terminal | acked
        · rw [not_isTerminal_of_isMenu menu] at terminal
          cases terminal
        · rw [acked] at menu
          cases menu

theorem TextedWorld.TrailsKept.kept (kept : world.TrailsKept) (event : ServiceEvent) :
    (world.step runtime settings event).TrailsKept := by
  rcases event with (leg | lost | registry | micros) | environment
  · exact kept.legged leg
  · exact kept.of_shrunk ⟨rfl, fun row member => List.mem_of_mem_filter member⟩ rfl
  · exact kept
  · exact kept
  · exact kept.of_shrunk (shrunk_swept _) rfl

end

end UssdGateway
