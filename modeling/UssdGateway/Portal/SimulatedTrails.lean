import UssdGateway.Gateway.Trails
import UssdGateway.Portal.Simulator

/-!
What the simulator sends against what the gateway sends: on which texts of a tester the two make
the same requests of a session.
-/

namespace UssdGateway

open Simulator

def utf16Units : Str → Nat
  | [] => 0
  | point :: rest => (if point.val < 0x10000 then 1 else 2) + utf16Units rest

@[simp] theorem utf16Units_append (text more : Str) :
    utf16Units (text ++ more) = utf16Units text + utf16Units more := by
  induction text with
  | nil => simp [utf16Units]
  | cons point rest ih =>
      simp only [List.cons_append, utf16Units, ih]
      omega

theorem utf16Units_eq_zero_iff {text : Str} : utf16Units text = 0 ↔ text = [] := by
  rcases text with _ | ⟨point, rest⟩
  · simp [utf16Units]
  · simp only [utf16Units, reduceCtorEq, iff_false]
    split <;> omega

theorem utf16Units_star (text : Str) : utf16Units (star :: text) = 1 + utf16Units text := rfl

theorem cutUnits_basic {point : CodePoint} (basic : point.val < 0x10000) (units : Nat)
    (rest : Str) : cutUnits (units + 1) (point :: rest) =
      (point :: (cutUnits units rest).1, (cutUnits units rest).2) := by
  rw [cutUnits.eq_def]
  dsimp only
  rw [if_pos basic]

theorem cutUnits_astral {point : CodePoint} (astral : ¬ point.val < 0x10000) (units : Nat)
    (rest : Str) : cutUnits (units + 2) (point :: rest) =
      (point :: (cutUnits units rest).1, (cutUnits units rest).2) := by
  rw [cutUnits.eq_def]
  dsimp only
  rw [if_neg astral]

theorem cutUnits_append {units : Nat} {kept : Str} (fits : utf16Units kept ≤ units) (rest : Str) :
    (cutUnits units (kept ++ rest)).1 = kept ++ (cutUnits (units - utf16Units kept) rest).1 := by
  induction kept generalizing units with
  | nil => rfl
  | cons point kept ih =>
      rw [utf16Units] at fits ⊢
      by_cases basic : point.val < 0x10000
      · rw [if_pos basic] at fits ⊢
        obtain ⟨units, rfl⟩ : ∃ more, units = more + 1 := ⟨units - 1, by omega⟩
        rw [List.cons_append, cutUnits_basic basic, ih (by omega), Nat.add_comm 1,
          Nat.add_sub_add_right]
        rfl
      · rw [if_neg basic] at fits ⊢
        obtain ⟨units, rfl⟩ : ∃ more, units = more + 2 := ⟨units - 2, by omega⟩
        rw [List.cons_append, cutUnits_astral basic, ih (by omega), Nat.add_comm 2,
          Nat.add_sub_add_right]
        rfl

theorem cutUnits_zero (text : Str) : (cutUnits 0 text).1 = [] := by
  cases text <;> rfl

theorem cutUnits_eq_nil_iff {units : Nat} {text : Str} :
    (cutUnits units text).1 = [] ↔ text = [] ∨ units = 0 := by
  rcases text with _ | ⟨point, rest⟩
  · simp [cutUnits]
  rcases units with _ | units
  · simp [cutUnits]
  refine iff_of_false ?_ (by simp)
  rw [cutUnits.eq_def]
  dsimp only
  split
  · exact List.cons_ne_nil _ _
  · rcases units with _ | units
    · exact List.cons_ne_nil _ _
    · exact List.cons_ne_nil _ _

theorem cutUnits_eq_iff {units : Nat} {kept : Str} (fits : utf16Units kept ≤ units) (rest : Str) :
    (cutUnits units (kept ++ rest)).1 = kept ↔ rest = [] ∨ utf16Units kept = units := by
  rw [cutUnits_append fits, List.append_right_eq_self, cutUnits_eq_nil_iff]
  exact or_congr_right (by omega)

theorem utf16Units_cutUnits (units : Nat) (text : Str) :
    utf16Units (cutUnits units text).1 ≤ units := by
  induction text generalizing units with
  | nil => cases units <;> exact Nat.zero_le _
  | cons point rest ih =>
      rcases units with _ | units
      · exact Nat.le_refl 0
      rw [cutUnits.eq_def]
      dsimp only
      split
      next basic =>
        have below := ih units
        simp only [utf16Units, basic, if_true]
        omega
      next astral =>
        rcases units with _ | units
        · obtain ⟨high, _⟩ := isSurrogate_cut astral
          simp only [CodePoint.isSurrogate, Bool.and_eq_true, decide_eq_true_eq] at high
          have below : (0xD800 + (point - 0x10000) / 0x400 : CodePoint).val < 0x10000 := by omega
          simp only [utf16Units, below, if_true]
          omega
        · have below := ih units
          simp only [utf16Units, astral, if_false]
          omega

def unitsAfter (units : Nat) (text : Str) : Nat :=
  if Str.strip text = [] then units
  else if units = 0 then utf16Units (Str.strip text)
  else units + 1 + utf16Units (Str.strip text)

theorem utf16Units_accumulate (trail text : Str) :
    utf16Units (accumulateUssdString trail text) = unitsAfter (utf16Units trail) text := by
  rw [accumulateUssdString, unitsAfter]
  split
  · rfl
  · simp only [utf16Units_eq_zero_iff]
    split
    · rfl
    · rw [List.append_assoc, utf16Units_append, List.singleton_append, utf16Units_star]
      omega

theorem lt_unitsAfter (units : Nat) {text : Str} (spoken : Str.strip text ≠ []) :
    units < unitsAfter units text := by
  have long := mt utf16Units_eq_zero_iff.1 spoken
  rw [unitsAfter, if_neg spoken]
  split <;> omega

/-- A text that both sides add to the trail alike: it has no white space at its ends and the trail
fits. White space behind it is lost on both where the trail is full. -/
def ForeseenText (units : Nat) (text : Str) : Prop :=
  if Str.strip text = [] then (text = [] ∧ units = 0) ∨ units = maxTrailUnits
  else Str.strip text <+: text ∧ unitsAfter units text ≤ maxTrailUnits ∧
    (text = Str.strip text ∨ unitsAfter units text = maxTrailUnits)

def Foreseen (units : Nat) : List Str → Prop
  | [] => True
  | text :: rest => ForeseenText units text ∧ Foreseen (unitsAfter units text) rest

def trailsAfter (extend : Str → Str → Str) (trail : Str) : List Str → List Str
  | [] => []
  | text :: rest => extend trail text :: trailsAfter extend (extend trail text) rest

theorem trailsAfter_concat (extend : Str → Str → Str) (trail : Str) (texts : List Str)
    (text : Str) : trailsAfter extend trail (texts ++ [text]) =
      trailsAfter extend trail texts ++ [extend (texts.foldl extend trail) text] := by
  induction texts generalizing trail with
  | nil => rfl
  | cons first rest ih =>
      rw [List.cons_append, trailsAfter, ih, trailsAfter, List.cons_append, List.foldl_cons]

structure Ahead (page trail : Str) : Prop where
  fits : utf16Units trail ≤ maxTrailUnits
  ahead : ∃ beyond, page = trail ++ beyond ∧ (beyond = [] ∨ utf16Units trail = maxTrailUnits)

theorem isSpace_lt {point : CodePoint} (space : point.isSpace = true) : point.val < 0x10000 := by
  simp only [CodePoint.isSpace, Bool.or_eq_true, ← Bool.decide_and, decide_eq_true_eq] at space
  omega

theorem cutUnits_eq_strip_iff {units : Nat} {start text : Str} (fits : utf16Units start ≤ units)
    (spoken : Str.strip text ≠ []) :
    (cutUnits units (start ++ text)).1 = start ++ Str.strip text ↔
      Str.strip text <+: text ∧ utf16Units (start ++ Str.strip text) ≤ units ∧
      (text = Str.strip text ∨ utf16Units (start ++ Str.strip text) = units) := by
  obtain ⟨front, back, whole, frontBlank, _⟩ := Trimming.strip_split CodePoint.isSpace text
  have headKept := Trimming.headKept_strip CodePoint.isSpace text
  change text = front ++ Str.strip text ++ back at whole
  change Trimming.HeadKept CodePoint.isSpace (Str.strip text) at headKept
  generalize Str.strip text = stripped at spoken whole headKept ⊢
  subst whole
  constructor
  · intro same
    have bound := utf16Units_cutUnits units (start ++ (front ++ stripped ++ back))
    rw [same] at bound
    rcases front with _ | ⟨point, front⟩
    · rw [List.nil_append, ← List.append_assoc, cutUnits_eq_iff bound] at same
      exact ⟨⟨back, rfl⟩, bound, same.imp_left fun empty => by rw [empty]; simp⟩
    · -- A cut text starts like the text, a stripped one does not start with white space.
      rw [cutUnits_append fits, List.append_cancel_left_eq] at same
      have blank := frontBlank point List.mem_cons_self
      obtain ⟨first, rest, rfl⟩ := List.exists_cons_of_ne_nil spoken
      have letter : first.isSpace = false := headKept first rfl
      generalize units - utf16Units start = left at same
      rcases left with _ | left
      · rw [cutUnits_zero] at same
        cases same
      · rw [List.cons_append, List.cons_append, cutUnits_basic (isSpace_lt blank)] at same
        rw [(List.cons.inj same).1, letter] at blank
        cases blank
  · rintro ⟨⟨rest, same⟩, bound, full⟩
    rw [← same, ← List.append_assoc, cutUnits_eq_iff bound]
    refine full.imp_left fun alone => ?_
    rw [← same] at alone
    simpa using alone

theorem Ahead.nil : Ahead [] [] := ⟨by decide, [], rfl, Or.inl rfl⟩

theorem Ahead.sent_alike_iff {page trail : Str} (known : Ahead page trail) (text : Str) :
    (cutUnits maxTrailUnits (sendInput page text)).1 = accumulateUssdString trail text ↔
      ForeseenText (utf16Units trail) text := by
  obtain ⟨fits, beyond, rfl, full⟩ := known
  rw [ForeseenText, ← utf16Units_accumulate, accumulateUssdString, utf16Units_eq_zero_iff]
  by_cases opening : trail = []
  · subst opening
    have nothing : beyond = [] := full.resolve_right (by decide)
    subst nothing
    rw [List.append_nil, sendInput, if_pos rfl, if_pos rfl]
    by_cases blank : Str.strip text = []
    · simp only [blank, if_true]
      rw [cutUnits_eq_nil_iff]
      simp [maxTrailUnits, utf16Units]
    · simp only [blank, if_false]
      exact @cutUnits_eq_strip_iff maxTrailUnits [] text (Nat.zero_le _) blank
  · have one : utf16Units [star] = 1 := rfl
    rw [sendInput, if_neg (by simp [opening]), List.append_assoc]
    by_cases blank : Str.strip text = []
    · simp only [blank, if_true, opening, and_false, false_or]
      rw [cutUnits_eq_iff fits]
      simp
    · simp only [blank, opening, if_false]
      by_cases filled : utf16Units trail = maxTrailUnits
      · rw [(cutUnits_eq_iff fits _).2 (Or.inr filled)]
        refine iff_of_false (by simp) ?_
        rintro ⟨_, below, _⟩
        rw [utf16Units_append, utf16Units_append, one] at below
        omega
      · rw [full.resolve_right filled, List.nil_append, List.append_cons trail]
        refine cutUnits_eq_strip_iff ?_ blank
        rw [utf16Units_append, one]
        omega

theorem Ahead.next {page trail text : Str} (known : Ahead page trail)
    (foreseen : ForeseenText (utf16Units trail) text) :
    Ahead (sendInput page text) (accumulateUssdString trail text) := by
  have sent := (known.sent_alike_iff text).2 foreseen
  have fits := utf16Units_cutUnits maxTrailUnits (sendInput page text)
  rw [sent] at fits
  refine ⟨fits, ?_⟩
  obtain ⟨_, beyond, rfl, full⟩ := known
  rw [ForeseenText, ← utf16Units_accumulate] at foreseen
  split at foreseen
  next blank =>
    have same : accumulateUssdString trail text = trail := by
      rw [accumulateUssdString, if_pos blank]
    rw [same]
    rcases foreseen with ⟨rfl, empty⟩ | filled
    · rw [utf16Units_eq_zero_iff] at empty
      subst empty
      exact ⟨[], by rw [full.resolve_right (by decide)]; rfl, Or.inl rfl⟩
    · have started : trail ≠ [] := by
        rintro rfl
        exact absurd filled (by decide)
      refine ⟨beyond ++ star :: text, ?_, Or.inr filled⟩
      rw [sendInput, if_neg (by simp [started]), List.append_assoc]
  next spoken =>
    obtain ⟨⟨blanks, split⟩, _, whole⟩ := foreseen
    refine ⟨blanks, ?_, whole.imp_left fun alone => ?_⟩
    · have room : utf16Units trail ≠ maxTrailUnits := by
        have longer := lt_unitsAfter (utf16Units trail) spoken
        rw [← utf16Units_accumulate] at longer
        omega
      rw [full.resolve_right room, List.append_nil, sendInput, accumulateUssdString]
      simp only [spoken, if_false]
      split
      · exact split.symm
      · rw [List.append_assoc, List.append_assoc, split]
        rfl
    · rw [← alone] at split
      exact List.append_right_eq_self.1 split

theorem trails_alike_iff {page trail : Str} (known : Ahead page trail) (texts : List Str) :
    (trailsAfter sendInput page texts).map (fun sent => (cutUnits maxTrailUnits sent).1) =
      trailsAfter accumulateUssdString trail texts ↔ Foreseen (utf16Units trail) texts := by
  induction texts generalizing page trail with
  | nil => simp [trailsAfter, Foreseen]
  | cons text rest ih =>
      rw [trailsAfter, trailsAfter, List.map_cons, List.cons.injEq, known.sent_alike_iff, Foreseen]
      refine and_congr_right fun foreseen => ?_
      rw [ih (known.next foreseen), utf16Units_accumulate]

/-! The requests. -/

def PayloadValue.json : PayloadValue → Json
  | text value => .text value
  | number value => .number (lit (toString value))
  | null => .null

def HandlerPayload.members : HandlerPayload → List (Str × Json)
  | gateway operator msisdn sessionId serviceCode ussdString event rawPayload =>
      [(lit "operator", .text operator), (lit "msisdn", (Halotel.optionalText msisdn).json),
        (lit "session_id", .text sessionId), (lit "service_code", .text serviceCode),
        (lit "ussd_string", .text ussdString), (lit "event", .text event),
        (lit "raw_payload",
          .object (rawPayload.map fun member => (member.1, member.2.json)))]
  | legacy sessionId msisdn networkProvider serviceCode ussdString =>
      [(lit "sessionId", .text sessionId), (lit "msisdn", (Halotel.optionalText msisdn).json),
        (lit "networkProvider", .text networkProvider), (lit "serviceCode", .text serviceCode),
        (lit "UssdString", .text ussdString)]

def withoutRawPayload (members : List (Str × Json)) : List (Str × Json) :=
  members.filter fun member => member.1 ≠ lit "raw_payload"

namespace Simulator

def inputLegs (msisdn sessionId ussdTrail : Str) : List Str → List SimLegInput
  | [] => []
  | input :: rest =>
      let trail := sendInput ussdTrail input
      { msisdn, sessionId, event := .input, ussdString := trail } ::
        inputLegs msisdn sessionId trail rest

def sessionLegs (msisdn sessionId : Str) (texts : List Str) : List SimLegInput :=
  { msisdn, sessionId, event := .start, ussdString := [] } :: inputLegs msisdn sessionId [] texts

end Simulator

def legBody (shortcode : ShortcodeRow) (msisdn sessionId : Str) (event : SimEvent)
    (trail : Str) : List (Str × Json) :=
  withoutRawPayload
    (requestBody shortcode { msisdn, sessionId, event, ussdString := trail })

theorem legBody_inj {shortcode : ShortcodeRow} {msisdn sessionId : Str} {event : SimEvent}
    {trail other : Str} : legBody shortcode msisdn sessionId event trail =
      legBody shortcode msisdn sessionId event other ↔ trail = other := by
  refine ⟨fun same => ?_, fun same => by rw [same]⟩
  rw [legBody, legBody, requestBody, requestBody] at same
  cases format : shortcode.payloadFormat with
  | legacy =>
      rw [format] at same
      have sent := congrArg (List.lookup (lit "UssdString")) same
      exact Json.text.inj (Option.some.inj sent)
  | gateway =>
      rw [format] at same
      have sent := congrArg (List.lookup (lit "ussd_string")) same
      exact Json.text.inj (Option.some.inj sent)

def simulatedBodies (shortcode : ShortcodeRow) (msisdn sessionId : Str) (texts : List Str) :
    List (List (Str × Json)) :=
  (sessionLegs msisdn sessionId texts).map fun leg =>
    withoutRawPayload (requestBody shortcode (actionInput leg))

theorem simulatedBodies_eq (shortcode : ShortcodeRow) (msisdn sessionId : Str)
    (texts : List Str) :
    simulatedBodies shortcode msisdn sessionId texts =
      legBody shortcode (Str.jsTrim msisdn) (cutUnits maxSessionIdUnits (Str.jsTrim sessionId)).1
        .start [] ::
      ((trailsAfter sendInput [] texts).map fun sent => (cutUnits maxTrailUnits sent).1).map
        (legBody shortcode (Str.jsTrim msisdn)
          (cutUnits maxSessionIdUnits (Str.jsTrim sessionId)).1 .input) := by
  have later : ∀ trail, (inputLegs msisdn sessionId trail texts).map (fun leg =>
      withoutRawPayload (requestBody shortcode (actionInput leg))) =
      ((trailsAfter sendInput trail texts).map fun sent => (cutUnits maxTrailUnits sent).1).map
        (legBody shortcode (Str.jsTrim msisdn)
          (cutUnits maxSessionIdUnits (Str.jsTrim sessionId)).1 .input) := by
    induction texts with
    | nil => intro trail; rfl
    | cons text rest ih =>
        intro trail
        rw [inputLegs, trailsAfter, List.map_cons, List.map_cons, List.map_cons, ih]
        rfl
  rw [simulatedBodies, sessionLegs, List.map_cons, later]
  rfl

/-- A fresh session dials a code, nothing behind it, and then types these texts, a leg each. -/
inductive LiveSession (runtime : PyRuntime) (adapter : Adapter) (key : SessionKey)
    (msisdn code : Str) : List Str → List UnifiedRequest → World → Prop where
  | dialed (leg : Leg) {first parsed : World} {ur : UnifiedRequest} (on : leg.adapter = adapter)
      (ran : leg.parsed runtime first = (.ok ur, parsed)) (event : ur.event = .start)
      (keyed : legKey first adapter ur = key) (sender : ur.msisdn = some msisdn)
      (fresh : first.sessions.find key = none)
      (plain : first.registry.dialMatch (first.registry.operatorId adapter.operator)
        (normaliseDialed (adapter.dialed runtime leg.request)) = some { code, remainder := [] }) :
      LiveSession runtime adapter key msisdn code [] [ur] parsed
  | typed (leg : Leg) {texts : List Str} {urs : List UnifiedRequest}
      {reached before parsed : World} {ur : UnifiedRequest} {text : Str}
      (session : LiveSession runtime adapter key msisdn code texts urs reached)
      (meanwhile : Meanwhile adapter key reached before) (on : leg.adapter = adapter)
      (ran : leg.parsed runtime before = (.ok ur, parsed)) (event : ur.event = .input)
      (keyed : legKey before adapter ur = key) (sender : ur.msisdn = some msisdn)
      (types : Str.strip (adapter.typedInput runtime leg.request) = Str.strip text) :
      LiveSession runtime adapter key msisdn code (texts ++ [text]) (urs ++ [ur]) parsed

theorem accumulate_strip {trail typed text : Str} (same : Str.strip typed = Str.strip text) :
    accumulateUssdString trail typed = accumulateUssdString trail text := by
  rw [accumulateUssdString, accumulateUssdString, same]

section

variable {runtime : PyRuntime} {adapter : Adapter} {key : SessionKey} {msisdn code : Str}
  {texts : List Str} {urs : List UnifiedRequest} {reached : World}

theorem LiveSession.code_ne_nil
    (session : LiveSession runtime adapter key msisdn code texts urs reached) : code ≠ [] := by
  induction session with
  | dialed _ _ _ _ _ _ _ plain => exact dialMatch_ne_nil plain
  | typed _ _ _ _ _ _ _ _ _ ih => exact ih

theorem LiveSession.cached
    (session : LiveSession runtime adapter key msisdn code texts urs reached) :
    ∃ row, reached.sessions.find key = some row ∧ row.serviceCode = code ∧
      row.ussdString = texts.foldl accumulateUssdString [] := by
  induction session with
  | dialed leg on ran event keyed _ fresh plain =>
      subst on keyed
      exact (start_reaches ran event plain fresh).cached
  | typed leg session meanwhile on ran event keyed _ types ih =>
      obtain ⟨row, found, routed, trail⟩ := ih
      rw [← meanwhile.row] at found
      subst on keyed
      have coded := session.code_ne_nil
      have reached := (input_reaches ran event found (fun _ => routed ▸ coded)).cached
      rw [routed, trail, accumulate_strip types] at reached
      rw [List.foldl_append]
      exact reached

def liveBodies (shortcode : ShortcodeRow) (urs : List UnifiedRequest) :
    List (List (Str × Json)) :=
  urs.map fun ur => withoutRawPayload (buildHandlerPayload shortcode ur).members

def Simulator.SimEvent.live : SimEvent → SessionEvent
  | .start => .start
  | .input => .input

theorem liveBody_eq {shortcode : ShortcodeRow} {ur : UnifiedRequest} {event : SimEvent}
    {trail : Str} (operator : ur.operator = shortcode.operatorName)
    (routed : ur.serviceCode = shortcode.code) (sender : ur.msisdn = some msisdn)
    (named : ur.sessionId = key.1) (forwarded : ur.ussdString = trail)
    (kind : ur.event = event.live) :
    withoutRawPayload (buildHandlerPayload shortcode ur).members =
      legBody shortcode msisdn key.1 event trail := by
  rw [legBody, requestBody, buildHandlerPayload]
  cases format : shortcode.payloadFormat with
  | legacy =>
      dsimp only
      rw [operator, routed, sender, named, forwarded, kind]
      cases event <;> rfl
  | gateway =>
      dsimp only
      rw [operator, routed, sender, named, forwarded, kind]
      cases event <;> rfl

theorem LiveSession.bodies
    (session : LiveSession runtime adapter key msisdn code texts urs reached)
    {shortcode : ShortcodeRow} (operator : shortcode.operatorName = adapter.operator)
    (coded : shortcode.code = code) :
    liveBodies shortcode urs = legBody shortcode msisdn key.1 .start [] ::
      (trailsAfter accumulateUssdString [] texts).map (legBody shortcode msisdn key.1 .input) := by
  induction session with
  | dialed leg on ran event keyed sender fresh plain =>
      subst on
      have reaches := start_reaches ran event plain (keyed ▸ fresh)
      rw [liveBodies, List.map_singleton, trailsAfter, List.map_nil]
      congr 1
      exact liveBody_eq ((parse_spec ran).operator.trans operator.symm)
        (reaches.routed.trans coded.symm) sender (congrArg Prod.fst keyed) reaches.forwarded event
  | typed leg session meanwhile on ran event keyed sender types ih =>
      obtain ⟨row, found, routed, trail⟩ := session.cached
      have code := session.code_ne_nil
      rw [← meanwhile.row] at found
      subst on
      have reaches := input_reaches ran event (keyed ▸ found) (fun _ => routed ▸ code)
      rw [routed, trail, accumulate_strip types] at reaches
      rw [liveBodies, List.map_append, ← liveBodies, ih, trailsAfter_concat, List.map_append,
        List.map_singleton, List.map_singleton, List.cons_append]
      congr 3
      exact liveBody_eq ((parse_spec ran).operator.trans operator.symm)
        (reaches.routed.trans coded.symm) sender (congrArg Prod.fst keyed) reaches.forwarded event

/-- The simulator's requests are the gateway's, `raw_payload` apart, exactly where each text is
foreseen. -/
theorem simulated_as_live_iff {shortcode : ShortcodeRow} {typedMsisdn sessionId : Str}
    {operatorId : Nat} (session : LiveSession runtime adapter
      ((cutUnits maxSessionIdUnits (Str.jsTrim sessionId)).1, operatorId)
      (Str.jsTrim typedMsisdn) shortcode.code texts urs reached)
    (operator : shortcode.operatorName = adapter.operator) :
    simulatedBodies shortcode typedMsisdn sessionId texts = liveBodies shortcode urs ↔
      Foreseen 0 texts := by
  rw [session.bodies operator rfl, simulatedBodies_eq, List.cons.injEq,
    List.map_inj_right fun _ _ same => legBody_inj.1 same, trails_alike_iff Ahead.nil]
  exact and_iff_right rfl

end

def menuShortcode : ShortcodeRow := (sampleShortcode 12 1 "*149*46#").row (lit "vodacom")

theorem live_input (msg : String) {ur : UnifiedRequest} {parsed : World}
    (ran : (dialLeg "V2" "2" msg).parsed sampleRuntime (afterLegs [codeLeg]) = (.ok ur, parsed))
    (event : ur.event = .input) (keyed : legKey (afterLegs [codeLeg]) .vodacom ur = (lit "V2", 1))
    (sender : ur.msisdn = some (lit "255750000001"))
    (types : Adapter.vodacom.typedInput sampleRuntime (dialLeg "V2" "2" msg).request = lit msg) :
    ∃ opening, LiveSession sampleRuntime .vodacom (lit "V2", 1) (lit "255750000001")
      (lit "*149*46#") ([] ++ [lit msg]) ([opening] ++ [ur]) parsed := by
  have opened := @LiveSession.dialed sampleRuntime .vodacom (lit "V2", 1) (lit "255750000001")
    (lit "*149*46#") codeLeg dialWorld _ _ rfl rfl rfl rfl rfl rfl rfl
  have between := @served_meanwhile sampleRuntime sampleSettings dialWorld _ _ codeLeg
    menuShortcode rfl rfl rfl rfl ⟨_, lit "Karibu", rfl, rfl, by decide, by decide⟩
  exact ⟨_, .typed (dialLeg "V2" "2" msg) opened between rfl ran event keyed sender
    (by rw [types])⟩

theorem one_input_simulated_as_live :
    ∃ urs reached, LiveSession sampleRuntime .vodacom (lit "V2", 1) (lit "255750000001")
        (lit "*149*46#") [lit "1"] urs reached ∧
      simulatedBodies menuShortcode (lit "255750000001") (lit "V2") [lit "1"] =
        liveBodies menuShortcode urs := by
  obtain ⟨opening, session⟩ := live_input "1" rfl rfl rfl rfl rfl
  exact ⟨_, _, session, (@simulated_as_live_iff sampleRuntime .vodacom [lit "1"] _ _ menuShortcode
    (lit "255750000001") (lit "V2") 1 session rfl).2 ⟨by
      rw [ForeseenText]; decide, trivial⟩⟩

/-- A blank in front of the input is sent by the simulator alone. -/
theorem blank_simulated_only :
    ∃ urs reached, LiveSession sampleRuntime .vodacom (lit "V2", 1) (lit "255750000001")
        (lit "*149*46#") [lit " 1"] urs reached ∧
      simulatedBodies menuShortcode (lit "255750000001") (lit "V2") [lit " 1"] ≠
        liveBodies menuShortcode urs := by
  obtain ⟨opening, session⟩ := live_input " 1" rfl rfl rfl rfl rfl
  refine ⟨_, _, session, fun same => ?_⟩
  rw [session.bodies rfl rfl, simulatedBodies_eq, List.cons.injEq] at same
  have trails := (List.map_inj_right fun _ _ same => legBody_inj.1 same).1 same.2
  exact absurd trails (by decide)

end UssdGateway
