import UssdGateway.Gateway.OperationsUsed
import UssdGateway.Gateway.Service
import Mathlib.Data.List.MinMax

/-!
Sandbox shortcodes are invisible to live traffic: two gateways whose tables differ in sandbox rows
alone do the same on every leg and every sweep.
-/

namespace UssdGateway

open EffectProgram

/-- The tables share their operators and every production shortcode, in any order. -/
structure SameProduction (first second : Registry) : Prop where
  operators : first.operators = second.operators
  shortcodes : ∀ record : ShortcodeRecord, record.environment = .production →
    (record ∈ first.shortcodes ↔ record ∈ second.shortcodes)

/-- Two gateways that differ in their tables' sandbox rows alone. -/
structure Alike (first second : World) : Prop where
  production : SameProduction first.registry second.registry
  same : second = { first with registry := second.registry }

inductive AlikeEvents : ServiceEvent → ServiceEvent → Prop where
  | same (event : ServiceEvent) : AlikeEvents event event
  | registryChanged {first second : Registry} : SameProduction first second →
      AlikeEvents (.gateway (.registryChanged first)) (.gateway (.registryChanged second))

/-- What live traffic makes of an event. -/
structure Observed where
  parsed : Option (Except PyError UnifiedRequest)
  routed : Option ShortcodeRow
  answered : Option (Except PyError Response)
  sessions : SessionTable
  handlerCalls : List HandlerCall
  pushes : List OutboundCall
  logged : List LogRow

section

variable (runtime : PyRuntime) (settings : Settings)

def routeOf (before : World) (adapter : Adapter) :
    Except PyError UnifiedRequest → Option ShortcodeRow
  | .ok ur => before.registry.resolveShortcode adapter.operator ur.serviceCode
  | .error _ => none

def observe (before : World) (event : ServiceEvent) : Observed :=
  let after := serviceEvent runtime settings before event
  let seen (parsed : Option (Except PyError UnifiedRequest)) (routed : Option ShortcodeRow)
      (answered : Option (Except PyError Response)) : Observed :=
    { parsed, routed, answered, sessions := after.sessions, handlerCalls := after.handlerCalls
      pushes := after.pushes, logged := after.logQueue.rows }
  match event with
  | .gateway (.leg leg) =>
      seen (some (leg.parsed runtime before).1)
        (routeOf before leg.adapter (leg.parsed runtime before).1)
        (some (leg.served runtime settings before).1)
  | _ => seen none none none

def trace : World → List ServiceEvent → List Observed
  | _, [] => []
  | world, event :: rest =>
      observe runtime settings world event ::
        trace (serviceEvent runtime settings world event) rest

end

theorem resolveShortcode_eq_some_iff (registry : Registry) (operatorName code : Str)
    (shortcode : ShortcodeRow) :
    registry.resolveShortcode operatorName code = some shortcode ↔
      ∃ record ∈ registry.shortcodes, shortcode = record.row operatorName ∧
        record.code = code ∧ record.environment = .production ∧
        registry.operatorName record.operatorId = some operatorName := by
  constructor
  · exact Registry.resolveShortcode_spec
  · rintro ⟨record, member, rfl, coded, live, named⟩
    rcases resolved : registry.resolveShortcode operatorName code with _ | other
    · rw [Registry.resolveShortcode, List.findSome?_eq_none_iff] at resolved
      have missed := resolved record member
      simp [named, coded, live] at missed
    · obtain ⟨rival, rivalMember, rfl, rivalCoded, rivalLive, rivalNamed⟩ :=
        Registry.resolveShortcode_spec resolved
      have sameOperator : rival.operatorId = record.operatorId :=
        (Registry.operatorId_of_operatorName rivalNamed).symm.trans
          (Registry.operatorId_of_operatorName named)
      have same : rival = record := by
        apply List.inj_on_of_nodup_map registry.codesUnique rivalMember member
        rw [sameOperator, rivalCoded, coded, rivalLive, live]
      rw [same]

section

variable {first second : Registry}

theorem SameProduction.operatorId (alike : SameProduction first second) (name : Str) :
    first.operatorId name = second.operatorId name := by
  rw [Registry.operatorId, Registry.operatorId, alike.operators]

theorem SameProduction.operatorName (alike : SameProduction first second) (id : Nat) :
    first.operatorName id = second.operatorName id := by
  rw [Registry.operatorName, Registry.operatorName, alike.operators]

theorem SameProduction.resolveShortcode (alike : SameProduction first second)
    (operatorName code : Str) :
    first.resolveShortcode operatorName code = second.resolveShortcode operatorName code := by
  apply Option.ext
  intro shortcode
  rw [resolveShortcode_eq_some_iff, resolveShortcode_eq_some_iff]
  constructor
  · rintro ⟨record, member, row, coded, live, named⟩
    exact ⟨record, (alike.shortcodes record live).1 member, row, coded, live,
      alike.operatorName _ ▸ named⟩
  · rintro ⟨record, member, row, coded, live, named⟩
    exact ⟨record, (alike.shortcodes record live).2 member, row, coded, live,
      (alike.operatorName _).symm ▸ named⟩

end

theorem argmax_eq_of_mem_iff {α : Type} [DecidableEq α] {measure : α → Nat}
    {first second : List α} (same : ∀ value, value ∈ first ↔ value ∈ second)
    (apart : ∀ value ∈ first, ∀ other ∈ first, measure value = measure other → value = other) :
    first.argmax measure = second.argmax measure := by
  rcases found : first.argmax measure with _ | largest
  · rw [List.argmax_eq_none] at found
    subst found
    have empty : second = [] := List.eq_nil_iff_forall_not_mem.2 fun value member =>
      List.not_mem_nil ((same value).2 member)
    rw [empty, List.argmax_nil]
  · have member := List.argmax_mem found
    rcases alsoFound : second.argmax measure with _ | other
    · rw [List.argmax_eq_none] at alsoFound
      rw [alsoFound] at same
      exact absurd ((same largest).1 member) List.not_mem_nil
    · have otherMember := (same other).2 (List.argmax_mem alsoFound)
      have above := List.le_of_mem_argmax otherMember found
      have below := List.le_of_mem_argmax ((same largest).1 member) alsoFound
      rw [apart largest member other otherMember (Nat.le_antisymm below above)]

theorem join_cons_cons (first second : Str) (rest : List Str) :
    Str.join [star] (first :: second :: rest) =
      first ++ star :: Str.join [star] (second :: rest) := by
  simp [Str.join, List.intercalate]

theorem length_join_take_lt {segments : List Str} {shorter longer : Nat}
    (less : shorter < longer) (bound : longer < segments.length) :
    (Str.join [star] (segments.take (shorter + 1))).length <
      (Str.join [star] (segments.take (longer + 1))).length := by
  induction shorter generalizing segments longer with
  | zero =>
      obtain ⟨longer, rfl⟩ : ∃ previous, longer = previous + 1 := ⟨longer - 1, by omega⟩
      rcases segments with _ | ⟨first, _ | ⟨second, rest⟩⟩
      · simp at bound
      · simp at bound
      · have alone : Str.join [star] [first] = first := by simp [Str.join, List.intercalate]
        simp only [List.take_succ_cons, List.take_zero, alone, join_cons_cons,
          List.length_append, List.length_cons]
        omega
  | succ shorter ih =>
      obtain ⟨longer, rfl⟩ : ∃ previous, longer = previous + 1 := ⟨longer - 1, by omega⟩
      rcases segments with _ | ⟨first, _ | ⟨second, rest⟩⟩
      · simp at bound
      · simp at bound
      · have tail := @ih (second :: rest) longer (by omega) (by simpa using bound)
        simp only [List.take_succ_cons, join_cons_cons, List.length_append,
          List.length_cons] at tail ⊢
        omega

theorem dialCandidates_apart (segments : List Str) :
    ∀ code ∈ dialCandidates segments, ∀ other ∈ dialCandidates segments,
      code.length = other.length → code = other := by
  intro code member other otherMember same
  simp only [dialCandidates, List.mem_map, List.mem_reverse, List.mem_range] at member otherMember
  obtain ⟨first, firstBound, rfl⟩ := member
  obtain ⟨second, secondBound, rfl⟩ := otherMember
  simp only [List.length_append, List.length_cons, List.length_nil] at same
  rcases Nat.lt_trichotomy first second with less | equal | less
  · have longer := length_join_take_lt less secondBound
    omega
  · rw [equal]
  · have longer := length_join_take_lt less firstBound
    omega

theorem SameProduction.longestRegistered {first second : Registry}
    (alike : SameProduction first second) (operatorId : Nat) (segments : List Str) :
    first.longestRegistered operatorId (dialCandidates segments) =
      second.longestRegistered operatorId (dialCandidates segments) := by
  apply argmax_eq_of_mem_iff
  · intro code
    simp only [List.mem_map, List.mem_filter, decide_eq_true_eq]
    constructor
    · rintro ⟨record, ⟨member, owner, dialed, live⟩, rfl⟩
      exact ⟨record, ⟨(alike.shortcodes record live).1 member, owner, dialed, live⟩, rfl⟩
    · rintro ⟨record, ⟨member, owner, dialed, live⟩, rfl⟩
      exact ⟨record, ⟨(alike.shortcodes record live).2 member, owner, dialed, live⟩, rfl⟩
  · intro code member other otherMember same
    simp only [List.mem_map, List.mem_filter, decide_eq_true_eq] at member otherMember
    obtain ⟨record, ⟨_, _, dialed, _⟩, rfl⟩ := member
    obtain ⟨rival, ⟨_, _, rivalDialed, _⟩, rfl⟩ := otherMember
    exact dialCandidates_apart segments _ dialed _ rivalDialed same

/-! Every operation of the gateway is answered alike. -/

def IsLive : GatewayOp → Prop
  | .longestRegistered _ candidates => ∃ segments, candidates = dialCandidates segments
  | _ => True

theorem victims_congr {first second : Registry} (alike : SameProduction first second)
    (table : SessionTable) (now : Nat) (idleSecs maxAgeSecs : Int) (limit : Nat)
    (perOp : List (Str × Int)) (locked : SessionKey → Bool) :
    victims first table now idleSecs maxAgeSecs limit perOp locked =
      victims second table now idleSecs maxAgeSecs limit perOp locked := by
  simp only [victims, alike.operatorName]

theorem claimExpiredSessions_congr {first second : Registry} (alike : SameProduction first second)
    (table : SessionTable) (now : Nat) (idleSecs maxAgeSecs limit : Int)
    (perOp : List (Str × Int)) (locked : SessionKey → Bool) :
    claimExpiredSessions first table now idleSecs maxAgeSecs limit perOp locked =
      claimExpiredSessions second table now idleSecs maxAgeSecs limit perOp locked := by
  have raises : claimRaises first table now idleSecs maxAgeSecs limit perOp =
      claimRaises second table now idleSecs maxAgeSecs limit perOp := by
    simp only [claimRaises, alike.operatorName]
  rw [claimExpiredSessions, claimExpiredSessions, victims_congr alike, raises]

theorem perform_alike (environment : Environment) (op : GatewayOp) (first second : World)
    (live : IsLive op) (alike : Alike first second) :
    (perform environment op first).1 = (perform environment op second).1 ∧
      Alike (perform environment op first).2 (perform environment op second).2 := by
  obtain ⟨production, same⟩ := alike
  rw [same]
  cases op with
  | operatorId name => exact ⟨congrArg Except.ok (production.operatorId name), production, rfl⟩
  | resolveShortcode operatorName code =>
      exact ⟨congrArg Except.ok (production.resolveShortcode operatorName code), production, rfl⟩
  | longestRegistered operatorId candidates =>
      obtain ⟨segments, rfl⟩ := live
      exact ⟨congrArg Except.ok (production.longestRegistered operatorId segments), production,
        rfl⟩
  | claimExpiredSessions idleSecs maxAgeSecs limit perOp =>
      simp only [perform, claimExpiredSessions_congr production]
      rcases claimExpiredSessions second.registry first.sessions first.now idleSecs maxAgeSecs
        limit perOp environment.locked with _ | ⟨claimed, sessions⟩
      · exact ⟨rfl, production, rfl⟩
      · exact ⟨rfl, production, rfl⟩
  | _ => exact ⟨rfl, production, rfl⟩

theorem run_alike {α : Type} {environment : Environment} {program : Program α}
    (uses : program.Uses IsLive) {first second : World} (alike : Alike first second) :
    (program.run (perform environment) first).1 = (program.run (perform environment) second).1 ∧
      Alike (program.run (perform environment) first).2
        (program.run (perform environment) second).2 :=
  Prog.run_related (perform_alike environment) uses alike

theorem isLive_legOps : LegOps IsLive where
  operatorId _ := trivial
  prefixes _ segments := ⟨segments, rfl⟩
  read _ := trivial
  write _ := trivial
  resolve _ _ := trivial
  expire _ := trivial
  send _ := trivial
  await _ := trivial
  push _ := trivial
  log _ := trivial
  schedule _ _ _ := trivial

theorem isLive_handleUssd (runtime : PyRuntime) (settings : Settings) (operatorKey : Str)
    (request : Request) : (handleUssd runtime settings operatorKey request).Uses IsLive :=
  uses_handleUssd runtime settings isLive_legOps operatorKey request fun _ => trivial

theorem isLive_expireIdleSessionsOnce (settings : Settings) :
    (expireIdleSessionsOnce settings).Uses IsLive :=
  uses_expireIdleSessionsOnce settings (fun _ _ _ _ => trivial) fun _ => trivial

section

variable {runtime : PyRuntime} {settings : Settings} {environment : Environment}
  {first second : World}

theorem Alike.idle (alike : Alike first second) : Alike first.idle second.idle := by
  obtain ⟨production, same⟩ := alike
  rw [same]
  exact ⟨production, rfl⟩

theorem Alike.spawned (alike : Alike first second) : second.spawned = first.spawned := by
  rw [alike.same]

theorem runBackground_alike (tasks : List BackgroundTask) (alike : Alike first second) :
    Alike (runBackground runtime settings environment tasks first)
      (runBackground runtime settings environment tasks second) := by
  induction tasks generalizing first second with
  | nil => exact alike
  | cons task rest ih =>
      exact ih (run_alike (uses_background isLive_legOps.toServeOps runtime settings task) alike).2

theorem settled_alike {α : Type} {program : Program α} (uses : program.Uses IsLive)
    (alike : Alike first second) :
    Alike
      (runBackground runtime settings environment
        (program.run (perform environment) first.idle).2.spawned
        (program.run (perform environment) first.idle).2.idle)
      (runBackground runtime settings environment
        (program.run (perform environment) second.idle).2.spawned
        (program.run (perform environment) second.idle).2.idle) := by
  have ran := (@run_alike _ environment _ uses _ _ alike.idle).2
  rw [ran.spawned]
  exact runBackground_alike _ ran.idle

theorem serviceEvent_alike (alike : Alike first second) {event other : ServiceEvent}
    (related : AlikeEvents event other) :
    Alike (serviceEvent runtime settings first event)
      (serviceEvent runtime settings second other) := by
  cases related with
  | registryChanged production =>
      refine ⟨production, ?_⟩
      rw [alike.same]
      rfl
  | same =>
      cases event with
      | sweep environment => exact settled_alike (isLive_expireIdleSessionsOnce settings) alike
      | gateway event =>
          cases event with
          | leg leg => exact settled_alike (isLive_handleUssd runtime settings _ _) alike
          | registryChanged registry =>
              refine ⟨⟨rfl, fun _ _ => Iff.rfl⟩, ?_⟩
              rw [alike.same]
              rfl
          | rowsLost _ | elapsed _ =>
              refine ⟨alike.production, ?_⟩
              rw [alike.same]
              rfl

theorem parsed_alike (leg : Leg) (alike : Alike first second) :
    (leg.parsed runtime first).1 = (leg.parsed runtime second).1 :=
  (run_alike (uses_parse isLive_legOps.toParseOps runtime leg.adapter leg.request) alike.idle).1

theorem answered_alike (leg : Leg) (alike : Alike first second) :
    (leg.served runtime settings first).1 = (leg.served runtime settings second).1 :=
  (run_alike (isLive_handleUssd runtime settings leg.adapter.operator leg.request) alike.idle).1

theorem routeOf_alike (adapter : Adapter) (parsed : Except PyError UnifiedRequest)
    (alike : Alike first second) :
    routeOf first adapter parsed = routeOf second adapter parsed := by
  cases parsed with
  | ok ur => exact alike.production.resolveShortcode _ _
  | error _ => rfl

theorem observe_alike (alike : Alike first second) {event other : ServiceEvent}
    (related : AlikeEvents event other) :
    observe runtime settings first event = observe runtime settings second other := by
  have after := @serviceEvent_alike runtime settings _ _ alike _ _ related
  cases related with
  | registryChanged production =>
      simp only [observe]
      rw [after.same]
  | same =>
      simp only [observe]
      rw [after.same]
      cases event with
      | sweep environment => rfl
      | gateway event =>
          cases event with
          | leg leg =>
              simp only
              rw [parsed_alike leg alike, answered_alike leg alike, routeOf_alike _ _ alike]
          | registryChanged _ | rowsLost _ | elapsed _ => rfl

end

section

variable (runtime : PyRuntime) (settings : Settings)

/-- Gateways that differ in sandbox shortcodes alone, also where those change on the way, see the
same requests, routes, handler calls and session rows. -/
theorem sandbox_non_interference {first second : World} (alike : Alike first second)
    {events others : List ServiceEvent} (related : List.Forall₂ AlikeEvents events others) :
    trace runtime settings first events = trace runtime settings second others := by
  induction related generalizing first second with
  | nil => rfl
  | cons event _ ih =>
      rw [trace, trace, observe_alike alike event]
      exact congrArg _ (ih (serviceEvent_alike alike event))

end

def sandboxRegistry : Registry where
  operators := sampleRegistry.operators
  shortcodes :=
    { sampleShortcode 90 2 "*149*01#" with
      environment := .sandbox, handlerUrl := lit "https://sandbox.example/ussd" } ::
      sampleRegistry.shortcodes
  operatorIdsUnique := sampleRegistry.operatorIdsUnique
  operatorNamesUnique := sampleRegistry.operatorNamesUnique
  codesUnique := by decide
  messagesEncodable := by decide

def sandboxWorld : World := { sampleWorld with registry := sandboxRegistry }

theorem sandboxWorld_alike : Alike sampleWorld sandboxWorld where
  production :=
    { operators := rfl
      shortcodes := by
        intro record live
        constructor
        · exact List.mem_cons_of_mem _
        · rintro (_ | ⟨_, member⟩)
          · cases live
          · exact member }
  same := rfl

def sandboxDial : ServiceEvent :=
  .gateway (.leg ⟨sampleEnvironment (lit "welcome"), .airtel, airtelDial⟩)

/-- A session dialed while a sandbox shortcode has its code. -/
theorem sandbox_code_ignored :
    trace sampleRuntime sampleSettings sampleWorld [sandboxDial] =
      trace sampleRuntime sampleSettings sandboxWorld [sandboxDial] :=
  sandbox_non_interference _ _ sandboxWorld_alike (.cons (.same _) .nil)

end UssdGateway
