import UssdGateway.Gateway.SessionRows
import UssdGateway.Gateway.ExpiryClaims
import UssdGateway.Library.Turns

/-!
No idle session is overlooked. A sweep takes a batch of the oldest due sessions, so one that stays
due waits for those at least as old and for nobody else, however much traffic arrives meanwhile.
-/

namespace UssdGateway

open EffectProgram

def ServiceEvent.isSweep : ServiceEvent → Bool
  | .gateway _ => false
  | .sweep _ => true

section

variable (runtime : PyRuntime) (settings : Settings) (row : ActiveSessionRow)

/-- The session gets no leg and keeps its row, and every sweep finds it due and not locked. -/
def StaysDue (world : World) : ServiceEvent → Prop
  | .gateway event => row ∈ (gatewayEvent runtime settings world event).sessions.rows
  | .sweep environment => environment.locked row.key = false ∧
      (dueSession world.registry settings.expiry world.now row).isSome

def ClaimsRow (world : World) : ServiceEvent → Prop
  | .gateway _ => False
  | .sweep environment =>
      row.key ∈ (claimedBy settings environment world).map ExpiredSession.key

def atLeastAsOld (world : World) : Nat :=
  world.sessions.rows.countP fun other =>
    other.key ≠ row.key ∧ other.lastSeenAt ≤ row.lastSeenAt

structure Waiting (world : World) : Prop where
  cached : row ∈ world.sessions.rows
  past : row.lastSeenAt < world.now

end

structure OldOrSeen (before after : World) : Prop where
  now : after.now = before.now
  rows : ∀ row ∈ after.sessions.rows, row ∈ before.sessions.rows ∨ row.lastSeenAt = before.now

theorem seen_upsertActiveSession {table : SessionTable} {now : Nat} {values : SessionUpsert}
    {row : ActiveSessionRow}
    (member : row ∈ (SessionTable.upsertActiveSession table now values).rows) :
    row ∈ table.rows ∨ row.lastSeenAt = now := by
  rcases (KeyedTable.mem_upsert _ _ _ _ _).1 member with ⟨old, _⟩ | ⟨_, rfl⟩
  · exact Or.inl old
  · right
    rcases table.find (SessionTable.freshRow values now).key with _ | old
    · rfl
    · rfl

section

variable {runtime : PyRuntime} {settings : Settings} {environment : Environment}
  {row : ActiveSessionRow} {world : World}

theorem oldOrSeen_run {α : Type} (program : Program α) {before state : World}
    (start : OldOrSeen before state) :
    OldOrSeen before (program.run (perform environment) state).2 := by
  refine Prog.run_keeps ?_ program start
  intro op state seen
  cases op with
  | upsertActiveSession values =>
      refine ⟨seen.now, fun row member => ?_⟩
      rcases seen_upsertActiveSession member with old | fresh
      · exact seen.rows row old
      · exact Or.inr (fresh.trans seen.now)
  | expireActiveSession =>
      exact ⟨seen.now, fun row member => seen.rows row (List.mem_of_mem_filter member)⟩
  | claimExpiredSessions =>
      simp only [perform]
      split
      next claimed sessions returned =>
        obtain ⟨_, rfl⟩ := claimExpiredSessions_eq_some returned
        exact ⟨seen.now, fun row member => seen.rows row (List.mem_of_mem_filter member)⟩
      next => exact ⟨seen.now, seen.rows⟩
  | _ => exact ⟨seen.now, seen.rows⟩

theorem oldOrSeen_runBackground (tasks : List BackgroundTask) {before state : World}
    (start : OldOrSeen before state) :
    OldOrSeen before (runBackground runtime settings environment tasks state) := by
  induction tasks generalizing state with
  | nil => exact start
  | cons task rest ih => exact ih (oldOrSeen_run _ start)

theorem oldOrSeen_idle {before state : World} (start : OldOrSeen before state) :
    OldOrSeen before state.idle := ⟨start.now, start.rows⟩

theorem oldOrSeen_served (leg : Leg) (before : World) :
    OldOrSeen before (leg.served runtime settings before).2 := by
  have start : OldOrSeen before before := ⟨rfl, fun _ member => Or.inl member⟩
  exact oldOrSeen_runBackground _ (oldOrSeen_idle (oldOrSeen_run _ (oldOrSeen_idle start)))

/-! One step. -/

theorem countP_le_of_subset {α : Type} {rows others : List α} {p : α → Bool}
    (distinct : rows.Nodup) (subset : ∀ row ∈ rows, p row = true → row ∈ others) :
    rows.countP p ≤ others.countP p := by
  rw [List.countP_eq_length_filter, List.countP_eq_length_filter]
  apply List.Subperm.length_le
  refine List.subperm_of_subset (distinct.filter p) fun row member => ?_
  obtain ⟨present, holds⟩ := List.mem_filter.1 member
  exact List.mem_filter.2 ⟨subset row present holds, holds⟩

theorem nodup_rows (table : SessionTable) : table.rows.Nodup := List.Nodup.of_map _ table.unique

theorem atLeastAsOld_le {before after : World}
    (older : ∀ other ∈ after.sessions.rows, other.lastSeenAt ≤ row.lastSeenAt →
      other ∈ before.sessions.rows) : atLeastAsOld row after ≤ atLeastAsOld row before := by
  apply countP_le_of_subset (nodup_rows _)
  intro other present holds
  simp only [decide_eq_true_eq] at holds
  exact older other present holds.2

theorem waiting_gatewayEvent (waiting : Waiting row world) {event : GatewayEvent}
    (kept : row ∈ (gatewayEvent runtime settings world event).sessions.rows) :
    Waiting row (gatewayEvent runtime settings world event) ∧
      atLeastAsOld row (gatewayEvent runtime settings world event) ≤ atLeastAsOld row world := by
  cases event with
  | leg leg =>
      have seen := @oldOrSeen_served runtime settings leg world
      refine ⟨⟨kept, ?_⟩, atLeastAsOld_le fun other present older => ?_⟩
      · exact seen.now ▸ waiting.past
      · have past := waiting.past
        exact (seen.rows other present).resolve_right (by omega)
  | rowsLost keep =>
      exact ⟨⟨kept, waiting.past⟩,
        atLeastAsOld_le fun other present _ => List.mem_of_mem_filter present⟩
  | registryChanged registry =>
      exact ⟨⟨kept, waiting.past⟩, atLeastAsOld_le fun other present _ => present⟩
  | elapsed micros =>
      exact ⟨⟨kept, Nat.lt_of_lt_of_le waiting.past (Nat.le_add_right _ _)⟩,
        atLeastAsOld_le fun other present _ => present⟩

theorem claimed_of_passed_over
    (inRange : LimitsInRange world.registry settings.expiry settings.expiry.batch)
    (cached : row ∈ world.sessions.rows)
    (unlocked : environment.locked row.key = false)
    (due : (dueSession world.registry settings.expiry world.now row).isSome)
    (passed : row.key ∉ (claimedBy settings environment world).map ExpiredSession.key) :
    (claimedBy settings environment world).length = settings.expiry.batch.toNat ∧
      ∀ expired ∈ claimedBy settings environment world,
        expired.lastSeenAt ≤ row.lastSeenAt := by
  obtain ⟨expired, chosen⟩ := Option.isSome_iff_exists.1 due
  have keyed := dueSession_key chosen
  have seen : expired.lastSeenAt = row.lastSeenAt := by
    obtain ⟨_, _, _, rfl⟩ := (dueSession_eq_some_iff row expired).1 chosen
    rfl
  have claimed : claimedBy settings environment world =
      ((candidates world.registry settings.expiry world.sessions world.now).filter fun expired =>
        !environment.locked expired.key).take settings.expiry.batch.toNat := by
    rw [claimedBy, inRange.quiet, if_neg Bool.false_ne_true]
    rfl
  rw [claimed] at passed ⊢
  have sorted := candidates_sorted.filter (fun expired => !environment.locked expired.key)
    (l := candidates world.registry settings.expiry world.sessions world.now)
  have offered : expired ∈ (candidates world.registry settings.expiry world.sessions
      world.now).filter fun expired => !environment.locked expired.key := by
    refine List.mem_filter.2 ⟨(mem_candidates expired).2 ⟨row, cached, chosen⟩, ?_⟩
    rw [keyed, unlocked]
    rfl
  have untaken : expired ∉ ((candidates world.registry settings.expiry world.sessions
      world.now).filter fun expired => !environment.locked expired.key).take
        settings.expiry.batch.toNat :=
    fun taken => passed (keyed ▸ List.mem_map_of_mem taken)
  rw [← seen]
  exact Paging.take_precedes sorted offered untaken

def KeepsCache : GatewayOp → Prop
  | .upsertActiveSession _ => False
  | .expireActiveSession _ => False
  | .claimExpiredSessions _ _ _ _ => False
  | _ => True

theorem uses_expiryNotice (expired : ExpiredSession) :
    (notifySessionExpired runtime settings expired).Uses KeepsCache := by
  refine Prog.Uses.bind ?_ fun found => ?_
  · rw [expiredShortcode]
    split
    · exact Prog.uses_done _
    · exact uses_guarded (Prog.uses_call trivial)
  · cases found with
    | none => exact Prog.uses_done _
    | some resolved =>
        dsimp only
        split
        next shortcode notified =>
          have sent : (forward runtime settings shortcode
              (expiredRequest runtime settings expired)).Uses KeepsCache :=
            (Prog.uses_call trivial).bind fun _ =>
              (Prog.uses_call trivial).bind fun _ => Prog.uses_done _
          refine (uses_guarded sent).bind fun answered => ?_
          cases answered with
          | none => exact Prog.uses_done _
          | some outcome =>
              exact (uses_guarded (Prog.uses_call trivial)).bind fun _ => Prog.uses_done _
        next => exact (uses_guarded (Prog.uses_call trivial)).bind fun _ => Prog.uses_done _

theorem cache_run {α : Type} {program : Program α} (uses : program.Uses KeepsCache)
    (before : World) :
    (program.run (perform environment) before).2.sessions = before.sessions ∧
      (program.run (perform environment) before).2.now = before.now := by
  refine @Prog.Uses.run_keeps _ _ _ _ _ _ (fun state => state.sessions = before.sessions ∧
    state.now = before.now) ?_ _ uses before ⟨rfl, rfl⟩
  intro op state keeps same
  cases op with
  | upsertActiveSession | expireActiveSession | claimExpiredSessions => exact keeps.elim
  | _ => exact same

theorem cache_notices (claimed : List ExpiredSession) (before : World) :
    (runBackground runtime settings environment
        (claimed.map BackgroundTask.notifySessionExpired) before).sessions = before.sessions ∧
      (runBackground runtime settings environment
        (claimed.map BackgroundTask.notifySessionExpired) before).now = before.now := by
  induction claimed generalizing before with
  | nil => exact ⟨rfl, rfl⟩
  | cons expired rest ih =>
      have ran := @cache_run environment _ _ (@uses_expiryNotice runtime settings expired) before
      have later := ih ((notifySessionExpired runtime settings expired).run
        (perform environment) before).2
      exact ⟨later.1.trans ran.1, later.2.trans ran.2⟩

theorem swept_cache (world : World) :
    (swept runtime settings environment world).sessions =
        world.sessions.filter (fun row =>
          row.key ∉ (claimedBy settings environment world).map ExpiredSession.key) ∧
      (swept runtime settings environment world).now = world.now := by
  have claimed : claimedBy settings environment world.idle =
      claimedBy settings environment world := rfl
  rw [swept]
  simp only [run_expireIdleSessionsOnce, claimed]
  exact cache_notices _ _

theorem claimed_were_older
    (older : ∀ expired ∈ claimedBy settings environment world,
      expired.lastSeenAt ≤ row.lastSeenAt)
    (passed : row.key ∉ (claimedBy settings environment world).map ExpiredSession.key) :
    (claimedBy settings environment world).length ≤
      (world.sessions.rows.filter fun other =>
        other.key ∈ (claimedBy settings environment world).map ExpiredSession.key).countP
          fun other => other.key ≠ row.key ∧ other.lastSeenAt ≤ row.lastSeenAt := by
  rw [List.countP_eq_length_filter, ← List.length_map ExpiredSession.key,
    ← List.length_map (f := ActiveSessionRow.key)]
  apply List.Subperm.length_le
  refine List.subperm_of_subset (claimedBy_once settings environment world) fun key member => ?_
  obtain ⟨expired, claimed, rfl⟩ := List.mem_map.1 member
  obtain ⟨other, present, operatorName, _, _, rfl⟩ := mem_victims (victims_of_mem_claimedBy claimed)
  have keyed : other.key ∈ (claimedBy settings environment world).map ExpiredSession.key := member
  have apart : other.key ≠ row.key := fun same => passed (same ▸ keyed)
  refine List.mem_map.2 ⟨other, List.mem_filter.2 ⟨List.mem_filter.2 ⟨present, ?_⟩, ?_⟩, rfl⟩
  · simpa using keyed
  · simpa using ⟨apart, older _ claimed⟩

theorem waiting_swept
    (inRange : LimitsInRange world.registry settings.expiry settings.expiry.batch)
    (waiting : Waiting row world)
    (unlocked : environment.locked row.key = false)
    (due : (dueSession world.registry settings.expiry world.now row).isSome)
    (passed : row.key ∉ (claimedBy settings environment world).map ExpiredSession.key) :
    Waiting row (swept runtime settings environment world) ∧
      atLeastAsOld row (swept runtime settings environment world) + settings.expiry.batch.toNat ≤
        atLeastAsOld row world := by
  obtain ⟨sessions, now⟩ := @swept_cache runtime settings environment world
  obtain ⟨full, older⟩ := claimed_of_passed_over inRange waiting.cached unlocked due passed
  have kept : row ∈ (swept runtime settings environment world).sessions.rows := by
    rw [sessions]
    exact List.mem_filter.2 ⟨waiting.cached, by simpa using passed⟩
  have gone := claimed_were_older older passed
  have parts := List.countP_eq_countP_filter_add world.sessions.rows
    (fun other => other.key ≠ row.key ∧ other.lastSeenAt ≤ row.lastSeenAt)
    fun other => other.key ∈ (claimedBy settings environment world).map ExpiredSession.key
  have left : (swept runtime settings environment world).sessions.rows =
      world.sessions.rows.filter fun other =>
        !decide (other.key ∈ (claimedBy settings environment world).map ExpiredSession.key) := by
    rw [sessions]
    exact List.filter_congr fun other _ => decide_not
  refine ⟨⟨kept, now ▸ waiting.past⟩, ?_⟩
  rw [atLeastAsOld, atLeastAsOld, left, parts]
  omega

/-! Whole runs. -/

theorem waiting_serviceEvent
    (inRange : LimitsInRange world.registry settings.expiry settings.expiry.batch)
    (waiting : Waiting row world) {event : ServiceEvent}
    (due : StaysDue runtime settings row world event)
    (passed : ¬ ClaimsRow settings row world event) :
    Waiting row (serviceEvent runtime settings world event) ∧
      atLeastAsOld row (serviceEvent runtime settings world event) +
        (if event.isSweep then settings.expiry.batch.toNat else 0) ≤ atLeastAsOld row world := by
  cases event with
  | gateway event => exact waiting_gatewayEvent waiting due
  | sweep environment => exact waiting_swept inRange waiting due.1 due.2 passed

end

def idleRow (sessionId : String) (lastSeenAt : Nat) : ActiveSessionRow where
  sessionId := lit sessionId
  operatorId := 1
  serviceCode := lit "*149*46#"
  shortcodeId := none
  msisdn := none
  ussdString := []
  createdAt := 0
  lastSeenAt := lastSeenAt

def singleClaims : Settings :=
  { sampleSettings with expiry := { sampleSettings.expiry with batch := 1 } }

def twoIdle : World :=
  { sampleWorld with
    sessions := ⟨[idleRow "V2" 2, idleRow "V1" 1], by decide⟩
    now := 300000000 }

def twoSweeps : List ServiceEvent :=
  [.sweep (sampleEnvironment []), .gateway (.elapsed 5000000), .sweep (sampleEnvironment [])]

end UssdGateway
