import UssdGateway.Library.JsText
import UssdGateway.Library.Utf16
import UssdGateway.Reports.SessionCounts
import UssdGateway.SessionLogs.Retention

/-!
The daily scheduler at work on the log. Every night it rolls yesterday up, lengthens the runway and
archives what is old, while legs come in, operators are edited and the process is restarted.
-/

namespace UssdGateway

open WindowRefresh

structure OperatorWrite where
  displayName : String
  billableWindowSecs : Option Nat
  active : Bool
  accepted : ∀ secs ∈ billableWindowSecs, 1 ≤ secs ∧ secs ≤ 600

structure OperatorForm where
  displayName : String
  billableWindowSecs : String
  active : String

namespace OperatorForm

def windowError : String := "billable_window_secs must be empty (per-leg) or 1–600"

/-- What `parseWrite` lets through as a window. -/
def Accepted (window : Option Nat) : Prop := ∀ secs ∈ window, 1 ≤ secs ∧ secs ≤ 600

theorem accepted_none : Accepted none := by
  intro secs absent
  cases absent

theorem accepted_toNat {n : Int} (kept : ¬(n < 1 ∨ 600 < n)) : Accepted (some n.toNat) := by
  intro secs same
  obtain rfl := Option.some.inj same
  omega

/-- Nothing, `null` and `0` all mean no window. -/
def parseWindow (text : String) : Except String { window : Option Nat // Accepted window } :=
  let windowStr := JsText.trim text
  if windowStr = "" ∨ windowStr = "null" ∨ windowStr = "0" then .ok ⟨none, accepted_none⟩
  else
    match JsText.parseInt windowStr with
    | none => .error windowError
    | some n =>
        if refused : n < 1 ∨ 600 < n then .error windowError
        else .ok ⟨some n.toNat, accepted_toNat refused⟩

def parseWrite (form : OperatorForm) : Except String OperatorWrite :=
  let displayName := JsText.trim form.displayName
  let active := JsText.trim form.active
  if displayName = "" then .error "display_name required"
  else if 64 < (Utf16.encode displayName.toList).length then
    .error "display_name too long (max 64)"
  else
    (parseWindow form.billableWindowSecs).map fun window =>
      { displayName
        billableWindowSecs := window.1
        active := decide (active = "1" ∨ active = "true" ∨ active = "on")
        accepted := window.2 }

end OperatorForm

def OperatorRecord.written (id : Nat) (write : OperatorWrite) (operator : OperatorRecord) :
    OperatorRecord :=
  if operator.id = id then { operator with billableWindowSecs := write.billableWindowSecs }
  else operator

theorem OperatorRecord.id_written (id : Nat) (write : OperatorWrite) :
    OperatorRecord.id ∘ OperatorRecord.written id write = OperatorRecord.id := by
  funext operator
  rw [Function.comp_apply, OperatorRecord.written]
  split <;> rfl

theorem OperatorRecord.name_written (id : Nat) (write : OperatorWrite) :
    OperatorRecord.name ∘ OperatorRecord.written id write = OperatorRecord.name := by
  funext operator
  rw [Function.comp_apply, OperatorRecord.written]
  split <;> rfl

def OperatorTable.updateOperator (operators : OperatorTable) (id : Nat) (write : OperatorWrite) :
    OperatorTable where
  rows := operators.rows.map (OperatorRecord.written id write)
  idsUnique := by
    rw [List.map_map, OperatorRecord.id_written]
    exact operators.idsUnique
  namesUnique := by
    rw [List.map_map, OperatorRecord.name_written]
    exact operators.namesUnique
  windowsAccepted := by
    intro operator member secs window
    obtain ⟨before, present, rfl⟩ := List.mem_map.1 member
    rw [OperatorRecord.written] at window
    split at window
    · exact write.accepted secs window
    · exact operators.windowsAccepted before present secs window

/-! The scheduler. -/

inductive DailyTask where
  | refreshYesterday
  | ensureWeekly
  | archiveOld
deriving DecidableEq

def tasksDaily : List DailyTask := [.refreshYesterday, .ensureWeekly, .archiveOld]

/-- Where `_loop_daily` stands. The tasks are those that are left of the tick. -/
inductive DailyPhase where
  | planning
  | sleeping (target : Int)
  | ticking (target : Int) (tasks : List DailyTask)

def DailyPhase.after (target : Int) : List DailyTask → DailyPhase
  | [] => .planning
  | tasks => .ticking target tasks

abbrev KnownLeg (ids : List Nat) : Type := { leg : LegRecord // leg.operatorId ∈ ids }

def knownTs {ids : List Nat} (leg : KnownLeg ids) : Int := leg.1.ts

/-- The database, whose sessions run in UTC, and the process. What was logged since ever and what
was rolled up, under the operators of that time, is remembered beside them. -/
structure DailyState (ids : List Nat) where
  operators : OperatorTable
  sameIds : operators.rows.map OperatorRecord.id = ids
  store : LogStore (KnownLeg ids)
  dailySessionSummary : List SummaryRow
  phase : DailyPhase
  logged : List (KnownLeg ids)
  rolledUp : List (Int × OperatorTable)

inductive DailyEvent (ids : List Nat) where
  | elapsed (micros : Nat)
  | logged (leg : KnownLeg ids)
  | edited (id : Nat) (form : OperatorForm)
  | planned
  | woke (connected : Bool)
  | performed (faults : Str → Faults)
  | failed
  | restarted

namespace DailyState

variable {ids : List Nat} (state : DailyState ids)

def tables : LegTables where
  operators := state.operators
  legs := state.store.catalog.current.map (·.1)
  operatorKnown := by
    intro leg member
    obtain ⟨known, _, rfl⟩ := List.mem_map.1 member
    have listed : known.1.operatorId ∈ state.operators.rows.map OperatorRecord.id := by
      rw [state.sameIds]
      exact known.2
    rw [OperatorTable.byId, List.find?_isSome]
    obtain ⟨operator, present, same⟩ := List.mem_map.1 listed
    exact ⟨operator, present, decide_eq_true same⟩

def today : Int := localDate 0 state.store.now

def stored (event : PartitionEvent (KnownLeg ids)) : Option (DailyState ids) :=
  (state.store.step knownTs event).map fun store =>
    { state with store, logged := state.logged ++ event.added }

def actionUpdateOperator (id : Nat) (form : OperatorForm) : DailyState ids :=
  match form.parseWrite with
  | .error _ => state
  | .ok write =>
      { state with
        operators := state.operators.updateOperator id write
        sameIds := by
          refine Eq.trans ?_ state.sameIds
          rw [OperatorTable.updateOperator, List.map_map, OperatorRecord.id_written] }

def perform (faults : Str → Faults) : DailyTask → Option (DailyState ids)
  | .refreshYesterday =>
      let yesterday := state.today - 1
      some { state with
        dailySessionSummary := afterRefresh 0 state.tables state.dailySessionSummary
          (some yesterday) (some yesterday)
        rolledUp := (yesterday, state.operators) ::
          state.rolledUp.filter fun rolled => decide (rolled.1 ≠ yesterday) }
  | .ensureWeekly => state.stored (.ensured .weekly 2)
  | .archiveOld => state.stored (.archived 120 faults)

def step (fireTime : Int) : DailyEvent ids → Option (DailyState ids)
  | .elapsed micros => state.stored (.elapsed micros)
  | .logged leg =>
      -- the column defaults to the time of the insert
      if leg.1.ts = state.store.now then state.stored (.inserted leg) else none
  | .edited id form => some (state.actionUpdateOperator id form)
  | .planned =>
      match state.phase with
      | .planning => some { state with phase := .sleeping (nextDaily fireTime state.store.now) }
      | _ => none
  | .woke connected =>
      match state.phase with
      | .sleeping target =>
          if target ≤ state.store.now then
            some { state with
              phase := if connected then .ticking target tasksDaily else .planning }
          else none
      | _ => none
  | .performed faults =>
      match state.phase with
      | .ticking target (task :: rest) =>
          (state.perform faults task).map fun after =>
            { after with phase := .after target rest }
      | _ => none
  | .failed =>
      match state.phase with
      | .ticking target (_ :: rest) => some { state with phase := .after target rest }
      | _ => none
  | .restarted => some { state with phase := .planning }

end DailyState

def dailyRuns (fireTime : Int) (ids : List Nat) :
    StepSystem (DailyState ids) (DailyEvent ids) where
  initial state :=
    state.store.Sound ∧ state.store.catalog.Filed knownTs ∧
      state.logged = state.store.catalog.current ++ state.store.catalog.archivedRows ∧
      (∀ leg ∈ state.logged, leg.1.ts ≤ state.store.now) ∧
      (∀ leg ∈ state.store.catalog.archivedRows,
        leg.1.ts < state.store.now - 120 * dayMicros) ∧
      state.dailySessionSummary = [] ∧ state.rolledUp = [] ∧ state.phase = .planning
  step state := state.step fireTime

/-! What every step keeps. -/

section

variable {ids : List Nat} {state after : DailyState ids} {fireTime : Int}

structure DailyState.Kept (state : DailyState ids) : Prop where
  sound : state.store.Sound
  filed : state.store.catalog.Filed knownTs
  whole : (state.store.catalog.current ++ state.store.catalog.archivedRows).Perm state.logged
  stamped : ∀ leg ∈ state.logged, leg.1.ts ≤ state.store.now
  old : ∀ leg ∈ state.store.catalog.archivedRows, leg.1.ts < state.store.now - 120 * dayMicros

def DailyState.legs (state : DailyState ids) : List LegRecord := state.logged.map (·.1)

/-- The bill of a day is the rollup of its legs, under the operators of the night after it. -/
def DailyState.Bills (state : DailyState ids) (day : Int) (operators : OperatorTable) : Prop :=
  (rowsOfDays day day state.dailySessionSummary).Perm
    (rollup 0 operators (legsOfDays 0 day day state.legs))

structure DailyState.Billed (state : DailyState ids) : Prop extends state.Kept where
  past : ∀ rolled ∈ state.rolledUp, rolled.1 < state.today
  bills : ∀ rolled ∈ state.rolledUp, state.Bills rolled.1 rolled.2
  others : ∀ row ∈ state.dailySessionSummary, ∃ rolled ∈ state.rolledUp, rolled.1 = row.date

theorem localDate_mono {first second : Int} (order : first ≤ second) :
    localDate 0 first ≤ localDate 0 second :=
  Int.ediv_le_ediv (by decide) (by omega)

theorem DailyState.Kept.stored (kept : state.Kept) {event : PartitionEvent (KnownLeg ids)}
    (keeps : event.Keeps 120) (dropless : event.isDrop = false)
    (fresh : ∀ leg ∈ event.added, leg.1.ts ≤ state.store.now)
    (stepped : state.stored event = some after) : after.Kept ∧ state.today ≤ after.today := by
  obtain ⟨store, moved, rfl⟩ := Option.map_eq_some_iff.1 stepped
  obtain ⟨order, filed, gone, lost, retained, none⟩ :=
    kept.sound.step_retained kept.filed keeps moved
  obtain rfl := none dropless
  refine ⟨⟨kept.sound.step (keeps.retains (by decide)) moved, filed, ?_, ?_, ?_⟩,
    localDate_mono order⟩
  · rw [List.perm_iff_count]
    intro leg
    have before := kept.whole.count_eq leg
    have current := retained.current.count_eq leg
    have archived := retained.archived.count_eq leg
    simp only [List.count_append, List.count_nil] at before current archived ⊢
    omega
  · intro leg member
    rcases List.mem_append.1 member with old | new
    · exact le_trans (kept.stamped leg old) order
    · exact le_trans (fresh leg new) order
  · intro leg member
    rcases List.mem_append.1 (retained.archived.mem_iff.1 member) with old | new
    · have early := kept.old leg old
      dsimp only
      omega
    · have early := retained.older leg (List.mem_append_left _ new)
      rw [knownTs] at early
      dsimp only
      omega

theorem DailyState.Kept.yesterdays (kept : state.Kept) :
    (legsOfDays 0 (state.today - 1) (state.today - 1) state.tables.legs).Perm
      (legsOfDays 0 (state.today - 1) (state.today - 1) state.legs) := by
  have none : legsOfDays 0 (state.today - 1) (state.today - 1)
      (state.store.catalog.archivedRows.map (·.1)) = [] := by
    refine List.filter_eq_nil_iff.2 fun leg member => ?_
    obtain ⟨known, archived, rfl⟩ := List.mem_map.1 member
    have early := kept.old known archived
    simp only [dayWithin, Bool.and_eq_true, decide_eq_true_eq]
    simp only [DailyState.today, localDate, dayMicros] at early ⊢
    omega
  have whole := (kept.whole.map (·.1)).filter fun leg =>
    dayWithin (state.today - 1) (state.today - 1) (localDate 0 leg.ts)
  rw [List.map_append, List.filter_append] at whole
  rw [legsOfDays] at none
  rwa [none, List.append_nil] at whole

theorem rowsOfDay_refreshed (tables : LegTables) (summary : List SummaryRow) {day other : Int}
    (apart : other ≠ day) :
    rowsOfDays other other (afterRefresh 0 tables summary (some day) (some day)) =
      rowsOfDays other other summary := by
  have outside : ∀ row : SummaryRow, dayWithin other other row.date = true →
      dayWithin day day row.date = false := by
    intro row inside
    simp only [dayWithin, Bool.and_eq_true, decide_eq_true_eq, Bool.and_eq_false_iff,
      decide_eq_false_iff_not] at inside ⊢
    omega
  have restrict : ∀ rows : List SummaryRow, rowsOfDays other other rows =
      rowsOfDays other other (rows.filter fun row => !dayWithin day day row.date) := by
    intro rows
    rw [rowsOfDays, rowsOfDays, List.filter_filter]
    refine List.filter_congr fun row _ => ?_
    rcases inside : dayWithin other other row.date with _ | _
    · rfl
    · rw [outside row inside]
      rfl
  rw [restrict, restrict summary, afterRefresh_eq _ _ _ (le_refl _), filter_outside_refresh]

theorem DailyState.Billed.refreshed (billed : state.Billed) {faults : Str → Faults}
    (performed : state.perform faults .refreshYesterday = some after) : after.Billed := by
  obtain rfl := Option.some.inj performed
  refine ⟨⟨billed.sound, billed.filed, billed.whole, billed.stamped, billed.old⟩, ?_, ?_, ?_⟩
  · intro rolled member
    rcases List.mem_cons.1 member with rfl | earlier
    · dsimp only [DailyState.today]
      omega
    · exact billed.past rolled (List.mem_of_mem_filter earlier)
  · intro rolled member
    rcases List.mem_cons.1 member with rfl | earlier
    · rw [DailyState.Bills, rowsOfDays_afterRefresh _ _ _ (le_refl _)]
      exact rollup_perm 0 _ billed.yesterdays
    · obtain ⟨earlier, apart⟩ := List.mem_filter.1 earlier
      rw [DailyState.Bills, rowsOfDay_refreshed _ _ (of_decide_eq_true apart)]
      exact billed.bills rolled earlier
  · intro row member
    rw [afterRefresh_eq _ _ _ (le_refl _)] at member
    by_cases here : row.date = state.today - 1
    · exact ⟨_, List.mem_cons_self, here.symm⟩
    · rcases List.mem_append.1 member with old | new
      · obtain ⟨rolled, earlier, same⟩ := billed.others row (List.mem_of_mem_filter old)
        refine ⟨rolled, List.mem_cons_of_mem _ (List.mem_filter.2 ⟨earlier, ?_⟩), same⟩
        exact decide_eq_true fun day => here (same ▸ day)
      · have inside := (List.mem_filter.1 new).2
        simp only [dayWithin, Bool.and_eq_true, decide_eq_true_eq] at inside
        omega

theorem DailyState.Billed.stored (billed : state.Billed) {event : PartitionEvent (KnownLeg ids)}
    (stepped : state.stored event = some after) (keeps : event.Keeps 120)
    (dropless : event.isDrop = false) (fresh : ∀ leg ∈ event.added, leg.1.ts = state.store.now) :
    after.Billed := by
  obtain ⟨kept, later⟩ := billed.toKept.stored keeps dropless
    (fun leg member => le_of_eq (fresh leg member)) stepped
  obtain ⟨store, moved, rfl⟩ := Option.map_eq_some_iff.1 stepped
  refine ⟨kept, fun rolled member => lt_of_lt_of_le (billed.past rolled member) later, ?_,
    billed.others⟩
  intro rolled member
  have past := billed.past rolled member
  have none : legsOfDays 0 rolled.1 rolled.1 (event.added.map (·.1)) = [] := by
    refine List.filter_eq_nil_iff.2 fun leg inside => ?_
    obtain ⟨known, added, rfl⟩ := List.mem_map.1 inside
    have now := fresh known added
    simp only [dayWithin, Bool.and_eq_true, decide_eq_true_eq, now]
    rw [DailyState.today] at past
    omega
  have same : legsOfDays 0 rolled.1 rolled.1 ((state.logged ++ event.added).map (·.1)) =
      legsOfDays 0 rolled.1 rolled.1 state.legs := by
    rw [List.map_append, legsOfDays, List.filter_append]
    rw [legsOfDays] at none
    rw [none, List.append_nil]
    rfl
  rw [DailyState.Bills, DailyState.legs, same]
  exact billed.bills rolled member

theorem DailyState.Billed.perform (billed : state.Billed) {faults : Str → Faults}
    {task : DailyTask} (performed : state.perform faults task = some after) : after.Billed := by
  cases task with
  | refreshYesterday => exact billed.refreshed performed
  | ensureWeekly =>
      exact billed.stored performed trivial rfl fun _ member => absurd member List.not_mem_nil
  | archiveOld =>
      exact billed.stored performed (le_refl _) rfl fun _ member =>
        absurd member List.not_mem_nil

theorem DailyState.Billed.step (billed : state.Billed) {event : DailyEvent ids}
    (stepped : state.step fireTime event = some after) : after.Billed := by
  have rephased : ∀ {before : DailyState ids} (phase : DailyPhase), before.Billed →
      DailyState.Billed { before with phase } := by
    rintro before phase ⟨⟨sound, filed, whole, stamped, old⟩, past, bills, others⟩
    exact ⟨⟨sound, filed, whole, stamped, old⟩, past, bills, others⟩
  cases event with
  | elapsed micros =>
      exact billed.stored stepped trivial rfl fun _ member => absurd member List.not_mem_nil
  | logged leg =>
      obtain ⟨now, stepped⟩ := Option.ite_none_right_eq_some.1 stepped
      refine billed.stored stepped trivial rfl fun other member => ?_
      rw [List.mem_singleton.1 member]
      exact now
  | edited id form =>
      obtain rfl := Option.some.inj stepped
      rw [DailyState.actionUpdateOperator]
      split
      · exact billed
      · obtain ⟨⟨sound, filed, whole, stamped, old⟩, past, bills, others⟩ := billed
        exact ⟨⟨sound, filed, whole, stamped, old⟩, past, bills, others⟩
  | planned =>
      rw [DailyState.step] at stepped
      split at stepped
      · obtain rfl := Option.some.inj stepped
        exact rephased _ billed
      · cases stepped
  | woke connected =>
      rw [DailyState.step] at stepped
      split at stepped
      · obtain ⟨_, moved⟩ := Option.ite_none_right_eq_some.1 stepped
        obtain rfl := Option.some.inj moved
        exact rephased _ billed
      · cases stepped
  | performed faults =>
      rw [DailyState.step] at stepped
      split at stepped
      · obtain ⟨middle, performed, rfl⟩ := Option.map_eq_some_iff.1 stepped
        exact rephased _ (billed.perform performed)
      · cases stepped
  | failed =>
      rw [DailyState.step] at stepped
      split at stepped
      · obtain rfl := Option.some.inj stepped
        exact rephased _ billed
      · cases stepped
  | restarted =>
      obtain rfl := Option.some.inj stepped
      exact rephased _ billed

theorem billed_of_initial (initial : (dailyRuns fireTime ids).initial state) : state.Billed := by
  obtain ⟨sound, filed, whole, stamped, old, noRows, noDays, _⟩ := initial
  refine ⟨⟨sound, filed, .of_eq whole.symm, stamped, old⟩, ?_, ?_, ?_⟩
  · rw [noDays]
    exact fun _ member => absurd member List.not_mem_nil
  · rw [noDays]
    exact fun _ member => absurd member List.not_mem_nil
  · rw [noRows]
    exact fun _ member => absurd member List.not_mem_nil

end

def juneLeg : KnownLeg [1] :=
  ⟨{ id := 1
     ts := dayStart 740080
     operatorId := 1
     operatorName := "vodacom"
     shortcodeId := some 10
     serviceCode := some "*149*01#"
     sessionId := "V1"
     msisdn := some "255750000001"
     ussdString := none
     direction := "response"
     handlerResponseAction := some "END"
     handlerResponseText := none
     handlerElapsedMs := none
     errorClass := none }, by decide⟩

def juneScheduler : DailyState [1] where
  operators := vodacomOnly
  sameIds := rfl
  store := monthlyStore 24314 4 (dayStart 740080)
  dailySessionSummary := []
  phase := .planning
  logged := []
  rolledUp := []

theorem juneScheduler_initial :
    (dailyRuns 7200000000 [1]).initial juneScheduler := by
  have sound : (partitionRuns knownTs).initial juneScheduler.store :=
    monthlyStore_initial (by decide) (by decide) (by decide) (by decide) (by decide)
  refine ⟨sound, ⟨?_, ?_⟩, rfl, ?_, ?_, rfl, rfl, rfl⟩
  · intro part member
    obtain ⟨month, _, rfl⟩ := List.mem_map.1 member
    exact fun _ inside => absurd inside List.not_mem_nil
  all_goals exact fun _ member => absurd member List.not_mem_nil

def nightlyTick : List (DailyEvent [1]) :=
  .woke true :: List.replicate 3 (.performed fun _ _ => none)

def summerOfBills : List (DailyEvent [1]) :=
  [.logged juneLeg, .elapsed 10800000000, .planned, .elapsed 82800000000] ++ nightlyTick ++
    [.edited 1 ⟨"Vodacom", "30", "on"⟩, .planned, .elapsed 12960000000000] ++ nightlyTick

def novemberScheduler : DailyState [1] :=
  ((dailyRuns 7200000000 [1]).run juneScheduler summerOfBills).getD juneScheduler

end UssdGateway
