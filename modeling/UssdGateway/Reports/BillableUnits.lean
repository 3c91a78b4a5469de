import Mathlib.Data.Rat.Floor
import UssdGateway.Exports.SessionsExport
import UssdGateway.Reports.BillableSummary
import UssdGateway.Reports.DailySummary

/-!
The billable units of a session, at every site that computes them, over exact durations. The page,
the summary, the rollup and the view of today round the duration up to a whole second first.
-/

namespace UssdGateway

/-- `GREATEST(1, CEIL(secs / window))`. -/
def greatestUnits (secs : ℚ) (windowSecs : Nat) : Int := max 1 ⌈secs / windowSecs⌉

/-- `sessionsQuery` of the export worker. -/
def exportUnits (durationSecs : ℚ) (windowSecs : Nat) : Int :=
  greatestUnits durationSecs windowSecs

/-- `loadSessionPage`. -/
def sessionPageUnits (durationSecs : ℚ) (windowSecs : Nat) : Int :=
  greatestUnits ⌈durationSecs⌉ windowSecs

/-- `duration_secs` of the `per_session` step of `loadBillableSummary`. -/
def perSessionSecs (durationSecs : ℚ) : ℚ := ⌈durationSecs⌉

/-- The `per_op` step of `loadBillableSummary`. -/
def billableSummaryUnits (durationSecs : ℚ) (windowSecs : Nat) : Int :=
  greatestUnits (perSessionSecs durationSecs) windowSecs

/-- `refresh_daily_session_summary`. -/
def dailyRollupUnits (durationSecs : ℚ) (windowSecs : Nat) : Int :=
  greatestUnits ⌈durationSecs⌉ windowSecs

/-- `today_session_summary_mv`. -/
def todayViewUnits (durationSecs : ℚ) (windowSecs : Nat) : Int :=
  greatestUnits ⌈durationSecs⌉ windowSecs

theorem ceil_ceil_div (durationSecs : ℚ) {windowSecs : Nat} (positive : 1 ≤ windowSecs) :
    ⌈(⌈durationSecs⌉ : ℚ) / windowSecs⌉ = ⌈durationSecs / windowSecs⌉ := by
  have windowPos : (0 : ℚ) < windowSecs := Nat.cast_pos.2 positive
  refine eq_of_forall_ge_iff fun units => ?_
  rw [Int.ceil_le, Int.ceil_le, div_le_iff₀ windowPos, div_le_iff₀ windowPos]
  have whole : (units : ℚ) * windowSecs = ((units * windowSecs : Int) : ℚ) := by push_cast; rfl
  rw [whole, Int.cast_le, Int.ceil_le]

theorem greatestUnits_ceil (durationSecs : ℚ) {windowSecs : Nat} (positive : 1 ≤ windowSecs) :
    greatestUnits ⌈durationSecs⌉ windowSecs = greatestUnits durationSecs windowSecs := by
  rw [greatestUnits, greatestUnits, ceil_ceil_div durationSecs positive]

theorem billing_sites_agree (durationSecs : ℚ) (windowSecs : Nat) (positive : 1 ≤ windowSecs) :
    sessionPageUnits durationSecs windowSecs = exportUnits durationSecs windowSecs ∧
      billableSummaryUnits durationSecs windowSecs = exportUnits durationSecs windowSecs ∧
      dailyRollupUnits durationSecs windowSecs = exportUnits durationSecs windowSecs ∧
      todayViewUnits durationSecs windowSecs = exportUnits durationSecs windowSecs :=
  have rounded := greatestUnits_ceil durationSecs positive
  ⟨rounded, rounded, rounded, rounded⟩

/-- 20.2 seconds bill two windows of 20 seconds. -/
theorem billing_sites_agree_past_boundary :
    sessionPageUnits (101 / 5) 20 = exportUnits (101 / 5) 20 ∧
      billableSummaryUnits (101 / 5) 20 = exportUnits (101 / 5) 20 ∧
      dailyRollupUnits (101 / 5) 20 = exportUnits (101 / 5) 20 ∧
      todayViewUnits (101 / 5) 20 = exportUnits (101 / 5) 20 :=
  billing_sites_agree (101 / 5) 20 (by decide)

def spanSecs (span : Int) : ℚ := span / (1000000 : Nat)

theorem ceilDiv_eq_ceil (amount : Int) (unit : Nat) :
    ceilDiv amount unit = ⌈(amount : ℚ) / unit⌉ :=
  (Rat.ceil_intCast_div_natCast amount unit).symm

theorem ceil_spanSecs (span : Int) : ⌈spanSecs span⌉ = ceilDiv span microsPerSecond :=
  (ceilDiv_eq_ceil span 1000000).symm

theorem windowUnits_eq_sessionPageUnits (windowSecs : Nat) (span : Int) :
    windowUnits windowSecs span = sessionPageUnits (spanSecs span) windowSecs := by
  rw [windowUnits, ceilDiv_eq_ceil, ← ceil_spanSecs]
  rfl

theorem exportWindowUnits_eq (windowSecs : Nat) (span : Int) :
    Worker.windowUnits windowSecs span = exportUnits (spanSecs span) windowSecs := by
  have micros : microsPerSecond * (windowSecs : Int) = ((1000000 * windowSecs : Nat) : Int) := by
    rw [Nat.cast_mul]
    rfl
  rw [Worker.windowUnits, micros, ceilDiv_eq_ceil, exportUnits, greatestUnits, spanSecs,
    Nat.cast_mul, div_div]

theorem groupUnits_eq_dailyRollupUnits {operator : OperatorRecord} {windowSecs : Nat}
    (windowed : operator.billableWindowSecs = some windowSecs) (group : SessionGroup) :
    groupUnits operator group =
      dailyRollupUnits (spanSecs (group.lastTs - group.firstTs)) windowSecs := by
  simp only [groupUnits, windowed, windowUnits_eq_sessionPageUnits]
  rfl

theorem billedSession_eq_billableSummaryUnits (group : (String × String) × List LegRecord)
    (windowSecs : Nat) :
    billedSession (PerSession.ofGroup group, some windowSecs) =
      billableSummaryUnits (spanSecs (spanMicros group.2)) windowSecs := by
  have page := windowUnits_eq_sessionPageUnits windowSecs (spanMicros group.2)
  exact page

end UssdGateway
