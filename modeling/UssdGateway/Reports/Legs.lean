import UssdGateway.Library.Grouping

/-!
The table of logged legs as the reports read it. Times are in microseconds.
-/

namespace UssdGateway

structure LegValues where
  operatorId : Nat
  operatorName : String
  shortcodeId : Option Nat
  serviceCode : Option String
  sessionId : String
  msisdn : Option String
  ussdString : Option String
  direction : String
  handlerResponseAction : Option String
  handlerResponseText : Option String
  handlerElapsedMs : Option Nat
  errorClass : Option String
deriving DecidableEq

structure LegRecord extends LegValues where
  id : Nat
  ts : Int
deriving DecidableEq

structure OperatorRecord where
  id : Nat
  name : String
  billableWindowSecs : Option Nat
deriving DecidableEq

structure OperatorTable where
  rows : List OperatorRecord
  idsUnique : (rows.map OperatorRecord.id).Nodup
  namesUnique : (rows.map OperatorRecord.name).Nodup
  windowsAccepted :
    ∀ operator ∈ rows, ∀ secs ∈ operator.billableWindowSecs, 1 ≤ secs ∧ secs ≤ 600

namespace OperatorTable

def byId (operators : OperatorTable) (id : Nat) : Option OperatorRecord :=
  operators.rows.find? fun operator => operator.id = id

def byName (operators : OperatorTable) (name : String) : Option OperatorRecord :=
  operators.rows.find? fun operator => operator.name = name

end OperatorTable

def vodacomOnly : OperatorTable where
  rows := [⟨1, "vodacom", some 20⟩]
  idsUnique := by decide
  namesUnique := by decide
  windowsAccepted := by simp

structure LegTables where
  operators : OperatorTable
  legs : List LegRecord
  operatorKnown : ∀ leg ∈ legs, (operators.byId leg.operatorId).isSome = true

def firstTs (legs : List LegRecord) : Int := (legs.map LegRecord.ts).min?.getD 0

def lastTs (legs : List LegRecord) : Int := (legs.map LegRecord.ts).max?.getD 0

theorem firstTs_least {legs : List LegRecord} (nonempty : legs ≠ []) :
    (∃ leg ∈ legs, leg.ts = firstTs legs) ∧ ∀ leg ∈ legs, firstTs legs ≤ leg.ts := by
  rcases found : (legs.map LegRecord.ts).min? with _ | least
  · exact absurd (List.map_eq_nil_iff.1 (List.min?_eq_none_iff.1 found)) nonempty
  · obtain ⟨member, below⟩ := List.min?_eq_some_iff.1 found
    obtain ⟨leg, inside, stamped⟩ := List.mem_map.1 member
    have value : firstTs legs = least := by rw [firstTs, found, Option.getD_some]
    rw [value]
    exact ⟨⟨leg, inside, stamped⟩, fun other present => below _ (List.mem_map_of_mem present)⟩

theorem lastTs_greatest {legs : List LegRecord} (nonempty : legs ≠ []) :
    (∃ leg ∈ legs, leg.ts = lastTs legs) ∧ ∀ leg ∈ legs, leg.ts ≤ lastTs legs := by
  rcases found : (legs.map LegRecord.ts).max? with _ | greatest
  · exact absurd (List.map_eq_nil_iff.1 (List.max?_eq_none_iff.1 found)) nonempty
  · obtain ⟨member, above⟩ := List.max?_eq_some_iff.1 found
    obtain ⟨leg, inside, stamped⟩ := List.mem_map.1 member
    have value : lastTs legs = greatest := by rw [lastTs, found, Option.getD_some]
    rw [value]
    exact ⟨⟨leg, inside, stamped⟩, fun other present => above _ (List.mem_map_of_mem present)⟩

/-- `CEIL(amount / unit)` for a positive unit. -/
def ceilDiv (amount unit : Int) : Int := -(-amount / unit)

theorem ceilDiv_ceilDiv (amount outer : Int) {inner : Int} (positive : 0 ≤ inner) :
    ceilDiv (ceilDiv amount inner) outer = ceilDiv amount (inner * outer) := by
  simp only [ceilDiv, Int.neg_neg]
  rw [Int.ediv_ediv_of_nonneg positive]

def microsPerSecond : Int := 1000000

/-- `GREATEST(1, CEIL(CEIL(span) / window))`, the span in microseconds. -/
def windowUnits (windowSecs : Nat) (span : Int) : Int :=
  max 1 (ceilDiv (ceilDiv span microsPerSecond) windowSecs)

def dayMicros : Int := 86400000000

def localDate (zone ts : Int) : Int := (ts + zone) / dayMicros

def midnight (zone date : Int) : Int := date * dayMicros - zone

theorem midnight_le_iff (zone date ts : Int) :
    midnight zone date ≤ ts ↔ date ≤ localDate zone ts := by
  simp only [midnight, localDate, dayMicros]
  omega

theorem lt_midnight_iff (zone date ts : Int) :
    ts < midnight zone date ↔ localDate zone ts < date := by
  simp only [midnight, localDate, dayMicros]
  omega

end UssdGateway
