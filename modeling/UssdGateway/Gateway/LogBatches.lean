import UssdGateway.Gateway.LegLog
import UssdGateway.Gateway.WriterLoop

/-!
How a batch of log rows reaches `ussd_session_logs`: in one statement, so the row that a column or
the driver refuses takes the others of its batch with it.
-/

namespace UssdGateway

/-! What the columns hold. -/

def bindable (text : Str) : Bool :=
  text.all fun point => decide (point.val ≠ 0) && !point.isSurrogate

/-- `VARCHAR(limit)`: only blanks may be cut off. -/
def varchar (limit : Nat) (text : Str) : Bool :=
  bindable text && (text.drop limit).all fun point => decide (point = CodePoint.ofChar ' ')

def jsonbValue : PayloadValue → Bool
  | .text value => jsonbText value
  | .number _ => true
  | .null => true

def jsonb (payload : Payload) : Bool :=
  payload.all fun entry => jsonbText entry.1 && jsonbValue entry.2

def smallint (value : Nat) : Bool := decide (value ≤ 32767)

def integer (value : Nat) : Bool := decide (value ≤ 2147483647)

/-- The row is accepted by every column of `ussd_session_logs` and by its two references. -/
def LogRow.accepted (registry : Registry) (row : LogRow) : Bool :=
  smallint row.operatorId &&
  registry.operators.any (fun operator => decide (operator.id = row.operatorId)) &&
  varchar 32 row.operatorName &&
  row.shortcodeId.all (fun id => integer id &&
    registry.shortcodes.any fun shortcode => decide (shortcode.id = id)) &&
  varchar 64 row.serviceCode && varchar 128 row.sessionId && row.msisdn.all (varchar 20) &&
  bindable row.ussdString && row.rawRequestPayload.all jsonb && row.rawResponsePayload.all jsonb &&
  row.handlerUrl.all bindable && row.handlerStatusCode.all smallint &&
  row.handlerResponseText.all bindable && row.handlerElapsedMs.all integer &&
  row.errorClass.all (varchar 32) && row.errorDetail.all bindable

/-! The writer. -/

structure LogDatabase where
  registry : Registry
  reachable : Bool

section

variable (database : LogDatabase)

def insertRow (table : List LogRow) (row : LogRow) : Option (List LogRow) :=
  if row.accepted database.registry then some (table ++ [row]) else none

/-- One multi-row INSERT for the whole batch; a refused row rolls the statement back. -/
def flushBatch (table batch : List LogRow) : Option (List LogRow) :=
  if batch = [] then some table
  else if database.reachable then batch.foldlM (insertRow database) table
  else none

def writerRound (table batch : List LogRow) : List LogRow :=
  (flushBatch database table batch).getD table

def Persists (table batch : List LogRow) (row : LogRow) : Prop :=
  table.count row < (writerRound database table batch).count row

/-- A row that is accepted on its own is persisted whatever it shares its batch with. -/
def Isolated (table batch : List LogRow) : Prop :=
  ∀ row ∈ batch, row.accepted database.registry = true →
    (Persists database table batch row ↔ Persists database table [row] row)

def Mixed (registry : Registry) (batch : List LogRow) : Prop :=
  (∃ row ∈ batch, row.accepted registry = true) ∧ ∃ row ∈ batch, row.accepted registry = false

end

section

variable {database : LogDatabase} {table batch : List LogRow} {row : LogRow}

theorem insertRows_eq (batch table : List LogRow) :
    batch.foldlM (insertRow database) table =
      if batch.all (LogRow.accepted database.registry) then some (table ++ batch) else none := by
  induction batch generalizing table with
  | nil => simp
  | cons row rest ih =>
      rw [List.foldlM_cons, insertRow]
      by_cases accepted : row.accepted database.registry = true
      · simp [accepted, ih]
      · simp [accepted]

theorem writerRound_eq :
    writerRound database table batch =
      if database.reachable = true ∧ batch.all (LogRow.accepted database.registry) = true then
        table ++ batch
      else table := by
  rw [writerRound, flushBatch]
  by_cases empty : batch = []
  · simp [empty]
  · by_cases reachable : database.reachable = true
    · rw [if_neg empty, if_pos reachable, insertRows_eq]
      by_cases whole : batch.all (LogRow.accepted database.registry) = true
      · rw [if_pos whole, if_pos ⟨reachable, whole⟩, Option.getD_some]
      · rw [if_neg whole, if_neg fun both => whole both.2, Option.getD_none]
    · rw [if_neg empty, if_neg reachable, if_neg fun both => reachable both.1, Option.getD_none]

theorem table_of_flush {config : WriterConfig} {loop after : WriterLoop LogRow} {stopping : Bool}
    (flushing : loop.phase = .flushing batch stopping)
    (stepped : loop.step config (.flushBatch (flushBatch database loop.table batch).isSome) =
      some after) : after.table = writerRound database loop.table batch := by
  rw [WriterLoop.step_flushBatch config flushing, Option.some.injEq] at stepped
  rw [← stepped, writerRound]
  rcases inserted : flushBatch database loop.table batch with _ | table
  · rfl
  · rw [flushBatch, insertRows_eq] at inserted
    simp only [Option.isSome_some, if_true, Option.getD_some]
    split at inserted
    next empty => rw [empty, List.append_nil, Option.some.inj inserted]
    next =>
      split at inserted
      · split at inserted
        · exact Option.some.inj inserted
        · cases inserted
      · cases inserted

theorem persists_iff (member : row ∈ batch) :
    Persists database table batch row ↔
      database.reachable = true ∧ ∀ other ∈ batch, other.accepted database.registry = true := by
  rw [Persists, writerRound_eq, ← List.all_eq_true]
  split
  next whole =>
    have present : 0 < batch.count row := List.count_pos_iff.2 member
    rw [List.count_append]
    exact iff_of_true (by omega) whole
  next refused => exact iff_of_false (by omega) refused

theorem persists_alone_iff (accepted : row.accepted database.registry = true) :
    Persists database table [row] row ↔ database.reachable = true := by
  rw [persists_iff List.mem_cons_self]
  simp [accepted]

theorem not_isolated_of_mixed (reachable : database.reachable = true)
    (mixed : Mixed database.registry batch) : ¬ Isolated database table batch := by
  obtain ⟨⟨row, member, accepted⟩, refused, refusedMember, rejection⟩ := mixed
  intro isolated
  have persisted := (isolated row member accepted).2 ((persists_alone_iff accepted).2 reachable)
  have whole := ((persists_iff member).1 persisted).2 refused refusedMember
  rw [rejection] at whole
  cases whole

/-- For every table and batch: each row that would be accepted on its own is persisted
independently of the others if and only if the batch does not mix accepted and refused rows, or
the database cannot be reached at all. -/
theorem batch_isolated_iff (database : LogDatabase) (table batch : List LogRow) :
    Isolated database table batch ↔
      (Mixed database.registry batch → database.reachable = false) := by
  constructor
  · intro isolated mixed
    by_contra reachable
    exact not_isolated_of_mixed (by simpa using reachable) mixed isolated
  · intro unmixed row member accepted
    rw [persists_alone_iff accepted, persists_iff member]
    constructor
    · exact fun both => both.1
    · intro reachable
      refine ⟨reachable, ?_⟩
      intro other otherMember
      by_contra refused
      have down := unmixed ⟨⟨row, member, accepted⟩, other, otherMember, by simpa using refused⟩
      rw [reachable] at down
      cases down

end

def nulBody : Str := lit "CON Karibu" ++ [0]

def secondDial : Request :=
  { airtelDial with
    queryParams := [(lit "msisdn", lit "255780000002"), (lit "sessionid", lit "S2"),
      (lit "input", lit "149*01")] }

def afterNul : World :=
  (serve sampleRuntime sampleSettings (sampleEnvironment nulBody)
    (handleUssd sampleRuntime sampleSettings Adapter.airtel.operator airtelDial) sampleWorld).2

def afterBoth : World :=
  (serve sampleRuntime sampleSettings (sampleEnvironment (lit "CON Karibu"))
    (handleUssd sampleRuntime sampleSettings Adapter.airtel.operator secondDial) afterNul).2

/-- The row of the second subscriber is lost with the first one's. -/
theorem nul_reply_loses_other_session :
    ∃ row ∈ afterBoth.logQueue.rows, row.sessionId = lit "S2" ∧
      row.accepted sampleRegistry = true ∧
      ¬ Isolated ⟨sampleRegistry, true⟩ [] afterBoth.logQueue.rows := by
  refine ⟨afterBoth.logQueue.rows.get ⟨1, by decide⟩, List.get_mem _ _, by decide, by decide, ?_⟩
  refine not_isolated_of_mixed rfl ⟨⟨_, List.get_mem _ ⟨1, by decide⟩, by decide⟩, ?_⟩
  exact ⟨_, List.get_mem _ ⟨0, by decide⟩, by decide⟩

end UssdGateway
