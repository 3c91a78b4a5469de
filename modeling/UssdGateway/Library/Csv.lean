import Mathlib.Data.List.Basic

/-!
Comma-separated records. The reader is that of RFC 4180, over any four distinct marks, and takes a
bare line feed for the end of a record too.
-/

namespace Csv

structure Marks (α : Type) where
  quote : α
  comma : α
  lineFeed : α
  carriageReturn : α
  distinct : [quote, comma, lineFeed, carriageReturn].Nodup

def Marks.all {α : Type} (marks : Marks α) : List α :=
  [marks.quote, marks.comma, marks.lineFeed, marks.carriageReturn]

theorem Marks.comma_ne_quote {α : Type} (marks : Marks α) : marks.comma ≠ marks.quote := by
  have distinct := marks.distinct
  simp only [List.nodup_cons, List.mem_cons, not_or] at distinct
  exact Ne.symm distinct.1.1

theorem Marks.lineFeed_ne_quote {α : Type} (marks : Marks α) : marks.lineFeed ≠ marks.quote := by
  have distinct := marks.distinct
  simp only [List.nodup_cons, List.mem_cons, not_or] at distinct
  exact Ne.symm distinct.1.2.1

theorem Marks.lineFeed_ne_comma {α : Type} (marks : Marks α) : marks.lineFeed ≠ marks.comma := by
  have distinct := marks.distinct
  simp only [List.nodup_cons, List.mem_cons, not_or] at distinct
  exact Ne.symm distinct.2.1.1

inductive Place where
  | start
  | plain
  | quoted
  | quoteSeen
  | returnSeen
deriving DecidableEq

structure Reader (α : Type) where
  records : List (List (List α))
  cells : List (List α)
  cell : List α
  place : Place
deriving DecidableEq

namespace Reader

variable {α : Type}

def endCell (reader : Reader α) : Reader α :=
  { reader with cells := reader.cells ++ [reader.cell], cell := [], place := .start }

def endRecord (reader : Reader α) : Reader α :=
  ⟨reader.records ++ [reader.cells ++ [reader.cell]], [], [], .start⟩

def take (reader : Reader α) (point : α) (place : Place) : Reader α :=
  { reader with cell := reader.cell ++ [point], place := place }

end Reader

variable {α : Type} [DecidableEq α] (marks : Marks α)

def afterCell (reader : Reader α) (point : α) : Option (Reader α) :=
  if point = marks.comma then some reader.endCell
  else if point = marks.lineFeed then some reader.endRecord
  else if point = marks.carriageReturn then some { reader with place := .returnSeen }
  else none

def step (reader : Reader α) (point : α) : Option (Reader α) :=
  match reader.place with
  | .start =>
      if point = marks.quote then some { reader with place := .quoted }
      else (afterCell marks reader point).orElse fun _ => some (reader.take point .plain)
  | .plain =>
      if point = marks.quote then none
      else (afterCell marks reader point).orElse fun _ => some (reader.take point .plain)
  | .quoted =>
      if point = marks.quote then some { reader with place := .quoteSeen }
      else some (reader.take point .quoted)
  | .quoteSeen =>
      if point = marks.quote then some (reader.take point .quoted)
      else afterCell marks reader point
  | .returnSeen => if point = marks.lineFeed then some reader.endRecord else none

def run (reader : Reader α) (text : List α) : Option (Reader α) := text.foldlM (step marks) reader

def finish (reader : Reader α) : Option (List (List (List α))) :=
  match reader.place with
  | .quoted | .returnSeen => none
  | .start => if reader.cells = [] then some reader.records else some reader.endRecord.records
  | .plain | .quoteSeen => some reader.endRecord.records

def read (text : List α) : Option (List (List (List α))) :=
  (run marks ⟨[], [], [], .start⟩ text).bind finish

def escape (point : α) : List α :=
  if point = marks.quote then [marks.quote, marks.quote] else [point]

/-- How a cell may stand in a record: as it is without a mark, or between quotes. -/
inductive Renders : List α → List α → Prop
  | plain {cell : List α} (markless : ∀ point ∈ cell, point ∉ marks.all) : Renders cell cell
  | quoted (cell : List α) :
      Renders ([marks.quote] ++ cell.flatMap (escape marks) ++ [marks.quote]) cell

def line {κ : Type} (write : κ → List α) (cells : List κ) : List α :=
  [marks.comma].intercalate (cells.map write) ++ [marks.lineFeed]

section

variable {marks}

theorem run_nil (reader : Reader α) : run marks reader [] = some reader := rfl

theorem run_cons (reader : Reader α) (point : α) (text : List α) :
    run marks reader (point :: text) =
      (step marks reader point).bind fun next => run marks next text := rfl

theorem run_append (reader : Reader α) (first second : List α) :
    run marks reader (first ++ second) =
      (run marks reader first).bind fun next => run marks next second :=
  List.foldlM_append

def Place.Whole (place : Place) : Prop := place ≠ .quoted ∧ place ≠ .returnSeen

theorem step_comma {reader : Reader α} (whole : reader.place.Whole) :
    step marks reader marks.comma = some reader.endCell := by
  have other := marks.comma_ne_quote
  obtain ⟨records, cells, cell, place⟩ := reader
  cases place with
  | quoted => exact absurd rfl whole.1
  | returnSeen => exact absurd rfl whole.2
  | start => simp [step, afterCell, other]
  | plain => simp [step, afterCell, other]
  | quoteSeen => simp [step, afterCell, other]

theorem step_lineFeed {reader : Reader α} (whole : reader.place.Whole) :
    step marks reader marks.lineFeed = some reader.endRecord := by
  have other := marks.lineFeed_ne_quote
  have different := marks.lineFeed_ne_comma
  obtain ⟨records, cells, cell, place⟩ := reader
  cases place with
  | quoted => exact absurd rfl whole.1
  | returnSeen => exact absurd rfl whole.2
  | start => simp [step, afterCell, other, different]
  | plain => simp [step, afterCell, other, different]
  | quoteSeen => simp [step, afterCell, other, different]

theorem step_markless {reader : Reader α} {point : α}
    (unquoted : reader.place = .start ∨ reader.place = .plain) (markless : point ∉ marks.all) :
    step marks reader point = some (reader.take point .plain) := by
  simp only [Marks.all, List.mem_cons, List.not_mem_nil, or_false, not_or] at markless
  obtain ⟨quote, comma, lineFeed, carriageReturn⟩ := markless
  rcases unquoted with place | place
  · simp [step, afterCell, place, quote, comma, lineFeed, carriageReturn]
  · simp [step, afterCell, place, quote, comma, lineFeed, carriageReturn]

theorem run_plain {reader : Reader α} {text : List α}
    (unquoted : reader.place = .start ∨ reader.place = .plain)
    (markless : ∀ point ∈ text, point ∉ marks.all) :
    ∃ place, (place = .start ∨ place = .plain) ∧
      run marks reader text = some { reader with cell := reader.cell ++ text, place := place } := by
  induction text generalizing reader with
  | nil => exact ⟨reader.place, unquoted, by rw [run_nil, List.append_nil]⟩
  | cons point rest ih =>
      obtain ⟨here, later⟩ := List.forall_mem_cons.1 markless
      obtain ⟨place, unquoted', ran⟩ := @ih (reader.take point .plain) (Or.inr rfl) later
      refine ⟨place, unquoted', ?_⟩
      rw [run_cons, step_markless unquoted here, Option.bind_some, ran]
      simp [Reader.take]

theorem run_escape {reader : Reader α} (inside : reader.place = .quoted) (point : α) :
    run marks reader (escape marks point) = some (reader.take point .quoted) := by
  obtain ⟨records, cells, cell, place⟩ := reader
  cases inside
  rw [escape]
  split
  next doubled =>
    simp only [run_cons, step, doubled, if_true, Option.bind_some, run_nil]
    rfl
  next other => simp only [run_cons, step, other, if_false, Option.bind_some, run_nil]

theorem run_quoted {reader : Reader α} (inside : reader.place = .quoted) (text : List α) :
    run marks reader (text.flatMap (escape marks)) =
      some { reader with cell := reader.cell ++ text } := by
  induction text generalizing reader with
  | nil => rw [List.flatMap_nil, run_nil, List.append_nil]
  | cons point rest ih =>
      rw [List.flatMap_cons, run_append, run_escape inside, Option.bind_some,
        @ih (reader.take point .quoted) rfl]
      simp [Reader.take, inside]

theorem run_cell {rendered cell : List α} (renders : Renders marks rendered cell)
    (records : List (List (List α))) (cells : List (List α)) :
    ∃ place : Place, place.Whole ∧
      run marks ⟨records, cells, [], .start⟩ rendered = some ⟨records, cells, cell, place⟩ := by
  cases renders with
  | plain markless =>
      obtain ⟨place, unquoted, ran⟩ :=
        @run_plain α _ marks ⟨records, cells, [], .start⟩ rendered (Or.inl rfl) markless
      refine ⟨place, ?_, by simpa using ran⟩
      rcases unquoted with rfl | rfl
      · exact ⟨by decide, by decide⟩
      · exact ⟨by decide, by decide⟩
  | quoted =>
      refine ⟨.quoteSeen, ⟨by decide, by decide⟩, ?_⟩
      have opened : step marks ⟨records, cells, [], .start⟩ marks.quote =
          some ⟨records, cells, [], .quoted⟩ := by simp [step]
      have closed : step marks ⟨records, cells, cell, .quoted⟩ marks.quote =
          some ⟨records, cells, cell, .quoteSeen⟩ := by simp [step]
      rw [List.append_assoc, List.singleton_append, run_cons, opened, Option.bind_some,
        run_append, run_quoted rfl, Option.bind_some]
      simp only [List.nil_append]
      rw [run_cons, closed, Option.bind_some, run_nil]

section

variable {κ : Type} {write text : κ → List α}

theorem run_line (renders : ∀ cell, Renders marks (write cell) (text cell))
    (records : List (List (List α))) {cells : List κ} (nonempty : cells ≠ [])
    (before : List (List α)) :
    run marks ⟨records, before, [], .start⟩ (line marks write cells) =
      some ⟨records ++ [before ++ cells.map text], [], [], .start⟩ := by
  induction cells generalizing before with
  | nil => exact absurd rfl nonempty
  | cons cell rest ih =>
      obtain ⟨place, whole, ran⟩ := run_cell (renders cell) records before
      cases rest with
      | nil =>
          rw [line, List.map_singleton, List.intercalate_singleton, run_append, ran,
            Option.bind_some, run_cons, step_lineFeed whole, Option.bind_some, run_nil]
          rfl
      | cons next later =>
          have split : line marks write (cell :: next :: later) =
              write cell ++ ([marks.comma] ++ line marks write (next :: later)) := by
            rw [line, line, List.map_cons, List.map_cons, List.intercalate_cons_cons]
            simp only [List.append_assoc]
          have ended := ih (List.cons_ne_nil next later) (before ++ [text cell])
          rw [split, run_append, ran, Option.bind_some, List.singleton_append, run_cons,
            step_comma whole, Option.bind_some]
          simpa [Reader.endCell] using ended

theorem run_lines (renders : ∀ cell, Renders marks (write cell) (text cell))
    (records : List (List (List α))) (rows : List (List κ)) (nonempty : ∀ row ∈ rows, row ≠ []) :
    run marks ⟨records, [], [], .start⟩ (rows.flatMap (line marks write)) =
      some ⟨records ++ rows.map (List.map text), [], [], .start⟩ := by
  induction rows generalizing records with
  | nil => rw [List.flatMap_nil, run_nil, List.map_nil, List.append_nil]
  | cons row rest ih =>
      obtain ⟨here, later⟩ := List.forall_mem_cons.1 nonempty
      rw [List.flatMap_cons, run_append, run_line renders records here, Option.bind_some,
        ih _ later]
      simp

/-- Rows of cells that are rendered one by one are read back. -/
theorem read_lines (renders : ∀ cell, Renders marks (write cell) (text cell))
    (rows : List (List κ)) (nonempty : ∀ row ∈ rows, row ≠ []) :
    read marks (rows.flatMap (line marks write)) = some (rows.map (List.map text)) := by
  rw [read, run_lines renders [] rows nonempty]
  rfl

end

end

end Csv
