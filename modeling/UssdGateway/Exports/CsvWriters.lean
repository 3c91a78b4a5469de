import UssdGateway.Exports.ExportFiles
import UssdGateway.Library.Csv

/-!
The CSV writers of the portal: the export worker's, and those of the audit and summary downloads.
What they write is read back by any reader of comma-separated records.
-/

namespace UssdGateway

def csvMarks : Csv.Marks Char where
  quote := '\"'
  comma := ','
  lineFeed := '\n'
  carriageReturn := '\r'
  distinct := by decide

def quotedCell (text : String) : List Char :=
  if text = "" then []
  else if text.toList.any fun point => point ∈ ['\"', ',', '\r', '\n'] then
    ['\"'] ++ text.toList.flatMap (fun point =>
      if point = '\"' then ['\"', '\"'] else [point]) ++ ['\"']
  else text.toList

namespace AuditDownload

def csvCell (text : String) : List Char := quotedCell text

def csvRow (cells : List String) : List Char := [','].intercalate (cells.map csvCell) ++ ['\n']

end AuditDownload

namespace SummaryDownload

def csvCell (text : String) : List Char := quotedCell text

def csvRow (cells : List String) : List Char := [','].intercalate (cells.map csvCell) ++ ['\n']

end SummaryDownload

def cellText (cell : Option String) : List Char := (cell.getD "").toList

theorem workerCell_renders (cell : Option String) :
    Csv.Renders csvMarks (Worker.csvCell cell) (cellText cell) := by
  rcases cell with _ | text
  · exact Csv.Renders.plain (by simp [Worker.csvCell])
  · rw [Worker.csvCell]
    split
    next => exact @Csv.Renders.quoted _ _ csvMarks text.toList
    next markless =>
      refine Csv.Renders.plain fun point member mark => markless ?_
      exact List.any_eq_true.2 ⟨point, member, decide_eq_true mark⟩

theorem quotedCell_renders (text : String) :
    Csv.Renders csvMarks (quotedCell text) text.toList := by
  rw [quotedCell]
  split
  next empty =>
    subst empty
    exact Csv.Renders.plain (by simp)
  next =>
    split
    next => exact @Csv.Renders.quoted _ _ csvMarks text.toList
    next markless =>
      refine Csv.Renders.plain fun point member mark => markless ?_
      refine List.any_eq_true.2 ⟨point, member, decide_eq_true ?_⟩
      simp only [Csv.Marks.all, csvMarks, List.mem_cons, List.not_mem_nil, or_false] at mark ⊢
      tauto

theorem read_workerLines (rows : List (List (Option String)))
    (nonempty : ∀ row ∈ rows, row ≠ []) :
    Csv.read csvMarks (rows.flatMap Worker.csvLine) = some (rows.map (List.map cellText)) :=
  Csv.read_lines workerCell_renders rows nonempty

theorem csv_round_trip (rows : List (List String)) (wide : ∀ row ∈ rows, 2 ≤ row.length) :
    Csv.read csvMarks (rows.flatMap fun row => Worker.csvLine (row.map some)) =
        some (rows.map (List.map String.toList)) ∧
      Csv.read csvMarks (rows.flatMap AuditDownload.csvRow) =
        some (rows.map (List.map String.toList)) ∧
      Csv.read csvMarks (rows.flatMap SummaryDownload.csvRow) =
        some (rows.map (List.map String.toList)) := by
  have nonempty : ∀ row ∈ rows, row ≠ [] := by
    rintro row member rfl
    exact absurd (wide [] member) (by decide)
  refine ⟨?_, Csv.read_lines quotedCell_renders rows nonempty,
    Csv.read_lines quotedCell_renders rows nonempty⟩
  have worker := read_workerLines (rows.map (List.map some)) (by simpa using nonempty)
  simpa only [List.flatMap_map, List.map_map, Function.comp_def, cellText, Option.getD_some]
    using worker

/-- A quote and a comma in one cell, a line end alone in another. -/
theorem csv_round_trip_of_marks :
    Csv.read csvMarks ([["a,\"b\"", "\r\n"], ["", "c"]].flatMap fun row =>
        Worker.csvLine (row.map some)) =
        some [["a,\"b\"".toList, "\r\n".toList], ["".toList, "c".toList]] ∧
      Csv.read csvMarks ([["a,\"b\"", "\r\n"], ["", "c"]].flatMap AuditDownload.csvRow) =
        some [["a,\"b\"".toList, "\r\n".toList], ["".toList, "c".toList]] ∧
      Csv.read csvMarks ([["a,\"b\"", "\r\n"], ["", "c"]].flatMap SummaryDownload.csvRow) =
        some [["a,\"b\"".toList, "\r\n".toList], ["".toList, "c".toList]] :=
  csv_round_trip [["a,\"b\"", "\r\n"], ["", "c"]] (by decide)

end UssdGateway
