import UssdGateway.Reports.BillableSummary
import UssdGateway.Reports.SessionCounts

/-!
The slow count of sessions against the rows under it. The count reads the legs the filters pick,
the rows every leg of the sessions these belong to.
-/

namespace UssdGateway

open Grouping SqlClause

section

variable {pg : PgDates} {filters : ReportFilters} {acl : ShortcodeAcl} {legs : List LegRecord}

theorem mem_rows_keys_iff {session : String × String} :
    session ∈ (groupBy LegRecord.group
        (select (buildSessionWhere pg filters acl legs) legs)).map Prod.fst ↔
      session ∈ matchingSessions pg legs filters acl := by
  rw [map_fst_groupBy, List.mem_dedup, List.mem_map,
    select_eq (denotes_buildSessionWhere pg filters acl legs), mem_matchingSessions]
  constructor
  · rintro ⟨leg, kept, rfl⟩
    obtain ⟨member, found⟩ := List.mem_filter.1 kept
    obtain ⟨other, inside, sameGroup, picked⟩ := exists_matchesLeg member found
    exact ⟨other, inside, picked, sameGroup⟩
  · rintro ⟨leg, member, found, rfl⟩
    exact ⟨leg, List.mem_filter.2 ⟨member, matchesSession_of_matchesLeg member found⟩, rfl⟩

end

section

variable (sorting : SessionSorting) (pg : PgDates) (tables : ReportTables)
  (filters : ReportFilters) (acl : ShortcodeAcl)

theorem length_orderedSessions (legs : List LegRecord) :
    (orderedSessions sorting tables legs).length = (groupBy LegRecord.group legs).length := by
  rw [orderedSessions, (sorting.perm _).length_eq, sessionRows, List.length_map]

theorem length_rows :
    (orderedSessions sorting tables
      (select (buildSessionWhere pg filters acl tables.legs) tables.legs)).length =
      (matchingSessions pg tables.legs filters acl).length := by
  have keys : ((groupBy LegRecord.group
      (select (buildSessionWhere pg filters acl tables.legs) tables.legs)).map Prod.fst).Perm
        (matchingSessions pg tables.legs filters acl) :=
    (List.perm_ext_iff_of_nodup groupBy_keys_nodup (List.nodup_dedup _)).2
      fun _ => mem_rows_keys_iff
  rw [length_orderedSessions, ← keys.length_eq, List.length_map]

theorem countSessions_eq_min :
    countSessions pg tables.legs filters acl =
      min (countCap + 1) (orderedSessions sorting tables
        (select (buildSessionWhere pg filters acl tables.legs) tables.legs)).length := by
  rw [countSessions, List.length_take, length_rows]

theorem countSessions_eq_rows
    (below : (matchingSessions pg tables.legs filters acl).length ≤ countCap) :
    countSessions pg tables.legs filters acl =
      (orderedSessions sorting tables
        (select (buildSessionWhere pg filters acl tables.legs) tables.legs)).length := by
  rw [countSessions_eq_min, length_rows]
  omega

end

/-- A session picked by the shortcode of its legs. -/
theorem picked_session_counted :
    countSessions ⟨0, fun _ => 0, fun _ => 0⟩ renamedTables.legs
        { unfiltered with shortcodeIds := [10] } none =
      (orderedSessions .insertion renamedTables
        (select (buildSessionWhere ⟨0, fun _ => 0, fun _ => 0⟩
          { unfiltered with shortcodeIds := [10] } none renamedTables.legs)
            renamedTables.legs)).length ∧
      countSessions ⟨0, fun _ => 0, fun _ => 0⟩ renamedTables.legs
        { unfiltered with shortcodeIds := [10] } none = 1 :=
  ⟨countSessions_eq_rows _ _ renamedTables _ _ (by decide +kernel), by decide +kernel⟩

end UssdGateway
