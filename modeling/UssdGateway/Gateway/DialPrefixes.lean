import UssdGateway.Gateway.InlineDialing

/-!
The lookup of a dial, whatever codes are registered: the longest leading part of the dial that is a
code, and the segments behind it.
-/

namespace UssdGateway

open EffectProgram

def dialOf (segments : List Str) : Str := star :: Str.join [star] segments ++ [hash]

/-- The segments of a dial. Those after the first may be empty. -/
structure DialSegments (segments : List Str) : Prop where
  opens : ∃ first rest, segments = first :: rest ∧ first ≠ []
  noStar : ∀ segment ∈ segments, star ∉ segment
  noHash : ∀ segment ∈ segments, hash ∉ segment

def Registry.HasCode (registry : Registry) (operatorId : Nat) (code : Str) : Prop :=
  ∃ record ∈ registry.shortcodes,
    record.operatorId = operatorId ∧ record.environment = .production ∧ record.code = code

section

variable {registry : Registry} {operatorId : Nat} {segments : List Str}

theorem mem_dialCandidates (code : Str) : code ∈ dialCandidates segments ↔
    ∃ count, 0 < count ∧ count ≤ segments.length ∧ code = dialOf (segments.take count) := by
  simp only [dialCandidates, List.mem_map, List.mem_reverse, List.mem_range]
  constructor
  · rintro ⟨shorter, bound, rfl⟩
    exact ⟨shorter + 1, Nat.succ_pos _, bound, rfl⟩
  · rintro ⟨count, positive, bound, rfl⟩
    exact ⟨count - 1, by omega, by rw [Nat.sub_add_cancel positive]; rfl⟩

theorem length_dialOf_lt {count more : Nat} (positive : 0 < count) (less : count < more)
    (bound : more ≤ segments.length) :
    (dialOf (segments.take count)).length < (dialOf (segments.take more)).length := by
  have longer := @length_join_take_lt segments (count - 1) (more - 1) (by omega) (by omega)
  rw [Nat.sub_add_cancel positive, Nat.sub_add_cancel (by omega)] at longer
  simp only [dialOf, List.length_append, List.length_cons]
  omega

theorem mem_matching (code : Str) :
    code ∈ (registry.shortcodes.filter fun record =>
      record.operatorId = operatorId ∧ record.code ∈ dialCandidates segments ∧
        record.environment = .production).map ShortcodeRecord.code ↔
      registry.HasCode operatorId code ∧ code ∈ dialCandidates segments := by
  simp only [List.mem_map, List.mem_filter, decide_eq_true_eq, Registry.HasCode]
  constructor
  · rintro ⟨record, ⟨listed, owner, dialed, live⟩, rfl⟩
    exact ⟨⟨record, listed, owner, live, rfl⟩, dialed⟩
  · rintro ⟨⟨record, listed, owner, live, rfl⟩, dialed⟩
    exact ⟨record, ⟨listed, owner, dialed, live⟩, rfl⟩

theorem longestRegistered_eq_none_iff :
    registry.longestRegistered operatorId (dialCandidates segments) = none ↔
      ∀ count, 0 < count → count ≤ segments.length →
        ¬ registry.HasCode operatorId (dialOf (segments.take count)) := by
  rw [Registry.longestRegistered, List.argmax_eq_none, List.eq_nil_iff_forall_not_mem]
  simp only [mem_matching, mem_dialCandidates, not_and, not_exists]
  constructor
  · intro absent count positive bound known
    exact absent _ known count positive bound rfl
  · rintro absent code known count positive bound rfl
    exact absent count positive bound known

theorem longestRegistered_eq_some {code : Str}
    (found : registry.longestRegistered operatorId (dialCandidates segments) = some code) :
    ∃ count, 0 < count ∧ count ≤ segments.length ∧ code = dialOf (segments.take count) ∧
      registry.HasCode operatorId code ∧
      ∀ more, count < more → more ≤ segments.length →
        ¬ registry.HasCode operatorId (dialOf (segments.take more)) := by
  obtain ⟨known, candidate⟩ := (mem_matching code).1 (List.argmax_mem found)
  obtain ⟨count, positive, bound, rfl⟩ := (mem_dialCandidates code).1 candidate
  refine ⟨count, positive, bound, rfl, known, fun more longer fits rival => ?_⟩
  have listed := (@mem_matching registry operatorId segments _).2
    ⟨rival, (mem_dialCandidates _).2 ⟨more, by omega, fits, rfl⟩⟩
  have below := List.le_of_mem_argmax listed found
  have above := length_dialOf_lt positive longer fits
  omega

namespace DialSegments

theorem ne_nil (dial : DialSegments segments) : segments ≠ [] := by
  obtain ⟨first, rest, rfl, _⟩ := dial.opens
  exact List.cons_ne_nil _ _

theorem take (dial : DialSegments segments) {count : Nat} (positive : 0 < count) :
    DialSegments (segments.take count) where
  opens := by
    obtain ⟨first, rest, rfl, nonempty⟩ := dial.opens
    obtain ⟨count, rfl⟩ : ∃ fewer, count = fewer + 1 := ⟨count - 1, by omega⟩
    exact ⟨first, rest.take count, rfl, nonempty⟩
  noStar segment member := dial.noStar segment (List.mem_of_mem_take member)
  noHash segment member := dial.noHash segment (List.mem_of_mem_take member)

theorem split (dial : DialSegments segments) :
    Str.split star (Str.join [star] segments) = segments :=
  List.splitOn_intercalate star dial.noStar dial.ne_nil

theorem hash_not_mem (dial : DialSegments segments) : hash ∉ Str.join [star] segments := by
  obtain ⟨first, rest, rfl, _⟩ := dial.opens
  rw [join_eq_menuPath, List.mem_append, menuPath, List.mem_flatMap]
  rintro (inside | ⟨segment, member, inside⟩)
  · exact dial.noHash first List.mem_cons_self inside
  · rcases List.mem_cons.1 inside with same | inside
    · exact absurd same (by decide)
    · exact dial.noHash segment (List.mem_cons_of_mem _ member) inside

theorem core (dial : DialSegments segments) :
    dialCore (dialOf segments) = Str.join [star] segments := by
  have closes : Str.rstripBy (· = hash) (Str.join [star] segments) = Str.join [star] segments := by
    refine List.rdropWhile_eq_self_iff.2 fun nonempty last => dial.hash_not_mem ?_
    rw [← of_decide_eq_true last]
    exact List.getLast_mem nonempty
  obtain ⟨first, rest, rfl, nonempty⟩ := dial.opens
  obtain ⟨point, others, rfl⟩ := List.exists_cons_of_ne_nil nonempty
  rw [dialOf, dialCore_dial, lstrip_of_head, closes]
  rw [join_eq_menuPath]
  intro same
  refine dial.noStar _ List.mem_cons_self ?_
  rw [← Option.some.inj same]
  exact List.mem_cons_self

theorem core_ne_nil (dial : DialSegments segments) : Str.join [star] segments ≠ [] := by
  obtain ⟨first, rest, rfl, nonempty⟩ := dial.opens
  rw [join_eq_menuPath]
  simp [nonempty]

theorem prefixMatch_eq (dial : DialSegments segments) {count : Nat} (positive : 0 < count) :
    prefixMatch (Str.join [star] segments) (dialOf (segments.take count)) =
      { code := dialOf (segments.take count)
        remainder := Str.join [star] (segments.drop count) } := by
  have codeCore := (dial.take positive).core
  rw [dialCore] at codeCore
  rw [prefixMatch, codeCore]
  rw [join_take_drop dial.ne_nil positive, remainder_menuPath]

end DialSegments

end

/-- The lookup of a dial finds nothing exactly where no leading part of it is a code. Else it finds
the longest one, and reports the segments behind it. -/
theorem dial_prefix_looked_up {segments : List Str} (dial : DialSegments segments)
    (environment : Environment) (world : World) (operatorId : Nat) :
    ∃ found, (lookupShortcodeByDialPrefix operatorId (dialOf segments)).run
        (perform environment) world = (.ok found, world) ∧
      (found = none ↔ ∀ count, 0 < count → count ≤ segments.length →
        ¬ world.registry.HasCode operatorId (dialOf (segments.take count))) ∧
      ∀ known, found = some known → ∃ count, 0 < count ∧ count ≤ segments.length ∧
        world.registry.HasCode operatorId (dialOf (segments.take count)) ∧
        (∀ more, count < more → more ≤ segments.length →
          ¬ world.registry.HasCode operatorId (dialOf (segments.take more))) ∧
        known =
          { code := dialOf (segments.take count)
            remainder := Str.join [star] (segments.drop count) } := by
  have core := dial.core
  rw [dialCore] at core
  refine ⟨_, run_lookupShortcodeByDialPrefix _ _ _ _, ?_⟩
  rw [Registry.dialMatch, core, if_neg dial.core_ne_nil, dial.split]
  refine ⟨Option.map_eq_none_iff.trans longestRegistered_eq_none_iff, fun known found => ?_⟩
  obtain ⟨code, longest, rfl⟩ := Option.map_eq_some_iff.1 found
  obtain ⟨count, positive, bound, rfl, registered, longer⟩ := longestRegistered_eq_some longest
  exact ⟨count, positive, bound, registered, longer, dial.prefixMatch_eq positive⟩

example : normaliseDialed (lit "149*46**22") = dialOf [lit "149", lit "46", [], lit "22"] := by
  decide

/-- An empty segment behind the code stays in the remainder. -/
theorem empty_segment_kept :
    ∃ known count, (lookupShortcodeByDialPrefix 1
        (dialOf [lit "149", lit "46", [], lit "22"])).run
          (perform (sampleEnvironment (lit "CON Karibu"))) dialWorld =
        (.ok (some known), dialWorld) ∧
      known =
        { code := dialOf ([lit "149", lit "46", [], lit "22"].take count)
          remainder := Str.join [star] ([lit "149", lit "46", [], lit "22"].drop count) } := by
  have dial : DialSegments [lit "149", lit "46", [], lit "22"] :=
    ⟨⟨_, _, rfl, by decide⟩, by decide, by decide⟩
  obtain ⟨found, ran, unmatched, matched⟩ :=
    dial_prefix_looked_up dial (sampleEnvironment (lit "CON Karibu")) dialWorld 1
  rcases found with _ | known
  · have registered : dialWorld.registry.HasCode 1 (dialOf [lit "149", lit "46"]) :=
      ⟨_, List.mem_cons_self, rfl, rfl, by decide⟩
    exact absurd registered (unmatched.1 rfl 2 (by decide) (by decide))
  · obtain ⟨count, _, _, _, _, same⟩ := matched known rfl
    exact ⟨known, count, ran, same⟩

end UssdGateway
