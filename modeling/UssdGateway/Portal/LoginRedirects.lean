import UssdGateway.Library.Utf16
import UssdGateway.Library.WebUrl

/-!
Where a login leads: the `next` that is passed on, and the origin that a browser then loads.
-/

namespace UssdGateway

open Utf16 WebUrl

def startsWith (raw : List Nat) (start : String) : Bool := (encode start.toList).isPrefixOf raw

/-- `none` where it is not a string. -/
def safeNext (raw : Option (List Nat)) : List Nat :=
  match raw with
  | none => encode ['/']
  | some raw =>
      if startsWith raw "/" = false ∨ startsWith raw "//" = true then encode ['/']
      else if startsWith raw "/login" = true then encode ['/']
      else raw

theorem safeNext_starts (raw : Option (List Nat)) :
    ∃ rest, safeNext raw = 0x2F :: rest := by
  rcases raw with _ | raw
  · exact ⟨[], rfl⟩
  rw [safeNext]
  split
  · exact ⟨[], rfl⟩
  next local_ =>
    split
    · exact ⟨[], rfl⟩
    · rw [not_or, Bool.not_eq_false, startsWith, List.isPrefixOf_iff_prefix] at local_
      obtain ⟨rest, spelled⟩ := local_.1
      exact ⟨rest, spelled.symm⟩

def nextAddress (raw : Option (List Nat)) : Rooted where
  text := scalars (safeNext raw)
  rooted := by
    obtain ⟨rest, spelled⟩ := safeNext_starts raw
    rw [spelled, scalars_cons (Or.inl (by decide))]
    rfl

def pushedAfterLogin (answer : Option (List Nat)) (nextHref : List Nat) : List Nat :=
  match answer with
  | none => nextHref
  | some next => if next = [] then nextHref else next

theorem pushedAfterLogin_answered (nextHref : List Nat) :
    pushedAfterLogin (some (safeNext (some nextHref))) nextHref = safeNext (some nextHref) := by
  obtain ⟨rest, spelled⟩ := safeNext_starts (some nextHref)
  rw [pushedAfterLogin, if_neg]
  rw [spelled]
  exact List.cons_ne_nil _ _

theorem nextAddress_text (raw : Option (List Nat)) :
    (nextAddress raw).text = scalars (safeNext raw) := rfl

def PassedOn (raw : List Nat) : Prop :=
  startsWith raw "/" = true ∧ startsWith raw "//" = false ∧ startsWith raw "/login" = false

instance (raw : List Nat) : Decidable (PassedOn raw) := inferInstanceAs (Decidable (_ ∧ _ ∧ _))

theorem startsWith_encode (start : String) (text : List Char) :
    startsWith (encode text) start = start.toList.isPrefixOf text := by
  rw [startsWith, Bool.eq_iff_iff, List.isPrefixOf_iff_prefix, List.isPrefixOf_iff_prefix]
  constructor
  · rintro ⟨rest, spelled⟩
    exact ⟨scalars rest, by rw [← scalars_encode_append, spelled, scalars_encode]⟩
  · rintro ⟨rest, spelled⟩
    exact ⟨encode rest, by rw [← encode_append, spelled]⟩

theorem safeNext_of_passedOn {raw : List Nat} (passed : PassedOn raw) :
    safeNext (some raw) = raw := by
  obtain ⟨rooted, single, elsewhere⟩ := passed
  rw [safeNext, rooted, single, elsewhere]
  rfl

theorem safeNext_of_not_passedOn {raw : List Nat} (stopped : ¬ PassedOn raw) :
    safeNext (some raw) = encode ['/'] := by
  rw [safeNext]
  split
  · rfl
  next local_ =>
    split
    · rfl
    next other =>
      rw [not_or, Bool.not_eq_false, Bool.not_eq_true] at local_
      exact absurd ⟨local_.1, local_.2, Bool.not_eq_true _ ▸ other⟩ stopped

section

variable {Host : Type} (hostParser : List Char → Option Host) (portal : Origin Host)

def SameOrigin (raw : List Nat) : Prop :=
  resolve hostParser portal (nextAddress (some raw)) = some portal

/-- No second slash or backslash, or the authority after it is the portal's. -/
def NoOtherAuthority (text : List Char) : Prop :=
  ∀ rest, SecondSlash text rest →
    specialAuthorityIgnoreSlashesState hostParser portal.scheme
      (withoutBreaks (rest.rdropWhile isC0OrSpace)) = some portal

/-- A login stays on the portal just where `next` is not passed on, or names no other authority. -/
theorem sameOrigin_iff (raw : List Nat) :
    SameOrigin hostParser portal raw ↔
      (PassedOn raw → NoOtherAuthority hostParser portal (scalars raw)) := by
  rw [SameOrigin, resolve_eq_base_iff]
  rw [nextAddress_text]
  by_cases passed : PassedOn raw
  · rw [safeNext_of_passedOn passed]
    exact ⟨fun own _ => own, fun own => own passed⟩
  · rw [safeNext_of_not_passedOn passed]
    refine iff_of_true ?_ fun asked => absurd asked passed
    rintro rest ⟨gap, mark, spelled, _⟩
    have size := congrArg List.length spelled
    simp [encode, encodeChar, scalars] at size

variable {hostParser} {portal}

theorem backslash_leads_away {gap host : List Char}
    (breaks : ∀ char ∈ gap, isTabOrNewline char = true) (plain : PlainHost host) :
    resolve hostParser portal (nextAddress (some (encode ('/' :: gap ++ '\\' :: host)))) =
      (hostParser host).bind fun found => withPort portal.scheme found [] := by
  have passed : PassedOn (encode ('/' :: gap ++ '\\' :: host)) := by
    rw [PassedOn, startsWith_encode, startsWith_encode, startsWith_encode]
    rcases gap with _ | ⟨char, gap⟩
    · exact ⟨rfl, rfl, rfl⟩
    · have break_ := breaks char List.mem_cons_self
      rw [isTabOrNewline, Bool.or_eq_true, Bool.or_eq_true, beq_iff_eq, beq_iff_eq, beq_iff_eq]
        at break_
      rcases break_ with (rfl | rfl) | rfl <;> exact ⟨rfl, rfl, rfl⟩
  apply resolve_of_plainHost hostParser plain
  refine ⟨gap, '\\', ?_, breaks, rfl⟩
  rw [nextAddress_text, safeNext_of_passedOn passed, scalars_encode]

end

def portalOrigin : Origin (List Char) := ⟨.https, "portal.example".toList, none, by decide⟩

theorem login_leads_away :
    ¬ SameOrigin some portalOrigin (encode "/\\other.example".toList) := by
  have away := @backslash_leads_away _ some portalOrigin [] "other.example".toList
    (List.forall_mem_nil _) ⟨by decide, @of_decide_eq_true _ (List.decidableBAll _ _) rfl⟩
  intro same
  exact absurd (same.symm.trans away) (by decide)

end UssdGateway
