import Mathlib.Data.Option.Basic
import UssdGateway.Library.Trimming

/-!
The origin of a text that starts with a slash, resolved as browsers do against an address of a
special scheme. The functions are the states of the URL standard that decide it; what the host of a
text is, is a parameter.
-/

namespace WebUrl

open Trimming

inductive SpecialScheme where
  | http
  | https
deriving DecidableEq

def SpecialScheme.defaultPort : SpecialScheme → Nat
  | http => 80
  | https => 443

structure Origin (Host : Type) where
  scheme : SpecialScheme
  host : Host
  port : Option Nat
  normal : port ≠ some scheme.defaultPort
deriving DecidableEq

structure Rooted where
  text : List Char
  rooted : text.head? = some '/'

def isSlash (char : Char) : Bool := char == '/' || char == '\\'

def isC0OrSpace (char : Char) : Bool := decide (char.toNat ≤ 0x20)

def isTabOrNewline (char : Char) : Bool := char == '\t' || char == '\n' || char == '\r'

def endsAuthority (char : Char) : Bool := isSlash char || char == '?' || char == '#'

def withoutBreaks (text : List Char) : List Char := text.filter fun char => !isTabOrNewline char

section

variable {Host : Type} (hostParser : List Char → Option Host) (scheme : SpecialScheme)

def portValue (digits : List Char) : Nat :=
  digits.foldl (fun value digit => 10 * value + (digit.toNat - 48)) 0

theorem normal_port (value : Nat) :
    (if value = scheme.defaultPort then none else some value) ≠ some scheme.defaultPort := by
  split
  · exact Option.some_ne_none _ |>.symm
  next differs => exact fun same => differs (Option.some.inj same)

def withPort (host : Host) (digits : List Char) : Option (Origin Host) :=
  if digits = [] then some ⟨scheme, host, none, Option.some_ne_none _ |>.symm⟩
  else if 65535 < portValue digits then none
  else some ⟨scheme, host, _, normal_port scheme (portValue digits)⟩

def portState (host : Host) (buffer : List Char) : List Char → Option (Origin Host)
  | [] => withPort scheme host buffer
  | char :: rest =>
      if char.isDigit then portState host (buffer ++ [char]) rest
      else if endsAuthority char then withPort scheme host buffer
      else none

def withHost (buffer rest : List Char) : Option (Origin Host) :=
  if buffer = [] then none
  else (hostParser buffer).bind fun host => portState scheme host [] rest

def hostState (insideBrackets : Bool) (buffer : List Char) : List Char → Option (Origin Host)
  | [] => withHost hostParser scheme buffer []
  | char :: rest =>
      if char = ':' ∧ insideBrackets = false then withHost hostParser scheme buffer rest
      else if endsAuthority char then withHost hostParser scheme buffer []
      else
        hostState (if char = '[' then true else if char = ']' then false else insideBrackets)
          (buffer ++ [char]) rest

def authorityState (atSignSeen : Bool) (buffer : List Char) : List Char → Option (Origin Host)
  | [] =>
      if atSignSeen = true ∧ buffer = [] then none
      else hostState hostParser scheme false [] buffer
  | char :: rest =>
      if char = '@' then authorityState true [] rest
      else if endsAuthority char then
        if atSignSeen = true ∧ buffer = [] then none
        else hostState hostParser scheme false [] (buffer ++ char :: rest)
      else authorityState atSignSeen (buffer ++ [char]) rest

def specialAuthorityIgnoreSlashesState (text : List Char) : Option (Origin Host) :=
  authorityState hostParser scheme false [] (text.dropWhile isSlash)

def relativeSlashState (base : Origin Host) : List Char → Option (Origin Host)
  | [] => some base
  | char :: rest =>
      if isSlash char then specialAuthorityIgnoreSlashesState hostParser base.scheme rest
      else some base

def resolve (base : Origin Host) (address : Rooted) : Option (Origin Host) :=
  relativeSlashState hostParser base (withoutBreaks (strip isC0OrSpace address.text)).tail

end

def SecondSlash (text rest : List Char) : Prop :=
  ∃ gap mark, text = '/' :: gap ++ mark :: rest ∧
    (∀ char ∈ gap, isTabOrNewline char = true) ∧ isSlash mark = true

def PlainHost (text : List Char) : Prop :=
  text ≠ [] ∧ ∀ char ∈ text, isC0OrSpace char = false ∧ isTabOrNewline char = false ∧
    endsAuthority char = false ∧ char ∉ ['@', ':', '[', ']']

theorem strip_rooted (rest : List Char) :
    strip isC0OrSpace ('/' :: rest) = '/' :: rest.rdropWhile isC0OrSpace := by
  rw [strip]
  exact @rdropWhile_append_kept _ isC0OrSpace [] '/' (by decide) rest

theorem withoutBreaks_cons_of_neg {char : Char} (kept : isTabOrNewline char = false)
    (rest : List Char) : withoutBreaks (char :: rest) = char :: withoutBreaks rest := by
  rw [withoutBreaks, List.filter_cons, kept]
  rfl

theorem withoutBreaks_gap {gap : List Char} (breaks : ∀ char ∈ gap, isTabOrNewline char = true)
    (rest : List Char) : withoutBreaks (gap ++ rest) = withoutBreaks rest := by
  rw [withoutBreaks, List.filter_append, List.filter_eq_nil_iff.2, List.nil_append, withoutBreaks]
  intro char member
  rw [breaks char member]
  decide

theorem kept_of_isSlash {mark : Char} (slash : isSlash mark = true) :
    isC0OrSpace mark = false ∧ isTabOrNewline mark = false := by
  rw [isSlash, Bool.or_eq_true, beq_iff_eq, beq_iff_eq] at slash
  rcases slash with rfl | rfl <;> decide

theorem cleaned_rooted (rest : List Char) :
    (withoutBreaks (strip isC0OrSpace ('/' :: rest))).tail =
      withoutBreaks (rest.rdropWhile isC0OrSpace) := by
  rw [strip_rooted, withoutBreaks_cons_of_neg (by decide)]
  rfl

theorem exists_gap {text later : List Char} {mark : Char}
    (found : withoutBreaks text = mark :: later) :
    ∃ gap rest, text = gap ++ mark :: rest ∧ ∀ char ∈ gap, isTabOrNewline char = true := by
  induction text with
  | nil => exact absurd found (by simp [withoutBreaks])
  | cons char rest ih =>
      rcases break_ : isTabOrNewline char with _ | _
      · rw [withoutBreaks_cons_of_neg break_] at found
        exact ⟨[], rest, by rw [(List.cons.inj found).1]; rfl, by simp⟩
      · have skipped : withoutBreaks (char :: rest) = withoutBreaks rest :=
          @withoutBreaks_gap [char] (by simpa using break_) rest
        obtain ⟨gap, later', spelled, breaks⟩ := ih (skipped.symm.trans found)
        exact ⟨char :: gap, later', by rw [spelled]; rfl, by simpa [break_] using breaks⟩

variable {Host : Type} (hostParser : List Char → Option Host) {base : Origin Host}
  {address : Rooted}

theorem resolve_of_secondSlash {rest : List Char} (second : SecondSlash address.text rest) :
    resolve hostParser base address =
      specialAuthorityIgnoreSlashesState hostParser base.scheme
        (withoutBreaks (rest.rdropWhile isC0OrSpace)) := by
  obtain ⟨gap, mark, spelled, breaks, slash⟩ := second
  obtain ⟨visible, kept⟩ := kept_of_isSlash slash
  rw [resolve, spelled, List.cons_append, cleaned_rooted, rdropWhile_append_kept visible,
    withoutBreaks_gap breaks, withoutBreaks_cons_of_neg kept, relativeSlashState, if_pos slash]

theorem resolve_of_single (single : ∀ rest, ¬ SecondSlash address.text rest) :
    resolve hostParser base address = some base := by
  obtain ⟨text, rooted⟩ := address
  obtain ⟨first, rest, rfl⟩ : ∃ first rest, text = first :: rest := by
    cases text with
    | nil => exact absurd rooted (by simp)
    | cons first rest => exact ⟨first, rest, rfl⟩
  obtain rfl : first = '/' := Option.some.inj rooted
  rw [resolve, cleaned_rooted]
  rcases found : withoutBreaks (rest.rdropWhile isC0OrSpace) with _ | ⟨mark, later⟩
  · rfl
  rw [relativeSlashState]
  apply if_neg
  intro slash
  obtain ⟨gap, between, spelled, breaks⟩ := exists_gap found
  obtain ⟨blanks, whole⟩ := List.rdropWhile_prefix isC0OrSpace rest
  apply single (between ++ blanks)
  exact ⟨gap, mark, by rw [← whole, spelled]; simp, breaks, slash⟩

theorem resolve_eq_base_iff :
    resolve hostParser base address = some base ↔
      ∀ rest, SecondSlash address.text rest →
        specialAuthorityIgnoreSlashesState hostParser base.scheme
          (withoutBreaks (rest.rdropWhile isC0OrSpace)) = some base := by
  constructor
  · intro same rest second
    rw [← resolve_of_secondSlash hostParser second]
    exact same
  · intro own
    by_cases second : ∃ rest, SecondSlash address.text rest
    · obtain ⟨rest, split⟩ := second
      rw [resolve_of_secondSlash hostParser split]
      exact own rest split
    · exact resolve_of_single hostParser fun rest split => second ⟨rest, split⟩

variable {scheme : SpecialScheme} {host : List Char}

theorem hostState_plain (plain : ∀ char ∈ host, endsAuthority char = false ∧
    char ∉ ['@', ':', '[', ']']) (buffer : List Char) :
    hostState hostParser scheme false buffer host =
      withHost hostParser scheme (buffer ++ host) [] := by
  induction host generalizing buffer with
  | nil => rw [hostState, List.append_nil]
  | cons char rest ih =>
      obtain ⟨inside, apart⟩ := plain char List.mem_cons_self
      simp only [List.mem_cons, List.not_mem_nil, or_false, not_or] at apart
      obtain ⟨_, colon, opens, closes⟩ := apart
      rw [hostState, if_neg (fun both => colon both.1), if_neg (by rw [inside]; decide),
        if_neg opens, if_neg closes,
        ih fun other member => plain other (List.mem_cons_of_mem _ member), List.append_assoc,
        List.singleton_append]

theorem authorityState_plain (plain : ∀ char ∈ host, endsAuthority char = false ∧
    char ∉ ['@', ':', '[', ']']) (buffer : List Char) :
    authorityState hostParser scheme false buffer host =
      hostState hostParser scheme false [] (buffer ++ host) := by
  induction host generalizing buffer with
  | nil => rw [authorityState, if_neg (by simp), List.append_nil]
  | cons char rest ih =>
      obtain ⟨inside, apart⟩ := plain char List.mem_cons_self
      simp only [List.mem_cons, List.not_mem_nil, or_false, not_or] at apart
      rw [authorityState, if_neg apart.1, if_neg (by rw [inside]; decide),
        ih fun other member => plain other (List.mem_cons_of_mem _ member), List.append_assoc,
        List.singleton_append]

theorem resolve_of_plainHost (plain : PlainHost host) (second : SecondSlash address.text host) :
    resolve hostParser base address =
      (hostParser host).bind fun found => withPort base.scheme found [] := by
  obtain ⟨nonempty, kept⟩ := plain
  have trimmed : host.rdropWhile isC0OrSpace = host := rdropWhile_of_lastKept fun char last =>
    (kept char (List.mem_of_getLast? last)).1
  have unbroken : withoutBreaks host = host := by
    rw [withoutBreaks, List.filter_eq_self]
    intro char member
    rw [(kept char member).2.1]
    rfl
  have started : host.dropWhile isSlash = host := dropWhile_of_headKept fun char head => by
    have inside := (kept char (List.mem_of_head? head)).2.2.1
    rw [endsAuthority, Bool.or_eq_false_iff, Bool.or_eq_false_iff] at inside
    exact inside.1.1
  have split : ∀ char ∈ host, endsAuthority char = false ∧ char ∉ ['@', ':', '[', ']'] :=
    fun char member => (kept char member).2.2
  rw [resolve_of_secondSlash hostParser second, trimmed, unbroken,
    specialAuthorityIgnoreSlashesState, started, authorityState_plain hostParser split,
    List.nil_append, hostState_plain hostParser split, List.nil_append, withHost, if_neg nonempty]
  rfl

end WebUrl
