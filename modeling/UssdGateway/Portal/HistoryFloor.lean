import UssdGateway.Portal.AccessLines
import UssdGateway.Reports.DailySummary
import UssdGateway.Reports.Filters

/-!
What the owner of a re-allocated shortcode sees of the time before the hand-over. The floor in the
claims is `owner_since` rounded to whole seconds.
-/

namespace UssdGateway

open SqlClause Grouping

namespace OwnershipChange

def id : OwnershipChange → Nat
  | create id _ _ => id
  | update id _ _ => id

def ownerUserId : OwnershipChange → Nat
  | create _ ownerUserId _ => ownerUserId
  | update _ ownerUserId _ => ownerUserId

def now : OwnershipChange → Int
  | create _ _ now => now
  | update _ _ now => now

def HandsOver (change : OwnershipChange) (table : OwnershipTable) (row : OwnedShortcode) : Prop :=
  change.id = row.id ∧ change.ownerUserId = row.ownerUserId ∧ change.now = row.ownerSince ∧
    ∀ old, table.find row.id = some old → old.ownerUserId ≠ row.ownerUserId

end OwnershipChange

namespace OwnershipTable

def after (changes : List OwnershipChange) : OwnershipTable := changes.foldl apply .empty

theorem after_concat (changes : List OwnershipChange) (last : OwnershipChange) :
    after (changes ++ [last]) = apply (after changes) last := by
  simp [after]

theorem find_apply {table : OwnershipTable} {change : OwnershipChange} {row : OwnedShortcode}
    (found : (apply table change).find row.id = some row) :
    table.find row.id = some row ∨ change.HandsOver table row := by
  cases change with
  | create id ownerUserId now =>
      by_cases same : row.id = id
      · subst same
        have created := KeyedTable.find_upsert_self
          { id := row.id, ownerUserId, ownerSince := now, createdAt := now } (fun old => old)
          (fun _ => rfl) table
        change (create table row.id ownerUserId now).find row.id = _ at created
        simp only [apply] at found
        rw [created] at found
        rcases before : table.find row.id with _ | old
        · rw [before] at found
          have fresh := Option.some.inj found
          simp only [Option.map_none, Option.getD_none] at fresh
          refine Or.inr ⟨rfl, by rw [← fresh]; rfl, by rw [← fresh]; rfl, ?_⟩
          intro old present
          rw [before] at present
          cases present
        · rw [before] at found
          exact Or.inl found
      · have untouched := KeyedTable.find_upsert_of_ne
          { id, ownerUserId, ownerSince := now, createdAt := now } (fun old => old) (fun _ => rfl)
          table same
        exact Or.inl (untouched.symm.trans found)
  | update id ownerUserId now =>
      simp only [apply, update, KeyedTable.find_modify] at found
      by_cases same : row.id = id
      · rw [if_pos same] at found
        obtain ⟨old, before, changed⟩ := Option.map_eq_some_iff.1 found
        have keyed := KeyedTable.key_of_find before
        by_cases moved : ownerUserId = old.ownerUserId
        · have kept : old = row := by
            rw [← changed, shortcodesStampOwnerSince, if_neg (by simp [moved]), moved]
          exact Or.inl (kept ▸ before)
        · have stamped : row = { old with ownerUserId, ownerSince := now } := by
            rw [← changed, shortcodesStampOwnerSince, if_pos ⟨moved, rfl⟩]
          refine Or.inr ⟨same.symm, by rw [stamped]; rfl, by rw [stamped]; rfl, ?_⟩
          intro other present
          rw [before] at present
          obtain rfl := Option.some.inj present
          rw [stamped]
          exact fun equal => moved equal.symm
      · rw [if_neg same] at found
        exact Or.inl found

theorem handedOver_at_ownerSince (changes : List OwnershipChange) {row : OwnedShortcode}
    (found : (after changes).find row.id = some row) :
    ∃ before change later, changes = before ++ change :: later ∧
      change.HandsOver (after before) row ∧
      ∀ middle, middle <+: later →
        (after (before ++ change :: middle)).find row.id = some row := by
  induction changes using List.reverseRecOn with
  | nil => simp [after, KeyedTable.empty, KeyedTable.find] at found
  | append_singleton changes last ih =>
      have whole := found
      rw [after_concat] at found
      rcases find_apply found with kept | handed
      · obtain ⟨before, change, later, rfl, handed, stood⟩ := ih kept
        refine ⟨before, change, later ++ [last], by simp, handed, ?_⟩
        intro middle inside
        rcases List.prefix_concat_iff.1 inside with rfl | earlier
        · simpa using whole
        · exact stood middle earlier
      · refine ⟨changes, last, [], rfl, handed, ?_⟩
        intro middle inside
        rw [List.prefix_nil.1 inside]
        exact whole

end OwnershipTable

def AccessTables.OwnsAlone (tables : AccessTables) (userId : Nat) (row : OwnedShortcode) : Prop :=
  row ∈ tables.shortcodes.rows ∧ row.ownerUserId = userId ∧
    ∀ grant ∈ tables.grants, grant.portalUserId = userId → grant.shortcodeId ≠ row.id

def OwnedShortcode.floor (row : OwnedShortcode) : Int :=
  if row.createdAt < row.ownerSince then castBigint row.ownerSince else 0

def OwnedShortcode.access (row : OwnedShortcode) : AccessRow where
  id := row.id
  fromTs := row.ownerSince
  floored := decide (row.createdAt < row.ownerSince)

section

variable {tables : AccessTables} {userId : Nat} {row : OwnedShortcode}

theorem lines_owned (owns : tables.OwnsAlone userId row) :
    tables.lines userId row.id = [row.access] := by
  obtain ⟨member, owner, ungranted⟩ := owns
  have noGrant : (tables.grantedRows userId).filter (fun access => access.id = row.id) = [] := by
    rw [List.filter_eq_nil_iff]
    intro access granted
    simp only [AccessTables.grantedRows, List.mem_map, List.mem_filter, decide_eq_true_eq]
      at granted
    obtain ⟨grant, ⟨inside, mine⟩, rfl⟩ := granted
    simpa using ungranted grant inside mine
  rw [AccessTables.lines, List.filter_append, noGrant, List.append_nil, AccessTables.ownedRows,
    List.filter_map]
  simp only [Function.comp_def]
  rw [List.filter_comm, tables.shortcodes.filter_key_eq member]
  simp [owner, OwnedShortcode.access]

variable {account : PortalAccount} {claims : SessionClaims}

theorem lineFloor_access (row : OwnedShortcode) : lineFloor [row.access] = row.floor := by
  simp [lineFloor, earliest, OwnedShortcode.floor, OwnedShortcode.access]

theorem aclAdmits_owned {ρ : Type} {columns : AclColumns ρ} {grain : Grain}
    (owns : tables.OwnsAlone userId row) (active : tables.activeAccount userId = some account)
    (restricted : account.viewsAll = false) (loaded : loadUserClaims tables userId = some claims)
    {record : ρ} (about : columns.scCol record = some row.id) :
    aclAdmits columns grain (sessionAcl claims) record =
      fromFloor columns grain row.floor record := by
  rw [Bool.eq_iff_iff, aclAdmits_claims active restricted loaded about, lines_owned owns,
    lineFloor_access]
  simp

end

def SummaryRow.Counts (bucket : SummaryRow) (leg : LegRecord) : Prop :=
  bucket.date = localDate tanzaniaZone leg.ts ∧ leg.shortcodeId = some bucket.shortcodeId

def Unseen (claims : SessionClaims) (legs : List LegRecord) (leg : LegRecord) : Prop :=
  leg ∉ select (aclClause legColumns .ts (sessionAcl claims)) legs ∧
    ∀ summary : List SummaryRow, ∀ bucket ∈ summary, bucket.Counts leg →
      bucket ∉ select (aclClause summaryColumns .date (sessionAcl claims)) summary

/-- An owner sees nothing of the time before the hand-over. -/
def HistoryHidden (tables : AccessTables) (legs : List LegRecord) (userId : Nat) : Prop :=
  ∀ claims, loadUserClaims tables userId = some claims →
    ∀ row, tables.OwnsAlone userId row →
      ∀ leg ∈ legs, leg.shortcodeId = some row.id → leg.ts < row.ownerSince →
        Unseen claims legs leg

/-- The shortcode changed hands after it was created, and its hand-over is rounded up or the leg is
from before the second it fell in. -/
def FloorShuts (row : OwnedShortcode) (leg : LegRecord) : Prop :=
  row.createdAt < row.ownerSince ∧ 500000 ≤ row.ownerSince ∧
    (500000 ≤ row.ownerSince % microsPerSecond ∨
      leg.ts < row.ownerSince - row.ownerSince % microsPerSecond)

theorem ceilToLocalDate_le {secs ts : Int}
    (late : ceilToLocalDate secs ≤ localDate tanzaniaZone ts) : secs * microsPerSecond ≤ ts := by
  simp only [ceilToLocalDate] at late
  split at late <;> simp only [localDate, tanzaniaZone, tanzaniaOffsetSecs, microsPerSecond,
    dayMicros] at * <;> omega

theorem floor_shuts_iff {row : OwnedShortcode} {leg : LegRecord}
    (early : leg.ts < row.ownerSince) :
    fromFloor legColumns .ts row.floor leg = false ↔ FloorShuts row leg := by
  simp only [fromFloor, Bool.or_eq_false_iff, decide_eq_false_iff_not]
  simp only [grantFloor, legColumns, OwnedShortcode.floor, FloorShuts, castBigint, microsPerSecond]
  by_cases moved : row.createdAt < row.ownerSince
  · simp only [moved, if_true, true_and]
    by_cases future : 0 ≤ row.ownerSince
    · simp only [future, if_true]
      omega
    · simp only [future, if_false]
      omega
  · simp [moved]

theorem early_of_day_early {row : OwnedShortcode} {leg : LegRecord} {bucket : SummaryRow}
    (counts : bucket.Counts leg)
    (early : fromFloor legColumns .ts row.floor leg = false) :
    fromFloor summaryColumns .date row.floor bucket = false := by
  simp only [fromFloor, Bool.or_eq_false_iff, decide_eq_false_iff_not] at early ⊢
  refine ⟨early.1, ?_⟩
  intro late
  change ceilToLocalDate row.floor ≤ bucket.date at late
  rw [counts.1] at late
  exact early.2 (ceilToLocalDate_le late)

theorem unseen_iff {tables : AccessTables} {userId : Nat} {row : OwnedShortcode}
    {account : PortalAccount} {claims : SessionClaims} {legs : List LegRecord} {leg : LegRecord}
    (owns : tables.OwnsAlone userId row) (active : tables.activeAccount userId = some account)
    (loaded : loadUserClaims tables userId = some claims) (member : leg ∈ legs)
    (about : leg.shortcodeId = some row.id) (early : leg.ts < row.ownerSince) :
    Unseen claims legs leg ↔ account.viewsAll = false ∧ FloorShuts row leg := by
  simp only [Unseen, select_eq (denotes_aclClause _), List.mem_filter, member, true_and]
  rcases restricted : account.viewsAll with _ | _
  · rw [aclAdmits_owned owns active restricted loaded about, Bool.not_eq_true,
      floor_shuts_iff early]
    simp only [true_and]
    constructor
    · exact fun hidden => hidden.1
    · intro shuts
      refine ⟨shuts, ?_⟩
      intro summary bucket inside counts seen
      have aboutBucket : summaryColumns.scCol bucket = some row.id := counts.2.symm.trans about
      have shown := seen.2
      rw [aclAdmits_owned owns active restricted loaded aboutBucket,
        early_of_day_early counts ((floor_shuts_iff early).2 shuts)] at shown
      exact absurd shown (by decide)
  · have unrestricted : sessionAcl claims = none := by
      simp only [loadUserClaims, active, Option.map_some, restricted, Option.some.injEq] at loaded
      rw [← loaded]
      rfl
    simp [unrestricted, aclAdmits]

/-- Whatever the hand-overs were, an owner sees nothing from before the last of them exactly when
every leg from before it is shut out by the rounded floor. -/
theorem history_hidden_iff (changes : List OwnershipChange) (accounts : AccountTable)
    (grants : List PortalGrant) (legs : List LegRecord) (userId : Nat) :
    HistoryHidden { accounts, shortcodes := OwnershipTable.after changes, grants } legs userId ↔
      ∀ account, (accounts.find userId).filter PortalAccount.active = some account →
        ∀ row, AccessTables.OwnsAlone
            { accounts, shortcodes := OwnershipTable.after changes, grants } userId row →
          ∀ leg ∈ legs, leg.shortcodeId = some row.id → leg.ts < row.ownerSince →
            account.viewsAll = false ∧ FloorShuts row leg := by
  constructor
  · intro hidden account active row owns leg member about early
    obtain ⟨claims, loaded⟩ : ∃ claims, loadUserClaims
        { accounts, shortcodes := OwnershipTable.after changes, grants } userId = some claims := by
      simp only [loadUserClaims, AccessTables.activeAccount, active, Option.map_some]
      exact ⟨_, rfl⟩
    exact (unseen_iff owns active loaded member about early).1
      (hidden claims loaded row owns leg member about early)
  · intro shut claims loaded row owns leg member about early
    obtain ⟨account, active, _⟩ := Option.map_eq_some_iff.1 loaded
    exact (unseen_iff owns active loaded member about early).2
      (shut account active row owns leg member about early)

def handedShortcode : OwnedShortcode where
  id := 1
  ownerUserId := 6
  ownerSince := 1702069200300000
  createdAt := 1690000000000000

def newOwner : PortalAccount where
  id := 6
  email := "new@example.org"
  name := "New owner"
  roleKey := "admin"
  perms := ["reports.view"]
  passwordVersion := 1
  active := true

def handedTables : AccessTables where
  accounts := ⟨[newOwner], by decide⟩
  shortcodes := .after [.create 1 5 1690000000000000, .update 1 6 1702069200300000]
  grants := []

def firstOwnersLeg : LegRecord where
  operatorId := 1
  operatorName := "vodacom"
  shortcodeId := some 1
  serviceCode := some "*149*01#"
  sessionId := "S1"
  msisdn := some "255740000001"
  ussdString := some "*149*01#"
  direction := "inbound"
  handlerResponseAction := some "CON"
  handlerResponseText := some "Welcome"
  handlerElapsedMs := some 40
  errorClass := none
  id := 1
  ts := 1702069200100000

def handOverDay : SummaryRow where
  date := 19700
  operatorId := 1
  shortcodeId := 1
  sessions := 1
  legs := 1
  errors := 0
  billableUnits := 1

/-- The new owner's claims start at midnight: the leg is listed, and so is the day's bucket. -/
theorem first_owners_leg_seen :
    ¬ HistoryHidden handedTables [firstOwnersLeg] 6 ∧
      ∃ claims, loadUserClaims handedTables 6 = some claims ∧
        handOverDay.Counts firstOwnersLeg ∧
          handOverDay ∈ select (aclClause summaryColumns .date (sessionAcl claims))
            [handOverDay] := by
  have owns : handedTables.OwnsAlone 6 handedShortcode := by
    refine ⟨by decide, rfl, ?_⟩
    intro grant member
    cases member
  obtain ⟨claims, loaded⟩ : ∃ claims, loadUserClaims handedTables 6 = some claims := ⟨_, rfl⟩
  have floor : handedShortcode.floor = 1702069200 := by decide
  constructor
  · intro hidden
    have shut := (unseen_iff owns rfl loaded (List.mem_singleton_self _) rfl (by decide)).1
      (hidden claims loaded handedShortcode owns firstOwnersLeg (List.mem_singleton_self _) rfl
        (by decide))
    exact absurd shut.2.2.2 (by decide)
  · refine ⟨claims, loaded, ⟨by decide, rfl⟩, ?_⟩
    rw [select_eq (denotes_aclClause _), List.mem_filter,
      aclAdmits_owned owns rfl (by decide) loaded rfl, fromFloor, floor]
    exact ⟨List.mem_singleton_self _, by decide⟩

end UssdGateway
