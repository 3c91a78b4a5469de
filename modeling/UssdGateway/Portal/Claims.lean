import UssdGateway.Library.KeyedTable
import UssdGateway.Reports.Acl
import Mathlib.Data.List.Sort

/-!
Who owns a shortcode and since when, and the claims a login takes from it: the shortcodes a session
may read and the unix second each grant began.
-/

namespace UssdGateway

open Grouping

/-- The claims of a portal session. Only re-allocated shortcodes have an entry in
`shortcodeFrom`. -/
structure SessionClaims where
  sub : Nat
  email : String
  name : String
  role : String
  perms : List String
  shortcodeIds : Option (List Nat)
  shortcodeFrom : List (Nat × Int)
  pwv : Nat
deriving DecidableEq

def SessionClaims.fromOf (claims : SessionClaims) (id : Nat) : Int :=
  (List.lookup id claims.shortcodeFrom).getD 0

def sessionAcl (claims : SessionClaims) : ShortcodeAcl :=
  claims.shortcodeIds.map fun ids => ids.map fun id => { id, fromSecs := claims.fromOf id }

/-! Ownership. Times are in microseconds. -/

/-- The columns of `shortcodes` that say whose it is. -/
structure OwnedShortcode where
  id : Nat
  ownerUserId : Nat
  ownerSince : Int
  createdAt : Int
deriving DecidableEq

abbrev OwnershipTable := KeyedTable Nat OwnedShortcode OwnedShortcode.id

/-- The trigger: an update that changes the owner, and does not date the change itself, is
stamped. -/
def shortcodesStampOwnerSince (now : Int) (old new : OwnedShortcode) : OwnedShortcode :=
  if new.ownerUserId ≠ old.ownerUserId ∧ new.ownerSince = old.ownerSince then
    { new with ownerSince := now }
  else new

theorem shortcodesStampOwnerSince_id (now : Int) (old new : OwnedShortcode) :
    (shortcodesStampOwnerSince now old new).id = new.id := by
  rw [shortcodesStampOwnerSince]
  split <;> rfl

/-- A shortcode is created, or written with an owner. No statement sets `owner_since`. -/
inductive OwnershipChange where
  | create (id ownerUserId : Nat) (now : Int)
  | update (id ownerUserId : Nat) (now : Int)

namespace OwnershipTable

def update (table : OwnershipTable) (id ownerUserId : Nat) (now : Int) : OwnershipTable :=
  table.modify id (fun row => shortcodesStampOwnerSince now row { row with ownerUserId })
    fun _ => shortcodesStampOwnerSince_id _ _ _

def create (table : OwnershipTable) (id ownerUserId : Nat) (now : Int) : OwnershipTable :=
  table.upsert { id, ownerUserId, ownerSince := now, createdAt := now } (fun row => row)
    fun _ => rfl

def apply (table : OwnershipTable) : OwnershipChange → OwnershipTable
  | .create id ownerUserId now => create table id ownerUserId now
  | .update id ownerUserId now => update table id ownerUserId now

end OwnershipTable

/-! Loading the claims. -/

structure PortalAccount where
  id : Nat
  email : String
  name : String
  roleKey : String
  perms : List String
  passwordVersion : Nat
  active : Bool
deriving DecidableEq

abbrev AccountTable := KeyedTable Nat PortalAccount PortalAccount.id

inductive AccessLevel where
  | view
  | edit
deriving DecidableEq

structure PortalGrant where
  portalUserId : Nat
  shortcodeId : Nat
  grantedAt : Int
  accessLevel : AccessLevel := .view
deriving DecidableEq

structure AccessTables where
  accounts : AccountTable
  shortcodes : OwnershipTable
  grants : List PortalGrant

structure AccessRow where
  id : Nat
  fromTs : Int
  floored : Bool
deriving DecidableEq

/-- `numeric::bigint` of microseconds read as seconds: to the nearest, halves away from zero. -/
def castBigint (micros : Int) : Int :=
  if 0 ≤ micros then (micros + 500000) / microsPerSecond
  else -((-micros + 500000) / microsPerSecond)

namespace AccessTables

def ownedRows (tables : AccessTables) (userId : Nat) : List AccessRow :=
  (tables.shortcodes.rows.filter fun row => row.ownerUserId = userId).map fun row =>
    { id := row.id, fromTs := row.ownerSince, floored := decide (row.createdAt < row.ownerSince) }

def grantedRows (tables : AccessTables) (userId : Nat) : List AccessRow :=
  (tables.grants.filter fun grant => grant.portalUserId = userId).map fun grant =>
    { id := grant.shortcodeId, fromTs := grant.grantedAt, floored := true }

/-- One row for each shortcode: `MIN(from_ts)::bigint` and `bool_or(floored)`. -/
def claimRows (tables : AccessTables) (userId : Nat) : List AccessRow :=
  ((groupBy AccessRow.id (tables.ownedRows userId ++ tables.grantedRows userId)).map fun group =>
    { id := group.1
      fromTs := castBigint ((group.2.map AccessRow.fromTs).min?.getD 0)
      floored := group.2.any AccessRow.floored }).insertionSort fun first second =>
        first.id ≤ second.id

def activeAccount (tables : AccessTables) (userId : Nat) : Option PortalAccount :=
  (tables.accounts.find userId).filter PortalAccount.active

end AccessTables

def PortalAccount.viewsAll (account : PortalAccount) : Bool :=
  decide ("reports.view_all" ∈ account.perms)

def loadUserClaims (tables : AccessTables) (userId : Nat) : Option SessionClaims :=
  (tables.activeAccount userId).map fun account =>
    let rows := tables.claimRows userId
    { sub := account.id
      email := account.email
      name := account.name
      role := account.roleKey
      perms := account.perms
      shortcodeIds := if account.viewsAll then none else some (rows.map AccessRow.id)
      shortcodeFrom :=
        if account.viewsAll then []
        else (rows.filter AccessRow.floored).map fun row => (row.id, row.fromTs)
      pwv := account.passwordVersion }

end UssdGateway
