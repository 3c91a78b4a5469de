import Mathlib.Data.List.Count

/-!
`lib/audit.ts`: the audit log, and the counts of its recent rows that the throttles ask for.
-/

namespace UssdGateway

inductive AuditOutcome where
  | success
  | failure
  | denied
deriving DecidableEq

structure AuditRow where
  ts : Int
  actor : Option String
  action : String
  target : Option String
  outcome : AuditOutcome
  ip : Option String
  detail : List (String × String)
deriving DecidableEq

def minuteMicros : Int := 60000000

def auditCountAfter (log : List AuditRow) (moment : Int) (actor action : String)
    (outcome : AuditOutcome) : Nat :=
  log.countP fun row =>
    decide (row.actor = some actor) && decide (row.action = action) &&
      decide (row.outcome = outcome) && decide (moment < row.ts)

theorem auditCountAfter_cons (row : AuditRow) (log : List AuditRow) (moment : Int)
    (actor action : String) (outcome : AuditOutcome) :
    auditCountAfter (row :: log) moment actor action outcome =
      auditCountAfter log moment actor action outcome +
        if row.actor = some actor ∧ row.action = action ∧ row.outcome = outcome ∧ moment < row.ts
        then 1 else 0 := by
  simp [auditCountAfter, List.countP_cons, and_assoc]

/-- `ts > now() - make_interval(mins => …)`. -/
def recentAuditCount (log : List AuditRow) (now : Int) (actor action : String)
    (outcome : AuditOutcome) (minutes : Nat) : Nat :=
  auditCountAfter log (now - minutes * minuteMicros) actor action outcome

/-- The requests of an address, whatever came of them. No address counts as none. -/
def recentAuditCountByIp (log : List AuditRow) (now : Int) (ip : Option String) (action : String)
    (minutes : Nat) : Nat :=
  if ip = none ∨ ip = some "" then 0
  else
    log.countP fun row =>
      decide (row.ip = ip) && decide (row.action = action) &&
        decide (now - minutes * minuteMicros < row.ts)

end UssdGateway
