import UssdGateway.Gateway.Service
import UssdGateway.Gateway.OperationsUsed

/-!
The cache rows over a served leg: its parse writes at most one, and all that follows only takes
rows away.
-/

namespace UssdGateway

open EffectProgram

def legEvent (leg : Leg) : ServiceEvent := .gateway (.leg leg)

theorem mem_upsertActiveSession {table : SessionTable} {now : Nat} {values : SessionUpsert}
    {row : ActiveSessionRow}
    (member : row ∈ (SessionTable.upsertActiveSession table now values).rows) :
    (row ∈ table.rows ∧ row.key ≠ values.key) ∨
      (row.key = values.key ∧ ∀ code, (∀ old, table.find values.key = some old →
        old.serviceCode = code) → (table.find values.key = none → values.serviceCode = code) →
        row.serviceCode = code) := by
  rcases (KeyedTable.mem_upsert _ _ _ _ _).1 member with ⟨old, apart⟩ | ⟨keyed, rfl⟩
  · exact Or.inl ⟨old, apart⟩
  · refine Or.inr ⟨keyed, fun code kept fresh => ?_⟩
    change ActiveSessionRow.serviceCode (((table.find values.key).map
      (SessionTable.refresh values now)).getD (SessionTable.freshRow values now)) = code
    rcases found : table.find values.key with _ | old
    · exact fresh found
    · exact kept old found

section

variable {runtime : PyRuntime} {settings : Settings} {environment : Environment}
  {before parsed : World} {ur : UnifiedRequest}

def AddsNoRow : GatewayOp → Prop
  | .upsertActiveSession _ => False
  | _ => True

theorem serveOps_addsNoRow : ServeOps AddsNoRow where
  operatorId _ := trivial
  resolve _ _ := trivial
  expire _ := trivial
  send _ := trivial
  await _ := trivial
  push _ := trivial
  log _ := trivial

structure Shrunk (before after : World) : Prop where
  registry : after.registry = before.registry
  rows : ∀ row ∈ after.sessions.rows, row ∈ before.sessions.rows

theorem Shrunk.trans {first second third : World} (one : Shrunk first second)
    (two : Shrunk second third) : Shrunk first third :=
  ⟨two.registry.trans one.registry, fun row member => one.rows row (two.rows row member)⟩

theorem shrunk_idle (world : World) : Shrunk world world.idle :=
  ⟨rfl, fun _ member => member⟩

theorem shrunk_run {α : Type} {program : Program α} (uses : program.Uses AddsNoRow)
    (before : World) : Shrunk before (program.run (perform environment) before).2 := by
  refine @Prog.Uses.run_keeps _ _ _ _ _ _ (Shrunk before) ?_ _ uses before
    ⟨rfl, fun _ member => member⟩
  intro op state addsNoRow shrunk
  cases op with
  | upsertActiveSession => exact addsNoRow.elim
  | expireActiveSession =>
      exact ⟨shrunk.registry, fun row member => shrunk.rows row (List.mem_of_mem_filter member)⟩
  | claimExpiredSessions =>
      simp only [perform]
      split
      next claimed sessions returned =>
        obtain ⟨_, rfl⟩ := claimExpiredSessions_eq_some returned
        exact ⟨shrunk.registry, fun row member => shrunk.rows row (List.mem_of_mem_filter member)⟩
      next => exact ⟨shrunk.registry, shrunk.rows⟩
  | _ => exact ⟨shrunk.registry, shrunk.rows⟩

theorem shrunk_runBackground (tasks : List BackgroundTask) (before : World) :
    Shrunk before (runBackground runtime settings environment tasks before) := by
  induction tasks generalizing before with
  | nil => exact ⟨rfl, fun _ member => member⟩
  | cons task rest ih =>
      exact (shrunk_run (uses_background serveOps_addsNoRow runtime settings task) before).trans
        (ih _)

theorem shrunk_completed {program : Program Response} (uses : program.Uses AddsNoRow)
    (before : World) : Shrunk before (completed runtime settings environment
      (program.run (perform environment) before)).2 :=
  (shrunk_run uses before).trans ((shrunk_idle _).trans (shrunk_runBackground _ _))

theorem shrunk_swept (before : World) :
    Shrunk before (swept runtime settings environment before) := by
  have uses : (expireIdleSessionsOnce settings).Uses AddsNoRow :=
    uses_expireIdleSessionsOnce settings (fun _ _ _ _ => trivial) fun _ => trivial
  exact (shrunk_idle before).trans
    ((shrunk_run uses _).trans ((shrunk_idle _).trans (shrunk_runBackground _ _)))

theorem shrunk_served {leg : Leg} (ran : leg.parsed runtime before = (.ok ur, parsed)) :
    Shrunk parsed (leg.served runtime settings before).2 := by
  rw [Leg.served, serve_handleUssd ran]
  exact shrunk_completed (uses_handleLeg serveOps_addsNoRow runtime settings leg.adapter ur
    (fun _ => trivial) fun _ _ _ _ _ _ => trivial) parsed

theorem served_refused {leg : Leg} {error : PyError}
    (ran : leg.parsed runtime before = (.error error, parsed)) :
    (leg.served runtime settings before).2 = before.idle := by
  have unchanged : parsed = before.idle := refused_unchanged ran
  rw [Leg.parsed] at ran
  rw [Leg.served, serve]
  simp only [handleUssd, ofKey_operator, Prog.run_bind, ran, unchanged]
  rfl

theorem shrunk_refused {leg : Leg} {error : PyError}
    (ran : leg.parsed runtime before = (.error error, parsed)) :
    Shrunk before (leg.served runtime settings before).2 := by
  rw [served_refused ran]
  exact shrunk_idle before

end

end UssdGateway
