import UssdGateway.Gateway.OpenSessions
import UssdGateway.Library.EffectRules

/-!
The gateway as a service: its legs and the ticks of its idle-session sweeper, one after the other.
-/

namespace UssdGateway

open EffectProgram

inductive ServiceEvent where
  | gateway (event : GatewayEvent)
  | sweep (environment : Environment)

section

variable (runtime : PyRuntime) (settings : Settings)

def swept (environment : Environment) (world : World) : World :=
  let ticked := (expireIdleSessionsOnce settings).run (perform environment) world.idle
  runBackground runtime settings environment ticked.2.spawned ticked.2.idle

def serviceEvent (world : World) : ServiceEvent → World
  | .gateway event => gatewayEvent runtime settings world event
  | .sweep environment => swept runtime settings environment world

def serviceRuns : StepSystem World ServiceEvent where
  initial _ := True
  step world event := some (serviceEvent runtime settings world event)

end

/-- What a tick claims: nothing where its statement raises. -/
def claimedBy (settings : Settings) (environment : Environment) (world : World) :
    List ExpiredSession :=
  if claimRaises world.registry world.sessions world.now settings.expiry.idleSecs
      settings.expiry.notifyMaxAgeSecs settings.expiry.batch settings.expiry.idleSecsByOperator then
    []
  else victims world.registry world.sessions world.now settings.expiry.idleSecs
    settings.expiry.notifyMaxAgeSecs settings.expiry.batch.toNat settings.expiry.idleSecsByOperator
    environment.locked

section

variable {environment : Environment} {world : World}

theorem victims_of_mem_claimedBy {settings : Settings} {expired : ExpiredSession}
    (claimed : expired ∈ claimedBy settings environment world) :
    expired ∈ victims world.registry world.sessions world.now settings.expiry.idleSecs
      settings.expiry.notifyMaxAgeSecs settings.expiry.batch.toNat
      settings.expiry.idleSecsByOperator environment.locked := by
  rw [claimedBy] at claimed
  split at claimed
  · cases claimed
  · exact claimed

theorem claimedBy_once (settings : Settings) (environment : Environment) (world : World) :
    ((claimedBy settings environment world).map ExpiredSession.key).Nodup := by
  rw [claimedBy]
  split
  · exact List.nodup_nil
  · exact victims_once _ _ _ _ _ _ _ _

theorem run_spawnEach (claimed : List ExpiredSession) (world : World) :
    (spawnEach claimed).run (perform environment) world =
      (.ok (), { world with
        spawned := world.spawned ++ claimed.map BackgroundTask.notifySessionExpired }) := by
  induction claimed generalizing world with
  | nil => simp [spawnEach]
  | cons expired rest ih =>
      rw [spawnEach, Prog.run_bind, run_spawn]
      simp only [ih, World.scheduled, List.map_cons, List.append_assoc, List.singleton_append]

theorem run_expireIdleSessionsOnce (settings : Settings) :
    ((expireIdleSessionsOnce settings).run (perform environment) world).2 =
      { world with
        sessions := world.sessions.filter fun row =>
          row.key ∉ (claimedBy settings environment world).map ExpiredSession.key
        spawned := world.spawned ++
          (claimedBy settings environment world).map BackgroundTask.notifySessionExpired } := by
  rcases raises : claimRaises world.registry world.sessions world.now settings.expiry.idleSecs
      settings.expiry.notifyMaxAgeSecs settings.expiry.batch settings.expiry.idleSecsByOperator
    with _ | _
  · have claim : (Program.claimExpiredSessions settings.expiry.idleSecs
        settings.expiry.notifyMaxAgeSecs settings.expiry.batch
        settings.expiry.idleSecsByOperator).run (perform environment) world =
          (.ok (claimedBy settings environment world), { world with
            sessions := world.sessions.filter fun row =>
              row.key ∉ (claimedBy settings environment world).map ExpiredSession.key }) := by
      refine (Prog.run_call (S := gatewayOps) (perform environment)
        (.claimExpiredSessions _ _ _ _) world).trans ?_
      simp only [perform, claimExpiredSessions, claimedBy, raises, Bool.false_eq_true, if_false]
      rfl
    rw [expireIdleSessionsOnce, Prog.run_bind, claim]
    simp only [Prog.run_bind, run_spawnEach, Prog.pure_eq_done, Prog.run_done]
  · have claim : (Program.claimExpiredSessions settings.expiry.idleSecs
        settings.expiry.notifyMaxAgeSecs settings.expiry.batch
        settings.expiry.idleSecsByOperator).run (perform environment) world =
          (.error (.raised (lit "DataError")), world) := by
      refine (Prog.run_call (S := gatewayOps) (perform environment)
        (.claimExpiredSessions _ _ _ _) world).trans ?_
      simp only [perform, claimExpiredSessions, raises, if_true]
      rfl
    have none : claimedBy settings environment world = [] := by
      simp only [claimedBy, raises, if_true]
    have untouched : (world.sessions.filter fun row =>
        row.key ∉ ([] : List ExpiredSession).map ExpiredSession.key) = world.sessions :=
      KeyedTable.filter_eq_self fun _ _ => rfl
    rw [expireIdleSessionsOnce, Prog.run_bind, claim, none, untouched]
    simp

end

end UssdGateway
