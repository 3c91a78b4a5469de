import UssdGateway.Gateway.Pipeline

/-!
Sequential runs of the gateway: a world of tables and queues, and what each operation does to it
when the database answers.
-/

namespace UssdGateway

open EffectProgram

/-- What handlers and operators answer to the gateway's calls, and the cache rows other
transactions hold. An error stands for an exception of the call. -/
structure Environment where
  answer : HandlerCall → Except PyError HttpExchange
  push : OutboundCall → Except PyError HttpExchange
  locked : SessionKey → Bool

structure World where
  registry : Registry
  sessions : SessionTable
  now : Nat
  logQueue : LogQueue
  handlerCalls : List HandlerCall
  pushes : List OutboundCall
  spawned : List BackgroundTask

namespace World

def upserted (world : World) (values : SessionUpsert) : World :=
  { world with sessions := SessionTable.upsertActiveSession world.sessions world.now values }

def expired (world : World) (key : SessionKey) : World :=
  { world with sessions := SessionTable.expireActiveSession world.sessions key }

def called (world : World) (call : HandlerCall) : World :=
  { world with handlerCalls := world.handlerCalls ++ [call] }

def pushed (world : World) (calls : List OutboundCall) : World :=
  { world with pushes := world.pushes ++ calls }

def logged (world : World) (row : LogRow) : World :=
  { world with logQueue := world.logQueue.putNowait row.redacted }

def scheduled (world : World) (task : BackgroundTask) : World :=
  { world with spawned := world.spawned ++ [task] }

def idle (world : World) : World := { world with spawned := [] }

def closedBy (world : World) (action : Action) (key : SessionKey) : World :=
  { world with
    sessions :=
      match action with
      | .END => SessionTable.expireActiveSession world.sessions key
      | .CON => world.sessions }

theorem idle_of_quiet {world : World} (quiet : world.spawned = []) : world.idle = world := by
  rw [idle, ← quiet]

end World

def perform (environment : Environment) : Prog.Handler gatewayOps PyError World
  | .operatorId name, world => (.ok (world.registry.operatorId name), world)
  | .resolveShortcode operatorName code, world =>
      (.ok (world.registry.resolveShortcode operatorName code), world)
  | .longestRegistered operatorId candidates, world =>
      (.ok (world.registry.longestRegistered operatorId candidates), world)
  | .getActiveSession key, world =>
      (.ok (SessionTable.getActiveSession world.sessions world.now key), world)
  | .upsertActiveSession values, world => (.ok (), world.upserted values)
  | .expireActiveSession key, world => (.ok (), world.expired key)
  | .claimExpiredSessions idleSecs maxAgeSecs limit perOp, world =>
      match claimExpiredSessions world.registry world.sessions world.now idleSecs maxAgeSecs
          limit perOp environment.locked with
      | some (claimed, sessions) => (.ok claimed, { world with sessions })
      | none => (.error (.raised (lit "DataError")), world)
  | .sendToHandler call, world => (.ok (), world.called call)
  | .awaitHandler call, world => (environment.answer call, world)
  | .pushToOperator call, world => (environment.push call, world.pushed [call])
  | .logLeg row, world => (.ok (), world.logged row)
  | .spawn task _, world => (.ok (), world.scheduled task)

theorem perform_registry (environment : Environment) (op : GatewayOp) (world : World) :
    (perform environment op world).2.registry = world.registry := by
  cases op with
  | claimExpiredSessions =>
      simp only [perform]
      split <;> rfl
  | _ => rfl

def runBackground (runtime : PyRuntime) (settings : Settings) (environment : Environment) :
    List BackgroundTask → World → World
  | [], world => world
  | task :: rest, world =>
      runBackground runtime settings environment rest
        ((task.program runtime settings).run (perform environment) world).2

def serve (runtime : PyRuntime) (settings : Settings) (environment : Environment)
    (program : Program Response) (world : World) : Except PyError Response × World :=
  let answered := program.run (perform environment) world.idle
  (answered.1, runBackground runtime settings environment answered.2.spawned answered.2.idle)

namespace World

section

variable (world : World) (key : SessionKey) (call : HandlerCall) (calls : List OutboundCall)
  (row : LogRow) (task : BackgroundTask) (action : Action)

@[simp] theorem expired_logQueue : (world.expired key).logQueue = world.logQueue := rfl
@[simp] theorem called_logQueue : (world.called call).logQueue = world.logQueue := rfl
@[simp] theorem pushed_logQueue : (world.pushed calls).logQueue = world.logQueue := rfl
@[simp] theorem scheduled_logQueue : (world.scheduled task).logQueue = world.logQueue := rfl
@[simp] theorem idle_logQueue : world.idle.logQueue = world.logQueue := rfl
@[simp] theorem logged_logQueue :
    (world.logged row).logQueue = world.logQueue.putNowait row.redacted := rfl

@[simp] theorem closedBy_logQueue : (world.closedBy action key).logQueue = world.logQueue := rfl

@[simp] theorem expired_pushes : (world.expired key).pushes = world.pushes := rfl
@[simp] theorem called_pushes : (world.called call).pushes = world.pushes := rfl
@[simp] theorem logged_pushes : (world.logged row).pushes = world.pushes := rfl
@[simp] theorem scheduled_pushes : (world.scheduled task).pushes = world.pushes := rfl
@[simp] theorem idle_pushes : world.idle.pushes = world.pushes := rfl
@[simp] theorem pushed_pushes : (world.pushed calls).pushes = world.pushes ++ calls := rfl

@[simp] theorem closedBy_pushes : (world.closedBy action key).pushes = world.pushes := rfl

@[simp] theorem called_handlerCalls :
    (world.called call).handlerCalls = world.handlerCalls ++ [call] := rfl
@[simp] theorem pushed_handlerCalls : (world.pushed calls).handlerCalls = world.handlerCalls := rfl
@[simp] theorem logged_handlerCalls : (world.logged row).handlerCalls = world.handlerCalls := rfl

@[simp] theorem closedBy_handlerCalls :
    (world.closedBy action key).handlerCalls = world.handlerCalls := rfl

@[simp] theorem called_sessions : (world.called call).sessions = world.sessions := rfl
@[simp] theorem pushed_sessions : (world.pushed calls).sessions = world.sessions := rfl
@[simp] theorem logged_sessions : (world.logged row).sessions = world.sessions := rfl
@[simp] theorem scheduled_sessions : (world.scheduled task).sessions = world.sessions := rfl
@[simp] theorem idle_sessions : world.idle.sessions = world.sessions := rfl
@[simp] theorem expired_sessions :
    (world.expired key).sessions = SessionTable.expireActiveSession world.sessions key := rfl

@[simp] theorem closedBy_sessions :
    (world.closedBy action key).sessions =
      if action = .END then SessionTable.expireActiveSession world.sessions key
      else world.sessions := by
  cases action <;> rfl

@[simp] theorem expired_registry : (world.expired key).registry = world.registry := rfl
@[simp] theorem called_registry : (world.called call).registry = world.registry := rfl
@[simp] theorem pushed_registry : (world.pushed calls).registry = world.registry := rfl
@[simp] theorem idle_registry : world.idle.registry = world.registry := rfl

@[simp] theorem expired_spawned : (world.expired key).spawned = world.spawned := rfl
@[simp] theorem called_spawned : (world.called call).spawned = world.spawned := rfl
@[simp] theorem logged_spawned : (world.logged row).spawned = world.spawned := rfl
@[simp] theorem scheduled_spawned :
    (world.scheduled task).spawned = world.spawned ++ [task] := rfl

@[simp] theorem closedBy_spawned : (world.closedBy action key).spawned = world.spawned := rfl

end

end World

section

variable (environment : Environment) (world : World)

@[simp] theorem run_operatorId (name : Str) :
    (Program.operatorId name).run (perform environment) world =
      (.ok (world.registry.operatorId name), world) := rfl

@[simp] theorem run_resolveShortcode (operatorName code : Str) :
    (Program.resolveShortcode operatorName code).run (perform environment) world =
      (.ok (world.registry.resolveShortcode operatorName code), world) := rfl

@[simp] theorem run_longestRegistered (operatorId : Nat) (candidates : List Str) :
    (Program.longestRegistered operatorId candidates).run (perform environment) world =
      (.ok (world.registry.longestRegistered operatorId candidates), world) := rfl

@[simp] theorem run_getActiveSession (key : SessionKey) :
    (Program.getActiveSession key).run (perform environment) world =
      (.ok (SessionTable.getActiveSession world.sessions world.now key), world) := rfl

@[simp] theorem run_upsertActiveSession (values : SessionUpsert) :
    (Program.upsertActiveSession values).run (perform environment) world =
      (.ok (), world.upserted values) := rfl

@[simp] theorem run_expireActiveSession (key : SessionKey) :
    (Program.expireActiveSession key).run (perform environment) world =
      (.ok (), world.expired key) := rfl

@[simp] theorem run_sendToHandler (call : HandlerCall) :
    (Program.sendToHandler call).run (perform environment) world =
      (.ok (), world.called call) := rfl

@[simp] theorem run_awaitHandler (call : HandlerCall) :
    (Program.awaitHandler call).run (perform environment) world =
      (environment.answer call, world) :=
  Prog.run_call (S := gatewayOps) (perform environment) (.awaitHandler call) world

@[simp] theorem run_pushToOperator (call : OutboundCall) :
    (Program.pushToOperator call).run (perform environment) world =
      (environment.push call, world.pushed [call]) :=
  Prog.run_call (S := gatewayOps) (perform environment) (.pushToOperator call) world

@[simp] theorem run_logLeg (row : LogRow) :
    (Program.logLeg row).run (perform environment) world = (.ok (), world.logged row) := rfl

@[simp] theorem run_spawn (task : BackgroundTask) (referenced : Bool) :
    (Program.spawn task referenced).run (perform environment) world =
      (.ok (), world.scheduled task) := rfl

@[simp] theorem run_raiseOr {α : Type} (value : Except PyError α) :
    (raiseOr value).run (perform environment) world = (value, world) := by
  cases value <;> rfl

@[simp] theorem run_expireOnEnd (action : Action) (key : SessionKey) :
    (expireOnEnd action key).run (perform environment) world =
      (.ok (), world.closedBy action key) := by
  cases action <;> rfl

theorem run_guarded {α : Type} (program : Program α) :
    (guarded program).run (perform environment) world =
      match program.run (perform environment) world with
      | (.ok value, after) => (.ok (some value), after)
      | (.error _, after) => (.ok none, after) := by
  rw [guarded, Prog.run_attempt, Prog.run_bind]
  rcases program.run (perform environment) world with ⟨answer, after⟩
  cases answer <;> rfl

end

theorem run_forward {runtime : PyRuntime} {settings : Settings} {environment : Environment}
    {shortcode : ShortcodeRow} {ur : UnifiedRequest} {exchange : HttpExchange} (world : World)
    (answered : environment.answer (handlerCall settings shortcode ur) = .ok exchange) :
    (forward runtime settings shortcode ur).run (perform environment) world =
      (.ok (handlerOutcome runtime exchange),
        world.called (handlerCall settings shortcode ur)) := by
  simp [forward, Prog.run_bind, answered]

def loneSurrogateBody : Str :=
  lit "\x7b\"action\": \"CON\", \"message\": \"\\ud800\"\x7d"

def sampleRuntime : PyRuntime where
  lower := Str.lower
  repr text := lit "'" ++ text ++ lit "'"
  strTime _ := lit "2026-10-21 00:00:00+00:00"
  loads text :=
    if text = loneSurrogateBody then
      some (.object [(lit "action", .text (lit "CON")), (lit "message", .text [0xD800])])
    else none
  fromstring _ := .error (lit "no element found: line 1, column 0")

def sampleSettings : Settings where
  handlerDefaultTimeoutSecs := 5
  halotel :=
    { outboundUrl := [], outboundUser := [], outboundPass := [], ussdgwIdDefault := []
      outboundTimeoutSecs := 10 }
  expiry :=
    { idleSecs := 120, notifyMaxAgeSecs := 900, batch := 200, idleSecsByOperator := []
      accepted := by decide }

def sampleShortcode (id operatorId : Nat) (code : String) : ShortcodeRecord where
  id := id
  operatorId := operatorId
  code := lit code
  environment := .production
  ownerUserId := 7
  handlerUrl := lit "https://handler.example/ussd"
  authMode := .none
  bearerToken := none
  timeoutSecs := 5
  status := .active
  statusMessage := none
  payloadFormat := .gateway
  verifyTls := true

def sampleRegistry : Registry where
  operators := [⟨1, lit "vodacom"⟩, ⟨2, lit "airtel"⟩, ⟨3, lit "tigo"⟩, ⟨4, lit "halotel"⟩]
  shortcodes := [sampleShortcode 10 2 "*149*01#", sampleShortcode 11 3 "glptigo"]
  operatorIdsUnique := by decide
  operatorNamesUnique := by decide
  codesUnique := by decide
  messagesEncodable := by decide

def sampleWorld : World where
  registry := sampleRegistry
  sessions := KeyedTable.empty
  now := 0
  logQueue := { maxsize := 20000, rows := [], enqueuedTotal := 0, droppedTotal := 0 }
  handlerCalls := []
  pushes := []
  spawned := []

def sampleEnvironment (body : Str) : Environment where
  answer _ := .ok { elapsedMs := 20, result := .response 200 body }
  push _ := .ok { elapsedMs := 20, result := .response 200 [] }
  locked _ := false

def airtelDial : Request where
  partnerSlug := some (lit "glpair")
  queryParams :=
    [(lit "msisdn", lit "255780000001"), (lit "sessionid", lit "S1"), (lit "input", lit "149*01")]
  contentType := none
  body := { isEmpty := true, xml := .error [], json := none, form := [] }

end UssdGateway
