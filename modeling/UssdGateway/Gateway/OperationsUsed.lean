import UssdGateway.Gateway.Pipeline
import UssdGateway.Library.EffectRules

/-!
The operations that the gateway's programs perform, whatever they are answered: those of a parse,
those of a leg, and those of the background tasks.
-/

namespace UssdGateway

open EffectProgram

def BackgroundTask.notifies : BackgroundTask → Bool
  | .notifyTerminalEvent _ _ _ => true
  | .notifySessionExpired _ => true
  | .asyncForwardThenPush _ _ _ => false
  | .asyncCannedPush _ _ _ _ _ _ _ _ => false

structure ParseOps (allowed : GatewayOp → Prop) : Prop where
  operatorId : ∀ name, allowed (.operatorId name)
  prefixes : ∀ operatorId segments,
    allowed (.longestRegistered operatorId (dialCandidates segments))
  read : ∀ key, allowed (.getActiveSession key)
  write : ∀ values, allowed (.upsertActiveSession values)

structure ServeOps (allowed : GatewayOp → Prop) : Prop where
  operatorId : ∀ name, allowed (.operatorId name)
  resolve : ∀ operatorName code, allowed (.resolveShortcode operatorName code)
  expire : ∀ key, allowed (.expireActiveSession key)
  send : ∀ call, allowed (.sendToHandler call)
  await : ∀ call, allowed (.awaitHandler call)
  push : ∀ call, allowed (.pushToOperator call)
  log : ∀ row, allowed (.logLeg row)

structure CallOps (allowed : GatewayOp → Prop) : Prop extends ParseOps allowed, ServeOps allowed

structure LegOps (allowed : GatewayOp → Prop) : Prop extends CallOps allowed where
  schedule : ∀ task referenced, task.notifies = false → allowed (.spawn task referenced)

variable {allowed : GatewayOp → Prop}

theorem uses_raiseOr {α : Type} (value : Except PyError α) : (raiseOr value).Uses allowed := by
  cases value with
  | ok value => exact Prog.uses_done _
  | error error => exact Prog.uses_raise _

theorem uses_guarded {α : Type} {program : Program α} (uses : program.Uses allowed) :
    (guarded program).Uses allowed :=
  Prog.Uses.attempt (uses.bind fun _ => Prog.uses_done _) fun _ => Prog.uses_done _

section

variable (ops : ParseOps allowed)

include ops

theorem uses_lookup (operatorId : Nat) (canonicalDial : Str) :
    (lookupShortcodeByDialPrefix operatorId canonicalDial).Uses allowed := by
  simp only [lookupShortcodeByDialPrefix]
  split
  · exact Prog.uses_done _
  · exact (Prog.uses_call (ops.prefixes _ _)).bind fun _ => Prog.uses_done _

theorem uses_openSession (sessionid : Str) (operatorId : Nat) (msisdn : Option Str)
    (fallback dialed : Str) :
    (openSession sessionid operatorId msisdn fallback dialed).Uses allowed :=
  (uses_lookup ops operatorId dialed).bind fun _ =>
    (Prog.uses_call (ops.write _)).bind fun _ => Prog.uses_done _

theorem uses_extendSession (prior : ActiveSession) (sessionid : Str) (operatorId : Nat)
    (msisdn : Option Str) (serviceCode newInput : Str) :
    (extendSession prior sessionid operatorId msisdn serviceCode newInput).Uses allowed :=
  (Prog.uses_call (ops.write _)).bind fun _ => Prog.uses_done _

theorem uses_vodacom (fields : Vodacom.Fields) (event : SessionEvent) :
    (Vodacom.sessionPart fields event).Uses allowed := by
  simp only [Vodacom.sessionPart]
  refine (Prog.uses_call (ops.operatorId _)).bind fun operatorId => ?_
  cases event with
  | start => exact (uses_openSession ops _ _ _ _ _).bind fun _ => Prog.uses_done _
  | input =>
      refine (Prog.uses_call (ops.read _)).bind fun prior => ?_
      cases prior with
      | none => exact Prog.uses_done _
      | some prior => exact (uses_extendSession ops _ _ _ _ _ _).bind fun _ => Prog.uses_done _
  | _ => exact (Prog.uses_call (ops.read _)).bind fun _ => Prog.uses_done _

theorem uses_halotel (fields : Halotel.Fields) (event : SessionEvent) :
    (Halotel.sessionPart fields event).Uses allowed := by
  simp only [Halotel.sessionPart]
  refine (Prog.uses_call (ops.operatorId _)).bind fun operatorId => ?_
  cases event with
  | start => exact (uses_openSession ops _ _ _ _ _).bind fun _ => Prog.uses_done _
  | input =>
      refine (Prog.uses_call (ops.read _)).bind fun prior => ?_
      cases prior with
      | none => exact Prog.uses_done _
      | some prior => exact (uses_extendSession ops _ _ _ _ _ _).bind fun _ => Prog.uses_done _
  | _ => exact (Prog.uses_call (ops.read _)).bind fun _ => Prog.uses_done _

theorem uses_tigo (fields : Payload) (msisdnRaw sessionid slug : Str) :
    (Tigo.sessionPart fields msisdnRaw sessionid slug).Uses allowed := by
  simp only [Tigo.sessionPart]
  refine (Prog.uses_call (ops.operatorId _)).bind fun operatorId => ?_
  split
  · exact (uses_openSession ops _ _ _ _ _).bind fun _ => Prog.uses_done _
  · refine (Prog.uses_call (ops.read _)).bind fun prior => ?_
    cases prior with
    | none => exact Prog.uses_done _
    | some prior => exact (uses_extendSession ops _ _ _ _ _ _).bind fun _ => Prog.uses_done _

theorem uses_airtel (fields : Payload) (msisdnRaw sessionid slug : Str) :
    (Airtel.sessionPart fields msisdnRaw sessionid slug).Uses allowed := by
  simp only [Airtel.sessionPart]
  refine (Prog.uses_call (ops.operatorId _)).bind fun operatorId => ?_
  refine (Prog.uses_call (ops.read _)).bind fun prior => ?_
  cases prior with
  | none => exact (uses_openSession ops _ _ _ _ _).bind fun _ => Prog.uses_done _
  | some prior => exact (uses_extendSession ops _ _ _ _ _ _).bind fun _ => Prog.uses_done _

theorem uses_parse (runtime : PyRuntime) (adapter : Adapter) (request : Request) :
    (adapter.parse runtime request).Uses allowed := by
  cases adapter with
  | vodacom =>
      refine (uses_raiseOr _).bind fun fields => ?_
      split
      · exact Prog.uses_raise _
      · exact uses_vodacom ops fields _
  | airtel =>
      simp only [Adapter.parse, Airtel.parse]
      split
      · exact Prog.uses_raise _
      · split
        · exact Prog.uses_raise _
        · exact uses_airtel ops _ _ _ _
  | tigo =>
      simp only [Adapter.parse, Tigo.parse]
      split
      · exact Prog.uses_raise _
      · split
        · exact Prog.uses_raise _
        · exact uses_tigo ops _ _ _ _
  | halotel =>
      refine (uses_raiseOr _).bind fun fields => ?_
      split
      · exact Prog.uses_raise _
      · split
        · exact Prog.uses_raise _
        · exact uses_halotel ops fields _

end

/-! Legs. -/

section

variable (ops : ServeOps allowed) (runtime : PyRuntime) (settings : Settings)

include ops

theorem uses_forward (shortcode : ShortcodeRow) (ur : UnifiedRequest) :
    (forward runtime settings shortcode ur).Uses allowed :=
  (Prog.uses_call (ops.send _)).bind fun _ =>
    (Prog.uses_call (ops.await _)).bind fun _ => Prog.uses_done _

theorem uses_pushOutbound (adapter : Adapter) (ur : UnifiedRequest) (reply : UnifiedReply) :
    (adapter.pushOutbound runtime settings ur reply).Uses allowed := by
  cases adapter with
  | halotel =>
      simp only [Adapter.pushOutbound, Halotel.pushOutbound]
      split
      · exact Prog.uses_done _
      · exact (Prog.uses_call (ops.push _)).bind fun _ => Prog.uses_done _
  | _ => exact Prog.uses_raise _

theorem uses_expireActiveSession (key : SessionKey) :
    (Program.expireActiveSession key).Uses allowed := Prog.uses_call (ops.expire key)

theorem uses_logLeg (row : LogRow) : (Program.logLeg row).Uses allowed :=
  Prog.uses_call (ops.log row)

theorem uses_expireOnEnd (action : Action) (key : SessionKey) :
    (expireOnEnd action key).Uses allowed := by
  cases action with
  | END => exact uses_expireActiveSession ops key
  | CON => exact Prog.uses_done _

theorem uses_forwardedLeg (adapter : Adapter) (ur : UnifiedRequest) (shortcode : ShortcodeRow) :
    (forwardedLeg runtime settings adapter ur shortcode).Uses allowed := by
  refine (uses_forward ops runtime settings _ _).bind fun _ => ?_
  refine (uses_raiseOr _).bind fun _ => (uses_expireOnEnd ops _ _).bind fun _ => ?_
  exact (uses_logLeg ops _).bind fun _ => Prog.uses_done _

theorem uses_notConfiguredLeg (adapter : Adapter) (ur : UnifiedRequest) :
    (notConfiguredLeg adapter ur).Uses allowed := by
  refine (uses_raiseOr _).bind fun _ => (Prog.uses_call (ops.operatorId _)).bind fun _ => ?_
  refine (uses_expireActiveSession ops _).bind fun _ => ?_
  refine (Prog.uses_call (ops.operatorId _)).bind fun _ => ?_
  exact (uses_logLeg ops _).bind fun _ => Prog.uses_done _

theorem uses_authFailedLeg (adapter : Adapter) (ur : UnifiedRequest) (response : Response) :
    (authFailedLeg adapter ur response).Uses allowed := by
  refine (Prog.uses_call (ops.operatorId _)).bind fun _ => ?_
  exact (uses_logLeg ops _).bind fun _ => Prog.uses_done _

theorem uses_deliveryAckLeg (adapter : Adapter) (ur : UnifiedRequest) :
    (deliveryAckLeg adapter ur).Uses allowed := by
  refine (Prog.uses_call (ops.operatorId _)).bind fun _ => (uses_raiseOr _).bind fun _ => ?_
  exact (uses_logLeg ops _).bind fun _ => Prog.uses_done _

theorem uses_terminalShortcode (adapter : Adapter) (ur : UnifiedRequest) :
    (terminalShortcode adapter ur).Uses allowed := by
  rw [terminalShortcode]
  split
  · exact Prog.uses_done _
  · exact Prog.uses_call (ops.resolve _ _)

theorem uses_terminalOperatorId (adapter : Adapter) (resolved : Option ShortcodeRow) :
    (terminalOperatorId adapter resolved).Uses allowed := by
  cases resolved with
  | some shortcode => exact Prog.uses_done _
  | none => exact Prog.uses_call (ops.operatorId _)

theorem uses_terminalLeg (adapter : Adapter) (ur : UnifiedRequest)
    (notify : ∀ task, allowed (.spawn task true)) : (terminalLeg adapter ur).Uses allowed := by
  refine (uses_terminalShortcode ops adapter ur).bind fun resolved => ?_
  refine (uses_terminalOperatorId ops adapter resolved).bind fun operatorId => ?_
  refine (uses_expireActiveSession ops _).bind fun _ => (uses_raiseOr _).bind fun _ => ?_
  refine Prog.Uses.bind ?_ fun _ => Prog.uses_done _
  simp only [notifyOrLog]
  split
  · exact Prog.uses_call (notify _)
  · exact uses_logLeg ops _

section

variable (adapter : Adapter) (ur : UnifiedRequest)
  (schedule : adapter.isAsyncOutbound → ∀ task referenced, task.notifies = false →
    allowed (.spawn task referenced))

include schedule

theorem uses_inactiveLeg (shortcode : ShortcodeRow) :
    (inactiveLeg adapter ur shortcode).Uses allowed := by
  rw [inactiveLeg]
  split
  next asynchronous =>
    refine (uses_raiseOr _).bind fun _ => ?_
    exact (Prog.uses_call (schedule asynchronous _ _ rfl)).bind fun _ => Prog.uses_done _
  next =>
    refine (uses_raiseOr _).bind fun _ => (uses_expireActiveSession ops _).bind fun _ => ?_
    exact (uses_logLeg ops _).bind fun _ => Prog.uses_done _

omit ops in
theorem uses_asyncLeg (asynchronous : adapter.isAsyncOutbound) (resolved : Option ShortcodeRow) :
    (asyncLeg adapter ur resolved).Uses allowed := by
  refine (uses_raiseOr _).bind fun _ => ?_
  cases resolved <;>
    exact (Prog.uses_call (schedule asynchronous _ _ rfl)).bind fun _ => Prog.uses_done _

theorem uses_menuLeg : (menuLeg runtime settings adapter ur).Uses allowed := by
  refine (Prog.uses_call (ops.resolve _ _)).bind fun resolved => ?_
  split
  next shortcode =>
    split
    · exact uses_inactiveLeg ops adapter ur schedule shortcode
    · split
      next asynchronous => exact uses_asyncLeg adapter ur schedule asynchronous _
      next => exact uses_forwardedLeg ops runtime settings adapter ur shortcode
  next =>
    split
    next asynchronous => exact uses_asyncLeg adapter ur schedule asynchronous _
    next => exact uses_notConfiguredLeg ops adapter ur

end

theorem uses_handleLeg (adapter : Adapter) (ur : UnifiedRequest)
    (notify : ∀ task, allowed (.spawn task true))
    (schedule : ur.event ≠ .deliveryAck → ¬ ur.event.isTerminal → adapter.isAsyncOutbound →
      ∀ task referenced, task.notifies = false → allowed (.spawn task referenced)) :
    (handleLeg runtime settings adapter ur).Uses allowed := by
  rw [handleLeg]
  split
  · exact uses_authFailedLeg ops adapter ur _
  · split
    · exact uses_deliveryAckLeg ops adapter ur
    next unacked =>
      split
      · exact uses_terminalLeg ops adapter ur notify
      next open' => exact uses_menuLeg ops runtime settings adapter ur (schedule unacked open')

omit ops in
theorem uses_handleUssd (ops : LegOps allowed) (operatorKey : Str) (request : Request)
    (notify : ∀ task, allowed (.spawn task true)) :
    (handleUssd runtime settings operatorKey request).Uses allowed := by
  rw [handleUssd]
  split
  · exact Prog.uses_raise _
  next adapter _ =>
    exact (uses_parse ops.toParseOps runtime adapter request).bind fun ur =>
      uses_handleLeg ops.toServeOps runtime settings adapter ur notify fun _ _ _ => ops.schedule

theorem uses_background (task : BackgroundTask) :
    (task.program runtime settings).Uses allowed := by
  cases task with
  | notifyTerminalEvent shortcode ur ack =>
      refine (uses_guarded (uses_forward ops runtime settings shortcode ur)).bind fun answered => ?_
      cases answered with
      | none => exact Prog.uses_done _
      | some outcome =>
          exact (uses_guarded (uses_logLeg ops _)).bind fun _ => Prog.uses_done _
  | asyncForwardThenPush adapter ur shortcode =>
      refine (uses_guarded (uses_forward ops runtime settings shortcode ur)).bind fun answered => ?_
      cases answered with
      | none => exact Prog.uses_done _
      | some outcome =>
          refine (uses_guarded (uses_pushOutbound ops runtime settings _ _ _)).bind fun _ => ?_
          refine (uses_guarded (uses_expireOnEnd ops _ _)).bind fun _ => ?_
          exact uses_logLeg ops _
  | asyncCannedPush adapter ur operatorKey reply errorClass shortcodeId operatorId operatorName =>
      have tail : ∀ opId : Nat, Prog.Uses allowed (do
          let pushed ← guarded (adapter.pushOutbound runtime settings ur reply)
          let _ ← guarded (Program.expireActiveSession (ur.sessionId, opId))
          Program.logLeg (cannedRow ur opId (operatorName.getD operatorKey) shortcodeId reply
            errorClass (pushed.getD pushException))) := by
        intro opId
        refine (uses_guarded (uses_pushOutbound ops runtime settings _ _ _)).bind fun _ => ?_
        exact (uses_guarded (uses_expireActiveSession ops _)).bind fun _ => uses_logLeg ops _
      cases operatorId with
      | some id => exact (Prog.uses_done id).bind tail
      | none => exact (Prog.uses_call (ops.operatorId _)).bind tail
  | notifySessionExpired expired =>
      refine Prog.Uses.bind ?_ fun found => ?_
      · rw [expiredShortcode]
        split
        · exact Prog.uses_done _
        · exact uses_guarded (Prog.uses_call (ops.resolve _ _))
      · cases found with
        | none => exact Prog.uses_done _
        | some resolved =>
            dsimp only
            split
            · refine (uses_guarded (uses_forward ops runtime settings _ _)).bind fun answered => ?_
              cases answered with
              | none => exact Prog.uses_done _
              | some outcome =>
                  exact (uses_guarded (uses_logLeg ops _)).bind fun _ => Prog.uses_done _
            · exact (uses_guarded (uses_logLeg ops _)).bind fun _ => Prog.uses_done _

end

theorem uses_spawnEach (notify : ∀ task, allowed (.spawn task true))
    (claimed : List ExpiredSession) : (spawnEach claimed).Uses allowed := by
  induction claimed with
  | nil => exact Prog.uses_done _
  | cons expired rest ih => exact (Prog.uses_call (notify _)).bind fun _ => ih

theorem uses_expireIdleSessionsOnce (settings : Settings)
    (claim : ∀ idleSecs maxAgeSecs limit perOp,
      allowed (.claimExpiredSessions idleSecs maxAgeSecs limit perOp))
    (notify : ∀ task, allowed (.spawn task true)) :
    (expireIdleSessionsOnce settings).Uses allowed :=
  (Prog.uses_call (claim _ _ _ _)).bind fun claimed =>
    (uses_spawnEach notify claimed).bind fun _ => Prog.uses_done _

end UssdGateway
