import UssdGateway.Gateway.InlineDialing
import UssdGateway.Gateway.Sandbox
import UssdGateway.Portal.ShortcodeRights

/-!
The dashboard beside live traffic. The gateway routes by the table that the dashboard writes, and
owners of sandbox shortcodes alone do nothing to it that a subscriber could notice.
-/

namespace UssdGateway

theorem ofChar_injective {first second : Char}
    (same : CodePoint.ofChar first = CodePoint.ofChar second) : first = second := by
  have values : (CodePoint.ofChar first).val = (CodePoint.ofChar second).val := congrArg _ same
  exact Char.toNat_inj.1 values

theorem lit_injective {first second : String} (same : lit first = lit second) : first = second := by
  have chars := List.map_injective_iff.2 (fun _ _ => ofChar_injective) same
  exact String.toList_inj.1 chars

def PortalShortcode.record (row : PortalShortcode) : ShortcodeRecord where
  id := row.id
  operatorId := row.operatorId
  code := lit row.code
  environment := row.environment
  ownerUserId := row.ownerUserId
  handlerUrl := lit row.handlerUrl
  authMode := row.authMode
  bearerToken := row.bearerToken.map lit
  timeoutSecs := row.timeoutSecs.toNat
  status := row.status
  statusMessage := row.statusMessage.map lit
  payloadFormat := row.payloadFormat
  verifyTls := row.verifyTls

def ShortcodeBook.registry (book : ShortcodeBook) : Registry where
  operators := book.operators.map PortalOperator.toOperatorRow
  shortcodes := book.rows.rows.map PortalShortcode.record
  operatorIdsUnique := by
    rw [List.map_map]
    exact book.operatorIdsUnique
  operatorNamesUnique := by
    rw [List.map_map]
    exact book.operatorNamesUnique
  codesUnique := by
    rw [List.map_map]
    have apart := book.codesUnique.map (f := fun key => (key.1, lit key.2.1, key.2.2))
      fun first second same => by
        simp only [Prod.mk.injEq] at same
        exact Prod.ext same.1 (Prod.ext (lit_injective same.2.1) same.2.2)
    rw [List.map_map] at apart
    exact apart
  messagesEncodable := by
    intro record present message given
    obtain ⟨row, _, rfl⟩ := List.mem_map.1 present
    obtain ⟨text, _, rfl⟩ := Option.map_eq_some_iff.1 given
    exact Str.encodable_lit text

inductive TrafficEvent where
  | leg (leg : Leg)
  | sweep (environment : Environment)
  | rowsLost (kept : ActiveSessionRow → Bool)
  | elapsed (micros : Nat)

def TrafficEvent.service : TrafficEvent → ServiceEvent
  | .leg inbound => .gateway (.leg inbound)
  | .sweep environment => .sweep environment
  | .rowsLost kept => .gateway (.rowsLost kept)
  | .elapsed micros => .gateway (.elapsed micros)

inductive PlatformEvent where
  | dashboard (event : DashboardEvent)
  | traffic (event : TrafficEvent)

structure Platform where
  dashboard : Dashboard
  world : World

namespace Platform

def dashboardEvents (events : List PlatformEvent) : List DashboardEvent :=
  events.filterMap fun event =>
    match event with
    | .dashboard event => some event
    | .traffic _ => none

def trafficEvents (events : List PlatformEvent) : List ServiceEvent :=
  events.filterMap fun event =>
    match event with
    | .dashboard _ => none
    | .traffic event => some event.service

/-- The gateway reads its tables anew for every lookup. -/
def live (platform : Platform) : World :=
  { platform.world with registry := platform.dashboard.shared.registry }

section

variable (runtime : PyRuntime) (settings : Settings)

/-- What live traffic sees of a run; `none` where the dashboard cannot do such a step. -/
def observed : Platform → List PlatformEvent → Option (List Observed)
  | _, [] => some []
  | platform, .dashboard event :: rest =>
      (dashboards.step platform.dashboard event).bind fun dashboard =>
        observed { platform with dashboard } rest
  | platform, .traffic event :: rest =>
      (observed { platform with world := serviceEvent runtime settings platform.live event.service }
        rest).map fun later => observe runtime settings platform.live event.service :: later

end

end Platform

/-- Sessions that manage no shortcodes but their own, of users who have never owned a live one. -/
def Dashboard.Newcomers (shop : Dashboard) (events : List DashboardEvent) : Prop :=
  ∀ claims, shop.Sessions events claims → isAdmin claims = false ∧
    ∀ row ∈ shop.shared.rows.rows, row.environment = .production →
      (claims.sub, row.id) ∉ shop.shared.owned

section

variable {who : PortalClaims → Prop} {before after : ShortcodeBook}

theorem SameProduction.symm {first second : Registry} (same : SameProduction first second) :
    SameProduction second first :=
  ⟨same.operators.symm, fun record live => (same.shortcodes record live).symm⟩

theorem SameProduction.trans {first second third : Registry} (one : SameProduction first second)
    (two : SameProduction second third) : SameProduction first third :=
  ⟨one.operators.trans two.operators,
    fun record live => (one.shortcodes record live).trans (two.shortcodes record live)⟩

theorem sameProduction_of_routesKept (kept : RoutesKept who before after)
    (operators : after.registry.operators = before.registry.operators)
    (newcomers : ∀ claims, who claims → ∀ row ∈ before.rows.rows, row.environment = .production →
      (claims.sub, row.id) ∉ before.owned) :
    SameProduction before.registry after.registry := by
  have still : ∀ row ∈ before.rows.rows, row.environment = .production →
      row ∈ after.rows.rows := by
    intro row present live
    obtain ⟨now, inside, _, rfl | ⟨claims, works, known⟩⟩ := kept.kept row present
    · exact inside
    · exact absurd known (newcomers claims works row present live)
  refine ⟨operators.symm, fun record live => ?_⟩
  constructor
  · intro member
    obtain ⟨row, present, rfl⟩ := List.mem_map.1 member
    exact List.mem_map_of_mem (still row present live)
  · intro member
    obtain ⟨now, inside, rfl⟩ := List.mem_map.1 member
    rcases kept.added now inside with ⟨row, present, named⟩ | sandbox
    · obtain ⟨other, there, same, _⟩ := kept.kept row present
      have equal : other = now := after.rows.eq_of_key there inside (same.id.trans named)
      have placed : row.environment = .production := by
        have columns := same.columns
        rw [equal] at columns
        rw [columns] at live
        exact live
      have unedited := after.rows.eq_of_key (still row present placed) inside named
      exact List.mem_map_of_mem (unedited ▸ present)
    · exact absurd (sandbox.sandbox.symm.trans live) (by decide)

theorem newcomers_of_routesKept {shop later : Dashboard} {event : DashboardEvent}
    {rest : List DashboardEvent} (newcomers : shop.Newcomers (event :: rest))
    (stepped : dashboards.step shop event = some later)
    (kept : RoutesKept (shop.Sessions (event :: rest)) shop.shared later.shared) :
    later.Newcomers rest := by
  intro claims atWork
  obtain ⟨client, unowned⟩ := newcomers claims (sessions_step stepped atWork)
  refine ⟨client, fun now inside live known => ?_⟩
  rcases kept.added now inside with ⟨row, present, named⟩ | sandbox
  · obtain ⟨other, there, same, _⟩ := kept.kept row present
    have equal : other = now := later.shared.rows.eq_of_key there inside (same.id.trans named)
    have columns := same.columns
    rw [equal] at columns
    rw [columns] at live
    rw [← named] at known
    exact unowned row present live (kept.owners row present claims.sub known)
  · exact absurd (sandbox.sandbox.symm.trans live) (by decide)

theorem Effect.operators {op : ShortcodeOp} (effect : Effect before op after) :
    after.operators = before.operators := by
  cases effect <;> rfl

theorem operators_step {shop later : Dashboard} {event : DashboardEvent}
    (stepped : dashboards.step shop event = some later) :
    later.shared.registry.operators = shop.shared.registry.operators := by
  cases event with
  | starts caller task =>
      obtain rfl := Option.some.inj stepped
      rfl
  | changes change =>
      obtain rfl := Option.some.inj stepped
      cases change with
      | userCreated id => rfl
      | operatorToggled id active =>
          exact ShortcodeBook.map_toggled (fun operator => operator) id active _
  | runs number =>
      obtain ⟨worker, op, next, working, left, rfl⟩ := EffectProgram.runs_eq_some_iff.1 stepped
      exact congrArg (List.map PortalOperator.toOperatorRow)
        (effect_performShortcode op shop.shared).operators

end

section

variable {runtime : PyRuntime} {settings : Settings}

theorem registry_traffic (runtime : PyRuntime) (settings : Settings) (world : World)
    (event : TrafficEvent) :
    (serviceEvent runtime settings world event.service).registry = world.registry := by
  cases event with
  | leg | sweep => exact (registry_runBackground _ _).trans (registry_run _ _)
  | rowsLost | elapsed => rfl

theorem observed_eq_trace {platform : Platform} {events : List PlatformEvent}
    {seen : List Observed} {other : World} (reached : dashboards.Reachable platform.dashboard)
    (newcomers : platform.dashboard.Newcomers (Platform.dashboardEvents events))
    (alike : Alike platform.live other)
    (ran : platform.observed runtime settings events = some seen) :
    seen = trace runtime settings other (Platform.trafficEvents events) := by
  induction events generalizing platform seen other with
  | nil => exact (Option.some.inj ran).symm
  | cons event rest ih =>
      cases event with
      | dashboard event =>
          obtain ⟨later, stepped, ran⟩ := Option.bind_eq_some_iff.1 ran
          change platform.dashboard.Newcomers (event :: Platform.dashboardEvents rest) at newcomers
          have kept : RoutesKept
              (platform.dashboard.Sessions (event :: Platform.dashboardEvents rest))
              platform.dashboard.shared later.shared := by
            refine routes_step reached (Dashboard.Sessions.clients fun claims atWork =>
              (newcomers claims atWork).1) ?_ stepped
            exact fun worker atWork claims caller => Or.inl ⟨worker, atWork, caller⟩
          have production := sameProduction_of_routesKept kept (operators_step stepped)
            fun claims works => (newcomers claims works).2
          exact @ih { platform with dashboard := later } seen other (.next reached trivial stepped)
            (newcomers_of_routesKept newcomers stepped kept)
            ⟨production.symm.trans alike.production, alike.same⟩ ran
      | traffic event =>
          obtain ⟨tail, later, rfl⟩ := Option.map_eq_some_iff.1 ran
          have moved : Alike (serviceEvent runtime settings platform.live event.service)
              (serviceEvent runtime settings other event.service) :=
            serviceEvent_alike alike (.same event.service)
          have tables := registry_traffic runtime settings platform.live event
          rw [Platform.trafficEvents, List.filterMap_cons]
          dsimp only
          rw [trace, ← observe_alike alike (.same event.service)]
          refine congrArg _ (@ih { platform with
            world := serviceEvent runtime settings platform.live event.service } tail _ reached
              newcomers ?_ later)
          have settled : ({ platform with
              world := serviceEvent runtime settings platform.live event.service } :
                Platform).live = serviceEvent runtime settings platform.live event.service := by
            rw [Platform.live, ← show (serviceEvent runtime settings platform.live
              event.service).registry = platform.dashboard.shared.registry from tables]
          rw [settled]
          exact moved

/-- Subscribers are served as if the dashboard were not there, whatever sandbox shortcodes those who
own no live one create and change meanwhile. -/
theorem newcomers_unseen {platform : Platform} {events : List PlatformEvent}
    {seen : List Observed} (reached : dashboards.Reachable platform.dashboard)
    (newcomers : platform.dashboard.Newcomers (Platform.dashboardEvents events))
    (ran : platform.observed runtime settings events = some seen) :
    seen = trace runtime settings platform.live (Platform.trafficEvents events) :=
  observed_eq_trace reached newcomers ⟨⟨rfl, fun _ _ => Iff.rfl⟩, rfl⟩ ran

end

def newcomerSession : PortalClaims where
  sub := 9
  email := "newcomer@example.test"
  name := "Newcomer"
  role := "client"
  perms := ["reports.view_own", "shortcodes.manage_sandbox"]
  shortcodeIds := some []
  shortcodeFrom := []
  pwv := 0
  imp := none

def rivalForm : SandboxForm where
  code := "*149*01#"
  handlerUrl := "https://rival.example/ussd"
  authMode := "none"
  bearerToken := ""
  timeoutSecs := "5"

def quietPlatform : Platform := ⟨quietDashboard, sampleWorld⟩

def rivalCreated : List PlatformEvent :=
  [.dashboard (.starts (some newcomerSession) (.createSandbox rivalForm)),
    .dashboard (.runs 0), .dashboard (.runs 0), .dashboard (.runs 0), .dashboard (.runs 0),
    .traffic (.leg ⟨sampleEnvironment (lit "welcome"), .airtel, airtelDial⟩)]

theorem rival_unseen : ∃ seen,
    quietPlatform.observed sampleRuntime sampleSettings rivalCreated = some seen ∧
      seen = trace sampleRuntime sampleSettings quietPlatform.live
        (Platform.trafficEvents rivalCreated) := by
  have done : (quietPlatform.observed sampleRuntime sampleSettings rivalCreated).isSome = true := by
    decide +kernel
  obtain ⟨seen, ran⟩ := Option.isSome_iff_exists.1 done
  refine ⟨seen, ran, newcomers_unseen quietDashboard_reachable ?_ ran⟩
  rintro claims (⟨worker, atWork, _⟩ | ⟨task, atWork⟩)
  · exact absurd atWork List.not_mem_nil
  · obtain ⟨rfl, _⟩ : claims = newcomerSession ∧ task = .createSandbox rivalForm := by
      simpa [Platform.dashboardEvents, rivalCreated] using atWork
    refine ⟨by decide, fun row present _ => ?_⟩
    obtain rfl := List.mem_singleton.1 present
    decide

end UssdGateway
