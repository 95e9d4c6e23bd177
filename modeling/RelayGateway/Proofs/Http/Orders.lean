import RelayGateway.Http.Management
import RelayGateway.Proofs.Health.AtRest
import RelayGateway.Proofs.Program.Handling

/-! # What an operator is told of an order

* `StatusOrder`: the orders to disable and to enable a channel, each with the status that it stores.
* `StatusOrder.publish`: what an order does once the status is stored; the store stays as it is
  (`publish_store`).
* `StatusOrder.perform_eq_ok`: when an order succeeds, and with which reply.
* `order_reports_before`: the reply is the channel as it was before the order. A view after it shows the
  same channel with the ordered status.
-/

set_option autoImplicit false

namespace RelayGateway

/-- An order to disable or to enable a channel. -/
inductive StatusOrder where
  | disable
  | enable (notify : Bool)

namespace StatusOrder

/-- The status that an order stores. -/
def status : StatusOrder → ChannelStatus
  | .disable => .manuallyDisabled
  | .enable _ => .enabled

def operation (id : ChannelId) : StatusOrder → HealthProgram (Except ServiceError Channel)
  | .disable => disableManually id
  | .enable notify => enableChannel id notify

def endpoint (raw : String) : StatusOrder → Http.Endpoint
  | .disable => .disable raw
  | .enable _ => .enable raw

def message : StatusOrder → String
  | .disable => "渠道已禁用"
  | .enable _ => "渠道已启用"

/-- A request with the query is one for the order. -/
def Asked (query : String) : StatusOrder → Prop
  | .disable => True
  | .enable notify => Http.notifyFlag query = .ok notify

/-- The rest of an order, after the status was stored. -/
def publish (id : ChannelId) (channel : Channel) :
    StatusOrder → HealthProgram (Except ServiceError Channel)
  | .disable => do
    let _ ← Program.request (HealthCall.setEnabled id false)
    return .ok channel
  | .enable notify => do
    match ← makeRoutable id with
    | .error err => return .error err
    | .ok () =>
      if notify then
        Program.request (HealthCall.notify (enabledNotice id channel.name))
      return .ok channel

variable {gateway : Gateway} {id : ChannelId} {channel : Channel} {order : StatusOrder}

/-! ## The steps of an order -/

theorem perform_then {α β : Type} (program : HealthProgram α) (next : α → HealthProgram β)
    (gateway : Gateway) : Gateway.perform (program >>= next) gateway =
      Gateway.perform (next (Gateway.perform program gateway).1) (Gateway.perform program gateway).2 :=
  congrFun (Program.run_bind Gateway.answerHealth program next) gateway

theorem perform_requireChannel_found (found : gateway.store.channel? id = .ok (some channel)) :
    Gateway.perform (requireChannel id) gateway = (.ok channel, gateway) := by
  have hread : Gateway.perform (Program.request (HealthCall.storedChannel id)) gateway =
      (.ok (some channel), gateway) := Prod.ext found rfl
  rw [requireChannel, perform_then, hread]
  rfl

theorem perform_requireChannel_missing
    (missing : ∀ channel, gateway.store.channel? id ≠ .ok (some channel)) :
    ∃ err, Gateway.perform (requireChannel id) gateway = (.error err, gateway) := by
  match hread : Gateway.perform (Program.request (HealthCall.storedChannel id)) gateway with
  | (.ok (some channel), after) => exact absurd (congrArg Prod.fst hread) (missing channel)
  | (.ok none, after) =>
    obtain rfl : gateway = after := congrArg Prod.snd hread
    rw [requireChannel, perform_then, hread]
    exact ⟨_, rfl⟩
  | (.error err, after) =>
    obtain rfl : gateway = after := congrArg Prod.snd hread
    rw [requireChannel, perform_then, hread]
    exact ⟨_, rfl⟩

/-- A readable store is enough to make a channel routable, and it is not written. -/
theorem perform_makeRoutable (id : ChannelId) (readable : gateway.store.channelsReadable = true) :
    (Gateway.perform (makeRoutable id) gateway).1 = .ok () ∧
      (Gateway.perform (makeRoutable id) gateway).2.store = gateway.store := by
  rw [makeRoutable, perform_then]
  generalize hset : Gateway.perform (Program.request (HealthCall.setEnabled id true)) gateway = flagged
  obtain ⟨known, after⟩ := flagged
  have hstore : after.store = gateway.store := by
    rw [← show _ = after from congrArg Prod.snd hset]
    rfl
  dsimp only
  cases known with
  | true => exact ⟨rfl, hstore⟩
  | false =>
    obtain ⟨channels, hfetched⟩ : ∃ channels, after.store.enabledChannels = .ok channels := by
      rw [hstore, Store.enabledChannels, if_pos readable]
      exact ⟨_, rfl⟩
    have hload := perform_loadChannels after
    rw [hfetched] at hload
    rw [if_neg Bool.false_ne_true, perform_then, hload]
    exact ⟨rfl, hstore⟩

/-- Once the status is stored, an order succeeds and does not write again. -/
theorem perform_publish (readable : gateway.store.channelsReadable = true) :
    (Gateway.perform (order.publish id channel) gateway).1 = .ok channel ∧
      (Gateway.perform (order.publish id channel) gateway).2.store = gateway.store := by
  cases order with
  | disable => exact ⟨rfl, rfl⟩
  | enable notify =>
    obtain ⟨hreply, hstore⟩ := perform_makeRoutable id readable
    rw [publish, perform_then, hreply]
    cases notify <;> exact ⟨rfl, hstore⟩

theorem perform_updateStatus {status : ChannelStatus} {reply : Except ServiceError Bool} {store : Store}
    (written : gateway.store.updateStatus id status = (reply, store)) :
    Gateway.perform (Program.request (HealthCall.updateStatus id status)) gateway =
      (reply, { gateway with store }) := by
  show ((gateway.store.updateStatus id status).1,
    { gateway with store := (gateway.store.updateStatus id status).2 }) = _
  rw [written]

/-- Of a channel that is stored, an order goes on with what the write of the status replies. -/
theorem perform_operation {reply : Except ServiceError Bool} {store : Store}
    (found : gateway.store.channel? id = .ok (some channel))
    (written : gateway.store.updateStatus id order.status = (reply, store)) :
    Gateway.perform (order.operation id) gateway =
      match reply with
      | .error err => (.error err, { gateway with store })
      | .ok _ => Gateway.perform (order.publish id channel) { gateway with store } := by
  cases order with
  | disable =>
    replace written : gateway.store.updateStatus id .manuallyDisabled = (reply, store) := written
    rw [operation, disableManually, perform_then, perform_requireChannel_found found]
    dsimp only
    rw [perform_then, perform_updateStatus written]
    cases reply <;> rfl
  | enable notify =>
    replace written : gateway.store.updateStatus id .enabled = (reply, store) := written
    rw [operation, enableChannel, perform_then, perform_requireChannel_found found]
    dsimp only
    rw [perform_then, perform_updateStatus written]
    cases reply <;> rfl

theorem perform_operation_missing (order : StatusOrder)
    (missing : ∀ channel, gateway.store.channel? id ≠ .ok (some channel)) :
    ∃ err, Gateway.perform (order.operation id) gateway = (.error err, gateway) := by
  obtain ⟨err, hmissing⟩ := perform_requireChannel_missing missing
  cases order with
  | disable =>
    rw [operation, disableManually, perform_then, hmissing]
    exact ⟨err, rfl⟩
  | enable notify =>
    rw [operation, enableChannel, perform_then, hmissing]
    exact ⟨err, rfl⟩

/-! ## What an order replies -/

/-- An order succeeds on a stored channel if the store can be written. It replies the channel that it read,
and the store is written once. -/
theorem perform_written (writable : gateway.store.channelsWritable = true)
    (found : gateway.store.channel? id = .ok (some channel)) :
    (Gateway.perform (order.operation id) gateway).1 = .ok channel ∧
      (Gateway.perform (order.operation id) gateway).2.store =
        { gateway.store with rows := gateway.store.rows.map (Store.restatus id order.status) } := by
  obtain ⟨readable, row, hrow, -⟩ := Store.channel?_eq_ok.mp found
  have known : (gateway.store.row? id).isSome = true := by rw [hrow]; rfl
  rw [perform_operation found (Store.updateStatus_written readable writable known)]
  exact perform_publish readable

/-- An order replies a channel exactly if the store can be written and has it. -/
theorem perform_eq_ok : (Gateway.perform (order.operation id) gateway).1 = .ok channel ↔
    gateway.store.channelsWritable = true ∧ gateway.store.channel? id = .ok (some channel) := by
  constructor
  · intro succeeds
    by_cases missing : ∀ channel, gateway.store.channel? id ≠ .ok (some channel)
    · obtain ⟨err, hmissing⟩ := perform_operation_missing order missing
      rw [hmissing] at succeeds
      cases succeeds
    · obtain ⟨stored, found⟩ := not_forall_not.mp missing
      obtain ⟨readable, row, hrow, -⟩ := Store.channel?_eq_ok.mp found
      by_cases writable : gateway.store.channelsWritable = true
      · rw [(perform_written writable found).1] at succeeds
        exact ⟨writable, found.trans (congrArg _ (congrArg _ (Except.ok.inj succeeds)))⟩
      · have refused : ∃ err, gateway.store.updateStatus id order.status = (.error err, gateway.store) := by
          unfold Store.updateStatus
          rw [if_pos readable, hrow, if_pos (Option.isSome_some), if_neg writable]
          exact ⟨_, rfl⟩
        obtain ⟨err, hrefused⟩ := refused
        rw [perform_operation found hrefused] at succeeds
        cases succeeds
  · rintro ⟨writable, found⟩
    exact (perform_written writable found).1

/-- After an order, the store has the channel with the ordered status. -/
theorem channel?_after (succeeds : (Gateway.perform (order.operation id) gateway).1 = .ok channel) :
    (Gateway.perform (order.operation id) gateway).2.store.channel? id =
      .ok (some { channel with status := order.status }) := by
  obtain ⟨writable, found⟩ := perform_eq_ok.mp succeeds
  obtain ⟨readable, row, hrow, rfl⟩ := Store.channel?_eq_ok.mp found
  have own : row.id = id := by simpa using List.find?_some hrow
  rw [(perform_written writable found).2, Store.channel?_eq_ok]
  refine ⟨readable, Store.restatus id order.status row, ?_, Store.ofRow_restatus own order.status⟩
  rw [Store.row?_restatus, hrow]
  rfl

/-! ## Responses -/

section Responses

variable {raw query : String} (named : Http.channelId raw = .ok id)
include named

theorem answer_order (moment : Http.Moment) (asked : order.Asked query) (gateway : Gateway) :
    Gateway.answerEndpoint moment (order.endpoint raw) query gateway =
      (Gateway.reportOperation moment order.message (Gateway.perform (order.operation id) gateway).1,
        (Gateway.perform (order.operation id) gateway).2) := by
  cases order with
  | disable =>
    show Gateway.withChannel raw _ gateway = _
    rw [Gateway.withChannel, named]
    rfl
  | enable notify =>
    replace asked : Http.notifyFlag query = .ok notify := asked
    show Gateway.withChannel raw _ gateway = _
    rw [Gateway.withChannel, named]
    dsimp only
    rw [asked]
    rfl

theorem answer_view (moment : Http.Moment) (gateway : Gateway) :
    Gateway.answerEndpoint moment (.channel raw) query gateway = (gateway.showChannel moment id, gateway) := by
  show Gateway.withChannel raw _ gateway = _
  rw [Gateway.withChannel, named]
  rfl

end Responses

end StatusOrder

/-- An order that succeeds replies the channel as the store had it before. After it the store has the same
channel with the ordered status, so the reply is what is stored then only if nothing was changed. The
response says that the order was carried out and shows the channel as it was; a view that follows shows
it as it is, with whether it is routable. -/
theorem order_reports_before (order : StatusOrder) (id : ChannelId) (gateway : Gateway) (channel : Channel)
    (succeeds : (Gateway.perform (order.operation id) gateway).1 = .ok channel) :
    let after := (Gateway.perform (order.operation id) gateway).2
    gateway.store.channel? id = .ok (some channel) ∧
      after.store.channel? id = .ok (some { channel with status := order.status }) ∧
      (after.store.channel? id = .ok (some channel) ↔ channel.status = order.status) ∧
      ∀ (moment later : Http.Moment) (raw query other : String), Http.channelId raw = .ok id →
        order.Asked query →
        Gateway.answerEndpoint moment (order.endpoint raw) query gateway =
          (Http.reportSuccess moment channel.toJson (some order.message), after) ∧
        Gateway.answerEndpoint later (.channel raw) other after =
          (Http.reportSuccess later ({ channel with status := order.status }.viewJson
            (after.registry.isChannelEnabled id)) none, after) := by
  intro after
  have hafter : after.store.channel? id = .ok (some { channel with status := order.status }) :=
    StatusOrder.channel?_after succeeds
  refine ⟨(StatusOrder.perform_eq_ok.mp succeeds).2, hafter, ?_, ?_⟩
  · rw [hafter, Except.ok.injEq, Option.some.injEq]
    constructor
    · intro heq
      exact (congrArg Channel.status heq).symm
    · intro hstatus
      rw [← hstatus]
  · intro moment later raw query other named asked
    constructor
    · rw [StatusOrder.answer_order named moment asked, succeeds]
      rfl
    · rw [StatusOrder.answer_view named, Gateway.showChannel, hafter]

/-- The channel of a gateway with one channel, with a status. -/
def lonelyChannel (status : ChannelStatus) : Channel :=
  .ofRow { (default : ChannelRow) with id := 1, statusCode := status.code }

theorem lonelyOrder_reports :
    let loaded := (Gateway.perform loadChannels lonelyGateway).2
    let reply := Gateway.perform (StatusOrder.disable.operation 1) loaded
    reply.1 = .ok (lonelyChannel .enabled) ∧
      reply.2.store.channel? 1 = .ok (some (lonelyChannel .manuallyDisabled)) ∧
      Http.channelId "1" = .ok 1 ∧
      (Gateway.answerEndpoint ⟨"a", "t", 1⟩ (.disable "1") "" loaded).1 =
        Http.reportSuccess ⟨"a", "t", 1⟩ (lonelyChannel .enabled).toJson (some "渠道已禁用") := by
  intro loaded reply
  have succeeds : reply.1 = .ok (lonelyChannel .enabled) := by decide
  have named : Http.channelId "1" = .ok 1 := by decide +kernel
  obtain ⟨-, hafter, -, hresponses⟩ :=
    order_reports_before .disable 1 loaded (lonelyChannel .enabled) succeeds
  have hresponse := (hresponses ⟨"a", "t", 1⟩ ⟨"b", "u", 2⟩ "1" "" "" named trivial).1
  exact ⟨succeeds, hafter, named, congrArg Prod.fst hresponse⟩

/-- The channel is disabled and enabled again. Each time the reply has the status that is stored no more. -/
theorem lonelyOrders_stale :
    let loaded := (Gateway.perform loadChannels lonelyGateway).2
    let disabled := Gateway.perform (disableManually 1) loaded
    let enabled := Gateway.perform (enableChannel 1 false) disabled.2
    (disabled.1 = .ok (lonelyChannel .enabled) ∧
        disabled.2.store.channel? 1 = .ok (some (lonelyChannel .manuallyDisabled))) ∧
      (enabled.1 = .ok (lonelyChannel .manuallyDisabled) ∧
        enabled.2.store.channel? 1 = .ok (some (lonelyChannel .enabled))) ∧
      lonelyChannel .enabled ≠ lonelyChannel .manuallyDisabled := by
  decide +kernel

end RelayGateway
