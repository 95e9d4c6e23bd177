import RelayGateway.Health.Operation
import RelayGateway.Relay.Run
import RelayGateway.Settings.Basic
import RelayGateway.Store.Table

/-! # A whole gateway

* `Gateway`: the store with everything that is kept in memory beside it.
* `Gateway.ofSettings`: a gateway over a store, before its first load.
* `Gateway.perform`: a health operation carried out on a gateway.
* `Gateway.loadAll`: the first load, of channels and then of groups.
* `Gateway.conditions`, `Gateway.select`: routing at the present moment.
-/

set_option autoImplicit false

namespace RelayGateway

/-- A gateway with its store. -/
structure Gateway where
  policy : RelayPolicy
  classifier : Classifier
  corsOrigins : List String
  store : Store
  registry : Registry
  groups : GroupTable
  cooldowns : CooldownTable
  now : Instant
  /-- The notices sent, oldest first. -/
  notices : List Notice
  /-- The failures that the health service has yet to look into, oldest first. -/
  reports : List (Channel × UpstreamError)

namespace Gateway

def policyOf (relay : RelaySettings) : RelayPolicy :=
  ⟨true, defaultMaxPromptTokens, relay.retryTimes, relay.retryTimeoutSeconds⟩

/-- A gateway over a store, before its first load. -/
def ofSettings (relay : RelaySettings) (corsOrigins : List String) (store : Store) : Gateway where
  policy := policyOf relay
  classifier := .ofKeywords relay.automaticDisable relay.disableKeywords
  corsOrigins := corsOrigins
  store := store
  registry := .empty ⟨relay.defaultWeight, relay.ignoreCase⟩
  groups := .empty
  cooldowns := .ofSeconds relay.cooldownSeconds
  now := 0
  notices := []
  reports := []

def answerHealth (call : HealthCall) : StateM Gateway (HealthReply call) := fun gateway =>
  match call with
  | .storedChannel id => (gateway.store.channel? id, gateway)
  | .updateStatus id status =>
    let (reply, store) := gateway.store.updateStatus id status
    (reply, { gateway with store })
  | .fetchEnabled => (gateway.store.enabledChannels, gateway)
  | .install channels =>
    let snapshot := gateway.registry.tableOf channels
    (Registry.summary snapshot, { gateway with registry := gateway.registry.install snapshot })
  | .setEnabled id enabled =>
    let (reply, registry) := gateway.registry.setEnabled id enabled
    (reply, { gateway with registry })
  | .notify notice => ((), { gateway with notices := gateway.notices ++ [notice] })

def perform {α : Type} (operation : HealthProgram α) : StateM Gateway α :=
  operation.run answerHealth

def loadGroups : StateM Gateway (Except ServiceError Nat) := fun gateway =>
  let (reply, groups) := gateway.groups.load gateway.store.enabledGroups
  (reply, { gateway with groups })

/-- Loads the routing table and then the groups; an error of the first leaves out the second. -/
def loadAll : StateM Gateway (Except ServiceError Unit) := do
  match ← perform loadChannels with
  | .error err => return .error err
  | .ok _ =>
    match ← loadGroups with
    | .error err => return .error err
    | .ok _ => return .ok ()

def settleReports : StateM Gateway Unit := do
  let gateway ← get
  set { gateway with reports := [] }
  for (channel, err) in gateway.reports do
    let _ ← perform (processFailure gateway.classifier channel err)

/-- The channel and the model start a cooldown, `offset` milliseconds from now. -/
def cool (id : ChannelId) (key : String) (offset : Int) : StateM Gateway Bool := fun gateway =>
  let (cooling, cooldowns) := gateway.cooldowns.set id key (gateway.now + offset)
  (cooling, { gateway with cooldowns })

/-- The conditions of a selection at the present moment. -/
def conditions (gateway : Gateway) (options : FilterOptions) (excluded : List ChannelId) :
    Conditions :=
  ⟨gateway.cooldowns, gateway.now, options.chain excluded⟩

def sight (gateway : Gateway) (draws : Draws) : Sight :=
  ⟨gateway.groups, gateway.registry, gateway.cooldowns, gateway.now, draws⟩

end Gateway

end RelayGateway
