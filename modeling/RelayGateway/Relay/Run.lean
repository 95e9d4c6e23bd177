import RelayGateway.Access.Group
import RelayGateway.Program
import RelayGateway.Relay.Budget
import RelayGateway.Routing.Registry
import RelayGateway.Upstream.Disclosure
import RelayGateway.Upstream.Verdict

/-! # Relaying a request

* `RelayCall`, `RelayReply`: what a run asks of its surroundings, and the replies.
* `Sight`: what a run sees of the gateway at one moment; two looks may show different gateways.
* `attempt`: one reservation, one dispatch, and its settlement or reversal.
* `turn`, `Sequel`: an attempt with its follow-up, and what follows it.
* `attemptFrom`: turns on one channel after another until the run ends.
* `relay`: a whole run, from authorization to the answer for the client.

The budget of attempts is fixed before the first one, and a channel that failed is never chosen again
in the same run.
-/

set_option autoImplicit false

namespace RelayGateway

/-- What a run sees of the gateway at one moment. -/
structure Sight where
  groups : GroupTable
  registry : Registry
  cooldowns : CooldownTable
  now : Instant
  /-- The words from which a choice is drawn. -/
  draws : Draws

/-- What a run asks of its surroundings. -/
inductive RelayCall where
  | look
  /-- How long the run has been attempting, in nanoseconds. -/
  | elapsed
  | storedChannel (id : ChannelId)
  | reserve (charge : Charge)
  | dispatch (channel : Channel) (key : String) (request : RelayRequest)
  | settle (reservation : Reservation) (usage : Usage) (stream : Bool)
  | reverse (reservation : Reservation)
  | cool (channel : ChannelId) (key : String)
  /-- Hands a failure to the health service, which looks into it later. -/
  | report (channel : Channel) (error : UpstreamError)

@[reducible] def RelayReply : RelayCall → Type
  | .look => Sight
  | .elapsed => Nat
  | .storedChannel _ => Except ServiceError (Option Channel)
  | .reserve _ => Except ServiceError Reservation
  | .dispatch .. => Except DispatchFailure DispatchOutcome
  | .settle .. => Except ServiceError Unit
  | .reverse _ => Except ServiceError Unit
  | .cool .. => Bool
  | .report .. => Unit

abbrev RelayProgram (α : Type) := Program RelayReply α

abbrev RelayResult := Except UpstreamError RelayResponse

/-- How requests are relayed. -/
structure RelayPolicy where
  /-- Whether the group of a token is checked; otherwise it is trusted. -/
  authorizesGroups : Bool
  maxPromptTokens : UInt32
  /-- The attempts allowed after the first. -/
  retryTimes : UInt32
  /-- The time limit for retrying, in seconds. -/
  retryTimeoutSeconds : UInt64

def RelayPolicy.timeLimit (policy : RelayPolicy) : Nat :=
  policy.retryTimeoutSeconds.toNat * 1000000000

/-- A request whose model has been resolved and whose prompt has been counted. -/
structure RelayPlan where
  /-- The request with its group and ratio written in. -/
  request : RelayRequest
  key : String
  promptTokens : UInt32

namespace RelayPlan

def charge (plan : RelayPlan) : Charge :=
  ⟨plan.request.requestId, plan.request.tokenGroup, plan.request.groupRatio, plan.key,
    plan.promptTokens⟩

/-- What the request demands of its channel. A streamed request needs streaming for its routing key. -/
def options (plan : RelayPlan) : FilterOptions :=
  ⟨plan.request.skipOnlyChat, plan.request.allowedProviders,
    if plan.request.stream then some plan.key else none⟩

/-- The conditions of a selection that passes over the excluded channels. -/
def conditions (plan : RelayPlan) (sight : Sight) (excluded : List ChannelId) : Conditions :=
  ⟨sight.cooldowns, sight.now, plan.options.chain excluded⟩

def countAvailable (plan : RelayPlan) (sight : Sight) : Nat :=
  sight.registry.countAvailable (plan.conditions sight []) plan.request.tokenGroup plan.key

def select (plan : RelayPlan) (sight : Sight) (excluded : List ChannelId) :
    Except RoutingError Channel :=
  sight.registry.selectKey (plan.conditions sight excluded) plan.request.tokenGroup plan.key sight.draws

end RelayPlan

/-- The message when the time limit for retrying has passed. -/
def retryTimeoutMessage : String := "重试超时，上游负载已饱和，请稍后再试"

/-- The error when the time limit for retrying has passed. -/
def retryTimeoutError (requestId : String) : UpstreamError :=
  .ofGateway 429 (withRequestId retryTimeoutMessage requestId) "system_error"

/-- The error that the client gets when no channel is chosen. -/
def RelayRequest.routingFailure (request : RelayRequest) (model : String) (err : RoutingError) :
    UpstreamError :=
  disclose (.ofRouting err request.tokenGroup model) request.requestId

def respond (channel : Channel) (usage : Usage) (attempts : UInt32) (outcome : DispatchOutcome) :
    RelayResponse :=
  ⟨channel.id, usage, attempts, outcome.body⟩

/-- A failed attempt. -/
structure AttemptFailure where
  error : UpstreamError
  /-- No other channel can take over. -/
  terminal : Bool

def look : RelayProgram Sight := Program.request RelayCall.look

/-- One attempt: reserves, dispatches, and settles the reservation after a success or reverses it
after a failure. What the quota service says to the latter two changes nothing. -/
def attempt (plan : RelayPlan) (channel : Channel) :
    RelayProgram (Except AttemptFailure (Usage × DispatchOutcome)) :=
  .ask (.reserve plan.charge) fun
    | .error err =>
      .done (.error ⟨.ofGateway 403 err.message "insufficient_user_quota", true⟩)
    | .ok reservation =>
      .ask (.dispatch channel plan.key plan.request) fun
        | .ok outcome =>
          let usage := billedUsage plan.promptTokens outcome
          .ask (.settle reservation usage plan.request.stream) fun _ => .done (.ok (usage, outcome))
        | .error failure =>
          .ask (.reverse reservation) fun _ => .done (.error ⟨failure.error, failure.committed⟩)

/-- Follows up a failure: a rate limit cools the channel, and every error of an upstream is reported. -/
def followUp (plan : RelayPlan) (channel : Channel) (err : UpstreamError) : RelayProgram Unit := do
  if coolsDown err then
    let _ ← Program.request (RelayCall.cool channel.id plan.key)
  if !err.isLocal then
    Program.request (RelayCall.report channel err)

def AttemptFailure.isFinal (failure : AttemptFailure) (channel : Channel) : Bool :=
  failure.terminal || !shouldRetry failure.error channel.provider

/-- What follows an attempt: the end of the run, or another attempt with fewer attempts after it. The
budgets count their attempt already. -/
inductive Sequel (budget : RetryBudget) where
  | ended (result : RelayResult)
  | another (next : RetryBudget) (channel : Channel) (fewer : next.remaining < budget.remaining)

/-- What follows a failed attempt. Another channel takes over if the failure allows it, there is room
for another attempt, the time limit has not passed and a channel is left. Otherwise the client is told
of this failure, or that the time is over. -/
def afterFailure (policy : RelayPolicy) (plan : RelayPlan) (budget : RetryBudget) (channel : Channel)
    (failure : AttemptFailure) : RelayProgram (Sequel budget) := do
  followUp plan channel failure.error
  let verdict : RelayResult := .error (disclose failure.error plan.request.requestId)
  if failure.isFinal channel then
    return .ended verdict
  else if room : budget.hasRoom = true then
    let excluding := budget.exclude channel.id
    let elapsed ← Program.request RelayCall.elapsed
    if timedOut elapsed policy.timeLimit then
      return .ended (.error (retryTimeoutError plan.request.requestId))
    else
      let sight ← look
      match plan.select sight excluding.excluded with
      | .error _ => return .ended verdict
      | .ok next =>
        return .another excluding.countAttempt next
          (RetryBudget.remaining_countAttempt_lt room channel.id)
  else return .ended verdict

def turn (policy : RelayPolicy) (plan : RelayPlan) (budget : RetryBudget) (channel : Channel) :
    RelayProgram (Sequel budget) := do
  match ← attempt plan channel with
  | .ok (usage, outcome) =>
    return .ended (.ok (respond channel usage budget.attempts outcome))
  | .error failure => afterFailure policy plan budget channel failure

/-- Attempts a channel, and others after it until the run ends. -/
def attemptFrom (policy : RelayPolicy) (plan : RelayPlan) (budget : RetryBudget)
    (channel : Channel) : RelayProgram RelayResult := do
  match ← turn policy plan budget channel with
  | .ended result => return result
  | .another next channel _ => attemptFrom policy plan next channel
termination_by budget.remaining

/-- Relays a request that has no channel of its own. -/
def relayUnpinned (policy : RelayPolicy) (plan : RelayPlan) : RelayProgram RelayResult := do
  let counted ← look
  let budget := RetryBudget.ofChannels policy.retryTimes (plan.countAvailable counted)
  let sight ← look
  match plan.select sight budget.excluded with
  | .error err => return .error (plan.request.routingFailure plan.key err)
  | .ok channel => attemptFrom policy plan budget.countAttempt channel

/-- Relays a request to the channel that it names: one attempt, whatever comes of it. -/
def relayPinned (plan : RelayPlan) (id : ChannelId) : RelayProgram RelayResult := do
  match ← Program.request (RelayCall.storedChannel id) with
  | .error err =>
    return .error
      (disclose (.ofGateway 500 err.message "one_hub_error") plan.request.requestId)
  | .ok none => return .error (plan.request.routingFailure plan.key (.invalidChannelId id))
  | .ok (some channel) =>
    if channel.status = .enabled then
      match ← attempt plan channel with
      | .ok (usage, outcome) => return .ok (respond channel usage 1 outcome)
      | .error failure =>
        followUp plan channel failure.error
        return .error (disclose failure.error plan.request.requestId)
    else return .error (plan.request.routingFailure plan.key (.channelDisabled id))

/-- The request with its group and ratio, or the refusal to let it use its group. If groups are not
authorized, the ratio is the one that it came with. -/
def settleGroup (policy : RelayPolicy) (groups : GroupTable) (request : RelayRequest) :
    Except UpstreamError RelayRequest :=
  if policy.authorizesGroups then
    match groups.authorize request.userGroup request.tokenGroup with
    | .ok grant => .ok (request.inGroup grant.tokenGroup grant.ratio)
    | .error err =>
      .error (disclose (.ofGateway 403 err.message "group_forbidden") request.requestId)
  else .ok (request.inGroup request.effectiveGroup request.groupRatio)

/-- Resolves the model of a request in its group and counts its prompt. -/
def planRequest (policy : RelayPolicy) (registry : Registry) (routed : RelayRequest) :
    Except UpstreamError RelayPlan :=
  match registry.resolve routed.tokenGroup routed.model with
  | .error err => .error (routed.routingFailure routed.model err)
  | .ok key =>
    match countPrompt policy.maxPromptTokens routed.prompt with
    | .error err =>
      .error (disclose (.ofGateway 400 err.message "token_error") routed.requestId)
    | .ok promptTokens => .ok ⟨routed, key, promptTokens⟩

def relay (policy : RelayPolicy) (request : RelayRequest) : RelayProgram RelayResult := do
  let arrival ← look
  match settleGroup policy arrival.groups request with
  | .error err => return .error err
  | .ok routed =>
    let sight ← look
    match planRequest policy sight.registry routed with
    | .error err => return .error err
    | .ok plan =>
      match routed.pinned with
      | some id => relayPinned plan id
      | none => relayUnpinned policy plan

end RelayGateway
