import RelayGateway.Proofs.Health.AtRest

/-! # Health operations through failures

Operations one after another, while calls fail.

* `HealthCall.failure?`, `Gateway.answerUnless`: a call that fails changes nothing.
* `Ordeal`: a gateway with the failures that are to come. `Ordeal.carryOut` carries out an order.
* `Withstands`: what a program achieves, whichever of its calls fail.
* `Effect`: everything that an order can do to the store and the registry; `order_effect` says that it
  does nothing else, and `Effect.shown`, `Effect.exact`, `Effect.kept` what follows.
* `routability_withstands`: what is routable is stored as enabled, through all failures.
-/

set_option autoImplicit false

namespace RelayGateway

/-! ## Calls that fail -/

/-- The reply to a call that fails, if it can fail. A notice that gets lost is nobody's concern. -/
def HealthCall.failure? : (call : HealthCall) → ServiceError → Option (HealthReply call)
  | .storedChannel _, err => some (.error err)
  | .updateStatus _ _, err => some (.error err)
  | .fetchEnabled, err => some (.error err)
  | .notify _, _ => some ()
  | .install _, _ => none
  | .setEnabled _ _, _ => none

/-- Answers a call unless it fails. -/
def Gateway.answerUnless (gateway : Gateway) (fault : Option ServiceError) (call : HealthCall) :
    HealthReply call × Gateway :=
  match fault.bind call.failure? with
  | some reply => (reply, gateway)
  | none => Gateway.answerHealth call gateway

/-- A gateway with the faults of the calls to come. A call without one is answered. -/
structure Ordeal where
  gateway : Gateway
  faults : List (Option ServiceError)

def Ordeal.answer (call : HealthCall) : StateM Ordeal (HealthReply call) := fun ordeal =>
  let (reply, gateway) := ordeal.gateway.answerUnless ordeal.faults.head?.join call
  (reply, ⟨gateway, ordeal.faults.tail⟩)

variable {α β : Type}

/-- Whichever calls fail, the program ends with a value on a gateway as it should. -/
def Withstands (ends : α → Gateway → Prop) : HealthProgram α → Gateway → Prop
  | .done value, gateway => ends value gateway
  | .ask call next, gateway =>
    (∀ err reply, call.failure? err = some reply → Withstands ends (next reply) gateway) ∧
      Withstands ends (next (Gateway.answerHealth call gateway).1)
        (Gateway.answerHealth call gateway).2

theorem withstands_run {ends : α → Gateway → Prop} {program : HealthProgram α} {ordeal : Ordeal}
    (h : Withstands ends program ordeal.gateway) :
    ends (program.run Ordeal.answer ordeal).1 (program.run Ordeal.answer ordeal).2.gateway := by
  induction program generalizing ordeal with
  | done value => exact h
  | ask call next ih =>
    obtain ⟨hfailing, hanswered⟩ := h
    show ends ((next (Ordeal.answer call ordeal).1).run Ordeal.answer (Ordeal.answer call ordeal).2).1
      ((next (Ordeal.answer call ordeal).1).run Ordeal.answer (Ordeal.answer call ordeal).2).2.gateway
    apply ih
    unfold Ordeal.answer Gateway.answerUnless
    cases hfault : ordeal.faults.head?.join.bind call.failure? with
    | none => exact hanswered
    | some reply =>
      obtain ⟨err, _, hreply⟩ := Option.bind_eq_some_iff.mp hfault
      exact hfailing err reply hreply

theorem withstands_bind {ends : β → Gateway → Prop} {program : HealthProgram α}
    {after : α → HealthProgram β} {gateway : Gateway}
    (h : Withstands (fun value => Withstands ends (after value)) program gateway) :
    Withstands ends (program >>= after) gateway := by
  induction program generalizing gateway with
  | done value => exact h
  | ask call next ih =>
    obtain ⟨hfailing, hanswered⟩ := h
    exact ⟨fun err reply hreply => ih reply (hfailing err reply hreply), ih _ hanswered⟩

theorem withstands_mono {ends ends' : α → Gateway → Prop}
    (weaker : ∀ value gateway, ends value gateway → ends' value gateway)
    {program : HealthProgram α} {gateway : Gateway} (h : Withstands ends program gateway) :
    Withstands ends' program gateway := by
  induction program generalizing gateway with
  | done value => exact weaker value gateway h
  | ask call next ih =>
    obtain ⟨hfailing, hanswered⟩ := h
    exact ⟨fun err reply hreply => ih reply (hfailing err reply hreply), ih _ hanswered⟩

section Requests

variable {ends : α → Gateway → Prop} {gateway : Gateway} {id : ChannelId}

theorem withstands_storedChannel (usable : gateway.store.Usable)
    {after : Except ServiceError (Option Channel) → HealthProgram α}
    (failing : ∀ err, Withstands ends (after (.error err)) gateway)
    (answered : Withstands ends (after (.ok ((gateway.store.row? id).map Channel.ofRow))) gateway) :
    Withstands ends (Program.request (HealthCall.storedChannel id) >>= after) gateway := by
  refine ⟨?_, ?_⟩
  · rintro err _ ⟨⟩
    exact failing err
  · show Withstands ends (after (gateway.store.channel? id)) gateway
    rw [Store.channel?_eq usable]
    exact answered

theorem withstands_updateStatus (usable : gateway.store.Usable)
    (known : id ∈ gateway.store.rows.map (·.id)) {status : ChannelStatus}
    {after : Except ServiceError Bool → HealthProgram α}
    (failing : ∀ err, Withstands ends (after (.error err)) gateway)
    (answered : Withstands ends (after (.ok true))
      { gateway with store := (gateway.store.updateStatus id status).2 }) :
    Withstands ends (Program.request (HealthCall.updateStatus id status) >>= after) gateway := by
  refine ⟨?_, ?_⟩
  · rintro err _ ⟨⟩
    exact failing err
  · show Withstands ends (after (gateway.store.updateStatus id status).1)
      { gateway with store := (gateway.store.updateStatus id status).2 }
    rw [Store.updateStatus_reply usable known]
    exact answered

theorem withstands_setEnabled {enabled : Bool} {after : Bool → HealthProgram α}
    (answered : Withstands ends (after (gateway.registry.snapshot.channel? id).isSome)
      { gateway with registry := (gateway.registry.setEnabled id enabled).2 }) :
    Withstands ends (Program.request (HealthCall.setEnabled id enabled) >>= after) gateway := by
  refine ⟨?_, ?_⟩
  · rintro err _ ⟨⟩
  · show Withstands ends (after (gateway.registry.setEnabled id enabled).1)
      { gateway with registry := (gateway.registry.setEnabled id enabled).2 }
    rw [setEnabled_found]
    exact answered

/-- Whether a notice is sent or lost, nothing depends on it. -/
theorem withstands_notify {notice : Notice} {sends : Bool} {value : α}
    (told : ∀ notices, ends value { gateway with notices }) :
    Withstands ends (do
      if sends then
        Program.request (HealthCall.notify notice)
      return value) gateway := by
  cases sends with
  | false => exact told gateway.notices
  | true => exact ⟨fun _ _ _ => told gateway.notices, told _⟩

end Requests

/-! ## Orders and what is replied -/

@[reducible] def HealthOrder.Reply : HealthOrder → Type
  | .load => Except ServiceError LoadSummary
  | .disable .. => DisableOutcome
  | .disableManually _ | .enable .. => Except ServiceError Channel

def HealthOrder.operation : (order : HealthOrder) → HealthProgram order.Reply
  | .load => loadChannels
  | .disable id name reason notify => disableChannel id name reason notify
  | .disableManually id => RelayGateway.disableManually id
  | .enable id notify => enableChannel id notify

/-- Whether the reply is that of a failure. -/
def HealthOrder.fails : (order : HealthOrder) → order.Reply → Bool
  | .load, reply => !reply.toBool
  | .disable .., .notFound | .disable .., .failed _ => true
  | .disable .., .disabled | .disable .., .alreadyDisabled => false
  | .disableManually _, reply => !reply.toBool
  | .enable .., reply => !reply.toBool

/-- A channel is stored with the status, and routable exactly if it is enabled. -/
def Gateway.Shows (gateway : Gateway) (id : ChannelId) (status : ChannelStatus) : Prop :=
  gateway.store.status? id = some status ∧
    gateway.registry.isChannelEnabled id = (status == .enabled)

/-- What a reply promises of the gateway after an order. -/
def HealthOrder.Delivers (gateway : Gateway) : (order : HealthOrder) → order.Reply → Prop
  | .load, reply => reply.toBool = true →
    ∀ id, gateway.registry.isChannelEnabled id = gateway.store.isEnabled id
  | .disable id _ _ _, .disabled => gateway.Shows id .autoDisabled
  | .disable id _ _ _, .alreadyDisabled => ∃ status, status.isDisabled = true ∧ gateway.Shows id status
  | .disable .., .notFound | .disable .., .failed _ => True
  | .disableManually id, reply => reply.toBool = true → gateway.Shows id .manuallyDisabled
  | .enable id _, reply => reply.toBool = true → gateway.Shows id .enabled

/-! ## What an order can do -/

/-- What an order can do to the store and the registry, and whether the reply is that of a failure. -/
inductive Effect (before after : Gateway) : Bool → Prop where
  | nothing (store : after.store = before.store) (registry : after.registry = before.registry) :
    Effect before after true
  /-- A status was stored as enabled, but the routing table could not be loaded. -/
  | unpublished {id : ChannelId} (known : id ∈ before.store.rows.map (·.id))
      (store : after.store = (before.store.updateStatus id .enabled).2)
      (registry : after.registry = before.registry) : Effect before after true
  | switched {id : ChannelId} {enabled : Bool} (own : after.store.isEnabled id = enabled)
      (others : ∀ other, other ≠ id → after.store.isEnabled other = before.store.isEnabled other)
      (registry : after.registry = (before.registry.setEnabled id enabled).2)
      (found : enabled = true → (before.registry.snapshot.channel? id).isSome = true) :
    Effect before after false
  | loaded (shown : ∀ id, after.registry.isChannelEnabled id = after.store.isEnabled id) :
    Effect before after false

/-- What is routable is stored as enabled. -/
def Gateway.ShowsStored (gateway : Gateway) : Prop :=
  ∀ id, gateway.registry.isChannelEnabled id = true → gateway.store.isEnabled id = true

namespace Effect

variable {before after : Gateway} {failed : Bool}

theorem shown (h : Effect before after failed) (usable : before.store.Usable)
    (shown : before.ShowsStored) : after.ShowsStored := by
  intro other hother
  cases h with
  | nothing store registry =>
    rw [registry] at hother
    rw [store]
    exact shown other hother
  | @unpublished id known store registry =>
    rw [registry] at hother
    rw [store, Store.isEnabled_updateStatus usable known]
    split
    · rfl
    · exact shown other hother
  | @switched id enabled own others registry found =>
    rw [registry, isChannelEnabled_setEnabled] at hother
    split at hother
    · rename_i heq
      subst heq
      rw [own]
      exact (Bool.and_eq_true_iff.mp hother).2
    · rename_i hne
      rw [others other hne]
      exact shown other hother
  | loaded loads =>
    rw [← loads other]
    exact hother

theorem exact (h : Effect before after false)
    (exact : ∀ id, before.registry.isChannelEnabled id = before.store.isEnabled id) (id : ChannelId) :
    after.registry.isChannelEnabled id = after.store.isEnabled id := by
  cases h with
  | @switched own enabled hown others registry found =>
    rw [registry, isChannelEnabled_setEnabled]
    split
    · rename_i heq
      subst heq
      rw [hown]
      cases enabled with
      | true => rw [found rfl]; rfl
      | false => exact Bool.and_false _
    · rename_i hne
      rw [others id hne]
      exact exact id
  | loaded loads => exact loads id

theorem kept (h : Effect before after true) (id : ChannelId) :
    after.registry.isChannelEnabled id = before.registry.isChannelEnabled id := by
  cases h with
  | nothing store registry => rw [registry]
  | unpublished known store registry => rw [registry]

end Effect

/-! ## The operations -/

section Operations

variable {gateway : Gateway} {id : ChannelId}

theorem isEnabled_of_isDisabled {status : ChannelStatus} (h : status.isDisabled = true) :
    (status == .enabled) = false := by
  revert h
  cases status <;> decide

/-- A status that is stored and then shown by the flag of its channel, if the table has the channel. -/
theorem Effect.of_shown (gateway after : Gateway) {status : ChannelStatus}
    (usable : after.store.Usable)
    (own : after.store.status? id = some status)
    (others : ∀ other, other ≠ id → after.store.isEnabled other = gateway.store.isEnabled other)
    (registry : after.registry = (gateway.registry.setEnabled id (status == .enabled)).2)
    (found : (status == .enabled) = true → (gateway.registry.snapshot.channel? id).isSome = true) :
    Effect gateway after false ∧ after.Shows id status := by
  refine ⟨.switched (Store.isEnabled_of_status? usable own) others registry found, own, ?_⟩
  rw [registry, isChannelEnabled_setEnabled, if_pos rfl]
  cases henabled : status == .enabled with
  | true => rw [found henabled]; rfl
  | false => exact Bool.and_false _

theorem Effect.of_written (gateway after : Gateway) {status : ChannelStatus}
    (usable : gateway.store.Usable)
    (known : id ∈ gateway.store.rows.map (·.id))
    (store : after.store = (gateway.store.updateStatus id status).2)
    (registry : after.registry = (gateway.registry.setEnabled id (status == .enabled)).2)
    (found : (status == .enabled) = true → (gateway.registry.snapshot.channel? id).isSome = true) :
    Effect gateway after false ∧ after.store.Usable ∧ after.Shows id status := by
  have usable' : after.store.Usable := by
    rw [store]
    exact Store.usable_updateStatus usable known
  have own : after.store.status? id = some status := by
    rw [store, Store.status?_updateStatus usable known, if_pos rfl]
  have others : ∀ other, other ≠ id →
      after.store.isEnabled other = gateway.store.isEnabled other := by
    intro other hne
    rw [store, Store.isEnabled_updateStatus usable known, if_neg hne]
  obtain ⟨heffect, hshows⟩ := Effect.of_shown gateway after usable' own others registry found
  exact ⟨heffect, usable', hshows⟩

theorem load_withstands (usable : gateway.store.Usable) :
    Withstands (fun reply after => after.store = gateway.store ∧
        match reply with
        | .error _ => after.registry = gateway.registry
        | .ok _ => ∀ id, after.registry.isChannelEnabled id = after.store.isEnabled id)
      loadChannels gateway := by
  refine ⟨?_, ?_⟩
  · rintro err _ ⟨⟩
    exact ⟨rfl, rfl⟩
  · have hfetched := Store.enabledChannels_eq usable
    unfold Gateway.answerHealth
    dsimp only
    rw [hfetched]
    refine ⟨?_, rfl, ?_⟩
    · rintro err _ ⟨⟩
    · intro id
      rw [Bool.eq_iff_iff]
      exact (isChannelEnabled_install gateway.registry _ id).trans
        (Store.enabledChannels_iff usable hfetched id).symm

theorem disable_withstands (usable : gateway.store.Usable) (name reason : String) (notify : Bool) :
    Withstands (fun outcome after => Effect gateway after
          (HealthOrder.fails (.disable id name reason notify) outcome) ∧ after.store.Usable ∧
        HealthOrder.Delivers after (.disable id name reason notify) outcome)
      (disableChannel id name reason notify) gateway := by
  have unchanged : ∀ outcome, HealthOrder.fails (.disable id name reason notify) outcome = true →
      Effect gateway gateway (HealthOrder.fails (.disable id name reason notify) outcome) := by
    intro outcome hfails
    rw [hfails]
    exact .nothing rfl rfl
  unfold disableChannel
  apply withstands_storedChannel usable
  · exact fun err => ⟨unchanged (.failed err.message) rfl, usable, trivial⟩
  cases hrow : gateway.store.row? id with
  | none => exact ⟨unchanged .notFound rfl, usable, trivial⟩
  | some row =>
    have hstatus := Store.status?_of_row? hrow
    have known := Store.known_of_row? hrow
    dsimp only [Option.map_some]
    split
    · rename_i hdisabled
      -- nothing is written: the flag follows the status that was read
      have hflag := isEnabled_of_isDisabled hdisabled
      have found : ((Channel.ofRow row).status == .enabled) = true →
          (gateway.registry.snapshot.channel? id).isSome = true := by
        intro henabled
        cases hflag.symm.trans henabled
      apply withstands_setEnabled
      obtain ⟨heffect, hshows⟩ := Effect.of_shown gateway
        { gateway with registry := (gateway.registry.setEnabled id false).2 } usable hstatus
        (fun _ _ => rfl) (by rw [hflag]) found
      exact ⟨heffect, usable, _, hdisabled, hshows⟩
    · apply withstands_updateStatus usable known
      · exact fun err => ⟨unchanged (.failed err.message) rfl, usable, trivial⟩
      · apply withstands_setEnabled
        apply withstands_notify
        intro notices
        exact Effect.of_written gateway _ usable known rfl rfl (fun h => by cases h)

theorem requireChannel_withstands {α : Type} {ends : Except ServiceError α → Gateway → Prop}
    (usable : gateway.store.Usable) {after : Channel → HealthProgram (Except ServiceError α)}
    (failing : ∀ err, ends (.error err) gateway)
    (answered : ∀ channel, id ∈ gateway.store.rows.map (·.id) →
      Withstands ends (after channel) gateway) :
    Withstands ends (do
      match ← requireChannel id with
      | .error err => return .error err
      | .ok channel => after channel) gateway := by
  apply withstands_bind
  unfold requireChannel
  apply withstands_storedChannel usable
  · exact failing
  cases hrow : gateway.store.row? id with
  | none => exact failing _
  | some row => exact answered _ (Store.known_of_row? hrow)

theorem disableManually_withstands (usable : gateway.store.Usable) :
    Withstands (fun reply after => Effect gateway after (!reply.toBool) ∧ after.store.Usable ∧
        (reply.toBool = true → after.Shows id .manuallyDisabled))
      (disableManually id) gateway := by
  have unchanged : ∀ err : ServiceError, Effect gateway gateway
      (!(Except.error err : Except ServiceError Channel).toBool) ∧ gateway.store.Usable ∧
      ((Except.error err : Except ServiceError Channel).toBool = true →
        gateway.Shows id .manuallyDisabled) :=
    fun err => ⟨.nothing rfl rfl, usable, fun h => by cases h⟩
  unfold disableManually
  apply requireChannel_withstands usable unchanged
  intro channel known
  apply withstands_updateStatus usable known
  · exact unchanged
  apply withstands_setEnabled
  obtain ⟨heffect, husable, hshows⟩ := Effect.of_written gateway
    { gateway with
      store := (gateway.store.updateStatus id .manuallyDisabled).2
      registry := (gateway.registry.setEnabled id false).2 }
    usable known rfl rfl (fun h => by cases h)
  exact ⟨heffect, husable, fun _ => hshows⟩

theorem setEnabled_missing {registry : Registry} {enabled : Bool}
    (missing : (registry.snapshot.channel? id).isSome = false) :
    (registry.setEnabled id enabled).2 = registry := by
  rw [Registry.setEnabled, missing]
  rfl

theorem makeRoutable_withstands (usable : gateway.store.Usable) :
    Withstands (fun reply after => after.store = gateway.store ∧
        match reply with
        | .error _ => after.registry = gateway.registry
        | .ok _ => (gateway.registry.snapshot.channel? id).isSome = true ∧
              after.registry = (gateway.registry.setEnabled id true).2 ∨
            ∀ other, after.registry.isChannelEnabled other = after.store.isEnabled other)
      (makeRoutable id) gateway := by
  unfold makeRoutable
  apply withstands_setEnabled
  cases hknown : (gateway.registry.snapshot.channel? id).isSome with
  | true =>
    rw [if_pos rfl]
    exact ⟨rfl, .inl ⟨rfl, rfl⟩⟩
  | false =>
    -- the table lacks the channel, so that the flag was not set
    rw [if_neg Bool.false_ne_true, setEnabled_missing hknown]
    apply withstands_bind
    apply withstands_mono _ (load_withstands usable)
    rintro reply after ⟨hstore, hcase⟩
    cases reply with
    | error err => exact ⟨hstore, hcase⟩
    | ok summary => exact ⟨hstore, .inr hcase⟩

theorem enable_withstands (usable : gateway.store.Usable) (notify : Bool) :
    Withstands (fun reply after => Effect gateway after (!reply.toBool) ∧ after.store.Usable ∧
        (reply.toBool = true → after.Shows id .enabled))
      (enableChannel id notify) gateway := by
  have unchanged : ∀ err : ServiceError, Effect gateway gateway
      (!(Except.error err : Except ServiceError Channel).toBool) ∧ gateway.store.Usable ∧
      ((Except.error err : Except ServiceError Channel).toBool = true →
        gateway.Shows id .enabled) :=
    fun err => ⟨.nothing rfl rfl, usable, fun h => by cases h⟩
  unfold enableChannel
  apply requireChannel_withstands usable unchanged
  intro channel known
  apply withstands_updateStatus usable known
  · exact unchanged
  have usable' : (gateway.store.updateStatus id .enabled).2.Usable :=
    Store.usable_updateStatus usable known
  have own : (gateway.store.updateStatus id .enabled).2.status? id = some .enabled := by
    rw [Store.status?_updateStatus usable known, if_pos rfl]
  apply withstands_bind
  apply withstands_mono _ (makeRoutable_withstands usable')
  rintro reply after ⟨hstore, hcase⟩
  have husable : after.store.Usable := by
    rw [hstore]
    exact usable'
  cases reply with
  | error err => exact ⟨.unpublished known hstore hcase, husable, fun h => by cases h⟩
  | ok _ =>
    dsimp only
    apply withstands_notify
    intro notices
    rcases hcase with ⟨hknown, hregistry⟩ | hloaded
    · obtain ⟨heffect, husable, hshows⟩ := Effect.of_written gateway
        { after with notices } usable known hstore hregistry (fun _ => hknown)
      exact ⟨heffect, husable, fun _ => hshows⟩
    · refine ⟨.loaded hloaded, husable, fun _ => ?_⟩
      have hstatus : after.store.status? id = some .enabled := by
        rw [hstore]
        exact own
      refine ⟨hstatus, ?_⟩
      show after.registry.isChannelEnabled id = _
      rw [hloaded id]
      exact Store.isEnabled_of_status? husable hstatus

/-- Whatever fails, an order has one of the effects, and its reply keeps what it promises. -/
theorem order_withstands (usable : gateway.store.Usable) (order : HealthOrder) :
    Withstands (fun reply after => Effect gateway after (order.fails reply) ∧ after.store.Usable ∧
      order.Delivers after reply) order.operation gateway := by
  cases order with
  | load =>
    apply withstands_mono _ (load_withstands usable)
    rintro reply after ⟨hstore, hcase⟩
    have husable : after.store.Usable := by
      rw [hstore]
      exact usable
    cases reply with
    | error err => exact ⟨.nothing hstore hcase, husable, fun h => by cases h⟩
    | ok summary => exact ⟨.loaded hcase, husable, fun _ => hcase⟩
  | disable id name reason notify => exact disable_withstands usable name reason notify
  | disableManually id => exact disableManually_withstands usable
  | enable id notify => exact enable_withstands usable notify

end Operations

/-! ## Orders one after another -/

namespace Ordeal

def carryOut (ordeal : Ordeal) (order : HealthOrder) : order.Reply × Ordeal :=
  order.operation.run answer ordeal

def after (ordeal : Ordeal) (orders : List HealthOrder) : Ordeal :=
  orders.foldl (fun ordeal order => (ordeal.carryOut order).2) ordeal

def goesWell (ordeal : Ordeal) : List HealthOrder → Bool
  | [] => true
  | order :: orders =>
    !order.fails (ordeal.carryOut order).1 && (ordeal.carryOut order).2.goesWell orders

variable {ordeal : Ordeal}

theorem carryOut_effect (usable : ordeal.gateway.store.Usable) (order : HealthOrder) :
    Effect ordeal.gateway (ordeal.carryOut order).2.gateway (order.fails (ordeal.carryOut order).1) ∧
      (ordeal.carryOut order).2.gateway.store.Usable ∧
      order.Delivers (ordeal.carryOut order).2.gateway (ordeal.carryOut order).1 :=
  withstands_run (order_withstands usable order)

theorem after_shows (usable : ordeal.gateway.store.Usable) (shown : ordeal.gateway.ShowsStored)
    (orders : List HealthOrder) :
    (ordeal.after orders).gateway.store.Usable ∧ (ordeal.after orders).gateway.ShowsStored := by
  induction orders generalizing ordeal with
  | nil => exact ⟨usable, shown⟩
  | cons order orders ih =>
    obtain ⟨heffect, husable, _⟩ := carryOut_effect usable order
    exact ih husable (heffect.shown usable shown)

theorem after_exact (usable : ordeal.gateway.store.Usable)
    (exact : ∀ id, ordeal.gateway.registry.isChannelEnabled id = ordeal.gateway.store.isEnabled id)
    (orders : List HealthOrder) (well : ordeal.goesWell orders = true) (id : ChannelId) :
    (ordeal.after orders).gateway.registry.isChannelEnabled id =
      (ordeal.after orders).gateway.store.isEnabled id := by
  induction orders generalizing ordeal with
  | nil => exact exact id
  | cons order orders ih =>
    obtain ⟨heffect, husable, _⟩ := carryOut_effect usable order
    rw [goesWell, Bool.and_eq_true, Bool.not_eq_true'] at well
    rw [well.1] at heffect
    exact ih husable (heffect.exact exact) well.2

end Ordeal

/-- Orders are carried out one after another on a gateway that has been loaded, and any of their calls
may fail. What is routable is always stored as enabled, and the other way round too as long as no order
has failed. An order that fails changes nothing about what is routable, and one that succeeds leaves its
channel stored and shown as it promises. -/
theorem routability_withstands (gateway : Gateway) (usable : gateway.store.Usable)
    (faults : List (Option ServiceError)) (orders : List HealthOrder) :
    let loaded : Ordeal := ⟨(Gateway.perform loadChannels gateway).2, faults⟩
    let ordeal := loaded.after orders
    ordeal.gateway.ShowsStored ∧
      (loaded.goesWell orders = true → ∀ id,
        ordeal.gateway.registry.isChannelEnabled id = ordeal.gateway.store.isEnabled id) ∧
      ∀ order,
        let done := ordeal.carryOut order
        (order.fails done.1 = true → ∀ id, done.2.gateway.registry.isChannelEnabled id =
            ordeal.gateway.registry.isChannelEnabled id) ∧
          order.Delivers done.2.gateway done.1 := by
  intro loaded ordeal
  obtain ⟨hstore, hshown⟩ := loaded_shown usable
  have usable' : loaded.gateway.store.Usable := by
    show (Gateway.perform loadChannels gateway).2.store.Usable
    rw [hstore]
    exact usable
  have exact : ∀ id, loaded.gateway.registry.isChannelEnabled id =
      loaded.gateway.store.isEnabled id := by
    intro id
    show _ = (Gateway.perform loadChannels gateway).2.store.isEnabled id
    rw [hstore]
    exact hshown id
  have shown : loaded.gateway.ShowsStored := by
    intro id hid
    rw [← exact id]
    exact hid
  obtain ⟨husable, hshows⟩ := Ordeal.after_shows usable' shown orders
  refine ⟨hshows, Ordeal.after_exact usable' exact orders, ?_⟩
  intro order done
  obtain ⟨heffect, _, hdelivers⟩ := Ordeal.carryOut_effect husable order
  refine ⟨?_, hdelivers⟩
  intro hfails
  rw [hfails] at heffect
  exact heffect.kept

/-- A channel is disabled and dropped from the table, and enabled again while the load that would bring
it back fails. -/
def failedReturn : List HealthOrder := [.disableManually 1, .load, .enable 1 true]

/-- Of the calls of these orders the last one fails, which fetches the channels. -/
def lastFails : List (Option ServiceError) := List.replicate 8 none ++ [some (.ofDatabase "gone")]

theorem failedReturn_withstands :
    let loaded : Ordeal := ⟨(Gateway.perform loadChannels lonelyGateway).2, lastFails⟩
    let ordeal := loaded.after failedReturn
    lonelyGateway.store.Usable ∧ ordeal.gateway.ShowsStored ∧
      ordeal.gateway.store.isEnabled 1 = true ∧
      ordeal.gateway.registry.isChannelEnabled 1 = false := by
  intro loaded ordeal
  have usable : lonelyGateway.store.Usable := ⟨rfl, rfl, by decide⟩
  obtain ⟨hshows, _, _⟩ := routability_withstands lonelyGateway usable lastFails failedReturn
  exact ⟨usable, hshows, by decide +kernel, by decide +kernel⟩

end RelayGateway
