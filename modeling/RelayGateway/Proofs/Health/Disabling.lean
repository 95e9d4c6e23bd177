import RelayGateway.Proofs.Health.Faults
import RelayGateway.Proofs.Program.Watch

/-! # How far the disabling of a channel has come

* `DisableProgress`: where an operation stands that disables a channel and notifies. `abides_disable` says
  that it takes these steps and no others.
* `Deed`: a step that an operation has taken, `Tally`: what there is to say about a channel and the steps
  taken for it.
* `Tally.Open`, `Tally.Pending`, `Tally.Closed`: nothing was written, the status was written but nobody has
  been told, and all is done.
* `Aloof`: what happens elsewhere leaves a channel alone, as a step for another channel does
  (`Allows.aloof`).
* `DisableProgress.Fits`: the tally that belongs to each stand.
* `own_step`, `foreign_step`: what a step of an operation for the channel, or for another one, does to the
  tally.
-/

set_option autoImplicit false

namespace RelayGateway

/-! ## One operation -/

inductive DisableProgress where
  | fresh
  /-- The channel was read and is not disabled. -/
  | checked
  | written
  | shown
  | told
  /-- The channel was read and is disabled. -/
  | found
  | confirmed
  | missing
  | failed

namespace DisableProgress

def after : DisableProgress → Exchange HealthReply → DisableProgress
  | _, ⟨.storedChannel _, .error _⟩ => .failed
  | _, ⟨.storedChannel _, .ok none⟩ => .missing
  | _, ⟨.storedChannel _, .ok (some channel)⟩ => if channel.status.isDisabled then .found else .checked
  | _, ⟨.updateStatus _ _, .error _⟩ => .failed
  | _, ⟨.updateStatus _ _, .ok _⟩ => .written
  | .found, ⟨.setEnabled _ _, _⟩ => .confirmed
  | _, ⟨.setEnabled _ _, _⟩ => .shown
  | _, ⟨.notify _, _⟩ => .told
  | progress, ⟨.fetchEnabled, _⟩ => progress
  | progress, ⟨.install _, _⟩ => progress

/-- The steps that an operation on a channel takes, with the notice that it sends. -/
inductive Allows (id : ChannelId) (notice : Notice) : DisableProgress → HealthCall → Prop where
  | reads : Allows id notice .fresh (.storedChannel id)
  | writes : Allows id notice .checked (.updateStatus id .autoDisabled)
  | shows : Allows id notice .written (.setEnabled id false)
  | confirms : Allows id notice .found (.setEnabled id false)
  | tells : Allows id notice .shown (.notify notice)

/-- How an operation ends, and with what. -/
inductive Ends : DisableProgress → DisableOutcome → Prop where
  | told : Ends .told .disabled
  | confirmed : Ends .confirmed .alreadyDisabled
  | missing : Ends .missing .notFound
  | failed (message : String) : Ends .failed (.failed message)

/-- The steps that are left at most. -/
def left : DisableProgress → Nat
  | .fresh => 4
  | .checked => 3
  | .written => 2
  | .shown => 1
  | .found => 1
  | .told | .confirmed | .missing | .failed => 0

variable {id : ChannelId} {notice : Notice} {progress : DisableProgress} {call : HealthCall}

theorem Ends.left {value : DisableOutcome} (h : progress.Ends value) : progress.left = 0 := by
  cases h <;> rfl

theorem Allows.left (h : Allows id notice progress call) : progress.left ≠ 0 := by
  cases h <;> exact Nat.succ_ne_zero _

theorem left_le (progress : DisableProgress) : progress.left ≤ 4 := by
  cases progress <;> decide

theorem left_after (allowed : Allows id notice progress call) (reply : HealthReply call) :
    (progress.after ⟨call, reply⟩).left < progress.left := by
  cases allowed with
  | reads =>
    match reply with
    | .error _ => exact Nat.zero_lt_succ 3
    | .ok none => exact Nat.zero_lt_succ 3
    | .ok (some channel) =>
      show (if channel.status.isDisabled then found else checked).left < 4
      split <;> decide
  | writes =>
    match reply with
    | .error _ => exact Nat.zero_lt_succ 2
    | .ok _ => exact Nat.lt_succ_self 2
  | shows => exact Nat.lt_succ_self 1
  | confirms => exact Nat.lt_succ_self 0
  | tells => exact Nat.lt_succ_self 0

end DisableProgress

def disableWatch (id : ChannelId) (notice : Notice) : Watch HealthReply DisableProgress where
  after := DisableProgress.after
  allows := DisableProgress.Allows id notice
  possible _ := True

theorem abides_disable (id : ChannelId) (name reason : String) :
    Program.Abides (disableWatch id (disabledNotice id name reason)) DisableProgress.Ends .fresh
      (disableChannel id name reason true) := by
  refine ⟨.reads, ?_⟩
  intro stored _
  match stored with
  | .error err => exact .failed err.message
  | .ok none => exact .missing
  | .ok (some channel) =>
    show Program.Abides _ _ (if channel.status.isDisabled then DisableProgress.found else .checked)
      (if channel.status.isDisabled then _ else _)
    split
    · exact ⟨.confirms, fun _ _ => .confirmed⟩
    · refine ⟨.writes, ?_⟩
      intro updated _
      match updated with
      | .error err => exact .failed err.message
      | .ok _ => exact ⟨.shows, fun _ _ => ⟨.tells, fun _ _ => .told⟩⟩

/-! ## Deeds -/

/-- A step of an operation on a channel; operations are numbered. -/
structure Deed where
  generation : Nat
  channel : ChannelId
  exchange : Exchange HealthReply

namespace Deed

/-- Whether the step has written the status of a channel. -/
def writes (deed : Deed) (id : ChannelId) : Bool :=
  match deed.exchange with
  | ⟨.updateStatus other _, .ok found⟩ => other == id && found
  | ⟨.updateStatus _ _, .error _⟩ => false
  | ⟨.storedChannel _, _⟩ | ⟨.fetchEnabled, _⟩ | ⟨.install _, _⟩ | ⟨.setEnabled _ _, _⟩
  | ⟨.notify _, _⟩ => false

/-- Whether the step has sent a notice about a channel. -/
def notifies (deed : Deed) (id : ChannelId) : Bool :=
  deed.channel == id &&
    match deed.exchange.call with
    | .notify _ => true
    | .storedChannel _ | .updateStatus _ _ | .fetchEnabled | .install _ | .setEnabled _ _ => false

end Deed

/-- How far an operation has come, read from the deeds. -/
def progressOf (deeds : List Deed) (generation : Nat) : DisableProgress :=
  deeds.foldl (fun progress deed =>
    if deed.generation = generation then progress.after deed.exchange else progress) .fresh

theorem progressOf_own (deeds : List Deed) (deed : Deed) :
    progressOf (deeds ++ [deed]) deed.generation =
      (progressOf deeds deed.generation).after deed.exchange := by
  rw [progressOf, List.foldl_append, List.foldl_cons, List.foldl_nil, if_pos rfl]
  rfl

theorem progressOf_other (deeds : List Deed) {deed : Deed} {generation : Nat}
    (h : deed.generation ≠ generation) :
    progressOf (deeds ++ [deed]) generation = progressOf deeds generation := by
  rw [progressOf, List.foldl_append, List.foldl_cons, List.foldl_nil, if_neg h]
  rfl

/-- An operation without deeds has not begun. -/
theorem progressOf_fresh {deeds : List Deed} {generation : Nat}
    (h : ∀ deed ∈ deeds, deed.generation ≠ generation) : progressOf deeds generation = .fresh := by
  induction deeds using List.reverseRecOn with
  | nil => rfl
  | append_singleton deeds deed ih =>
    rw [progressOf_other deeds (h deed (by simp))]
    exact ih fun other hother => h other (List.mem_append_left _ hother)

/-! ## The tally of a channel -/

/-- What there is to say about a channel: its stored status, how often it was written and told, and
whether the channel is routable. -/
structure Tally where
  status : Option ChannelStatus
  writes : Nat
  notices : Nat
  routable : Bool

def tallyOf (gateway : Gateway) (deeds : List Deed) (id : ChannelId) : Tally :=
  ⟨gateway.store.status? id, deeds.countP (·.writes id), deeds.countP (·.notifies id),
    gateway.registry.isChannelEnabled id⟩

namespace Tally

structure Open (tally : Tally) : Prop where
  status : ∃ status, tally.status = some status ∧ status.isDisabled = false
  writes : tally.writes = 0
  notices : tally.notices = 0

structure Pending (tally : Tally) : Prop where
  status : tally.status = some .autoDisabled
  writes : tally.writes = 1
  notices : tally.notices = 0

structure Closed (tally : Tally) : Prop where
  status : tally.status = some .autoDisabled
  writes : tally.writes = 1
  notices : tally.notices = 1
  hidden : tally.routable = false

variable {tally : Tally}

theorem Open.not_closed (h : tally.Open) : ¬ tally.Closed := by
  intro hclosed
  have hwrites := hclosed.writes
  rw [h.writes] at hwrites
  cases hwrites

theorem Pending.not_closed (h : tally.Pending) : ¬ tally.Closed := by
  intro hclosed
  have hnotices := hclosed.notices
  rw [h.notices] at hnotices
  cases hnotices

end Tally

/-- The tally that belongs to the only operation under way, and to those that have ended. -/
def DisableProgress.Fits (tally : Tally) : DisableProgress → Prop
  | .fresh => tally.Open ∨ tally.Closed
  | .checked => tally.Open
  | .written => tally.Pending
  | .shown => tally.Pending ∧ tally.routable = false
  | .told | .found | .confirmed => tally.Closed
  | .missing => False
  | .failed => True

/-! ## What leaves a channel alone -/

/-- What happens elsewhere leaves a channel alone: its status, its flag, and the routing table. -/
structure Aloof (id : ChannelId) (before after : Gateway) : Prop where
  usable : after.store.Usable
  status : after.store.status? id = before.store.status? id
  snapshot : after.registry.snapshot = before.registry.snapshot
  flag : id ∈ after.registry.disabled ↔ id ∈ before.registry.disabled

theorem Aloof.tallyOf_eq {id : ChannelId} {before after : Gateway} (h : Aloof id before after)
    (deeds : List Deed) : tallyOf after deeds id = tallyOf before deeds id := by
  have hflag : after.registry.isDisabled id = before.registry.isDisabled id := by
    rw [Bool.eq_iff_iff]
    simpa [Registry.isDisabled] using h.flag
  unfold tallyOf Registry.isChannelEnabled
  rw [h.status, h.snapshot, hflag]

/-- No step loads a table. -/
theorem DisableProgress.Allows.snapshot {id : ChannelId} {notice : Notice} {progress : DisableProgress}
    {call : HealthCall} (allowed : progress.Allows id notice call) (gateway : Gateway) :
    (Gateway.answerHealth call gateway).2.registry.snapshot = gateway.registry.snapshot := by
  cases allowed with
  | shows => exact setEnabled_snapshot gateway.registry id false
  | confirms => exact setEnabled_snapshot gateway.registry id false
  | reads => rfl
  | writes => rfl
  | tells => rfl

/-! ## The effect of a step -/

theorem answerUnless_cases (gateway : Gateway) (fault : Option ServiceError) (call : HealthCall) :
    (∃ err reply, call.failure? err = some reply ∧
        gateway.answerUnless fault call = (reply, gateway)) ∨
      gateway.answerUnless fault call = Gateway.answerHealth call gateway := by
  unfold Gateway.answerUnless
  cases hfault : fault.bind call.failure? with
  | none => exact .inr rfl
  | some reply =>
    obtain ⟨err, _, hreply⟩ := Option.bind_eq_some_iff.mp hfault
    exact .inl ⟨err, reply, hreply, rfl⟩

section Step

variable {gateway : Gateway} {deeds : List Deed} {id other : ChannelId} {generation : Nat}
  {progress : DisableProgress} {call : HealthCall} {notice : Notice}

theorem tallyOf_append (gateway : Gateway) (deeds : List Deed) (deed : Deed) (id : ChannelId) :
    tallyOf gateway (deeds ++ [deed]) id =
      ⟨gateway.store.status? id, deeds.countP (·.writes id) + (deed.writes id).toNat,
        deeds.countP (·.notifies id) + (deed.notifies id).toNat,
        gateway.registry.isChannelEnabled id⟩ := by
  unfold tallyOf
  rw [List.countP_append, List.countP_append, List.countP_singleton, List.countP_singleton]
  cases deed.writes id <;> cases deed.notifies id <;> rfl

/-- Steps that neither write nor tell leave the counts as they are. -/
theorem tallyOf_silent {deed : Deed} (writes : deed.writes id = false)
    (notifies : deed.notifies id = false) :
    tallyOf gateway (deeds ++ [deed]) id = tallyOf gateway deeds id := by
  rw [tallyOf_append, writes, notifies]
  rfl

theorem answerUnless_usable (usable : gateway.store.Usable) (fault : Option ServiceError)
    (call : HealthCall) : (gateway.answerUnless fault call).2.store.Usable := by
  rcases answerUnless_cases gateway fault call with ⟨err, reply, _, heq⟩ | heq
  · rw [heq]
    exact usable
  · rw [heq]
    exact answer_usable usable call

/-- A step of an operation on another channel leaves a channel alone. -/
theorem DisableProgress.Allows.aloof (allowed : progress.Allows other notice call)
    (usable : gateway.store.Usable) (different : id ≠ other) :
    Aloof id gateway (Gateway.answerHealth call gateway).2 := by
  refine ⟨answer_usable usable call, ?_, allowed.snapshot gateway, ?_⟩
  · cases allowed with
    | writes => exact (Store.updateStatus_frame usable).2 id different
    | reads => rfl
    | shows => rfl
    | confirms => rfl
    | tells => rfl
  · cases allowed with
    | shows => exact mem_disabled_setEnabled different
    | confirms => exact mem_disabled_setEnabled different
    | reads => rfl
    | writes => rfl
    | tells => rfl

/-- A step of an operation on another channel leaves the tally as it is. -/
theorem foreign_step (usable : gateway.store.Usable) (foreign : other ≠ id)
    (allowed : DisableProgress.Allows other notice progress call) (fault : Option ServiceError) :
    tallyOf (gateway.answerUnless fault call).2
        (deeds ++ [⟨generation, other, call, (gateway.answerUnless fault call).1⟩]) id =
      tallyOf gateway deeds id := by
  have notifies : ∀ reply, Deed.notifies ⟨generation, other, call, reply⟩ id = false := by
    intro reply
    unfold Deed.notifies
    rw [beq_eq_false_iff_ne.mpr foreign]
    rfl
  have writes : ∀ reply, Deed.writes ⟨generation, other, call, reply⟩ id = false := by
    intro reply
    cases allowed with
    | writes =>
      match reply with
      | .error _ => rfl
      | .ok found =>
        show (other == id && found) = false
        rw [beq_eq_false_iff_ne.mpr foreign]
        rfl
    | reads => rfl
    | shows => rfl
    | confirms => rfl
    | tells => rfl
  rw [tallyOf_silent (writes _) (notifies _)]
  rcases answerUnless_cases gateway fault call with ⟨err, reply, _, heq⟩ | heq
  · rw [heq]
  · rw [heq]
    exact (allowed.aloof usable fun h => foreign h.symm).tallyOf_eq deeds

/-- What the next step of the only operation under way does: it moves on to the tally that belongs to
it, it leaves nothing half done when it ends, and what is done stays done. -/
structure Advances (before after : Tally) (progress : DisableProgress) : Prop where
  fits : progress.Fits after
  rests : progress.left = 0 → after.Open ∨ after.Closed
  kept : before.Closed → after.Closed

def tallyAfter (gateway : Gateway) (deeds : List Deed) (id : ChannelId) (generation : Nat)
    (fault : Option ServiceError) (call : HealthCall) : Tally :=
  tallyOf (gateway.answerUnless fault call).2
    (deeds ++ [⟨generation, id, call, (gateway.answerUnless fault call).1⟩]) id

theorem advances_reads (usable : gateway.store.Usable) (fault : Option ServiceError)
    (fits : (tallyOf gateway deeds id).Open ∨ (tallyOf gateway deeds id).Closed) :
    Advances (tallyOf gateway deeds id) (tallyAfter gateway deeds id generation fault (.storedChannel id))
      (DisableProgress.fresh.after
        ⟨.storedChannel id, (gateway.answerUnless fault (.storedChannel id)).1⟩) := by
  have same : ∀ reply, tallyOf gateway
      (deeds ++ [⟨generation, id, .storedChannel id, reply⟩]) id = tallyOf gateway deeds id := by
    intro reply
    exact tallyOf_silent rfl (Bool.and_false _)
  unfold tallyAfter
  rcases answerUnless_cases gateway fault (.storedChannel id) with ⟨err, reply, hreply, heq⟩ | heq
  · cases hreply
    rw [heq]
    dsimp only
    rw [same]
    exact ⟨trivial, fun _ => fits, fun h => h⟩
  · rw [heq]
    dsimp only [Gateway.answerHealth]
    rw [same, Store.channel?_eq usable]
    cases hrow : gateway.store.row? id with
    | none =>
      have hnone : (tallyOf gateway deeds id).status = none := by
        show gateway.store.status? id = none
        rw [Store.status?, hrow]
        rfl
      rcases fits with hopen | hclosed
      · obtain ⟨status, hstatus, _⟩ := hopen.status
        cases hnone.symm.trans hstatus
      · cases hnone.symm.trans hclosed.status
    | some row =>
      have hstatus : (tallyOf gateway deeds id).status = some (Channel.ofRow row).status :=
        Store.status?_of_row? hrow
      show Advances _ _
        (if (Channel.ofRow row).status.isDisabled then DisableProgress.found else .checked)
      -- the status that was read tells a closed tally from an open one
      split
      · rename_i hdisabled
        have hclosed : (tallyOf gateway deeds id).Closed := by
          rcases fits with hopen | hclosed
          · obtain ⟨status, hread, hrunning⟩ := hopen.status
            rw [Option.some.inj (hstatus.symm.trans hread), hrunning] at hdisabled
            cases hdisabled
          · exact hclosed
        exact ⟨hclosed, fun _ => .inr hclosed, fun h => h⟩
      · rename_i hrunning
        have hopen : (tallyOf gateway deeds id).Open := by
          rcases fits with hopen | hclosed
          · exact hopen
          · have hauto := Option.some.inj (hstatus.symm.trans hclosed.status)
            rw [hauto] at hrunning
            exact absurd rfl hrunning
        exact ⟨hopen, fun _ => .inl hopen, fun h => h⟩

theorem advances_writes (usable : gateway.store.Usable) (fault : Option ServiceError)
    (isOpen : (tallyOf gateway deeds id).Open) :
    Advances (tallyOf gateway deeds id)
      (tallyAfter gateway deeds id generation fault (.updateStatus id .autoDisabled))
      (DisableProgress.checked.after ⟨.updateStatus id .autoDisabled,
        (gateway.answerUnless fault (.updateStatus id .autoDisabled)).1⟩) := by
  unfold tallyAfter
  rcases answerUnless_cases gateway fault (.updateStatus id .autoDisabled) with
    ⟨err, reply, hreply, heq⟩ | heq
  · cases hreply
    rw [heq]
    have same : tallyOf gateway
        (deeds ++ [⟨generation, id, .updateStatus id .autoDisabled, .error err⟩]) id =
          tallyOf gateway deeds id := tallyOf_silent rfl (Bool.and_false _)
    rw [same]
    exact ⟨trivial, fun _ => .inl isOpen, fun h => h⟩
  · rw [heq]
    dsimp only [Gateway.answerHealth]
    obtain ⟨status, hstatus, _⟩ := isOpen.status
    have known : id ∈ gateway.store.rows.map (·.id) := Store.known_of_status? hstatus
    have hpending : Tally.Pending (tallyOf
        { gateway with store := (gateway.store.updateStatus id .autoDisabled).2 }
        (deeds ++ [⟨generation, id, .updateStatus id .autoDisabled, .ok true⟩]) id) := by
      have writes : Deed.writes ⟨generation, id, .updateStatus id .autoDisabled, .ok true⟩ id = true := by
        show (id == id && true) = true
        rw [beq_self_eq_true]
        rfl
      have notifies :
          Deed.notifies ⟨generation, id, .updateStatus id .autoDisabled, .ok true⟩ id = false :=
        Bool.and_false _
      rw [tallyOf_append, writes, notifies]
      constructor
      case status =>
        show (gateway.store.updateStatus id .autoDisabled).2.status? id = _
        rw [Store.status?_updateStatus usable known, if_pos rfl]
      case writes => exact congrArg (· + 1) isOpen.writes
      case notices => exact isOpen.notices
    rw [Store.updateStatus_reply usable known]
    exact ⟨hpending, fun h => absurd h (Nat.succ_ne_zero 1), fun h => absurd h isOpen.not_closed⟩

/-- Hiding a channel changes the tally only in that the channel is no longer routable. -/
theorem tallyAfter_hidden (fault : Option ServiceError) :
    tallyAfter gateway deeds id generation fault (.setEnabled id false) =
      { tallyOf gateway deeds id with routable := false } := by
  have heq : gateway.answerUnless fault (.setEnabled id false) =
      Gateway.answerHealth (.setEnabled id false) gateway := by
    rcases answerUnless_cases gateway fault (.setEnabled id false) with ⟨err, reply, hreply, _⟩ | heq
    · cases hreply
    · exact heq
  have silent : Deed.notifies ⟨generation, id, .setEnabled id false,
      (gateway.registry.setEnabled id false).1⟩ id = false := Bool.and_false _
  unfold tallyAfter
  rw [heq]
  dsimp only [Gateway.answerHealth]
  rw [tallyOf_silent rfl silent]
  have hidden : (gateway.registry.setEnabled id false).2.isChannelEnabled id = false := by
    rw [isChannelEnabled_setEnabled, if_pos rfl, Bool.and_false]
  show Tally.mk _ _ _ ((gateway.registry.setEnabled id false).2.isChannelEnabled id) = _
  rw [hidden]
  rfl

/-- A notice is sent, whether it arrives or not. -/
theorem tallyAfter_told (fault : Option ServiceError) (notice : Notice) :
    tallyAfter gateway deeds id generation fault (.notify notice) =
      { tallyOf gateway deeds id with notices := (tallyOf gateway deeds id).notices + 1 } := by
  have told : ∀ after : Gateway, after.store = gateway.store → after.registry = gateway.registry →
      tallyOf after (deeds ++ [⟨generation, id, .notify notice, ()⟩]) id =
        { tallyOf gateway deeds id with notices := (tallyOf gateway deeds id).notices + 1 } := by
    intro after hstore hregistry
    have notifies : Deed.notifies ⟨generation, id, .notify notice, ()⟩ id = true := by
      show (id == id && true) = true
      rw [beq_self_eq_true]
      rfl
    have writes : Deed.writes ⟨generation, id, .notify notice, ()⟩ id = false := rfl
    rw [tallyOf_append, notifies, writes, hstore, hregistry]
    rfl
  unfold tallyAfter
  rcases answerUnless_cases gateway fault (.notify notice) with ⟨err, reply, _, heq⟩ | heq
  · rw [heq]
    exact told gateway rfl rfl
  · rw [heq]
    exact told _ rfl rfl

theorem own_step (usable : gateway.store.Usable)
    (allowed : DisableProgress.Allows id notice progress call) (fault : Option ServiceError)
    (fits : progress.Fits (tallyOf gateway deeds id)) :
    Advances (tallyOf gateway deeds id) (tallyAfter gateway deeds id generation fault call)
      (progress.after ⟨call, (gateway.answerUnless fault call).1⟩) := by
  cases allowed with
  | reads => exact advances_reads usable fault fits
  | writes => exact advances_writes usable fault fits
  | shows =>
    have hpending : (tallyOf gateway deeds id).Pending := fits
    rw [tallyAfter_hidden]
    exact ⟨⟨⟨hpending.status, hpending.writes, hpending.notices⟩, rfl⟩,
      fun h => absurd h (Nat.succ_ne_zero 0), fun h => absurd h hpending.not_closed⟩
  | confirms =>
    have hclosed : (tallyOf gateway deeds id).Closed := fits
    have hkept : Tally.Closed { tallyOf gateway deeds id with routable := false } :=
      ⟨hclosed.status, hclosed.writes, hclosed.notices, rfl⟩
    rw [tallyAfter_hidden]
    exact ⟨hkept, fun _ => .inr hkept, fun _ => hkept⟩
  | tells =>
    obtain ⟨hpending, hhidden⟩ : (tallyOf gateway deeds id).Pending ∧
      (tallyOf gateway deeds id).routable = false := fits
    have hclosed : Tally.Closed { tallyOf gateway deeds id with
        notices := (tallyOf gateway deeds id).notices + 1 } :=
      ⟨hpending.status, hpending.writes, congrArg (· + 1) hpending.notices, hhidden⟩
    rw [tallyAfter_told]
    exact ⟨hclosed, fun _ => .inr hclosed, fun _ => hclosed⟩

end Step

end RelayGateway
