import RelayGateway.Proofs.Health.JointDisabling

/-! # A channel is disabled once

* `Tally.Tells`: what the answer to a caller says about the tally of a channel.
* `Joint.Once`: the tally of a channel fits all operations on it, is settled when none is under way, and
  everybody who has returned was told what holds.
* `disabled_once`: so a channel is disabled once, whoever asks and in whatever order.
-/

set_option autoImplicit false

namespace RelayGateway

/-- What an answer says about the tally of the channel. -/
def Tally.Tells (tally : Tally) : DisableOutcome → Prop
  | .disabled | .alreadyDisabled => tally.Closed
  | .notFound => False
  | .failed _ => True

namespace DisableProgress

variable {progress : DisableProgress} {value : DisableOutcome} {tally : Tally}

theorem Ends.tells (h : progress.Ends value) (fits : progress.Fits tally) : tally.Tells value := by
  cases h <;> exact fits

/-- Operations that have ended fit every tally on which what was done is still done. -/
theorem Ends.kept (h : progress.Ends value) {after : Tally} (kept : tally.Closed → after.Closed)
    (fits : progress.Fits tally) : progress.Fits after := by
  cases h with
  | told => exact kept fits
  | confirmed => exact kept fits
  | missing => exact fits
  | failed message => exact fits

/-- Whatever an operation under way has done, the channel was written once at most. -/
theorem Fits.bounded (fits : progress.Fits tally) (running : progress.left ≠ 0) :
    tally.Open ∨ tally.Pending ∨ tally.Closed := by
  cases progress with
  | fresh => exact fits.imp_right .inr
  | checked => exact .inl fits
  | written => exact .inr (.inl fits)
  | shown => exact .inr (.inl fits.1)
  | found => exact .inr (.inr fits)
  | told => exact absurd rfl running
  | confirmed => exact absurd rfl running
  | missing => exact absurd rfl running
  | failed => exact absurd rfl running

end DisableProgress

theorem Tally.Tells.kept {before after : Tally} {value : DisableOutcome}
    (h : before.Tells value) (kept : before.Closed → after.Closed) : after.Tells value := by
  cases value with
  | disabled => exact kept h
  | alreadyDisabled => exact kept h
  | notFound => exact h
  | failed err => exact h

namespace Joint

structure Once (joint : Joint) (id : ChannelId) : Prop where
  usable : joint.gateway.store.Usable
  fits : ∀ (generation : Nat) (flight : Flight ChannelId DisableOutcome),
    joint.table.flights[generation]? = some flight → flight.key = id →
      (progressOf joint.deeds generation).Fits (joint.tally id)
  rests : (∀ (generation : Nat) (flight : Flight ChannelId DisableOutcome),
      joint.table.flights[generation]? = some flight → flight.key = id → flight.value ≠ none) →
    (joint.tally id).Open ∨ (joint.tally id).Closed
  told : ∀ landing, (id, landing) ∈ joint.landings → (joint.tally id).Tells landing.value

variable {joint : Joint} {id : ChannelId}

theorem once_start {gateway : Gateway} (usable : gateway.store.Usable) {status : ChannelStatus}
    (known : gateway.store.status? id = some status) (running : status.isDisabled = false) :
    (start gateway).Once id := by
  constructor
  case usable => exact usable
  case fits =>
    intro generation flight hflight
    simp [start, FlightTable.empty] at hflight
  case rests => exact fun _ => .inl ⟨⟨status, known, running⟩, rfl, rfl⟩
  case told =>
    intro landing hlanding
    cases hlanding

/-- The entry of a key stands as long as its flight is under way, so a new flight finds all others
ended. -/
theorem Once.enter (once : joint.Once id) (h : joint.Orderly) (caller : String) (other : ChannelId)
    (name reason : String) : (joint.enter caller other name reason).Once id := by
  have ended : other = id → joint.table.generation? other = none →
      ∀ (generation : Nat) (flight : Flight ChannelId DisableOutcome),
        joint.table.flights[generation]? = some flight → flight.key = id → flight.value ≠ none := by
    rintro rfl hnew generation flight hflight hkey hvalue
    have hentry := h.uninterrupted.listed generation flight hflight hvalue
    rw [hkey, ← h.sound.generation?_eq_some, hnew] at hentry
    cases hentry
  have stays : ∀ (generation : Nat) (flight : Flight ChannelId DisableOutcome),
      joint.table.flights[generation]? = some flight →
        (joint.enter caller other name reason).table.flights[generation]? = some flight := by
    intro generation flight hflight
    rcases h.enter_cases caller other name reason with ⟨hflights, _⟩ | ⟨_, hflights, _⟩
    · rw [hflights]
      exact hflight
    · rw [hflights]
      exact getElem?_append_of_some hflight _
  constructor
  case usable => exact once.usable
  case fits =>
    intro generation flight hflight hkey
    rcases h.enter_flight hflight with hold | ⟨hnew, rfl, hfresh⟩
    · exact once.fits generation flight hold hkey
    · show (progressOf joint.deeds generation).Fits (joint.tally id)
      rw [hfresh]
      exact once.rests (ended hkey hnew)
  case rests =>
    intro hended
    exact once.rests fun generation flight hflight =>
      hended generation flight (stays generation flight hflight)
  case told => exact once.told

section Take

variable {generation : Nat} {flight : Flight ChannelId DisableOutcome} {call : HealthCall}
  {next : HealthReply call → HealthProgram DisableOutcome}

theorem Once.take_foreign (once : joint.Once id) (h : joint.Orderly)
    (placed : joint.table.flights[generation]? = some flight)
    (asks : joint.operations[generation]? = some (.ask call next))
    (awaited : joint.table.isAwaited generation = true) (foreign : flight.key ≠ id)
    (fault : Option ServiceError) : (joint.take generation flight.key call next fault).Once id := by
  obtain ⟨_, hallowed, _⟩ := h.follows generation flight _ placed asks
  have htally : (joint.take generation flight.key call next fault).tally id = joint.tally id :=
    foreign_step once.usable foreign hallowed fault
  have other : ∀ {number : Nat} {before : Flight ChannelId DisableOutcome},
      joint.table.flights[number]? = some before → before.key = id → number ≠ generation := by
    rintro number before hbefore hkey rfl
    cases hbefore.symm.trans placed
    exact foreign hkey
  constructor
  case usable => exact answerUnless_usable once.usable fault call
  case fits =>
    intro number after hafter hkey
    obtain ⟨before, hbefore, hsame, _⟩ := h.take_flight placed asks awaited hafter
    rw [hsame] at hkey
    rw [htally]
    show (progressOf (joint.deeds ++ [⟨generation, flight.key, call, _⟩]) number).Fits _
    rw [progressOf_other joint.deeds (fun heq => other hbefore hkey heq.symm)]
    exact once.fits number before hbefore hkey
  case rests =>
    intro hended
    rw [htally]
    refine once.rests fun number before hbefore hkey => ?_
    obtain ⟨after, hafter, hsame⟩ := h.take_stays fault placed asks awaited hbefore
    obtain ⟨before', hbefore', hkey', hvalue⟩ := h.take_flight placed asks awaited hafter
    cases hbefore'.symm.trans hbefore
    rw [if_neg (other hbefore hkey)] at hvalue
    rw [← hvalue]
    exact hended number after hafter (hsame.trans hkey)
  case told =>
    intro landing hlanding
    rw [htally]
    exact once.told landing hlanding

/-- The operation that takes the step is the only one under way on its channel. -/
theorem Once.take_own (once : joint.Once id) (h : joint.Orderly)
    (placed : joint.table.flights[generation]? = some flight)
    (asks : joint.operations[generation]? = some (.ask call next))
    (awaited : joint.table.isAwaited generation = true) (own : flight.key = id)
    (fault : Option ServiceError) : (joint.take generation flight.key call next fault).Once id := by
  subst own
  have running : flight.value = none := h.valued generation flight _ placed asks
  obtain ⟨_, hallowed, _⟩ := h.follows generation flight _ placed asks
  have hadvances : Advances (joint.tally flight.key)
      ((joint.take generation flight.key call next fault).tally flight.key)
      ((progressOf joint.deeds generation).after
        ⟨call, (joint.gateway.answerUnless fault call).1⟩) :=
    own_step once.usable hallowed fault (once.fits generation flight placed rfl)
  have hprogress : progressOf (joint.take generation flight.key call next fault).deeds generation =
      (progressOf joint.deeds generation).after
        ⟨call, (joint.gateway.answerUnless fault call).1⟩ :=
    progressOf_own joint.deeds ⟨generation, flight.key, call, _⟩
  constructor
  case usable => exact answerUnless_usable once.usable fault call
  case fits =>
    intro number after hafter hkey
    obtain ⟨before, hbefore, hsame, _⟩ := h.take_flight placed asks awaited hafter
    by_cases hown : number = generation
    · rw [hown, hprogress]
      exact hadvances.fits
    · show (progressOf (joint.deeds ++ [⟨generation, flight.key, call, _⟩]) number).Fits _
      rw [progressOf_other joint.deeds (fun heq => hown heq.symm)]
      have hfits := once.fits number before hbefore (hsame.symm.trans hkey)
      -- no other flight on the channel is under way, and those that have ended keep their fit
      cases hvalue : before.value with
      | none =>
        exact absurd (h.uninterrupted.unique h.sound hbefore placed hvalue running
          (hsame.symm.trans hkey)) hown
      | some value => exact (h.ended hbefore hvalue).kept hadvances.kept hfits
  case rests =>
    intro hended
    have hafter := h.take fault placed asks awaited
    obtain ⟨after, hplaced, hsame⟩ := h.take_stays fault placed asks awaited placed
    obtain ⟨value, hvalue⟩ := Option.ne_none_iff_exists'.mp (hended generation after hplaced hsame)
    have hends := hafter.ended hplaced hvalue
    rw [hprogress] at hends
    exact hadvances.rests hends.left
  case told =>
    intro landing hlanding
    exact (once.told landing hlanding).kept hadvances.kept

end Take

/-- Whoever returns is told what the tally says, for the operation it waited for has ended. -/
theorem Once.return (once : joint.Once id) (h : joint.Orderly) {waiter : Waiter ChannelId}
    {flight : Flight ChannelId DisableOutcome} {landing : Landing DisableOutcome}
    (waits : waiter ∈ joint.table.waiters)
    (placed : joint.table.flights[waiter.generation]? = some flight)
    (ended : flight.value = some landing.value) :
    Once { joint with
      table := joint.table.remove waiter
      landings := joint.landings ++ [(waiter.key, landing)] } id := by
  refine ⟨once.usable, once.fits, once.rests, fun other hother => ?_⟩
  rcases List.mem_append.mp hother with hold | hnew
  · exact once.told other hold
  · obtain ⟨hkey, rfl⟩ := Prod.mk.inj (List.mem_singleton.mp hnew)
    obtain ⟨flight', hflight', hboarded⟩ := h.sound.boarded waiter waits
    cases hflight'.symm.trans placed
    exact (h.ended placed ended).tells (once.fits _ flight placed (hboarded.trans hkey.symm))

theorem Once.elsewhere (once : joint.Once id) {after : Gateway}
    (aloof : Aloof id joint.gateway after) : Once { joint with gateway := after } id := by
  have htally : Joint.tally { joint with gateway := after } id = joint.tally id :=
    aloof.tallyOf_eq joint.deeds
  constructor
  case usable => exact aloof.usable
  case fits =>
    rw [htally]
    exact once.fits
  case rests =>
    rw [htally]
    exact once.rests
  case told =>
    rw [htally]
    exact once.told

theorem Once.step (once : joint.Once id) (h : joint.Orderly) {event : JointEvent}
    (aloof : ∀ after, event = .elsewhere after → Aloof id joint.gateway after) :
    (joint.step event).Once id := by
  rcases h.step_cases event with heq | ⟨caller, other, name, reason, _, heq⟩ |
    ⟨generation, flight, call, next, fault, hflight, hoperation, hawaited, heq⟩ |
    ⟨waiter, flight, landing, hwaiter, hflight, hvalue, heq⟩ | ⟨after, hevent, heq⟩
  · rw [heq]
    exact once
  · rw [heq]
    exact once.enter h caller other name reason
  · rw [heq]
    by_cases own : flight.key = id
    · exact once.take_own h hflight hoperation hawaited own fault
    · exact once.take_foreign h hflight hoperation hawaited own fault
  · rw [heq]
    exact once.return h hwaiter hflight hvalue
  · rw [heq]
    exact once.elsewhere (aloof after hevent)

theorem Once.run (once : joint.Once id) (h : joint.Orderly) (events : List JointEvent)
    (apart : ∀ earlier after later, events = earlier ++ .elsewhere after :: later →
      Aloof id (joint.run earlier).gateway after) : (joint.run events).Once id := by
  induction events generalizing joint with
  | nil => exact once
  | cons event events ih =>
    refine ih (once.step h ?_) (h.step event) ?_
    · rintro after rfl
      exact apart [] after events rfl
    · intro earlier after later hevents
      exact apart (event :: earlier) after later (congrArg (event :: ·) hevents)

/-- With operations under way or not, the channel was written once at most. -/
theorem Once.bounded (once : joint.Once id) (h : joint.Orderly) :
    (joint.tally id).Open ∨ (joint.tally id).Pending ∨ (joint.tally id).Closed := by
  by_cases hrunning : ∃ (generation : Nat) (flight : Flight ChannelId DisableOutcome),
      joint.table.flights[generation]? = some flight ∧ flight.key = id ∧ flight.value = none
  · obtain ⟨generation, flight, hflight, hkey, hvalue⟩ := hrunning
    obtain ⟨call, next, _, _, hallowed⟩ := h.running hflight hvalue
    exact (once.fits generation flight hflight hkey).bounded hallowed.left
  · refine (once.rests fun generation flight hflight hkey hvalue => ?_).imp_right .inr
    exact hrunning ⟨generation, flight, hflight, hkey, hvalue⟩

/-- When nobody waits any more, nothing is half done. -/
theorem Once.settled (once : joint.Once id) (h : joint.Orderly)
    (returned : ∀ waiter ∈ joint.table.waiters, waiter.key ≠ id) :
    (joint.tally id).Open ∨ (joint.tally id).Closed := by
  refine once.rests fun generation flight hflight hkey hvalue => ?_
  obtain ⟨waiter, hwaiter, rfl⟩ :=
    FlightTable.isAwaited_iff.mp (h.uninterrupted.awaited generation flight hflight hvalue)
  obtain ⟨flight', hflight', hboarded⟩ := h.sound.boarded waiter hwaiter
  cases hflight'.symm.trans hflight
  exact returned waiter hwaiter (hboarded.symm.trans hkey)

/-! ## Everybody returns -/

/-- Somebody waits for an operation that takes a number of steps at most. -/
def Awaits (joint : Joint) (waiter : Waiter ChannelId) (steps : Nat) : Prop :=
  waiter ∈ joint.table.waiters ∧
    ∃ flight, joint.table.flights[waiter.generation]? = some flight ∧
      (flight.value = none → (progressOf joint.deeds waiter.generation).left ≤ steps)

theorem Orderly.awaits (h : joint.Orderly) {waiter : Waiter ChannelId}
    (waits : waiter ∈ joint.table.waiters) : joint.Awaits waiter 4 := by
  obtain ⟨flight, hflight, _⟩ := h.sound.boarded waiter waits
  exact ⟨waits, flight, hflight, fun _ => (progressOf joint.deeds waiter.generation).left_le⟩

theorem Awaits.advance {waiter : Waiter ChannelId} {steps : Nat}
    (awaits : joint.Awaits waiter (steps + 1)) (h : joint.Orderly) (fault : Option ServiceError) :
    (joint.step (.advance waiter.generation fault)).Awaits waiter steps ∧
      (joint.step (.advance waiter.generation fault)).landings = joint.landings := by
  obtain ⟨waits, flight, hflight, hleft⟩ := awaits
  obtain ⟨operation, hoperation⟩ := h.operation hflight
  have hvalue := h.valued _ flight operation hflight hoperation
  have hawaited : joint.table.isAwaited waiter.generation = true :=
    FlightTable.isAwaited_iff.mpr ⟨waiter, waits, rfl⟩
  cases operation with
  | done value =>
    have hstep : joint.step (.advance waiter.generation fault) = joint := by
      unfold Joint.step
      dsimp only
      rw [hoperation]
    rw [hstep]
    refine ⟨⟨waits, flight, hflight, fun hrunning => ?_⟩, rfl⟩
    cases hrunning.symm.trans hvalue
  | ask call next =>
    have hstep : joint.step (.advance waiter.generation fault) =
        joint.take waiter.generation flight.key call next fault := by
      unfold Joint.step
      dsimp only
      rw [hoperation, hflight]
      exact if_pos hawaited
    obtain ⟨_, hallowed, _⟩ := h.follows _ flight _ hflight hoperation
    obtain ⟨after, hafter, _⟩ := h.take_stays fault hflight hoperation hawaited hflight
    rw [hstep]
    refine ⟨⟨?_, after, hafter, fun _ => ?_⟩, rfl⟩
    · rw [take_waiters fault hawaited]
      exact waits
    · have hless := DisableProgress.left_after hallowed (joint.gateway.answerUnless fault call).1
      have hprogress : progressOf (joint.take waiter.generation flight.key call next fault).deeds
          waiter.generation = (progressOf joint.deeds waiter.generation).after
            ⟨call, (joint.gateway.answerUnless fault call).1⟩ :=
        progressOf_own joint.deeds ⟨waiter.generation, flight.key, call, _⟩
      rw [hprogress]
      exact Nat.le_of_lt_succ (Nat.lt_of_lt_of_le hless (hleft hvalue))

theorem Awaits.advances {waiter : Waiter ChannelId} {faults : List (Option ServiceError)}
    (awaits : joint.Awaits waiter faults.length) (h : joint.Orderly) :
    (joint.run (faults.map (.advance waiter.generation))).Awaits waiter 0 ∧
      (joint.run (faults.map (.advance waiter.generation))).landings = joint.landings := by
  induction faults generalizing joint with
  | nil => exact ⟨awaits, rfl⟩
  | cons fault faults ih =>
    obtain ⟨hawaits, hlandings⟩ := awaits.advance h fault
    obtain ⟨hrest, hsame⟩ := ih hawaits (h.step _)
    exact ⟨hrest, hsame.trans hlandings⟩

theorem Awaits.lands {waiter : Waiter ChannelId} (awaits : joint.Awaits waiter 0) (h : joint.Orderly) :
    ∃ landing : Landing DisableOutcome, landing.caller = waiter.caller ∧
      (joint.step (.land waiter.caller)).landings = joint.landings ++ [(waiter.key, landing)] := by
  obtain ⟨waits, flight, hflight, hleft⟩ := awaits
  cases hvalue : flight.value with
  | none =>
    obtain ⟨call, next, _, _, hallowed⟩ := h.running hflight hvalue
    exact absurd (Nat.le_zero.mp (hleft hvalue)) hallowed.left
  | some value =>
    refine ⟨⟨waiter.caller, value, !waiter.leads⟩, rfl, ?_⟩
    unfold Joint.step
    dsimp only
    rw [h.sound.waiter?_eq waits, h.sound.leave_ended waits hflight hvalue]

/-- Four steps of its operation, whatever the store answers, and who waits can return. -/
theorem Orderly.returns (h : joint.Orderly) {waiter : Waiter ChannelId}
    (waits : waiter ∈ joint.table.waiters) {faults : List (Option ServiceError)}
    (enough : faults.length = 4) :
    ∃ landing : Landing DisableOutcome, landing.caller = waiter.caller ∧
      (joint.run (faults.map (.advance waiter.generation) ++ [.land waiter.caller])).landings =
        joint.landings ++ [(waiter.key, landing)] := by
  have hawaits : joint.Awaits waiter faults.length := enough ▸ h.awaits waits
  obtain ⟨hended, hlandings⟩ := hawaits.advances h
  obtain ⟨landing, hcaller, hlanding⟩ := hended.lands (h.run _)
  refine ⟨landing, hcaller, ?_⟩
  rw [run_append, ← hlandings]
  exact hlanding

end Joint

/-- Whoever has a channel disabled that is not, in whatever order the calls, the steps of the operations
and the returns come, with any of the store calls failing: its status is written once at most, nobody is
told more often, and everybody returns and is told what holds. -/
theorem disabled_once (gateway : Gateway) (usable : gateway.store.Usable) (id : ChannelId)
    (status : ChannelStatus) (known : gateway.store.status? id = some status)
    (running : status.isDisabled = false) (events : List JointEvent)
    (apart : ∀ earlier after later, events = earlier ++ .elsewhere after :: later →
      Aloof id ((Joint.start gateway).run earlier).gateway after) :
    let joint := (Joint.start gateway).run events
    joint.deeds.countP (·.writes id) ≤ 1 ∧
      joint.deeds.countP (·.notifies id) ≤ joint.deeds.countP (·.writes id) ∧
      ((∀ waiter ∈ joint.table.waiters, waiter.key ≠ id) →
        joint.deeds.countP (·.notifies id) = joint.deeds.countP (·.writes id)) ∧
      (∀ landing, (id, landing) ∈ joint.landings →
        (landing.value = .disabled ∨ landing.value = .alreadyDisabled ∨
          ∃ message, landing.value = .failed message) ∧
        (landing.value = .disabled ∨ landing.value = .alreadyDisabled →
          joint.gateway.store.status? id = some .autoDisabled ∧
            joint.gateway.registry.isChannelEnabled id = false)) ∧
      ∀ waiter ∈ joint.table.waiters, ∀ faults : List (Option ServiceError), faults.length = 4 →
        ∃ landing : Landing DisableOutcome, landing.caller = waiter.caller ∧
          (joint.run (faults.map (.advance waiter.generation) ++ [.land waiter.caller])).landings =
            joint.landings ++ [(waiter.key, landing)] := by
  intro joint
  have h : joint.Orderly := (Joint.orderly_start gateway).run events
  have once : joint.Once id :=
    (Joint.once_start usable known running).run (Joint.orderly_start gateway) events apart
  have counts : (joint.tally id).writes ≤ 1 ∧ (joint.tally id).notices ≤ (joint.tally id).writes := by
    rcases once.bounded h with hopen | hpending | hclosed
    · rw [hopen.writes, hopen.notices]
      decide
    · rw [hpending.writes, hpending.notices]
      decide
    · rw [hclosed.writes, hclosed.notices]
      decide
  refine ⟨counts.1, counts.2, fun returned => ?_, fun landing hlanding => ?_, fun waiter hwaiter => ?_⟩
  · show (joint.tally id).notices = (joint.tally id).writes
    rcases once.settled h returned with hopen | hclosed
    · rw [hopen.writes, hopen.notices]
    · rw [hclosed.writes, hclosed.notices]
  · have htold := once.told landing hlanding
    cases hvalue : landing.value with
    | disabled =>
      rw [hvalue] at htold
      exact ⟨.inl rfl, fun _ => ⟨htold.status, htold.hidden⟩⟩
    | alreadyDisabled =>
      rw [hvalue] at htold
      exact ⟨.inr (.inl rfl), fun _ => ⟨htold.status, htold.hidden⟩⟩
    | notFound =>
      rw [hvalue] at htold
      exact htold.elim
    | failed message => exact ⟨.inr (.inr ⟨message, rfl⟩), by rintro (h | h) <;> cases h⟩
  · exact fun faults enough => h.returns hwaiter enough

/-- Two wait for an operation that fails to write, one begins another before both have returned, and one
comes when all is over. -/
def crowd : List JointEvent :=
  [.call "a" 1 "one" "down", .call "b" 1 "one" "down", .advance 0 none,
    .advance 0 (some (.ofDatabase "gone")), .land "a", .call "c" 1 "one" "down", .advance 1 none,
    .advance 1 none, .land "b", .advance 1 none, .advance 1 none, .land "c",
    .call "d" 1 "one" "down", .advance 2 none, .advance 2 none, .land "d"]

/-- The gateway with its table loaded, before the crowd comes and after it has gone. -/
def beforeCrowd : Gateway := (Gateway.perform loadChannels lonelyGateway).2

def afterCrowd : Joint := (Joint.start beforeCrowd).run crowd

theorem crowd_disabled :
    beforeCrowd.store.Usable ∧ beforeCrowd.store.status? 1 = some .enabled ∧
      afterCrowd.landings.map (·.2.value) =
        [.failed (ServiceError.ofDatabase "gone").message,
          .failed (ServiceError.ofDatabase "gone").message, .disabled, .alreadyDisabled] ∧
      afterCrowd.deeds.countP (·.notifies 1) = afterCrowd.deeds.countP (·.writes 1) ∧
      afterCrowd.gateway.store.status? 1 = some .autoDisabled := by
  have usable : beforeCrowd.store.Usable := ⟨rfl, rfl, by decide +kernel⟩
  have known : beforeCrowd.store.status? 1 = some .enabled := by decide +kernel
  have apart : ∀ earlier after later, crowd = earlier ++ .elsewhere after :: later →
      Aloof 1 ((Joint.start beforeCrowd).run earlier).gateway after := by
    intro earlier after later hcrowd
    have hmem : JointEvent.elsewhere after ∈ crowd := by
      rw [hcrowd]
      exact List.mem_append_right _ (List.mem_cons_self ..)
    simp [crowd] at hmem
  obtain ⟨_, _, hequal, _, _⟩ := disabled_once beforeCrowd usable 1 .enabled known rfl crowd apart
  have returned : afterCrowd.table.waiters.all (·.key != 1) = true := by decide +kernel
  refine ⟨usable, known, by decide +kernel, hequal ?_, by decide +kernel⟩
  intro waiter hwaiter
  exact bne_iff_ne.mp (List.all_eq_true.mp returned waiter hwaiter)

end RelayGateway
