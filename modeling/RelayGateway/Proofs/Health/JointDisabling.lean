import RelayGateway.Proofs.Health.Disabling
import RelayGateway.Proofs.Health.Flights

/-! # Disabling a channel for many callers

* `Joint`: a gateway with the flights of those who have channels disabled, and `Joint.step`: somebody
  calls, an operation takes a step that may fail, a caller returns, or something happens elsewhere.
* `Joint.Orderly`: every flight has its operation, which follows its plan, and has ended with its value.
  It is so after every run, `Orderly.run`, by one lemma for each thing that `Orderly.step_cases` says can
  happen.
-/

set_option autoImplicit false

namespace RelayGateway

structure Joint where
  gateway : Gateway
  table : FlightTable ChannelId DisableOutcome
  /-- What is left of the operations, in the order of their numbers. -/
  operations : List (HealthProgram DisableOutcome)
  deeds : List Deed
  /-- Who has returned, with the channel it asked for. -/
  landings : List (ChannelId × Landing DisableOutcome)

inductive JointEvent where
  | call (caller : String) (id : ChannelId) (name reason : String)
  | advance (generation : Nat) (fault : Option ServiceError)
  | land (caller : String)
  | elsewhere (after : Gateway)

namespace Joint

def start (gateway : Gateway) : Joint := ⟨gateway, .empty, [], [], []⟩

/-- A caller joins the operation under way on a channel, or begins one. -/
def enter (joint : Joint) (caller : String) (id : ChannelId) (name reason : String) : Joint :=
  { joint with
    table := joint.table.enter caller id
    operations :=
      if (joint.table.generation? id).isSome then joint.operations
      else joint.operations ++ [disableChannel id name reason true] }

/-- An operation takes its next step. -/
def take (joint : Joint) (generation : Nat) (id : ChannelId) (call : HealthCall)
    (next : HealthReply call → HealthProgram DisableOutcome) (fault : Option ServiceError) : Joint :=
  let (reply, gateway) := joint.gateway.answerUnless fault call
  { gateway
    table :=
      match (next reply).value? with
      | some value => joint.table.complete generation value
      | none => joint.table
    operations := joint.operations.set generation (next reply)
    deeds := joint.deeds ++ [⟨generation, id, call, reply⟩]
    landings := joint.landings }

/-- An operation goes on only while somebody waits for it, and nobody calls who waits already. -/
def step (joint : Joint) : JointEvent → Joint
  | .call caller id name reason =>
    if (joint.table.waiter? caller).isSome then joint else joint.enter caller id name reason
  | .advance generation fault =>
    match joint.operations[generation]?, joint.table.flights[generation]? with
    | some (.ask call next), some flight =>
      if joint.table.isAwaited generation then joint.take generation flight.key call next fault
      else joint
    | _, _ => joint
  | .land caller =>
    match joint.table.waiter? caller, joint.table.leave caller with
    | some waiter, (some landing, table) =>
      { joint with table, landings := joint.landings ++ [(waiter.key, landing)] }
    | _, _ => joint
  | .elsewhere after => { joint with gateway := after }

def run (joint : Joint) (events : List JointEvent) : Joint := events.foldl step joint

theorem run_append (joint : Joint) (earlier later : List JointEvent) :
    joint.run (earlier ++ later) = (joint.run earlier).run later :=
  List.foldl_append

def tally (joint : Joint) (id : ChannelId) : Tally := tallyOf joint.gateway joint.deeds id

end Joint

/-! ## Every flight has its operation -/

namespace Joint

structure Orderly (joint : Joint) : Prop where
  sound : joint.table.Sound
  uninterrupted : joint.table.Uninterrupted
  paired : joint.operations.length = joint.table.flights.length
  valued : ∀ (generation : Nat) (flight : Flight ChannelId DisableOutcome)
    (operation : HealthProgram DisableOutcome), joint.table.flights[generation]? = some flight →
      joint.operations[generation]? = some operation → flight.value = operation.value?
  follows : ∀ (generation : Nat) (flight : Flight ChannelId DisableOutcome)
    (operation : HealthProgram DisableOutcome), joint.table.flights[generation]? = some flight →
      joint.operations[generation]? = some operation →
        ∃ notice, Program.Abides (disableWatch flight.key notice) DisableProgress.Ends
          (progressOf joint.deeds generation) operation
  begun : ∀ deed ∈ joint.deeds, deed.generation < joint.operations.length

variable {joint : Joint} {id : ChannelId} {generation : Nat}
  {flight : Flight ChannelId DisableOutcome}

theorem orderly_start (gateway : Gateway) : (start gateway).Orderly := by
  constructor
  case sound => exact FlightTable.sound_empty
  case uninterrupted => exact FlightTable.uninterrupted_empty
  case paired => rfl
  case valued =>
    intro generation flight operation hflight
    simp [start, FlightTable.empty] at hflight
  case follows =>
    intro generation flight operation hflight
    simp [start, FlightTable.empty] at hflight
  case begun =>
    intro deed hdeed
    cases hdeed

theorem Orderly.operation (h : joint.Orderly) (placed : joint.table.flights[generation]? = some flight) :
    ∃ operation, joint.operations[generation]? = some operation := by
  obtain ⟨hlt, _⟩ := List.getElem?_eq_some_iff.mp placed
  rw [← h.paired] at hlt
  exact ⟨_, List.getElem?_eq_getElem hlt⟩

/-- An operation under way has a next step, and it is one of its plan. -/
theorem Orderly.running (h : joint.Orderly) (placed : joint.table.flights[generation]? = some flight)
    (running : flight.value = none) :
    ∃ call next notice, joint.operations[generation]? = some (.ask call next) ∧
      DisableProgress.Allows flight.key notice (progressOf joint.deeds generation) call := by
  obtain ⟨operation, hoperation⟩ := h.operation placed
  have hvalue := h.valued generation flight operation placed hoperation
  obtain ⟨notice, hfollows⟩ := h.follows generation flight operation placed hoperation
  cases operation with
  | done value =>
    rw [running] at hvalue
    cases hvalue
  | ask call next => exact ⟨call, next, notice, hoperation, hfollows.1⟩

theorem Orderly.ended (h : joint.Orderly) (placed : joint.table.flights[generation]? = some flight)
    {value : DisableOutcome} (ended : flight.value = some value) :
    (progressOf joint.deeds generation).Ends value := by
  obtain ⟨operation, hoperation⟩ := h.operation placed
  have hvalue := h.valued generation flight operation placed hoperation
  obtain ⟨_, hfollows⟩ := h.follows generation flight operation placed hoperation
  rw [ended] at hvalue
  cases operation with
  | done other =>
    cases hvalue
    exact hfollows
  | ask call next => cases hvalue

/-! ### A step of an operation -/

section Take

variable {call : HealthCall} {next : HealthReply call → HealthProgram DisableOutcome}
  {fault : Option ServiceError} (h : joint.Orderly)
  (placed : joint.table.flights[generation]? = some flight)
  (asks : joint.operations[generation]? = some (.ask call next))
  (awaited : joint.table.isAwaited generation = true)
include h placed asks awaited

/-- A flight after a step is one of those before, and only the one that took the step has ended. -/
theorem Orderly.take_flight {number : Nat} {after : Flight ChannelId DisableOutcome}
    (placed' : (joint.take generation flight.key call next fault).table.flights[number]? =
      some after) :
    ∃ before, joint.table.flights[number]? = some before ∧ after.key = before.key ∧
      after.value = if number = generation then
          (next (joint.gateway.answerUnless fault call).1).value?
        else before.value := by
  have running : flight.value = none := h.valued generation flight _ placed asks
  unfold take at placed'
  dsimp only at placed'
  split at placed'
  · rename_i value hvalue
    obtain ⟨before, hbefore, hkey, _, hended⟩ :=
      FlightTable.complete_cases awaited h.sound placed'
    refine ⟨before, hbefore, hkey, ?_⟩
    rw [hended]
    by_cases hown : number = generation
    · subst hown
      cases hbefore.symm.trans placed
      rw [if_pos ⟨rfl, running⟩, if_pos rfl, hvalue]
    · rw [if_neg (fun hyp => hown hyp.1), if_neg hown]
  · rename_i hvalue
    refine ⟨after, placed', rfl, ?_⟩
    split
    · rename_i hown
      subst hown
      cases placed'.symm.trans placed
      rw [running, hvalue]
    · rfl

variable (fault)

theorem Orderly.take : (joint.take generation flight.key call next fault).Orderly := by
  have hlt : generation < joint.operations.length := (List.getElem?_eq_some_iff.mp asks).1
  have operation_other : ∀ (number : Nat), number ≠ generation →
      (joint.take generation flight.key call next fault).operations[number]? =
        joint.operations[number]? := by
    intro number hne
    exact List.getElem?_set_ne (fun heq => hne heq.symm)
  have operation_own : (joint.take generation flight.key call next fault).operations[generation]? =
      some (next (joint.gateway.answerUnless fault call).1) := by
    show (joint.operations.set generation
      (next (joint.gateway.answerUnless fault call).1))[generation]? = _
    rw [List.getElem?_set_self hlt]
  constructor
  case sound =>
    unfold Joint.take
    dsimp only
    split
    · exact h.sound.complete _ awaited
    · exact h.sound
  case uninterrupted =>
    unfold Joint.take
    dsimp only
    split
    · exact h.uninterrupted.complete h.sound _ awaited
    · exact h.uninterrupted
  case paired =>
    unfold Joint.take
    dsimp only
    rw [List.length_set, h.paired]
    split
    · rw [FlightTable.complete_eq awaited, List.length_map]
    · rfl
  case valued =>
    intro number after operation hafter hoperation
    obtain ⟨before, hbefore, _, hvalue⟩ := h.take_flight placed asks awaited hafter
    rw [hvalue]
    by_cases hown : number = generation
    · subst hown
      rw [operation_own] at hoperation
      rw [if_pos rfl, Option.some.inj hoperation]
    · rw [operation_other number hown] at hoperation
      rw [if_neg hown]
      exact h.valued number before operation hbefore hoperation
  case follows =>
    intro number after operation hafter hoperation
    obtain ⟨before, hbefore, hkey, _⟩ := h.take_flight placed asks awaited hafter
    rw [hkey]
    -- a deed moves the progress of its own generation only
    by_cases hown : number = generation
    · subst hown
      cases hbefore.symm.trans placed
      rw [operation_own] at hoperation
      rw [← Option.some.inj hoperation]
      obtain ⟨notice, _, hnext⟩ := h.follows number flight _ placed asks
      refine ⟨notice, ?_⟩
      show Program.Abides _ _ (progressOf (joint.deeds ++ [⟨number, flight.key, call,
        (joint.gateway.answerUnless fault call).1⟩]) number) _
      rw [show progressOf (joint.deeds ++ [⟨number, flight.key, call,
          (joint.gateway.answerUnless fault call).1⟩]) number = _ from
        progressOf_own joint.deeds ⟨number, flight.key, call, _⟩]
      exact hnext (joint.gateway.answerUnless fault call).1 trivial
    · rw [operation_other number hown] at hoperation
      obtain ⟨notice, hfollows⟩ := h.follows number before operation hbefore hoperation
      refine ⟨notice, ?_⟩
      show Program.Abides _ _ (progressOf (joint.deeds ++ [⟨generation, flight.key, call,
        (joint.gateway.answerUnless fault call).1⟩]) number) _
      rw [progressOf_other joint.deeds (fun heq => hown heq.symm)]
      exact hfollows
  case begun =>
    intro deed hdeed
    show deed.generation < (joint.operations.set generation _).length
    rw [List.length_set]
    rcases List.mem_append.mp hdeed with hold | hnew
    · exact h.begun deed hold
    · rw [List.mem_singleton.mp hnew]
      exact hlt

omit h placed asks in
theorem take_waiters : (joint.take generation flight.key call next fault).table.waiters =
    joint.table.waiters := by
  unfold Joint.take
  dsimp only
  split
  · rw [FlightTable.complete_eq awaited]
  · rfl

theorem Orderly.take_stays {number : Nat} {before : Flight ChannelId DisableOutcome}
    (stands : joint.table.flights[number]? = some before) :
    ∃ after, (joint.take generation flight.key call next fault).table.flights[number]? = some after ∧
      after.key = before.key := by
  have hlt : number < (joint.take generation flight.key call next fault).table.flights.length := by
    rw [← (h.take fault placed asks awaited).paired]
    show number < (joint.operations.set generation _).length
    rw [List.length_set, h.paired]
    exact (List.getElem?_eq_some_iff.mp stands).1
  have hafter := List.getElem?_eq_getElem hlt
  obtain ⟨before', hbefore', hkey, _⟩ := h.take_flight placed asks awaited hafter
  cases hbefore'.symm.trans stands
  exact ⟨_, hafter, hkey⟩

end Take

/-! ### A caller comes -/

section Enter

variable {caller name reason : String} {operation : HealthProgram DisableOutcome}

theorem Orderly.enter_cases (h : joint.Orderly) (caller : String) (id : ChannelId)
    (name reason : String) :
    ((joint.enter caller id name reason).table.flights = joint.table.flights ∧
        (joint.enter caller id name reason).operations = joint.operations) ∨
      (joint.table.generation? id = none ∧
        (joint.enter caller id name reason).table.flights =
          joint.table.flights ++ [⟨id, joint.table.started, caller, none⟩] ∧
        (joint.enter caller id name reason).operations =
          joint.operations ++ [disableChannel id name reason true]) := by
  unfold enter
  rcases h.sound.enter_cases caller id with ⟨generation, hentry, heq⟩ | ⟨hnew, heq⟩
  · rw [heq, h.sound.generation?_eq_some.mpr hentry]
    exact .inl ⟨rfl, rfl⟩
  · rw [heq, hnew]
    exact .inr ⟨rfl, rfl, rfl⟩

/-- A flight after a caller has come was there before, or it is new and nothing was done for it. -/
theorem Orderly.enter_flight (h : joint.Orderly)
    (placed : (joint.enter caller id name reason).table.flights[generation]? = some flight) :
    joint.table.flights[generation]? = some flight ∨
      (joint.table.generation? id = none ∧ flight = ⟨id, joint.table.started, caller, none⟩ ∧
        progressOf joint.deeds generation = .fresh) := by
  rcases h.enter_cases caller id name reason with ⟨hflights, _⟩ | ⟨hnew, hflights, _⟩
  · rw [hflights] at placed
    exact .inl placed
  · rw [hflights] at placed
    rcases getElem?_append_singleton placed with hold | ⟨hlast, rfl⟩
    · exact .inl hold
    · refine .inr ⟨hnew, rfl, progressOf_fresh ?_⟩
      rw [hlast, ← h.paired]
      exact fun deed hdeed => Nat.ne_of_lt (h.begun deed hdeed)

/-- Flights and operations keep their pairs. -/
theorem Orderly.enter_placed (h : joint.Orderly)
    (placed : (joint.enter caller id name reason).table.flights[generation]? = some flight)
    (pairs : (joint.enter caller id name reason).operations[generation]? = some operation) :
    (joint.table.flights[generation]? = some flight ∧
        joint.operations[generation]? = some operation) ∨
      (flight = ⟨id, joint.table.started, caller, none⟩ ∧
        operation = disableChannel id name reason true ∧
        progressOf joint.deeds generation = .fresh) := by
  have hflight := h.enter_flight placed
  rcases h.enter_cases caller id name reason with ⟨hflights, hoperations⟩ |
    ⟨_, hflights, hoperations⟩
  · rw [hflights] at placed
    rw [hoperations] at pairs
    exact .inl ⟨placed, pairs⟩
  · rw [hoperations] at pairs
    rcases getElem?_append_singleton pairs with hold | ⟨hlast, rfl⟩
    · have hlt := (List.getElem?_eq_some_iff.mp hold).1
      rw [hflights, List.getElem?_append_left (h.paired ▸ hlt)] at placed
      exact .inl ⟨placed, hold⟩
    · rcases hflight with hold | ⟨_, rfl, hfresh⟩
      · have hlt := (List.getElem?_eq_some_iff.mp hold).1
        rw [hlast, h.paired] at hlt
        exact absurd hlt (Nat.lt_irrefl _)
      · exact .inr ⟨rfl, rfl, hfresh⟩

theorem Orderly.enter (h : joint.Orderly) (absent : joint.table.waiter? caller = none) :
    (joint.enter caller id name reason).Orderly := by
  constructor
  case sound => exact h.sound.enter absent
  case uninterrupted => exact h.uninterrupted.enter h.sound
  case paired =>
    rcases h.enter_cases caller id name reason with ⟨hflights, hoperations⟩ |
      ⟨_, hflights, hoperations⟩
    · rw [hflights, hoperations, h.paired]
    · rw [hflights, hoperations, List.length_append, List.length_append, h.paired]
      rfl
  case valued =>
    intro generation flight operation hflight hoperation
    rcases h.enter_placed hflight hoperation with ⟨hflight, hoperation⟩ | ⟨rfl, rfl, _⟩
    · exact h.valued generation flight operation hflight hoperation
    · rfl
  case follows =>
    intro generation flight operation hflight hoperation
    rcases h.enter_placed hflight hoperation with ⟨hflight, hoperation⟩ | ⟨rfl, rfl, hfresh⟩
    · exact h.follows generation flight operation hflight hoperation
    · refine ⟨disabledNotice id name reason, ?_⟩
      show Program.Abides _ _ (progressOf joint.deeds generation) _
      rw [hfresh]
      exact abides_disable id name reason
  case begun =>
    intro deed hdeed
    have hlt := h.begun deed hdeed
    rcases h.enter_cases caller id name reason with ⟨_, hoperations⟩ | ⟨_, _, hoperations⟩
    · rw [hoperations]
      exact hlt
    · rw [hoperations, List.length_append]
      exact Nat.lt_of_lt_of_le hlt (Nat.le_add_right _ _)

end Enter

/-! ### Every event -/

/-- Who comes has nothing under way, an operation takes a step only while somebody waits for it, and who
returns takes the value of the operation it waited for. -/
theorem Orderly.step_cases (h : joint.Orderly) (event : JointEvent) :
    joint.step event = joint ∨
      (∃ caller id name reason, joint.table.waiter? caller = none ∧
        joint.step event = joint.enter caller id name reason) ∨
      (∃ generation flight call next fault, joint.table.flights[generation]? = some flight ∧
        joint.operations[generation]? = some (.ask call next) ∧
        joint.table.isAwaited generation = true ∧
        joint.step event = joint.take generation flight.key call next fault) ∨
      (∃ waiter flight landing, waiter ∈ joint.table.waiters ∧
        joint.table.flights[waiter.generation]? = some flight ∧
        flight.value = some landing.value ∧
        joint.step event = { joint with
          table := joint.table.remove waiter
          landings := joint.landings ++ [(waiter.key, landing)] }) ∨
      ∃ after, event = .elsewhere after ∧ joint.step event = { joint with gateway := after } := by
  cases event with
  | call caller id name reason =>
    cases hwaiter : joint.table.waiter? caller with
    | some waiter => exact .inl (if_pos (by rw [hwaiter]; rfl))
    | none =>
      refine .inr (.inl ⟨caller, id, name, reason, hwaiter, if_neg ?_⟩)
      rw [hwaiter]
      exact Bool.false_ne_true
  | advance generation fault =>
    unfold step
    dsimp only
    split
    · rename_i call next flight hoperation hflight
      split
      · rename_i hawaited
        exact .inr (.inr (.inl ⟨generation, flight, call, next, fault, hflight, hoperation,
          hawaited, rfl⟩))
      · exact .inl rfl
    · exact .inl rfl
  | land caller =>
    unfold step
    dsimp only
    split
    · rename_i waiter landing table hwaiter hleave
      have returns : (joint.table.leave caller).1 = some landing := congrArg Prod.fst hleave
      obtain ⟨waiter', flight, hwaiter', hflight, hvalue, _, htable⟩ := h.sound.leave_cases returns
      cases hwaiter.symm.trans hwaiter'
      have hremoved : table = joint.table.remove waiter := (congrArg Prod.snd hleave).symm.trans htable
      rw [hremoved]
      exact .inr (.inr (.inr (.inl ⟨waiter, flight, landing, (FlightTable.waiter?_mem hwaiter).1,
        hflight, hvalue, rfl⟩)))
    · exact .inl rfl
  | elsewhere after => exact .inr (.inr (.inr (.inr ⟨after, rfl, rfl⟩)))

theorem Orderly.step (h : joint.Orderly) (event : JointEvent) : (joint.step event).Orderly := by
  rcases h.step_cases event with heq | ⟨caller, id, name, reason, habsent, heq⟩ |
    ⟨generation, flight, call, next, fault, hflight, hoperation, hawaited, heq⟩ |
    ⟨waiter, flight, landing, hwaiter, hflight, hvalue, heq⟩ | ⟨after, _, heq⟩
  · rw [heq]
    exact h
  · rw [heq]
    exact h.enter habsent
  · rw [heq]
    exact h.take fault hflight hoperation hawaited
  · rw [heq]
    exact ⟨h.sound.remove waiter, h.uninterrupted.remove h.sound hwaiter hflight hvalue, h.paired,
      h.valued, h.follows, h.begun⟩
  · rw [heq]
    exact ⟨h.sound, h.uninterrupted, h.paired, h.valued, h.follows, h.begun⟩

theorem Orderly.run (h : joint.Orderly) (events : List JointEvent) : (joint.run events).Orderly := by
  induction events generalizing joint with
  | nil => exact h
  | cons event events ih => exact ih (h.step event)

end Joint

end RelayGateway
