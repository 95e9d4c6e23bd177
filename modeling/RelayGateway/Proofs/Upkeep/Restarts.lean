import Mathlib.Data.List.Induction
import RelayGateway.Proofs.Upkeep.TaskList
import RelayGateway.Proofs.Upkeep.Ticking

/-! # Tasks that are started and stopped again

* `PeriodicCall`, `PeriodicTask.answer?`, `PeriodicTask.after?`: the calls made of a periodic task, one after
  another, and the time that passes between them.
* `InForce`, `Effective`: whether a start came after the last stop, and which of the starts since then counts.
* `PeriodicTask.Kept`: what holds of a task after a history; one call keeps it (`Kept.answer?`), so every
  history does (`kept_after`).
* `PeriodicTask.Proper`: what a call may do. `upkeep_clean`: that is all that any call does, and lists of
  tasks are started in turn and stopped in reverse.
-/

set_option autoImplicit false

namespace RelayGateway

variable {α : Type}

/-! ## Histories -/

/-- A call that is made of a periodic task, or time that passes between two calls. Ticks that begin meanwhile
take the time that `length` tells. -/
inductive PeriodicCall (α : Type) where
  | start (action : α)
  /-- A stop whose cancellation loses so many times against a tick that is due. -/
  | stop (length : α → Nat) (lost : Nat)
  | wait (length : α → Nat) (span : Nat)
  | jump (length : α → Nat) (span : Nat)

def PeriodicCall.isStop : PeriodicCall α → Bool
  | .stop .. => true
  | .start _ | .wait .. | .jump .. => false

namespace PeriodicTask

/-- What is done during a call, and the task after it; `none` if the call does not return. -/
def answer? (task : PeriodicTask α) : PeriodicCall α → Option (List (TickEvent α) × PeriodicTask α)
  | .start action => some ([], task.start action)
  | .stop length lost => task.stop? length lost
  | .wait length span => some (task.wait length span)
  | .jump length span => some (task.jump length span)

/-- The task after a history, if all its calls return. -/
def after? (task : PeriodicTask α) (history : List (PeriodicCall α)) : Option (PeriodicTask α) :=
  history.foldlM (fun task call => (task.answer? call).map (·.2)) task

theorem after?_concat (task : PeriodicTask α) (past : List (PeriodicCall α)) (call : PeriodicCall α) :
    task.after? (past ++ [call]) =
      (task.after? past).bind fun task => (task.answer? call).map (·.2) := by
  simp [after?, List.foldlM_append]

end PeriodicTask

/-- A start came after the last stop. -/
def InForce (history : List (PeriodicCall α)) : Prop :=
  ∃ before action since, history = before ++ .start action :: since ∧
    ∀ call ∈ since, call.isStop = false

/-- The start that counts since the last stop: no start was in force before it, and no stop came after it. -/
structure Effective (history before : List (PeriodicCall α)) (action : α) (since : List (PeriodicCall α)) :
    Prop where
  split : history = before ++ .start action :: since
  first : ¬ InForce before
  unstopped : ∀ call ∈ since, call.isStop = false

section Starts

variable {history past before since : List (PeriodicCall α)} {call : PeriodicCall α} {action : α}

theorem not_inForce_nil : ¬ InForce ([] : List (PeriodicCall α)) := by
  rintro ⟨before, action, since, hsplit, _⟩
  simp at hsplit

theorem inForce_start (past : List (PeriodicCall α)) (action : α) : InForce (past ++ [.start action]) :=
  ⟨past, action, [], rfl, nofun⟩

theorem InForce.concat (h : InForce past) (going : call.isStop = false) : InForce (past ++ [call]) := by
  obtain ⟨before, action, since, rfl, hsince⟩ := h
  refine ⟨before, action, since ++ [call], by simp, ?_⟩
  simpa [List.mem_append, or_imp, forall_and, going] using hsince

/-- What is in force after a call was in force before it, or the call is a start. -/
theorem InForce.of_concat (h : InForce (past ++ [call])) :
    call.isStop = false ∧ ((∃ action, call = .start action) ∨ InForce past) := by
  obtain ⟨before, action, since, hsplit, hsince⟩ := h
  rcases List.eq_nil_or_concat since with rfl | ⟨earlier, last, rfl⟩
  · obtain ⟨rfl, hcall⟩ := List.append_inj' hsplit rfl
    obtain rfl := List.singleton_inj.mp hcall
    exact ⟨rfl, .inl ⟨action, rfl⟩⟩
  · rw [List.concat_eq_append, ← List.cons_append, ← List.append_assoc] at hsplit
    obtain ⟨rfl, hcall⟩ := List.append_inj' hsplit rfl
    obtain rfl := List.singleton_inj.mp hcall
    simp only [List.concat_eq_append, List.mem_append, List.mem_singleton] at hsince
    refine ⟨hsince _ (.inr rfl), .inr ⟨before, action, earlier, rfl, ?_⟩⟩
    exact fun call hcall => hsince call (.inl hcall)

theorem Effective.inForce (h : Effective history before action since) : InForce history :=
  ⟨before, action, since, h.split, h.unstopped⟩

theorem effective_start (rested : ¬ InForce past) (action : α) :
    Effective (past ++ [.start action]) past action [] :=
  ⟨rfl, rested, nofun⟩

theorem Effective.concat (h : Effective past before action since) (going : call.isStop = false) :
    Effective (past ++ [call]) before action (since ++ [call]) where
  split := by rw [h.split, List.append_assoc, List.cons_append]
  first := h.first
  unstopped := by
    have hsince := h.unstopped
    simpa [List.mem_append, or_imp, forall_and, going] using hsince

/-- No start that counts comes before another one. -/
theorem Effective.not_later {before' since' middle : List (PeriodicCall α)} {action' : α}
    (h : Effective history before action since) (h' : Effective history before' action' since')
    (later : before' = before ++ middle) (rest : .start action :: since = middle ++ .start action' :: since') :
    middle = [] := by
  cases middle with
  | nil => rfl
  | cons call middle =>
    obtain ⟨rfl, rfl⟩ := List.cons.inj rest
    refine absurd ⟨before, action, middle, later, fun call hcall => ?_⟩ h'.first
    exact h.unstopped call (List.mem_append_left _ hcall)

/-- Only one start counts. -/
theorem Effective.unique {before' since' : List (PeriodicCall α)} {action' : α}
    (h : Effective history before action since) (h' : Effective history before' action' since') :
    before' = before ∧ action' = action := by
  have hsplit := h.split.symm.trans h'.split
  rcases List.append_eq_append_iff.mp hsplit with ⟨middle, hlater, hrest⟩ | ⟨middle, hlater, hrest⟩
  · obtain rfl := h.not_later h' hlater hrest
    rw [List.nil_append, List.cons.injEq] at hrest
    exact ⟨by rw [hlater, List.append_nil], (PeriodicCall.start.inj hrest.1).symm⟩
  · obtain rfl := h'.not_later h hlater hrest
    rw [List.nil_append, List.cons.injEq] at hrest
    exact ⟨by rw [hlater, List.append_nil], PeriodicCall.start.inj hrest.1⟩

end Starts

/-- The start that counts is one of `action`, and its first tick is due at `first`: one interval after it. -/
def FirstDue (interval : Nat) (history : List (PeriodicCall α)) (action : α)
    (first : Nat) : Prop :=
  ∃ before since task, Effective history before action since ∧
    (PeriodicTask.idle interval).after? before = some task ∧ first = task.now + interval

section Due

variable {interval first first' : Nat} {history : List (PeriodicCall α)}
  {call : PeriodicCall α} {action action' : α}

theorem FirstDue.inForce (h : FirstDue interval history action first) : InForce history :=
  let ⟨_, _, _, heffective, _⟩ := h
  heffective.inForce

theorem FirstDue.concat (h : FirstDue interval history action first) (going : call.isStop = false) :
    FirstDue interval (history ++ [call]) action first :=
  let ⟨before, since, task, heffective, htask⟩ := h
  ⟨before, since ++ [call], task, heffective.concat going, htask⟩

theorem FirstDue.unique (h : FirstDue interval history action first)
    (h' : FirstDue interval history action' first') : action' = action ∧ first' = first := by
  obtain ⟨before, since, task, heffective, htask, rfl⟩ := h
  obtain ⟨before', since', task', heffective', htask', rfl⟩ := h'
  obtain ⟨rfl, rfl⟩ := heffective.unique heffective'
  obtain rfl := Option.some.inj (htask'.symm.trans htask)
  exact ⟨rfl, rfl⟩

end Due

/-! ## What a history leaves -/

namespace PeriodicTask

open TickLoop (Steady)

variable {length : α → Nat} {interval first : Nat} {past : List (PeriodicCall α)} {call : PeriodicCall α}
  {task next : PeriodicTask α} {action : α} {loop : TickLoop α} {events : List (TickEvent α)}

/-- The loop of the start that counts is alive, and nothing that was to be done is left undone. -/
structure Ticks (interval : Nat) (past : List (PeriodicCall α)) (task : PeriodicTask α)
    (action : α) (first : Nat) (loop : TickLoop α) : Prop where
  due : FirstDue interval past action first
  runs : task.Runs loop
  action : loop.action = action
  steady : loop.Steady first
  ahead : task.now < loop.nextTime
  /-- Up to the first tick, the loop is what the start made of it. -/
  fresh : task.now < first → loop.busyUntil = none ∧ loop.due = first

/-- What holds of a task after a history. -/
structure Kept (interval : Nat) (past : List (PeriodicCall α)) (task : PeriodicTask α) :
    Prop where
  pace : task.interval = interval
  state : (task.Rests ∧ ¬ InForce past) ∨ ∃ action first loop, Ticks interval past task action first loop

/-- What a call may do: after a stop there are no ticks, and after a start only ticks of the action that it was
the first one to give, the first of them one interval later. -/
structure Proper (interval : Nat) (past : List (PeriodicCall α)) (call : PeriodicCall α)
    (task : PeriodicTask α) (events : List (TickEvent α)) (next : PeriodicTask α) : Prop where
  silent : ¬ InForce past → events = []
  ticks : ∀ action first, FirstDue interval past action first → AllOf action first next.now events
  refused : ∀ action, call = .start action → InForce past → next = task
  passed : ∀ length span, call = .wait length span ∨ call = .jump length span →
    next.now = task.now + span
  punctual : ∀ action first length span, FirstDue interval past action first → call = .wait length span →
    task.now < first → first ≤ next.now → ∃ later, events = .began first action :: later
  /-- Where the clock leaps over the first tick, it comes as soon as the clock has arrived. -/
  prompt : ∀ action first length span, FirstDue interval past action first → call = .jump length span →
    task.now < first → first ≤ next.now → ∃ later, events = .began next.now action :: later

theorem kept_idle (interval : Nat) : Kept interval [] (idle interval : PeriodicTask α) :=
  ⟨rfl, .inl ⟨⟨rfl, rfl, rfl⟩, not_inForce_nil⟩⟩

theorem Kept.interval_pos (h : Kept interval past task) (positive : 0 < interval) : 0 < task.interval := by
  rw [h.pace]
  exact positive

theorem Kept.loops_length (h : Kept interval past task) : task.loops.length ≤ 1 := by
  rcases h.state with ⟨hrests, _⟩ | ⟨action, first, loop, hticks⟩
  · simp [hrests.loops]
  · simp [hticks.runs.loops]

theorem Kept.ahead (h : Kept interval past task) : ∀ loop ∈ task.loops, task.now < loop.nextTime := by
  rcases h.state with ⟨hrests, _⟩ | ⟨action, first, loop, hticks⟩
  · simp [hrests.loops]
  · simpa [hticks.runs.loops] using hticks.ahead

theorem Kept.isRunning_iff (h : Kept interval past task) : task.isRunning = true ↔ InForce past := by
  rcases h.state with ⟨hrests, hpast⟩ | ⟨action, first, loop, hticks⟩
  · simp [isRunning, hrests.token, hpast]
  · simp [isRunning, hticks.runs.token, hticks.due.inForce]

/-- Where a start came after the last stop, one of these starts counts. -/
theorem Kept.due (h : Kept interval past task) (hforce : InForce past) :
    ∃ action first, FirstDue interval past action first := by
  rcases h.state with ⟨_, hrested⟩ | ⟨action, first, loop, hticks⟩
  · exact absurd hforce hrested
  · exact ⟨action, first, hticks.due⟩

/-! ### A start -/

theorem Rests.start (h : task.Rests) (positive : 0 < task.interval) (action : α) :
    (task.start action).Runs ⟨task.started, action, task.now + task.interval, none, false⟩ := by
  have hstart : task.start action =
      { task with
        started := task.started + 1
        token := some task.started
        handle := some task.started
        loops := [⟨task.started, action, task.now + task.interval, none, false⟩] } := by
    simp [PeriodicTask.start, isRunning, h.token, h.loops, Nat.ne_of_gt positive]
  rw [hstart]
  exact ⟨rfl, rfl, rfl, rfl⟩

@[simp] theorem start_now (task : PeriodicTask α) (action : α) : (task.start action).now = task.now := by
  unfold start
  split <;> rfl

@[simp] theorem start_interval (task : PeriodicTask α) (action : α) :
    (task.start action).interval = task.interval := by
  unfold start
  split <;> rfl

theorem Runs.start (h : task.Runs loop) (action : α) : task.start action = task := by
  simp [PeriodicTask.start, isRunning, h.token]

theorem Kept.start (h : Kept interval past task) (positive : 0 < interval)
    (hpast : (idle interval).after? past = some task) (action : α) :
    Kept interval (past ++ [.start action]) (task.start action) := by
  refine ⟨(start_interval task action).trans h.pace, .inr ?_⟩
  rcases h.state with ⟨hrests, hrested⟩ | ⟨action', first, loop, hticks⟩
  · have hpositive := h.interval_pos positive
    have hruns := hrests.start hpositive action
    rw [h.pace] at hruns
    have hdue : FirstDue interval (past ++ [.start action]) action (task.now + interval) :=
      ⟨past, [], task, effective_start hrested action, hpast, rfl⟩
    refine ⟨action, _, _, hdue, hruns, rfl, ⟨Nat.le_refl _, nofun⟩, ?_, fun _ => ⟨rfl, rfl⟩⟩
    rw [start_now]
    exact Nat.lt_add_of_pos_right positive
  · rw [hticks.runs.start]
    exact ⟨action', first, loop, { hticks with due := hticks.due.concat rfl }⟩

theorem Kept.start_proper (h : Kept interval past task) (action : α) :
    Proper interval past (.start action) task [] (task.start action) where
  silent _ := rfl
  ticks _ _ _ := allOf_nil
  refused _ _ hforce := by
    rcases h.state with ⟨_, hrested⟩ | ⟨_, _, loop, hticks⟩
    · exact absurd hforce hrested
    · exact hticks.runs.start action
  passed _ _ hcall := by simp at hcall
  punctual _ _ _ _ _ hcall := nomatch hcall
  prompt _ _ _ _ _ hcall := nomatch hcall

/-! ### A stop -/

theorem not_inForce_stop (past : List (PeriodicCall α)) (length : α → Nat) (lost : Nat) :
    ¬ InForce (past ++ [.stop length lost]) := by
  intro hforce
  simpa [PeriodicCall.isStop] using hforce.of_concat.1

theorem Rests.stop? (h : task.Rests) (length : α → Nat) (lost : Nat) :
    task.stop? length lost = some ([], task) := by
  obtain ⟨htoken, hhandle, hloops⟩ := h
  cases task
  subst htoken hhandle hloops
  rfl

theorem Kept.stop? (h : Kept interval past task) (positive : 0 < interval) (length : α → Nat) (lost : Nat) :
    ∃ events next, task.stop? length lost = some (events, next) ∧
      Kept interval (past ++ [.stop length lost]) next ∧
      Proper interval past (.stop length lost) task events next := by
  have hstopped := not_inForce_stop past length lost
  rcases h.state with ⟨hrests, hrested⟩ | ⟨action, first, loop, hticks⟩
  · refine ⟨[], task, hrests.stop? length lost, ⟨h.pace, .inl ⟨hrests, hstopped⟩⟩, ?_⟩
    exact ⟨fun _ => rfl, fun _ _ _ => allOf_nil, nofun, by simp, nofun, nofun⟩
  · have hpositive := h.interval_pos positive
    obtain ⟨events, next, hstop, hrests, hpace, _, hevents⟩ :=
      hticks.runs.stop? hticks.steady hpositive lost
    refine ⟨events, next, hstop, ⟨hpace.trans h.pace, .inl ⟨hrests, hstopped⟩⟩, ?_⟩
    refine ⟨fun hpast => absurd hticks.due.inForce hpast, fun action' first' hdue => ?_, nofun, by simp, nofun,
      nofun⟩
    obtain ⟨rfl, rfl⟩ := hticks.due.unique hdue
    rwa [hticks.action] at hevents

/-! ### Time -/

/-- A loop that has not come to its first tick is left as it is. -/
theorem Runs.runUntil_fresh {target fuel : Nat} {next : TickLoop α} (h : task.Runs loop)
    (idle : loop.busyUntil = none) (early : target < loop.due)
    (hnext : (PeriodicTask.runUntil length target fuel task).2.Runs next) :
    next = loop := by
  have hearly : ∀ time, task.nextTime = some time → target < time := by
    intro time htime
    rw [h.nextTime, Option.some_inj] at htime
    simpa [← htime, TickLoop.nextTime, idle, h.uncancelled] using early
  have hloops := hnext.loops
  rw [runUntil_early hearly] at hloops
  exact List.singleton_inj.mp (hloops.symm.trans h.loops)

/-- Time passes while the loop is alive. The clock may show the target from the beginning. -/
theorem Ticks.runUntil (h : Ticks interval past task action first loop) (positive : 0 < task.interval)
    (going : call.isStop = false) {span moment : Nat} (begins : task.now ≤ moment)
    (ends : moment ≤ task.now + span) {reply : List (TickEvent α) × PeriodicTask α}
    (hreply : runUntil length (task.now + span) (task.workIn span) { task with now := moment } = reply) :
    ∃ next, GoesOn first (task.now + span) { task with now := moment } loop reply next ∧
      Ticks interval (past ++ [call]) reply.2 action first next ∧
      (task.now < first → first ≤ task.now + span →
        ∃ later, reply.1 = .began (max moment first) action :: later) := by
  have hruns : ({ task with now := moment } : PeriodicTask α).Runs loop :=
    ⟨h.runs.token, h.runs.handle, h.runs.loops, h.runs.uncancelled⟩
  have hwork : task.workIn span = 2 * (span + TickLoop.grace + 2) := by simp [workIn, h.runs.loops]
  rw [hwork] at hreply
  -- a loop may be late by as much as the grace, so the fuel is counted from that long before
  have hbase : task.now - TickLoop.grace ≤ task.now + span := by omega
  have hprogress := TickLoop.le_progress hbase loop
  obtain ⟨next, hnext, hlater⟩ := hruns.runUntil h.steady positive ends (Nat.sub_le_sub_right begins _)
    (2 * (span + TickLoop.grace + 2)) (by omega)
  rw [hreply] at hnext
  have hfresh : reply.2.now < first → next.busyUntil = none ∧ next.due = first := by
    rw [hnext.clock]
    intro hearly
    obtain ⟨hidle, hdue⟩ := h.fresh (by omega)
    have hsame : next = loop := hruns.runUntil_fresh hidle (hdue.symm ▸ hearly) (hreply ▸ hnext.runs)
    exact hsame ▸ ⟨hidle, hdue⟩
  refine ⟨next, hnext, ⟨h.due.concat going, hnext.runs, hnext.continues.action.trans h.action, hnext.steady,
    by rw [hnext.clock]; exact hlater, hfresh⟩, fun hearly hcome => ?_⟩
  obtain ⟨hidle, hdue⟩ := h.fresh hearly
  have henough : 0 < 2 * (span + TickLoop.grace + 2) := by omega
  obtain ⟨later, hevents⟩ := hruns.runUntil_first hidle (hdue.symm ▸ hcome) henough
  rw [hreply, hdue, h.action] at hevents
  exact ⟨later, hevents⟩

theorem Rests.nextTime (h : task.Rests) : task.nextTime = none := by
  rw [PeriodicTask.nextTime, h.loops]
  rfl

/-- The calls that let time pass, and what the clock shows from their beginning. -/
inductive Passes (task : PeriodicTask α) (length : α → Nat) (span : Nat) : PeriodicCall α → Nat → Prop where
  | evenly : Passes task length span (.wait length span) task.now
  | atOnce : Passes task length span (.jump length span) (task.now + span)

section Passing

variable {span moment : Nat}

theorem Passes.answer? (h : Passes task length span call moment) : task.answer? call =
    some (runUntil length (task.now + span) (task.workIn span) { task with now := moment }) := by
  cases h <;> rfl

theorem Passes.begins (h : Passes task length span call moment) : task.now ≤ moment := by
  cases h <;> omega

theorem Passes.ends (h : Passes task length span call moment) : moment ≤ task.now + span := by
  cases h <;> omega

theorem Passes.going (h : Passes task length span call moment) : call.isStop = false := by
  cases h <;> rfl

theorem Passes.inForce_iff (h : Passes task length span call moment) (past : List (PeriodicCall α)) :
    InForce (past ++ [call]) ↔ InForce past := by
  refine ⟨fun hforce => hforce.of_concat.2.resolve_left ?_, fun hforce => hforce.concat h.going⟩
  cases h <;> exact nofun

/-- A call that lets time pass is proper if what it does is the first tick and then ticks of the same action. -/
theorem Passes.proper (h : Passes task length span call moment) (clock : next.now = task.now + span)
    (silent : ¬ InForce past → events = [])
    (ticks : ∀ action first, FirstDue interval past action first →
      AllOf action first (task.now + span) events ∧ (task.now < first → first ≤ task.now + span →
        ∃ later, events = .began (max moment first) action :: later)) :
    Proper interval past call task events next := by
  rw [← clock] at ticks
  refine ⟨silent, fun action first hdue => (ticks action first hdue).1, ?_, ?_, ?_, ?_⟩
  · intro action hcall
    cases h <;> exact nomatch hcall
  · intro length' span' hcall
    cases h <;> simp_all
  · intro action first length' span' hdue hcall hearly hcome
    cases h with
    | evenly => simpa [Nat.max_eq_right (Nat.le_of_lt hearly)] using (ticks action first hdue).2 hearly hcome
    | atOnce => exact nomatch hcall
  · intro action first length' span' hdue hcall hearly hcome
    cases h with
    | evenly => exact nomatch hcall
    | atOnce => simpa [← clock, Nat.max_eq_left hcome] using (ticks action first hdue).2 hearly hcome

theorem Kept.passes (h : Kept interval past task) (positive : 0 < interval)
    (hpasses : Passes task length span call moment) :
    ∃ events next, task.answer? call = some (events, next) ∧
      Kept interval (past ++ [call]) next ∧ Proper interval past call task events next := by
  rw [hpasses.answer?]
  rcases h.state with ⟨hrests, hrested⟩ | ⟨action, first, loop, hticks⟩
  · have hmoment : ({ task with now := moment } : PeriodicTask α).Rests :=
      ⟨hrests.token, hrests.handle, hrests.loops⟩
    rw [runUntil_early (by simp [hmoment.nextTime])]
    refine ⟨[], _, rfl, ⟨h.pace, .inl ⟨⟨hrests.token, hrests.handle, hrests.loops⟩, ?_⟩⟩, ?_⟩
    · rwa [hpasses.inForce_iff]
    · exact hpasses.proper rfl (fun _ => rfl) fun action first hdue => absurd hdue.inForce hrested
  · have hpositive := h.interval_pos positive
    obtain ⟨next, hnext, hkept, hfirst⟩ :=
      hticks.runUntil hpositive hpasses.going hpasses.begins hpasses.ends rfl
    refine ⟨_, _, rfl, ⟨hnext.interval.trans h.pace, .inr ⟨action, first, next, hkept⟩⟩, ?_⟩
    refine hpasses.proper hnext.clock (fun hrested => absurd hticks.due.inForce hrested) ?_
    intro action' first' hdue
    obtain ⟨rfl, rfl⟩ := hticks.due.unique hdue
    have hevents := hnext.events
    rw [hticks.action] at hevents
    exact ⟨hevents, hfirst⟩

end Passing

/-! ### Every call -/

theorem Kept.answer? (h : Kept interval past task) (positive : 0 < interval)
    (hpast : (idle interval).after? past = some task) (call : PeriodicCall α) :
    ∃ events next, task.answer? call = some (events, next) ∧
      Kept interval (past ++ [call]) next ∧ Proper interval past call task events next := by
  cases call with
  | start action => exact ⟨[], task.start action, rfl, h.start positive hpast action, h.start_proper action⟩
  | stop length lost => exact h.stop? positive length lost
  | wait length span => exact h.passes positive .evenly
  | jump length span => exact h.passes positive .atOnce

theorem kept_after (positive : 0 < interval) (history : List (PeriodicCall α)) :
    ∃ task, (idle interval).after? history = some task ∧ Kept interval history task := by
  induction history using List.reverseRecOn with
  | nil => exact ⟨idle interval, rfl, kept_idle interval⟩
  | append_singleton past call ih =>
    obtain ⟨task, hpast, hkept⟩ := ih
    obtain ⟨events, next, hanswer, hnext, _⟩ := hkept.answer? positive hpast call
    refine ⟨next, ?_, hnext⟩
    rw [after?_concat, hpast, Option.bind_some, hanswer]
    rfl

end PeriodicTask

open PeriodicTask in
/-- A list of tasks is started in turn, up to the first one that fails, and stopped in reverse, whatever fails.
A task that is started and stopped again and again has at most one loop, which is never behind with what it has
to do; it runs if and only if a start came after the last stop, and then one such start counts; and it comes
back from every call, which does nothing but what is proper. -/
theorem upkeep_clean {World α : Type} (tasks : List (BackgroundTask (StateM World))) (world : World)
    {interval : Nat} (positive : 0 < interval) (history : List (PeriodicCall α)) :
    ((StartInTurn tasks world ∧
        (startAll tasks).run world = (.ok (), tasks.foldl BackgroundTask.started world)) ∨
      ∃ earlier task later err, tasks = earlier ++ task :: later ∧ StartInTurn earlier world ∧
        (task.start.run (earlier.foldl BackgroundTask.started world)).1 = .error err ∧
        (startAll tasks).run world =
          (.error err, (earlier ++ [task]).foldl BackgroundTask.started world)) ∧
    (stopAll tasks).run world = ((), tasks.reverse.foldl BackgroundTask.stopped world) ∧
    ∃ task, (idle interval).after? history = some task ∧ task.loops.length ≤ 1 ∧
      (∀ loop ∈ task.loops, task.now < loop.nextTime) ∧ (task.isRunning = true ↔ InForce history) ∧
      (InForce history → ∃ action first, FirstDue interval history action first) ∧
      ∀ call, ∃ events next, task.answer? call = some (events, next) ∧
        Proper interval history call task events next := by
  refine ⟨startAll_cases tasks world, stopAll_run tasks world, ?_⟩
  obtain ⟨task, htask, hkept⟩ := kept_after positive history
  refine ⟨task, htask, hkept.loops_length, hkept.ahead, hkept.isRunning_iff, hkept.due, fun call => ?_⟩
  obtain ⟨events, next, hanswer, _, hproper⟩ := hkept.answer? positive htask call
  exact ⟨events, next, hanswer, hproper⟩

/-- A task that notes its number when it is started and when it is stopped, and fails at both if it is told
to. -/
def notingTask (number : Nat) (fails : Bool) : BackgroundTask (StateM (List Nat)) :=
  let note : TaskAction (StateM (List Nat)) := do
    modify (· ++ [number])
    return if fails then .error (.internal "" none) else .ok ()
  ⟨.cooldownSweep, note, some note⟩

/-- Ticks every ten moments: started twice, stopped in the middle of the second tick. -/
def interrupted : List (PeriodicCall Nat) :=
  [.start 1, .start 2, .wait (fun _ => 4) 22, .stop (fun _ => 4) 0]

theorem interrupted_restarted :
    0 < 10 ∧ ((stopAll [notingTask 1 false, notingTask 2 true, notingTask 3 false]).run []).2 = [3, 2, 1] ∧
      ∃ task, (PeriodicTask.idle 10).after? (interrupted ++ [.start 3]) = some task ∧
        task.isRunning = true ∧ task.loops.length ≤ 1 ∧ task.now = 24 ∧
        ∃ later next, task.answer? (.wait (fun _ => 4) 50) = some (.began 34 3 :: later, next) ∧
          AllOf 3 34 next.now (.began 34 3 :: later) := by
  obtain ⟨_, hstopped, task, htask, hsingle, _, hrunning, _, hanswers⟩ :=
    upkeep_clean [notingTask 1 false, notingTask 2 true, notingTask 3 false] [] (by decide : 0 < 10)
      (interrupted ++ [.start 3])
  have hforce : InForce (interrupted ++ [.start 3]) := inForce_start interrupted 3
  have hrested : ¬ InForce interrupted :=
    PeriodicTask.not_inForce_stop [.start 1, .start 2, .wait (fun _ => 4) 22] (fun _ => 4) 0
  have hdue : FirstDue 10 (interrupted ++ [.start 3]) 3 34 :=
    ⟨interrupted, [], _, effective_start hrested 3, rfl, rfl⟩
  have hnow : task.now = 24 := by
    obtain rfl := Option.some.inj htask
    rfl
  obtain ⟨events, next, hanswer, hproper⟩ := hanswers (.wait (fun _ => 4) 50)
  have hend : next.now = 74 := by rw [hproper.passed _ _ (.inl rfl), hnow]
  obtain ⟨later, rfl⟩ := hproper.punctual 3 34 _ _ hdue rfl (by omega) (by omega)
  exact ⟨by decide, by rw [hstopped]; rfl, task, htask, hrunning.mpr hforce, hsingle, hnow, later, next, hanswer,
    hproper.ticks 3 34 hdue⟩

end RelayGateway
