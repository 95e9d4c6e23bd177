import RelayGateway.Upkeep.Periodic

/-! # A loop that ticks

* `AllOf`: what a loop did, between two moments.
* `TickLoop.Steady`: a loop does nothing before its first tick. `TickLoop.poll_uncancelled` and
  `TickLoop.poll_cancelled` say what becomes of such a loop that looks at the clock.
* `TickLoop.progress`: how far a loop has come; it comes further with each thing that it does.
* `PeriodicTask.Runs`: one loop is alive, and both slots tell of it. Time that passes keeps it so and leaves
  nothing undone (`Runs.runUntil`), and the first thing that is done is the first tick
  (`Runs.runUntil_first`).
* `PeriodicTask.Runs.stop?`: a stop is over at some time, and then no loop is alive.
-/

set_option autoImplicit false

namespace RelayGateway

variable {α : Type}

/-! ## Events -/

namespace TickEvent

def time : TickEvent α → Nat
  | .began time _ => time
  | .ended time _ => time

def action : TickEvent α → α
  | .began _ action => action
  | .ended _ action => action

end TickEvent

/-- All events are ones of the action, and none is before the one moment or after the other. -/
def AllOf (action : α) (first last : Nat) (events : List (TickEvent α)) : Prop :=
  ∀ event ∈ events, event.action = action ∧ first ≤ event.time ∧ event.time ≤ last

section Events

variable {action : α} {first last later : Nat} {events more : List (TickEvent α)}

theorem allOf_nil : AllOf action first last ([] : List (TickEvent α)) := nofun

theorem AllOf.append (h : AllOf action first last events) (hmore : AllOf action first last more) :
    AllOf action first last (events ++ more) :=
  fun event hevent => (List.mem_append.mp hevent).elim (h event) (hmore event)

theorem AllOf.mono (h : AllOf action first last events) (hlater : last ≤ later) :
    AllOf action first later events :=
  fun event hevent => ⟨(h event hevent).1, (h event hevent).2.1, Nat.le_trans (h event hevent).2.2 hlater⟩

end Events

/-! ## One loop -/

namespace TickLoop

variable {length : α → Nat} {interval now first : Nat} {tickFirst : Bool} {loop next : TickLoop α}

/-- A loop does nothing before its first tick. -/
structure Steady (first : Nat) (loop : TickLoop α) : Prop where
  due : first ≤ loop.due
  busy : ∀ time, loop.busyUntil = some time → first ≤ time

/-- The one loop is the other one, at a later time. -/
structure Continues (loop next : TickLoop α) : Prop where
  number : next.number = loop.number
  action : next.action = loop.action
  cancelled : next.cancelled = loop.cancelled

theorem Continues.refl (loop : TickLoop α) : loop.Continues loop := ⟨rfl, rfl, rfl⟩

theorem Continues.rested (loop : TickLoop α) : loop.Continues loop.rested := ⟨rfl, rfl, rfl⟩

theorem Continues.trans {last : TickLoop α} (h : loop.Continues next) (hnext : next.Continues last) :
    loop.Continues last :=
  ⟨hnext.number.trans h.number, hnext.action.trans h.action, hnext.cancelled.trans h.cancelled⟩

/-- How far a loop has come, so far as it matters from `base` to `target`: each tick counts twice, when it
begins and when it is over. -/
def progress (base target : Nat) (loop : TickLoop α) : Nat :=
  2 * min (max base loop.due) (target + 1) + loop.busyUntil.isNone.toNat

theorem le_progress {base target : Nat} (ahead : base ≤ target) (loop : TickLoop α) :
    2 * base ≤ loop.progress base target := by
  unfold progress
  omega

/-- A loop that has come so far has nothing left to do. -/
theorem lt_nextTime {base target : Nat} (uncancelled : loop.cancelled = false) (ahead : base ≤ target)
    (far : 2 * target + 3 ≤ loop.progress base target) : target < loop.nextTime := by
  unfold progress at far
  cases hbusy : loop.busyUntil with
  | none =>
    have hidle : (none : Option Nat).isNone.toNat = 1 := rfl
    rw [hbusy, hidle] at far
    simp only [nextTime, hbusy, uncancelled]
    simp
    omega
  | some time =>
    have hidle : (some time).isNone.toNat = 0 := rfl
    rw [hbusy, hidle] at far
    omega

theorem lt_nextDue {base due : Nat} (positive : 0 < interval) (late : base ≤ now - grace) :
    max base due < nextDue interval now due := by
  unfold nextDue grace at *
  split <;> omega

theorem beginTick_continues (length : α → Nat) (interval now : Nat) (loop : TickLoop α) :
    loop.Continues (loop.beginTick length interval now).2 := by
  unfold beginTick
  split <;> exact ⟨rfl, rfl, rfl⟩

theorem beginTick_events (come : first ≤ now) :
    AllOf loop.action first now (loop.beginTick length interval now).1 := by
  unfold beginTick
  split <;> simp [AllOf, TickEvent.action, TickEvent.time, come]

theorem beginTick_begins (length : α → Nat) (interval now : Nat) (loop : TickLoop α) :
    ∃ later, (loop.beginTick length interval now).1 = .began now loop.action :: later := by
  unfold beginTick
  split <;> exact ⟨_, rfl⟩

theorem Steady.beginTick (h : loop.Steady first) (idle : loop.busyUntil = none) (positive : 0 < interval)
    (come : loop.due ≤ now) : (loop.beginTick length interval now).2.Steady first := by
  have hlater : max 0 loop.due < nextDue interval now loop.due := lt_nextDue positive (Nat.zero_le _)
  have hdue : first ≤ nextDue interval now loop.due := by
    have hfirst := h.due
    omega
  unfold TickLoop.beginTick
  split
  · exact ⟨hdue, fun time htime => absurd (idle.symm.trans htime) nofun⟩
  · refine ⟨hdue, fun time htime => ?_⟩
    obtain rfl := Option.some.inj htime
    exact Nat.le_trans h.due (Nat.le_trans come (Nat.le_add_right _ _))

theorem beginTick_due (length : α → Nat) (interval now : Nat) (loop : TickLoop α) :
    (loop.beginTick length interval now).2.due = nextDue interval now loop.due := by
  unfold beginTick
  split <;> rfl

theorem beginTick_progress {base target : Nat} (idle : loop.busyUntil = none) (positive : 0 < interval)
    (come : loop.due ≤ now) (ends : now ≤ target) (late : base ≤ now - grace) :
    loop.progress base target < (loop.beginTick length interval now).2.progress base target := by
  have hdue : max base loop.due < nextDue interval now loop.due := lt_nextDue positive late
  have hidle : (none : Option Nat).isNone.toNat = 1 := rfl
  unfold progress
  rw [beginTick_due, idle, hidle]
  omega

theorem poll_idle (idle : loop.busyUntil = none) :
    loop.poll length interval now tickFirst = loop.pollIdle length interval now tickFirst := by
  rw [poll, idle]

theorem poll_busy {time : Nat} (busy : loop.busyUntil = some time) (passed : time ≤ now) :
    loop.poll length interval now tickFirst =
      (.ended now loop.action :: (loop.rested.pollIdle length interval now tickFirst).1,
        (loop.rested.pollIdle length interval now tickFirst).2) := by
  simp only [poll, busy, if_neg (Nat.not_lt.mpr passed)]

theorem pollIdle_ticks (come : loop.due ≤ now) (goes : loop.cancelled → tickFirst) :
    loop.pollIdle length interval now tickFirst =
      ((loop.beginTick length interval now).1, some (loop.beginTick length interval now).2) := by
  rw [pollIdle, if_pos ⟨come, goes⟩]

theorem pollIdle_early (uncancelled : loop.cancelled = false) (early : now < loop.due) :
    loop.pollIdle length interval now tickFirst = ([], some loop) := by
  rw [pollIdle, if_neg (fun h => Nat.not_lt.mpr h.1 early), uncancelled, if_neg Bool.false_ne_true]

theorem Steady.rested (h : loop.Steady first) : loop.rested.Steady first := ⟨h.due, nofun⟩

theorem allOf_ended {events : List (TickEvent α)} (come : first ≤ now)
    (h : AllOf loop.action first now events) :
    AllOf loop.action first now (.ended now loop.action :: events) := by
  have hended : AllOf loop.action first now [.ended now loop.action] := by
    simp [AllOf, TickEvent.action, TickEvent.time, come]
  exact hended.append h

theorem rested_progress {time : Nat} (base target : Nat) (busy : loop.busyUntil = some time) :
    loop.progress base target < loop.rested.progress base target := by
  simp [progress, TickLoop.rested, busy]

/-- A loop that has something to do does it, and has come further then. -/
theorem poll_uncancelled {base target : Nat} (length : α → Nat) (tickFirst : Bool)
    (uncancelled : loop.cancelled = false) (steady : loop.Steady first) (positive : 0 < interval)
    (come : loop.nextTime ≤ now) (ends : now ≤ target) (late : base ≤ now - grace) :
    ∃ next, (loop.poll length interval now tickFirst).2 = some next ∧ loop.Continues next ∧
      next.Steady first ∧ loop.progress base target < next.progress base target ∧
      AllOf loop.action first now (loop.poll length interval now tickFirst).1 := by
  have hgoes : loop.cancelled → tickFirst := by simp [uncancelled]
  cases hbusy : loop.busyUntil with
  | none =>
    have htime : loop.nextTime = loop.due := by simp [nextTime, hbusy, uncancelled]
    rw [htime] at come
    rw [poll_idle hbusy, pollIdle_ticks come hgoes]
    exact ⟨_, rfl, beginTick_continues _ _ _ _, steady.beginTick hbusy positive come,
      beginTick_progress hbusy positive come ends late, beginTick_events (Nat.le_trans steady.due come)⟩
  | some time =>
    have htime : loop.nextTime = time := by simp [nextTime, hbusy]
    rw [htime] at come
    have hfirst : first ≤ now := Nat.le_trans (steady.busy time hbusy) come
    have hrested : loop.rested.cancelled = false := uncancelled
    have hfurther := rested_progress base target hbusy
    rw [poll_busy hbusy come]
    -- the tick that is over may have been so long that the next one is due
    by_cases hdue : loop.rested.due ≤ now
    · rw [pollIdle_ticks hdue hgoes]
      exact ⟨_, rfl, (Continues.rested loop).trans (beginTick_continues _ _ _ _),
        steady.rested.beginTick rfl positive hdue,
        Nat.lt_trans hfurther (beginTick_progress rfl positive hdue ends late),
        allOf_ended hfirst (beginTick_events (Nat.le_trans steady.due hdue))⟩
    · have hearly : now < loop.rested.due := Nat.not_le.mp hdue
      rw [pollIdle_early hrested hearly]
      exact ⟨_, rfl, Continues.rested loop, steady.rested, hfurther, allOf_ended hfirst allOf_nil⟩

/-- A loop that is cancelled leaves, unless a tick goes first. -/
structure Leaves (first now : Nat) (tickFirst : Bool) (loop : TickLoop α)
    (reply : List (TickEvent α) × Option (TickLoop α)) : Prop where
  events : AllOf loop.action first now reply.1
  gone : reply.2 = none ∨
    tickFirst = true ∧ ∃ next, reply.2 = some next ∧ loop.Continues next ∧ next.Steady first

theorem pollIdle_cancelled (cancelled : loop.cancelled = true) (steady : loop.Steady first)
    (positive : 0 < interval) (idle : loop.busyUntil = none) :
    Leaves first now tickFirst loop (loop.pollIdle length interval now tickFirst) := by
  by_cases hgoes : loop.due ≤ now ∧ tickFirst = true
  · rw [pollIdle_ticks hgoes.1 fun _ => hgoes.2]
    exact ⟨beginTick_events (Nat.le_trans steady.due hgoes.1), .inr ⟨hgoes.2, _, rfl,
      beginTick_continues _ _ _ _, steady.beginTick idle positive hgoes.1⟩⟩
  · rw [pollIdle, if_neg fun h => hgoes ⟨h.1, h.2 cancelled⟩, if_pos cancelled]
    exact ⟨allOf_nil, .inl rfl⟩

theorem poll_cancelled (length : α → Nat) (tickFirst : Bool) (cancelled : loop.cancelled = true)
    (steady : loop.Steady first) (positive : 0 < interval)
    (come : ∀ time, loop.busyUntil = some time → time ≤ now) :
    Leaves first now tickFirst loop (loop.poll length interval now tickFirst) := by
  cases hbusy : loop.busyUntil with
  | none =>
    rw [poll_idle hbusy]
    exact pollIdle_cancelled cancelled steady positive hbusy
  | some time =>
    have hcome := come time hbusy
    rw [poll_busy hbusy hcome]
    have hrested : loop.rested.cancelled = true := cancelled
    obtain ⟨hevents, hgone⟩ := pollIdle_cancelled hrested steady.rested positive rfl
    refine ⟨allOf_ended (Nat.le_trans (steady.busy time hbusy) hcome) hevents, ?_⟩
    refine hgone.imp_right fun ⟨hfirst, next, hnext, hcontinues, hsteady⟩ => ?_
    exact ⟨hfirst, next, hnext, (Continues.rested loop).trans hcontinues, hsteady⟩

end TickLoop

/-! ## The task of one loop -/

namespace PeriodicTask

open TickLoop (Continues Steady)

variable {length : α → Nat} {interval first target : Nat} {task : PeriodicTask α} {loop : TickLoop α}

/-- No loop is alive, and no slot tells of one. -/
structure Rests (task : PeriodicTask α) : Prop where
  token : task.token = none
  handle : task.handle = none
  loops : task.loops = []

/-- One loop is alive, it is not cancelled, and both slots tell of it. -/
structure Runs (task : PeriodicTask α) (loop : TickLoop α) : Prop where
  token : task.token = some loop.number
  handle : task.handle = some loop.number
  loops : task.loops = [loop]
  uncancelled : loop.cancelled = false

theorem Runs.nextTime (h : task.Runs loop) : task.nextTime = some loop.nextTime := by
  rw [PeriodicTask.nextTime, h.loops]
  rfl

theorem advance_single (h : task.loops = [loop]) (length : α → Nat) (tickFirst : Bool) :
    advance length tickFirst task =
      ((loop.poll length task.interval (max task.now loop.nextTime) tickFirst).1,
        { task with
          now := max task.now loop.nextTime
          loops := (loop.poll length task.interval (max task.now loop.nextTime) tickFirst).2.toList }) := by
  have htime : task.nextTime = some loop.nextTime := by
    rw [PeriodicTask.nextTime, h]
    rfl
  unfold advance settle
  rw [htime, Option.getD_some]
  cases hpoll : (loop.poll length task.interval (max task.now loop.nextTime) tickFirst).2 with
  | none => simp [h, hpoll]
  | some next => simp [h, hpoll]

/-- The loop of the task has gone on to a later state, in which its clock shows `now`, and this is what it did
in between. -/
structure GoesOn (first now : Nat) (task : PeriodicTask α) (loop : TickLoop α)
    (reply : List (TickEvent α) × PeriodicTask α) (next : TickLoop α) : Prop where
  runs : reply.2.Runs next
  continues : loop.Continues next
  steady : next.Steady first
  interval : reply.2.interval = task.interval
  clock : reply.2.now = now
  events : AllOf loop.action first now reply.1

/-- Nothing is done while the clock goes on. -/
theorem GoesOn.refl (h : task.Runs loop) (steady : loop.Steady first) (now : Nat) :
    GoesOn first now task loop ([], { task with now }) loop :=
  ⟨⟨h.token, h.handle, h.loops, h.uncancelled⟩, Continues.refl loop, steady, rfl, rfl, allOf_nil⟩

theorem Runs.advance {base : Nat} (length : α → Nat) (h : task.Runs loop) (steady : loop.Steady first)
    (positive : 0 < task.interval) (ends : max task.now loop.nextTime ≤ target)
    (late : base ≤ task.now - TickLoop.grace) :
    ∃ next, GoesOn first (max task.now loop.nextTime) task loop (advance length false task) next ∧
      loop.progress base target < next.progress base target := by
  have hlate : base ≤ max task.now loop.nextTime - TickLoop.grace :=
    Nat.le_trans late (Nat.sub_le_sub_right (Nat.le_max_left _ _) _)
  obtain ⟨next, hnext, hcontinues, hsteady, hfurther, hevents⟩ :=
    TickLoop.poll_uncancelled length false h.uncancelled steady positive (Nat.le_max_right _ _) ends
      hlate
  rw [advance_single h.loops]
  refine ⟨next, ⟨⟨?_, ?_, ?_, ?_⟩, hcontinues, hsteady, rfl, rfl, hevents⟩, hfurther⟩
  · rw [hcontinues.number]
    exact h.token
  · rw [hcontinues.number]
    exact h.handle
  · rw [hnext]
    rfl
  · rw [hcontinues.cancelled]
    exact h.uncancelled

/-! ## Time passes -/

/-- Nothing happens while nothing is to be done. -/
theorem runUntil_early (early : ∀ time, task.nextTime = some time → target < time) (fuel : Nat) :
    runUntil length target fuel task = ([], { task with now := target }) := by
  cases fuel with
  | zero => rfl
  | succ fuel =>
    rw [runUntil]
    cases htime : task.nextTime with
    | none => rfl
    | some time => simp only [if_neg (Nat.not_le.mpr (early time htime))]

/-- What is to be done is done, and then it goes on. -/
theorem runUntil_succ {time : Nat} (htime : task.nextTime = some time) (come : time ≤ target) (fuel : Nat) :
    runUntil length target (fuel + 1) task =
      ((advance length false task).1 ++ (runUntil length target fuel (advance length false task).2).1,
        (runUntil length target fuel (advance length false task).2).2) := by
  simp only [runUntil, htime, if_pos come]

/-- Time passes, and with enough fuel nothing is left undone. -/
theorem Runs.runUntil {base : Nat} (h : task.Runs loop) (steady : loop.Steady first)
    (positive : 0 < task.interval) (ahead : task.now ≤ target) (late : base ≤ task.now - TickLoop.grace)
    (fuel : Nat) (enough : 2 * target + 3 ≤ loop.progress base target + fuel) :
    ∃ next, GoesOn first target task loop (runUntil length target fuel task) next ∧
      target < next.nextTime := by
  -- the loop comes further with each thing that it does, so the fuel lasts
  induction fuel generalizing task loop with
  | zero =>
    have hbase : base ≤ target := Nat.le_trans late (Nat.le_trans (Nat.sub_le _ _) ahead)
    exact ⟨loop, .refl h steady target, TickLoop.lt_nextTime h.uncancelled hbase enough⟩
  | succ fuel ih =>
    by_cases come : loop.nextTime ≤ target
    · have hmoment : max task.now loop.nextTime ≤ target := Nat.max_le.mpr ⟨ahead, come⟩
      obtain ⟨middle, hmiddle, hfurther⟩ := h.advance length steady positive hmoment late
      have hpositive := positive
      rw [← hmiddle.interval] at hpositive
      have hclock : task.now ≤ (PeriodicTask.advance length false task).2.now := by
        rw [hmiddle.clock]
        exact Nat.le_max_left _ _
      obtain ⟨next, hnext, hlater⟩ := ih hmiddle.runs hmiddle.steady hpositive
        (by rw [hmiddle.clock]; exact hmoment) (Nat.le_trans late (Nat.sub_le_sub_right hclock _)) (by omega)
      rw [runUntil_succ h.nextTime come]
      refine ⟨next, ⟨hnext.runs, hmiddle.continues.trans hnext.continues, hnext.steady,
        hnext.interval.trans hmiddle.interval, hnext.clock, ?_⟩, hlater⟩
      have hevents := hnext.events
      rw [hmiddle.continues.action] at hevents
      exact (hmiddle.events.mono hmoment).append hevents
    · rw [runUntil_early]
      · exact ⟨loop, .refl h steady target, Nat.not_le.mp come⟩
      · intro time htime
        rw [h.nextTime, Option.some_inj] at htime
        omega

/-- The first thing that an idle loop does is a tick, at the time that it is due if the clock shows it. -/
theorem Runs.runUntil_first {fuel : Nat} (h : task.Runs loop) (idle : loop.busyUntil = none)
    (come : loop.due ≤ target) (enough : 0 < fuel) :
    ∃ later, (PeriodicTask.runUntil length target fuel task).1 =
      .began (max task.now loop.due) loop.action :: later := by
  obtain ⟨fuel, rfl⟩ := Nat.exists_eq_add_of_lt enough
  have htime : loop.nextTime = loop.due := by simp [TickLoop.nextTime, idle, h.uncancelled]
  have hnext := h.nextTime
  rw [htime] at hnext
  rw [runUntil_succ hnext come, advance_single h.loops, TickLoop.poll_idle idle, htime,
    TickLoop.pollIdle_ticks (Nat.le_max_right _ _) (by simp [h.uncancelled])]
  obtain ⟨later, hlater⟩ := TickLoop.beginTick_begins length task.interval (max task.now loop.due) loop
  exact ⟨later ++ _, by rw [← List.cons_append, ← hlater]⟩

/-! ## A stop -/

theorem isAlive_single (h : task.loops = [loop]) : task.isAlive loop.number = true := by
  simp [isAlive, h]

theorem isAlive_none {number : Nat} (h : task.loops = []) : task.isAlive number = false := by
  simp [isAlive, h]

theorem join_gone {number : Nat} (gone : task.isAlive number = false) (lost : Nat) :
    task.join length number lost = some ([], task) := by
  rw [join, gone]
  rfl

theorem join_zero {number : Nat} (alive : task.isAlive number = true) :
    task.join length number 0 =
      if (advance length false task).2.isAlive number then none else some (advance length false task) := by
  rw [join, if_pos alive]
  rfl

theorem join_succ {number : Nat} (alive : task.isAlive number = true) (lost : Nat) :
    task.join length number (lost + 1) =
      ((advance length true task).2.join length number lost).map fun reply =>
        ((advance length true task).1 ++ reply.1, reply.2) := by
  rw [join, if_pos alive]
  simp

/-- A loop that is cancelled has left at the next opportunity, unless a tick goes first. -/
theorem advance_cancelled (single : task.loops = [loop]) (cancelled : loop.cancelled = true)
    (steady : loop.Steady first) (positive : 0 < task.interval) (tickFirst : Bool) :
    ∃ finish loops, (advance length tickFirst task).2 = { task with now := finish, loops } ∧
      task.now ≤ finish ∧ AllOf loop.action first finish (advance length tickFirst task).1 ∧
      (loops = [] ∨ tickFirst = true ∧ ∃ next, loops = [next] ∧ loop.Continues next ∧
        next.Steady first) := by
  have hcome : ∀ time, loop.busyUntil = some time → time ≤ max task.now loop.nextTime := by
    intro time hbusy
    have htime : loop.nextTime = time := by simp [TickLoop.nextTime, hbusy]
    exact htime ▸ Nat.le_max_right _ _
  obtain ⟨hevents, hgone⟩ := TickLoop.poll_cancelled length tickFirst cancelled steady positive hcome
  rw [advance_single single]
  refine ⟨_, _, rfl, Nat.le_max_left _ _, hevents, ?_⟩
  rcases hgone with hnone | ⟨hfirst, next, hnext, hcontinues, hsteady⟩
  · exact .inl (by rw [hnone]; rfl)
  · exact .inr ⟨hfirst, next, by rw [hnext]; rfl, hcontinues, hsteady⟩

/-- However often a tick goes first, a loop that is cancelled has left at some time. -/
theorem join_cancelled (single : task.loops = [loop]) (cancelled : loop.cancelled = true)
    (steady : loop.Steady first) (positive : 0 < task.interval) (lost : Nat) :
    ∃ events finish, task.join length loop.number lost =
        some (events, { task with now := finish, loops := [] }) ∧
      task.now ≤ finish ∧ AllOf loop.action first finish events := by
  induction lost generalizing task loop with
  | zero =>
    obtain ⟨finish, loops, hadvance, hfinish, hevents, hleaves⟩ :=
      advance_cancelled single cancelled steady positive false
    obtain rfl := hleaves.resolve_right fun h => Bool.false_ne_true h.1
    have hgone : (advance length false task).2.isAlive loop.number = false :=
      isAlive_none (by rw [hadvance])
    refine ⟨_, finish, ?_, hfinish, hevents⟩
    rw [join_zero (isAlive_single single), hgone, ← hadvance]
    rfl
  | succ lost ih =>
    obtain ⟨middle, loops, hadvance, hmiddle, hevents, hleaves⟩ :=
      advance_cancelled single cancelled steady positive true
    rw [join_succ (isAlive_single single), hadvance]
    rcases hleaves with rfl | ⟨_, next, rfl, hcontinues, hsteady⟩
    · rw [join_gone (isAlive_none rfl)]
      exact ⟨_, middle, rfl, hmiddle, hevents.append allOf_nil⟩
    · have hsingle : ({ task with now := middle, loops := [next] } : PeriodicTask α).loops = [next] := rfl
      obtain ⟨later, finish, hjoin, hfinish, hlater⟩ :=
        ih hsingle (hcontinues.cancelled.trans cancelled) hsteady positive
      rw [hcontinues.number] at hjoin
      rw [hcontinues.action] at hlater
      rw [hjoin]
      exact ⟨_, finish, rfl, Nat.le_trans hmiddle hfinish, (hevents.mono hfinish).append hlater⟩

/-- A stop is over at some time. Then no loop is alive, and what the last one did up to then is all of its
action. -/
theorem Runs.stop? (h : task.Runs loop) (steady : loop.Steady first) (positive : 0 < task.interval)
    (lost : Nat) : ∃ events next, task.stop? length lost = some (events, next) ∧ next.Rests ∧
      next.interval = task.interval ∧ task.now ≤ next.now ∧ AllOf loop.action first next.now events := by
  have hcancel : task.cancel.loops = [{ loop with cancelled := true }] := by
    simp [cancel, h.loops, h.token]
  have hsteady : Steady first { loop with cancelled := true } := ⟨steady.due, steady.busy⟩
  obtain ⟨events, finish, hjoin, hfinish, hevents⟩ := join_cancelled hcancel rfl hsteady positive lost
  refine ⟨events, { task.cancel with now := finish, loops := [] }, ?_, ⟨rfl, rfl, rfl⟩, rfl, hfinish,
    hevents⟩
  rw [PeriodicTask.stop?, h.handle]
  exact hjoin

end PeriodicTask

end RelayGateway
