import Mathlib.Data.List.Induction
import Mathlib.Data.List.Nodup
import RelayGateway.Proofs.Balance.Cooling

/-! # Histories of cooldowns

* `CooldownCall`, `CooldownTable.answer`, `CooldownTable.after`, `CooldownTable.transcript`: the calls that
  are made of a table in the course of time, and what each of them yields.
* `lastEffective`: when the cooldown of a pair began, read from the calls alone.
* `CooldownTable.Reflects`: a table agrees with the calls made of it. One call keeps it
  (`Reflects.answer`), so a history does (`reflects_after`).
* `cooldowns_refine`: a pair is cooling if its last effective set is recent enough, no sweep can be told from
  the answers to the other calls, and a sweep removes what no longer cools.
-/

set_option autoImplicit false

namespace RelayGateway

/-! ## Calls and their answers -/

/-- A call that is made of a table of cooldowns, with its time. -/
inductive CooldownCall where
  | set (id : ChannelId) (key : String) (now : Instant)
  | check (id : ChannelId) (key : String) (now : Instant)
  | sweep (now : Instant)
  deriving DecidableEq

namespace CooldownCall

def now : CooldownCall → Instant
  | .set _ _ now => now
  | .check _ _ now => now
  | .sweep now => now

def isSweep : CooldownCall → Bool
  | .sweep _ => true
  | .set .. | .check .. => false

end CooldownCall

inductive CooldownAnswer where
  | cooling (cooling : Bool)
  | removed (count : Nat)
  deriving DecidableEq

/-- No call is made before one that precedes it. -/
def InOrderOfTime (history : List CooldownCall) : Prop :=
  history.Pairwise fun earlier later => earlier.now ≤ later.now

instance (history : List CooldownCall) : Decidable (InOrderOfTime history) :=
  inferInstanceAs (Decidable (List.Pairwise _ history))

namespace CooldownTable

def answer (table : CooldownTable) : CooldownCall → CooldownAnswer × CooldownTable
  | .set id key now => (.cooling (table.set id key now).1, (table.set id key now).2)
  | .check id key now => (.cooling (table.isCooling id key now), table)
  | .sweep now => (.removed (table.sweep now).1, (table.sweep now).2)

/-- The table after a history. -/
def after (table : CooldownTable) (history : List CooldownCall) : CooldownTable :=
  history.foldl (fun table call => (table.answer call).2) table

/-- The calls of a history with their answers. -/
def transcript (table : CooldownTable) : List CooldownCall → List (CooldownCall × CooldownAnswer)
  | [] => []
  | call :: later => (call, (table.answer call).1) :: (table.answer call).2.transcript later

theorem after_concat (table : CooldownTable) (past : List CooldownCall) (call : CooldownCall) :
    table.after (past ++ [call]) = ((table.after past).answer call).2 := by
  rw [after, List.foldl_append]
  rfl

theorem transcript_concat (table : CooldownTable) (past : List CooldownCall) (call : CooldownCall) :
    table.transcript (past ++ [call]) =
      table.transcript past ++ [(call, ((table.after past).answer call).1)] := by
  induction past generalizing table with
  | nil => rfl
  | cons first past ih =>
    rw [List.cons_append, transcript, transcript, ih, List.cons_append]
    rfl

end CooldownTable

/-! ## The meaning of a history -/

/-- A pair can cool at all: the channel has an id, the key is not empty, and cooldowns take time. -/
def CanCool (duration : Nat) (id : ChannelId) (key : String) : Prop :=
  id ≠ 0 ∧ key ≠ "" ∧ 0 < duration

instance (duration : Nat) (id : ChannelId) (key : String) : Decidable (CanCool duration id key) :=
  inferInstanceAs (Decidable (_ ∧ _ ∧ _))

/-- The time of the last effective set of the pair, given the one before the call. -/
def nextEffective (duration : Nat) (id : ChannelId) (key : String) (last : Option Instant) :
    CooldownCall → Option Instant
  | .set other model now =>
    if (other = id ∧ model = key) ∧ CanCool duration id key ∧ ∀ start ∈ last, start + duration ≤ now
    then some now
    else last
  | .check .. | .sweep _ => last

/-- The time of the last effective set of the pair: a set of a pair that can cool is effective unless the
effective one before it was made less than `duration` ago. -/
def lastEffective (duration : Nat) (id : ChannelId) (key : String) (history : List CooldownCall) :
    Option Instant :=
  history.foldl (nextEffective duration id key) none

section Meaning

variable {duration : Nat} {id : ChannelId} {key : String}

theorem lastEffective_concat (past : List CooldownCall) (call : CooldownCall) :
    lastEffective duration id key (past ++ [call]) =
      nextEffective duration id key (lastEffective duration id key past) call := by
  rw [lastEffective, List.foldl_append]
  rfl

/-- Sweeps have no part in the meaning of a history. -/
theorem lastEffective_unswept (history : List CooldownCall) :
    lastEffective duration id key (history.filter fun call => !call.isSweep) =
      lastEffective duration id key history := by
  induction history using List.reverseRecOn with
  | nil => rfl
  | append_singleton past call ih =>
    rw [List.filter_append, lastEffective_concat, ← ih]
    cases call with
    | set other model now => exact lastEffective_concat _ _
    | check other model now => exact lastEffective_concat _ _
    | sweep now =>
      rw [List.filter_singleton]
      exact congrArg _ (List.append_nil _)

end Meaning

namespace CooldownTable

variable {table : CooldownTable} {duration : Nat} {past : List CooldownCall}
variable {id : ChannelId} {key : String} {now deadline : Instant}

/-! ## Tables of distinct pairs -/

def pairOf (entry : CooldownEntry) : ChannelId × String := (entry.channel, entry.model)

/-- The pairs that the table has a deadline for, expired or not. -/
def pairs (table : CooldownTable) : List (ChannelId × String) := table.entries.map pairOf

theorem deadline?_eq_some_iff (distinct : table.pairs.Nodup) :
    table.deadline? id key = some deadline ↔ ⟨id, key, deadline⟩ ∈ table.entries := by
  refine ⟨deadline?_eq_some, fun hmem => ?_⟩
  obtain ⟨other, hother⟩ := deadline?_isSome hmem
  have hsame := List.inj_on_of_nodup_map distinct hmem (deadline?_eq_some hother) rfl
  rw [hother, (CooldownEntry.mk.inj hsame).2.2]

theorem isCooling_eq_true : table.isCooling id key now = true ↔
    ∃ deadline, table.deadline? id key = some deadline ∧ now < deadline := by
  unfold isCooling
  cases table.deadline? id key with
  | none => simp
  | some deadline => simp

theorem accepts_iff : table.accepts id key = true ↔ CanCool table.duration id key := by
  simp [accepts, CanCool, Nat.pos_iff_ne_zero, and_assoc]

theorem set_fst (table : CooldownTable) (id : ChannelId) (key : String) (now : Instant) :
    (table.set id key now).1 = table.accepts id key := by
  unfold CooldownTable.set
  cases table.accepts id key with
  | false => rfl
  | true => cases table.isCooling id key now <;> rfl

theorem pairs_put_nodup (distinct : table.pairs.Nodup) :
    (table.put id key deadline).pairs.Nodup := by
  have kept : (table.entries.filter fun e => !(e.channel == id && e.model == key)).Sublist
      table.entries := List.filter_sublist
  unfold pairs put
  rw [List.map_append, List.nodup_append]
  refine ⟨distinct.sublist (kept.map pairOf), List.nodup_singleton _, ?_⟩
  intro pair hpair other hother
  obtain ⟨entry, hentry, rfl⟩ := List.mem_map.mp hpair
  have hdifferent := (List.mem_filter.mp hentry).2
  simp only [List.map_singleton, List.mem_singleton] at hother
  intro hsame
  obtain ⟨hid, hkey⟩ := Prod.mk.inj (hsame.trans hother)
  simp [hid, hkey] at hdifferent

theorem deadline?_put_own (table : CooldownTable) (id : ChannelId) (key : String)
    (deadline : Instant) : (table.put id key deadline).deadline? id key = some deadline := by
  have present : ⟨id, key, deadline⟩ ∈ (table.put id key deadline).entries :=
    mem_put.mpr (.inr rfl)
  obtain ⟨other, hother⟩ := deadline?_isSome present
  have honly := (until_put table id key deadline deadline).only _ (deadline?_eq_some hother) rfl rfl
  rw [hother, show other = deadline from honly]

theorem pairs_sweep_nodup (distinct : table.pairs.Nodup) (now : Instant) :
    (table.sweep now).2.pairs.Nodup :=
  distinct.sublist (List.filter_sublist.map pairOf)

/-- What a sweep leaves: the deadlines that are still to come. -/
theorem deadline?_sweep (distinct : table.pairs.Nodup) :
    (table.sweep now).2.deadline? id key = some deadline ↔
      table.deadline? id key = some deadline ∧ now < deadline := by
  rw [deadline?_eq_some_iff (pairs_sweep_nodup distinct now), deadline?_eq_some_iff distinct]
  show _ ∈ table.entries.filter _ ↔ _
  rw [List.mem_filter, decide_eq_true_iff]

/-- The pairs whose deadline has come. -/
def expired (table : CooldownTable) (now : Instant) : List (ChannelId × String) :=
  (table.entries.filter fun entry => !decide (now < entry.deadline)).map pairOf

theorem expired_nodup (distinct : table.pairs.Nodup) (now : Instant) : (table.expired now).Nodup :=
  distinct.sublist (List.filter_sublist.map pairOf)

theorem isCooling_eq_false_of_mem (distinct : table.pairs.Nodup)
    (h : ⟨id, key, deadline⟩ ∈ table.entries) :
    table.isCooling id key now = false ↔ ¬ now < deadline := by
  unfold isCooling
  rw [(deadline?_eq_some_iff distinct).mpr h]
  exact decide_eq_false_iff_not

theorem mem_expired (distinct : table.pairs.Nodup) :
    (id, key) ∈ table.expired now ↔
      (table.deadline? id key).isSome = true ∧ table.isCooling id key now = false := by
  have lapsed : ∀ entry : CooldownEntry,
      (!decide (now < entry.deadline)) = true ↔ ¬ now < entry.deadline := by simp
  unfold expired
  simp only [List.mem_map, List.mem_filter, lapsed]
  constructor
  · rintro ⟨⟨channel, model, deadline⟩, ⟨hentry, hover⟩, hpair⟩
    obtain ⟨rfl, rfl⟩ := Prod.mk.inj hpair
    rw [isCooling_eq_false_of_mem distinct hentry, (deadline?_eq_some_iff distinct).mpr hentry]
    exact ⟨rfl, hover⟩
  · rintro ⟨hsome, hover⟩
    obtain ⟨deadline, hdeadline⟩ := Option.isSome_iff_exists.mp hsome
    have hentry := deadline?_eq_some hdeadline
    rw [isCooling_eq_false_of_mem distinct hentry] at hover
    exact ⟨_, ⟨hentry, hover⟩, rfl⟩

theorem sweep_fst (table : CooldownTable) (now : Instant) :
    (table.sweep now).1 = (table.expired now).length := by
  have hsplit := List.length_eq_countP_add_countP (l := table.entries)
    fun entry => decide (now < entry.deadline)
  simp only [List.countP_eq_length_filter, Bool.not_eq_true, Bool.decide_eq_false] at hsplit
  unfold expired
  rw [List.length_map]
  show table.entries.length - _ = _
  rw [hsplit, Nat.add_sub_cancel_left]

/-! ## A table that agrees with a history -/

/-- The deadlines of the table are those of the last effective sets, where a deadline may be missing once the
time it stands for has come. -/
structure Reflects (table : CooldownTable) (duration : Nat) (past : List CooldownCall) : Prop where
  lasting : table.duration = duration
  distinct : table.pairs.Nodup
  dated : ∀ id key deadline, table.deadline? id key = some deadline →
    ∃ start, lastEffective duration id key past = some start ∧ deadline = start + duration
  kept : ∀ id key start, lastEffective duration id key past = some start →
    table.deadline? id key = some (start + duration) ∨ ∃ call ∈ past, start + duration ≤ call.now

theorem reflects_nil (duration : Nat) : Reflects ⟨duration, []⟩ duration [] where
  lasting := rfl
  distinct := List.nodup_nil
  dated := nofun
  kept := nofun

/-- At the time of the last call and later on, the history says what is cooling. -/
theorem Reflects.isCooling_iff (h : table.Reflects duration past)
    (latest : ∀ call ∈ past, call.now ≤ now) :
    table.isCooling id key now = true ↔
      ∃ start, lastEffective duration id key past = some start ∧ now < start + duration := by
  rw [isCooling_eq_true]
  constructor
  · rintro ⟨deadline, hdeadline, hbefore⟩
    obtain ⟨start, hstart, rfl⟩ := h.dated id key deadline hdeadline
    exact ⟨start, hstart, hbefore⟩
  · rintro ⟨start, hstart, hbefore⟩
    rcases h.kept id key start hstart with hdeadline | ⟨call, hcall, hover⟩
    · exact ⟨start + duration, hdeadline, hbefore⟩
    · exact absurd hbefore (Int.not_lt.mpr (Int.le_trans hover (latest call hcall)))

theorem Reflects.accepts_iff (h : table.Reflects duration past) :
    table.accepts id key = true ↔ CanCool duration id key := by
  rw [CooldownTable.accepts_iff, h.lasting]

/-- After one more call, too, the deadline of an effective set is there or its time has come. -/
theorem Reflects.kept_concat (h : table.Reflects duration past) {start : Instant}
    (hstart : lastEffective duration id key past = some start) (call : CooldownCall) :
    table.deadline? id key = some (start + duration) ∨
      ∃ earlier ∈ past ++ [call], start + duration ≤ earlier.now := by
  rcases h.kept id key start hstart with hdeadline | ⟨earlier, hearlier, hover⟩
  · exact .inl hdeadline
  · exact .inr ⟨earlier, List.mem_append_left _ hearlier, hover⟩

/-- A call that changes neither the table nor what it should hold. -/
theorem Reflects.unchanged (h : table.Reflects duration past) {call : CooldownCall}
    (same : ∀ id key, lastEffective duration id key (past ++ [call]) =
      lastEffective duration id key past) : table.Reflects duration (past ++ [call]) where
  lasting := h.lasting
  distinct := h.distinct
  dated := fun id key deadline hdeadline => by
    rw [same]
    exact h.dated id key deadline hdeadline
  kept := fun id key start hstart => by
    rw [same] at hstart
    exact h.kept_concat hstart call

/-- A set that is not effective. -/
theorem Reflects.idle_set (h : table.Reflects duration past)
    (idle : CanCool duration id key →
      ∃ start, lastEffective duration id key past = some start ∧ now < start + duration) :
    table.Reflects duration (past ++ [.set id key now]) := by
  apply h.unchanged
  intro other model
  rw [lastEffective_concat]
  apply if_neg
  rintro ⟨⟨rfl, rfl⟩, hcan, hrested⟩
  obtain ⟨start, hstart, hbefore⟩ := idle hcan
  exact Int.not_lt.mpr (hrested start hstart) hbefore

theorem lastEffective_set (can : CanCool duration id key)
    (rested : ∀ start, lastEffective duration id key past = some start → start + duration ≤ now)
    (other : ChannelId) (model : String) :
    lastEffective duration other model (past ++ [.set id key now]) =
      if id = other ∧ key = model then some now else lastEffective duration other model past := by
  rw [lastEffective_concat]
  show (if _ then _ else _) = _
  by_cases own : id = other ∧ key = model
  · obtain ⟨rfl, rfl⟩ := own
    rw [if_pos ⟨⟨rfl, rfl⟩, can, rested⟩, if_pos ⟨rfl, rfl⟩]
  · rw [if_neg fun heffective => own heffective.1, if_neg own]

/-- A set that is effective. -/
theorem Reflects.effective_set (h : table.Reflects duration past) (can : CanCool duration id key)
    (rested : ∀ start, lastEffective duration id key past = some start → start + duration ≤ now) :
    (table.put id key (now + duration)).Reflects duration (past ++ [.set id key now]) where
  lasting := h.lasting
  distinct := pairs_put_nodup h.distinct
  dated := fun other model deadline hdeadline => by
    rw [lastEffective_set can rested]
    by_cases own : id = other ∧ key = model
    · obtain ⟨rfl, rfl⟩ := own
      rw [deadline?_put_own, Option.some_inj] at hdeadline
      exact ⟨now, if_pos ⟨rfl, rfl⟩, hdeadline.symm⟩
    · rw [deadline?_put_other own] at hdeadline
      rw [if_neg own]
      exact h.dated other model deadline hdeadline
  kept := fun other model start hstart => by
    rw [lastEffective_set can rested] at hstart
    by_cases own : id = other ∧ key = model
    · obtain ⟨rfl, rfl⟩ := own
      rw [if_pos ⟨rfl, rfl⟩, Option.some_inj] at hstart
      rw [deadline?_put_own, hstart]
      exact .inl rfl
    · rw [if_neg own] at hstart
      rw [deadline?_put_other own]
      exact h.kept_concat hstart _

theorem Reflects.set (h : table.Reflects duration past) (latest : ∀ call ∈ past, call.now ≤ now) :
    (table.set id key now).2.Reflects duration (past ++ [.set id key now]) := by
  unfold CooldownTable.set
  split
  · rename_i haccepted
    split
    · rename_i hcooling
      exact h.idle_set fun _ => (h.isCooling_iff latest).mp hcooling
    · rename_i hrested
      rw [h.isCooling_iff latest] at hrested
      rw [h.lasting]
      apply h.effective_set (h.accepts_iff.mp haccepted)
      intro start hstart
      exact Int.not_lt.mp fun hbefore => hrested ⟨start, hstart, hbefore⟩
  · rename_i hrefused
    exact h.idle_set fun hcan => absurd (h.accepts_iff.mpr hcan) hrefused

theorem Reflects.sweep (h : table.Reflects duration past) (now : Instant) :
    (table.sweep now).2.Reflects duration (past ++ [.sweep now]) where
  lasting := h.lasting
  distinct := pairs_sweep_nodup h.distinct now
  dated := fun id key deadline hdeadline => by
    rw [lastEffective_concat]
    exact h.dated id key deadline ((deadline?_sweep h.distinct).mp hdeadline).1
  kept := fun id key start hstart => by
    rw [lastEffective_concat] at hstart
    rcases h.kept_concat hstart (.sweep now) with hdeadline | hover
    · by_cases hbefore : now < start + duration
      · exact .inl ((deadline?_sweep h.distinct).mpr ⟨hdeadline, hbefore⟩)
      · exact .inr ⟨.sweep now, by simp, Int.not_lt.mp hbefore⟩
    · exact .inr hover

theorem Reflects.answer (h : table.Reflects duration past) {call : CooldownCall}
    (latest : ∀ earlier ∈ past, earlier.now ≤ call.now) :
    (table.answer call).2.Reflects duration (past ++ [call]) := by
  cases call with
  | set id key now => exact h.set latest
  | check id key now => exact h.unchanged fun _ _ => lastEffective_concat _ _
  | sweep now => exact h.sweep now

end CooldownTable

theorem inOrderOfTime_concat {past : List CooldownCall} {call : CooldownCall} :
    InOrderOfTime (past ++ [call]) ↔
      InOrderOfTime past ∧ ∀ earlier ∈ past, earlier.now ≤ call.now := by
  unfold InOrderOfTime
  rw [List.pairwise_append]
  simp

namespace CooldownTable

variable {duration : Nat} {history : List CooldownCall}

theorem reflects_after (duration : Nat) (ordered : InOrderOfTime history) :
    ((CooldownTable.mk duration []).after history).Reflects duration history := by
  -- on the last call: it finds the table of all calls before it
  induction history using List.reverseRecOn with
  | nil => exact reflects_nil duration
  | append_singleton past call ih =>
    obtain ⟨hpast, hlatest⟩ := inOrderOfTime_concat.mp ordered
    rw [after_concat]
    exact (ih hpast).answer hlatest

/-! ## What is seen of a history -/

/-- Tables of histories that mean the same give the same answers, to all calls but sweeps. -/
theorem Reflects.answer_congr {table other : CooldownTable} {past shorter : List CooldownCall}
    {call : CooldownCall} (h : table.Reflects duration past) (hother : other.Reflects duration shorter)
    (same : ∀ id key, lastEffective duration id key shorter = lastEffective duration id key past)
    (latest : ∀ earlier ∈ past, earlier.now ≤ call.now)
    (latestOther : ∀ earlier ∈ shorter, earlier.now ≤ call.now) (spoken : call.isSweep = false) :
    (table.answer call).1 = (other.answer call).1 := by
  cases call with
  | set id key now =>
    have haccepts : table.accepts id key = other.accepts id key := by
      rw [Bool.eq_iff_iff, h.accepts_iff, hother.accepts_iff]
    show CooldownAnswer.cooling _ = .cooling _
    rw [set_fst, set_fst, haccepts]
  | check id key now =>
    have hpast : ∀ earlier ∈ past, earlier.now ≤ now := latest
    have hshorter : ∀ earlier ∈ shorter, earlier.now ≤ now := latestOther
    have hcooling : table.isCooling id key now = other.isCooling id key now := by
      rw [Bool.eq_iff_iff, h.isCooling_iff hpast, hother.isCooling_iff hshorter, same]
    exact congrArg CooldownAnswer.cooling hcooling
  | sweep now => cases spoken

/-- Without its sweeps, a history has the transcript that it has with them, as far as the other calls are
concerned. -/
theorem transcript_unswept (duration : Nat) (ordered : InOrderOfTime history) :
    ((CooldownTable.mk duration []).transcript history).filter (fun entry => !entry.1.isSweep) =
      (CooldownTable.mk duration []).transcript (history.filter fun call => !call.isSweep) := by
  induction history using List.reverseRecOn with
  | nil => rfl
  | append_singleton past call ih =>
    obtain ⟨hpast, hlatest⟩ := inOrderOfTime_concat.mp ordered
    rw [transcript_concat, List.filter_append, List.filter_append, ih hpast]
    cases hsweep : call.isSweep with
    | true => simp [hsweep]
    | false =>
      have hanswer := (reflects_after duration hpast).answer_congr
        (reflects_after duration (hpast.filter _)) (fun _ _ => lastEffective_unswept past) hlatest
        (fun earlier hearlier => hlatest earlier (List.mem_filter.mp hearlier).1) hsweep
      simp [hsweep, transcript_concat, hanswer]

/-- A sweep counts the pairs that have a deadline but no longer cool, each of them once, and removes the
deadlines of these pairs only. -/
structure RemovesExpired (table : CooldownTable) (now : Instant) : Prop where
  counted : ∃ expired : List (ChannelId × String), expired.Nodup ∧
    (∀ id key, (id, key) ∈ expired ↔
      (table.deadline? id key).isSome = true ∧ table.isCooling id key now = false) ∧
    (table.sweep now).1 = expired.length
  rest : ∀ id key, (table.sweep now).2.deadline? id key =
    if table.isCooling id key now then table.deadline? id key else none

theorem removesExpired {table : CooldownTable} (distinct : table.pairs.Nodup) (now : Instant) :
    table.RemovesExpired now where
  counted := ⟨table.expired now, expired_nodup distinct now, fun _ _ => mem_expired distinct,
    sweep_fst table now⟩
  rest := by
    intro id key
    ext deadline
    rw [deadline?_sweep distinct]
    cases hcooling : table.isCooling id key now with
    | true =>
      obtain ⟨stop, hstop, hbefore⟩ := isCooling_eq_true.mp hcooling
      rw [if_pos rfl, hstop, Option.some_inj]
      exact ⟨fun h => h.1, fun h => ⟨h, h ▸ hbefore⟩⟩
    | false =>
      simp only [Bool.false_eq_true, if_false, reduceCtorEq, iff_false]
      intro hdeadline
      rw [isCooling_eq_true.mpr ⟨deadline, hdeadline⟩] at hcooling
      cases hcooling

end CooldownTable

/-- Over every history that begins with an empty table, a pair is cooling at a check exactly if its last
effective set is less than `duration` ago. The answers to sets and checks stay the same if any of the sweeps
are left out. Each sweep counts the pairs that have a deadline and no longer cool, and removes no others. -/
theorem cooldowns_refine (duration : Nat) (history : List CooldownCall)
    (ordered : InOrderOfTime history) :
    let start : CooldownTable := ⟨duration, []⟩
    (∀ earlier id key now later, history = earlier ++ .check id key now :: later →
        ((start.after earlier).isCooling id key now = true ↔
          ∃ since, lastEffective duration id key earlier = some since ∧ now < since + duration)) ∧
      (∀ fewer : List CooldownCall, fewer.Sublist history →
        (fewer.filter fun call => !call.isSweep) = history.filter (fun call => !call.isSweep) →
        ((start.transcript fewer).filter fun entry => !entry.1.isSweep) =
          (start.transcript history).filter fun entry => !entry.1.isSweep) ∧
      ∀ earlier now later, history = earlier ++ .sweep now :: later →
        (start.after earlier).RemovesExpired now := by
  intro start
  have upTo : ∀ earlier call later, history = earlier ++ call :: later →
      InOrderOfTime earlier ∧ ∀ before ∈ earlier, before.now ≤ call.now := by
    rintro earlier call later rfl
    rw [List.append_cons] at ordered
    exact inOrderOfTime_concat.mp (List.pairwise_append.mp ordered).1
  refine ⟨?_, ?_, ?_⟩
  · intro earlier id key now later hsplit
    obtain ⟨hearlier, hlatest⟩ := upTo earlier _ later hsplit
    exact (CooldownTable.reflects_after duration hearlier).isCooling_iff hlatest
  · intro fewer hfewer hsame
    rw [CooldownTable.transcript_unswept duration ordered,
      CooldownTable.transcript_unswept duration (ordered.sublist hfewer), hsame]
  · intro earlier now later hsplit
    obtain ⟨hearlier, _⟩ := upTo earlier _ later hsplit
    exact CooldownTable.removesExpired (CooldownTable.reflects_after duration hearlier).distinct now

/-- Calls right before and right at the end of a cooldown of five seconds. -/
def boundaryCalls : List CooldownCall :=
  [.set 1 "m" 0, .sweep 4999, .set 1 "m" 4999, .check 1 "m" 5000, .sweep 5000, .set 1 "m" 5000,
    .check 1 "m" 9999]

theorem boundaryCalls_refine :
    InOrderOfTime boundaryCalls ∧
      lastEffective 5000 1 "m" (boundaryCalls.take 3) = some 0 ∧
      ((CooldownTable.mk 5000 []).after (boundaryCalls.take 3)).isCooling 1 "m" 5000 = false ∧
      ((CooldownTable.mk 5000 []).after (boundaryCalls.take 4)).RemovesExpired 5000 ∧
      ((CooldownTable.mk 5000 []).after (boundaryCalls.take 6)).isCooling 1 "m" 9999 = true ∧
      ((CooldownTable.mk 5000 []).transcript (boundaryCalls.eraseIdx 4)).filter
          (fun entry => !entry.1.isSweep) =
        ((CooldownTable.mk 5000 []).transcript boundaryCalls).filter
          fun entry => !entry.1.isSweep := by
  have ordered : InOrderOfTime boundaryCalls := by decide
  have hfirst : lastEffective 5000 1 "m" (boundaryCalls.take 3) = some 0 := by decide +kernel
  have hlast : lastEffective 5000 1 "m" (boundaryCalls.take 6) = some 5000 := by decide +kernel
  obtain ⟨checks, unseen, sweeps⟩ := cooldowns_refine 5000 boundaryCalls ordered
  refine ⟨ordered, hfirst, ?_, ?_, ?_, ?_⟩
  · rw [← Bool.not_eq_true, checks _ 1 "m" 5000 (boundaryCalls.drop 4) rfl, hfirst]
    simp
  · exact sweeps _ 5000 (boundaryCalls.drop 5) rfl
  · exact (checks _ 1 "m" 9999 [] rfl).mpr ⟨5000, hlast, by decide⟩
  · exact unseen _ (List.eraseIdx_sublist boundaryCalls 4) rfl

end RelayGateway
