import RelayGateway.Proofs.Balance.CooldownHistory

/-! # Cooldowns under a clock that jumps

* `CooldownTable.Regular`: what holds of a table at any time: cooldowns have the length that was asked for, up
  to a week, and only pairs that can cool have a deadline, one each. One call keeps it, whatever the time
  (`Regular.answer`), so every history does (`regular_after`).
* `CooldownTable.deadline?_set`: what a set leaves in the table.
* `sets_truthful`: a set says what the next check will find, and disturbs nothing.
-/

set_option autoImplicit false

namespace RelayGateway

namespace CooldownTable

variable {table : CooldownTable} {seconds : UInt64} {id : ChannelId} {key : String} {now : Instant}

/-- What holds of a table for cooldowns of so many seconds, whatever the clock does. -/
structure Regular (table : CooldownTable) (seconds : UInt64) : Prop where
  lasting : table.duration = min seconds.toNat maxCooldownSeconds * 1000
  distinct : table.pairs.Nodup
  coolable : ∀ entry ∈ table.entries, CanCool table.duration entry.channel entry.model

theorem regular_ofSeconds (seconds : UInt64) : (ofSeconds seconds).Regular seconds where
  lasting := rfl
  distinct := List.nodup_nil
  coolable := nofun

theorem Regular.lasting_pos (h : table.Regular seconds) : 0 < table.duration ↔ seconds ≠ 0 := by
  have hzero : seconds ≠ 0 ↔ 0 < seconds.toNat := by
    rw [Nat.pos_iff_ne_zero, ne_eq, ne_eq, ← UInt64.toNat_inj, UInt64.toNat_zero]
  rw [hzero, h.lasting, maxCooldownSeconds]
  omega

/-! ## One call -/

theorem Regular.put (h : table.Regular seconds) (can : CanCool table.duration id key)
    (deadline : Instant) : (table.put id key deadline).Regular seconds where
  lasting := h.lasting
  distinct := pairs_put_nodup h.distinct
  coolable := by
    intro entry hentry
    rcases mem_put.mp hentry with ⟨hmem, _⟩ | rfl
    · exact h.coolable entry hmem
    · exact can

theorem Regular.set (h : table.Regular seconds) (id : ChannelId) (key : String) (now : Instant) :
    (table.set id key now).2.Regular seconds := by
  unfold CooldownTable.set
  split
  · rename_i haccepted
    split
    · exact h
    · exact h.put (accepts_iff.mp haccepted) _
  · exact h

theorem Regular.sweep (h : table.Regular seconds) (now : Instant) :
    (table.sweep now).2.Regular seconds where
  lasting := h.lasting
  distinct := pairs_sweep_nodup h.distinct now
  coolable := fun entry hentry => h.coolable entry (List.mem_filter.mp hentry).1

theorem Regular.answer (h : table.Regular seconds) (call : CooldownCall) :
    (table.answer call).2.Regular seconds := by
  cases call with
  | set id key now => exact h.set id key now
  | check id key now => exact h
  | sweep now => exact h.sweep now

theorem regular_after (seconds : UInt64) (history : List CooldownCall) :
    ((ofSeconds seconds).after history).Regular seconds := by
  -- on the last call; that the calls are in order of time is nowhere needed
  induction history using List.reverseRecOn with
  | nil => exact regular_ofSeconds seconds
  | append_singleton past call ih =>
    rw [after_concat]
    exact ih.answer call

/-! ## What a set says and does -/

/-- A pair that cools or that cannot cool keeps the deadline it has; any other is given a new one. -/
theorem deadline?_set (table : CooldownTable) (id : ChannelId) (key : String) (now : Instant) :
    (table.set id key now).2.deadline? id key =
      if table.accepts id key = true ∧ table.isCooling id key now = false
      then some (now + table.duration) else table.deadline? id key := by
  unfold CooldownTable.set
  cases table.accepts id key with
  | false => simp
  | true =>
    cases table.isCooling id key now with
    | false => simp [deadline?_put_own]
    | true => simp

/-- A pair that cannot cool has no deadline. -/
theorem Regular.isCooling_eq_false (h : table.Regular seconds)
    (refused : table.accepts id key = false) : table.isCooling id key now = false := by
  cases hcooling : table.isCooling id key now with
  | false => rfl
  | true =>
    obtain ⟨deadline, hdeadline, _⟩ := isCooling_eq_true.mp hcooling
    have hcan := h.coolable _ (deadline?_eq_some hdeadline)
    rw [accepts_iff.mpr hcan] at refused
    cases refused

theorem Regular.isCooling_set (h : table.Regular seconds) (id : ChannelId) (key : String)
    (now : Instant) : (table.set id key now).2.isCooling id key now = (table.set id key now).1 := by
  rw [set_fst]
  cases haccepted : table.accepts id key with
  | true => exact CooldownTable.isCooling_set haccepted (accepts_iff.mp haccepted).2.2
  | false =>
    have hsame : (table.set id key now).2 = table := by
      unfold CooldownTable.set
      rw [haccepted]
      rfl
    rw [hsame]
    exact h.isCooling_eq_false haccepted

end CooldownTable

/-- Whatever calls were made of a table before and at whatever times, a set says what a check finds right
after it: that the pair cools, exactly if the channel has an id, the key is not empty and cooling is on. The
set leaves the deadline of a pair that is cooling as it was and gives a new one only to a pair that can cool,
for as long as was asked for but not longer than a week. It changes no other pair. No deadline is ever stored
for a pair that cannot cool, and none at all while cooling is off. -/
theorem sets_truthful (seconds : UInt64) (history : List CooldownCall) :
    let table := (CooldownTable.ofSeconds seconds).after history
    (∀ entry ∈ table.entries, entry.channel ≠ 0 ∧ entry.model ≠ "" ∧ seconds ≠ 0) ∧
      ∀ (id : ChannelId) (key : String) (now : Instant),
        (table.set id key now).1 = (table.set id key now).2.isCooling id key now ∧
        ((table.set id key now).1 = true ↔ id ≠ 0 ∧ key ≠ "" ∧ seconds ≠ 0) ∧
        (table.isCooling id key now = true →
          (table.set id key now).2.deadline? id key = table.deadline? id key) ∧
        (table.isCooling id key now = false → (table.set id key now).1 = true →
          (table.set id key now).2.deadline? id key =
            some (now + (min seconds.toNat 604800 * 1000 : Nat))) ∧
        ∀ (other : ChannelId) (model : String), ¬ (other = id ∧ model = key) →
          (table.set id key now).2.deadline? other model = table.deadline? other model := by
  intro table
  have regular : table.Regular seconds := CooldownTable.regular_after seconds history
  have can_iff : ∀ id key, CanCool table.duration id key ↔ id ≠ 0 ∧ key ≠ "" ∧ seconds ≠ 0 := by
    intro id key
    rw [CanCool, regular.lasting_pos]
  refine ⟨fun entry hentry => (can_iff _ _).mp (regular.coolable entry hentry), ?_⟩
  intro id key now
  refine ⟨(regular.isCooling_set id key now).symm, ?_, ?_, ?_, ?_⟩
  · rw [CooldownTable.set_fst, CooldownTable.accepts_iff, can_iff]
  · intro cooling
    rw [CooldownTable.deadline?_set, if_neg]
    simp [cooling]
  · intro rested said
    rw [CooldownTable.set_fst] at said
    rw [CooldownTable.deadline?_set, if_pos ⟨said, rested⟩, regular.lasting]
    rfl
  · intro other model different
    apply CooldownTable.deadline?_set_other
    rintro ⟨hid, hkey⟩
    exact different ⟨hid.symm, hkey.symm⟩

/-- The clock is turned back while the pair cools: the set says so, and the deadline stays where it was. -/
theorem turnedBackClock_truthful :
    let table := (CooldownTable.ofSeconds 60).after [.set 1 "m" 10000, .sweep 20000]
    table.isCooling 1 "m" 3000 = true ∧ (table.set 1 "m" 3000).1 = true ∧
      (table.set 1 "m" 3000).2.deadline? 1 "m" = some 70000 ∧
      (table.set 1 "m" 3000).2.deadline? 2 "m" = none := by
  intro table
  have cooling : table.isCooling 1 "m" 3000 = true := by decide
  obtain ⟨_, truthful⟩ := sets_truthful 60 [.set 1 "m" 10000, .sweep 20000]
  obtain ⟨_, accepted, kept, _, others⟩ := truthful 1 "m" 3000
  have hdeadline : table.deadline? 1 "m" = some 70000 := by decide
  have hother : table.deadline? 2 "m" = none := by decide
  exact ⟨cooling, accepted.mpr (by decide), (kept cooling).trans hdeadline,
    (others 2 "m" (by decide)).trans hother⟩

end RelayGateway
