import RelayGateway.Balance.Cooldown

/-! # Cooling for a while

* `CooldownTable.Until`: a pair of a channel and a model key cools up to a moment and no longer.
* `until_set`: so it is after a cooldown has been started.
* `Until.set`, `Until.sweep`, `Until.later`: what keeps it so.
* `Until.isCooling`: what is seen of it.
-/

set_option autoImplicit false

namespace RelayGateway.CooldownTable

/-- Every deadline of the pair is `stop`, and before it comes the table has it. -/
structure Until (table : CooldownTable) (id : ChannelId) (key : String) (stop now : Instant) :
    Prop where
  only : ∀ entry ∈ table.entries, entry.channel = id → entry.model = key → entry.deadline = stop
  kept : now < stop → ⟨id, key, stop⟩ ∈ table.entries

variable {table : CooldownTable} {id : ChannelId} {key : String} {stop now : Instant}

theorem deadline?_eq_some {deadline : Instant} (h : table.deadline? id key = some deadline) :
    ⟨id, key, deadline⟩ ∈ table.entries := by
  obtain ⟨entry, hentry, rfl⟩ := Option.map_eq_some_iff.mp h
  have hmem := List.mem_of_find?_eq_some hentry
  have hpair := List.find?_some hentry
  simp only [Bool.and_eq_true, beq_iff_eq] at hpair
  obtain ⟨rfl, rfl⟩ := hpair
  exact hmem

theorem deadline?_isSome {deadline : Instant} (h : ⟨id, key, deadline⟩ ∈ table.entries) :
    ∃ other, table.deadline? id key = some other := by
  cases hfind : table.entries.find? fun e => e.channel == id && e.model == key with
  | none =>
    have hmiss := List.find?_eq_none.mp hfind _ h
    simp at hmiss
  | some entry => exact ⟨entry.deadline, by rw [deadline?, hfind, Option.map_some]⟩

theorem Until.isCooling (h : table.Until id key stop now) :
    table.isCooling id key now = decide (now < stop) := by
  unfold CooldownTable.isCooling
  split
  · rename_i deadline hdeadline
    have hstop := h.only _ (deadline?_eq_some hdeadline) rfl rfl
    rw [show deadline = stop from hstop]
  · rename_i hnone
    have hover : ¬ now < stop := by
      intro hbefore
      obtain ⟨other, hother⟩ := deadline?_isSome (h.kept hbefore)
      rw [hnone] at hother
      cases hother
    rw [decide_eq_false hover]

theorem mem_put {other : ChannelId} {model : String} {deadline : Instant} {entry : CooldownEntry} :
    entry ∈ (table.put other model deadline).entries ↔
      (entry ∈ table.entries ∧ ¬ (entry.channel = other ∧ entry.model = model)) ∨
        entry = ⟨other, model, deadline⟩ := by
  have kept : (!(entry.channel == other && entry.model == model)) = true ↔
      ¬ (entry.channel = other ∧ entry.model = model) := by
    rw [Bool.not_eq_true', ← Bool.not_eq_true, Bool.and_eq_true, beq_iff_eq, beq_iff_eq]
  unfold put
  rw [List.mem_append, List.mem_filter, List.mem_singleton, kept]

theorem until_put (table : CooldownTable) (id : ChannelId) (key : String) (stop now : Instant) :
    (table.put id key stop).Until id key stop now := by
  constructor
  · intro entry hentry hid hkey
    rcases mem_put.mp hentry with ⟨_, hother⟩ | rfl
    · exact absurd ⟨hid, hkey⟩ hother
    · rfl
  · intro _
    exact mem_put.mpr (.inr rfl)

theorem deadline?_put_other {other : ChannelId} {model : String}
    (different : ¬ (other = id ∧ model = key)) (deadline : Instant) :
    (table.put other model deadline).deadline? id key = table.deadline? id key := by
  have miss : (other == id && model == key) = false := by
    rw [← Bool.not_eq_true, Bool.and_eq_true, beq_iff_eq, beq_iff_eq]
    exact different
  have kept : (table.entries.filter fun e => !(e.channel == other && e.model == model)).find?
      (fun e => e.channel == id && e.model == key) =
        table.entries.find? fun e => e.channel == id && e.model == key := by
    rw [List.find?_filter]
    congr 1
    funext entry
    rw [Bool.eq_iff_iff, decide_eq_true_iff]
    refine ⟨fun h => h.2, fun h => ⟨?_, h⟩⟩
    rw [Bool.and_eq_true, beq_iff_eq, beq_iff_eq] at h
    rw [Bool.not_eq_true', ← Bool.not_eq_true, Bool.and_eq_true, beq_iff_eq, beq_iff_eq]
    rintro ⟨hchannel, hmodel⟩
    exact different ⟨hchannel.symm.trans h.1, hmodel.symm.trans h.2⟩
  unfold deadline? put
  rw [List.find?_append, kept, List.find?_singleton]
  simp only [miss, Bool.false_eq_true, if_false, Option.or_none]

/-- A cooldown that is started lasts as long as cooldowns do. -/
theorem until_set (accepted : table.accepts id key = true)
    (rested : table.isCooling id key now = false) :
    (table.set id key now).2.Until id key (now + table.duration) now := by
  unfold set
  rw [if_pos accepted, if_neg (by simp [rested])]
  exact until_put table id key (now + table.duration) now

/-- A pair for which a cooldown was asked cools, whether it did before or not. -/
theorem isCooling_set (accepted : table.accepts id key = true) (lasting : 0 < table.duration) :
    (table.set id key now).2.isCooling id key now = true := by
  cases hcooling : table.isCooling id key now with
  | true =>
    unfold CooldownTable.set
    rw [if_pos accepted, if_pos hcooling]
    exact hcooling
  | false =>
    rw [(until_set accepted hcooling).isCooling, decide_eq_true_iff]
    exact Int.lt_add_of_pos_right now (Int.natCast_pos.mpr lasting)

theorem Until.put_other (h : table.Until id key stop now) {other : ChannelId} {model : String}
    (different : ¬ (other = id ∧ model = key)) (deadline : Instant) :
    (table.put other model deadline).Until id key stop now := by
  constructor
  · intro entry hentry hid hkey
    rcases mem_put.mp hentry with ⟨hmem, _⟩ | rfl
    · exact h.only entry hmem hid hkey
    · exact absurd ⟨hid, hkey⟩ different
  · intro hbefore
    refine mem_put.mpr (.inl ⟨h.kept hbefore, ?_⟩)
    rintro ⟨hid, hkey⟩
    exact different ⟨hid.symm, hkey.symm⟩

/-- A cooldown that is running is not prolonged. -/
theorem Until.set (h : table.Until id key stop now) {other : ChannelId} {model : String}
    (early : other = id → model = key → now < stop) :
    (table.set other model now).2.Until id key stop now := by
  unfold CooldownTable.set
  split
  · split
    · exact h
    · rename_i hrested
      apply h.put_other
      rintro ⟨rfl, rfl⟩
      rw [h.isCooling, decide_eq_true_iff] at hrested
      exact hrested (early rfl rfl)
  · exact h

theorem Until.sweep (h : table.Until id key stop now) :
    (table.sweep now).2.Until id key stop now := by
  constructor
  · intro entry hentry
    exact h.only entry ((List.mem_filter.mp hentry).1)
  · intro hbefore
    apply List.mem_filter.mpr
    exact ⟨h.kept hbefore, decide_eq_true hbefore⟩

theorem Until.later (h : table.Until id key stop now) {moment : Instant} (after : now ≤ moment) :
    table.Until id key stop moment :=
  ⟨h.only, fun hbefore => h.kept (Int.lt_of_le_of_lt after hbefore)⟩

/-- A cooldown of another pair has no effect. -/
theorem deadline?_set_other {other : ChannelId} {model : String}
    (different : ¬ (other = id ∧ model = key)) :
    (table.set other model now).2.deadline? id key = table.deadline? id key := by
  unfold CooldownTable.set
  split
  · split
    · rfl
    · exact deadline?_put_other different _
  · rfl

theorem set_duration (table : CooldownTable) (id : ChannelId) (key : String) (now : Instant) :
    (table.set id key now).2.duration = table.duration := by
  unfold CooldownTable.set
  split
  · split <;> rfl
  · rfl

end RelayGateway.CooldownTable
