import Mathlib.Data.List.Induction
import Mathlib.Data.List.Nodup
import RelayGateway.Routing.Snapshot

/-! # Tiers in descending order

* `Descending`: every tier has a higher priority than those after it.
* `mem_insertTier`: the tiers after an insertion, one of which has the new member. `insertTier_again`: a
  channel that is named again under the same priority is not listed again.
* `tiersOf`: the tiers that channels form if each is inserted once.
* `Arranged channels tiers`: the tiers are descending, each lists the channels of its priority in their
  order, and no channel is left out. `arranged_tiersOf` says so of the tiers of distinct channels.
* `tiersOf_members`: what is listed, whether or not the channels are distinct.
-/

set_option autoImplicit false

namespace RelayGateway

/-- Every tier has a higher priority than those after it. -/
def Descending (tiers : List Tier) : Prop :=
  tiers.Pairwise fun upper lower => lower.priority < upper.priority

/-- The ids of the channels with the given priority, in order. -/
def idsAt (priority : Int64) (channels : List Channel) : List ChannelId :=
  (channels.filter fun channel => channel.priority == priority).map (·.id)

variable {priority : Int64} {id : ChannelId} {tier : Tier} {tiers : List Tier}
  {channel : Channel} {channels : List Channel}

theorem mem_idsAt : id ∈ idsAt priority channels ↔
    ∃ channel ∈ channels, channel.priority = priority ∧ channel.id = id := by
  simp [idsAt, and_assoc]

theorem idsAt_append (first rest : List Channel) :
    idsAt priority (first ++ rest) = idsAt priority first ++ idsAt priority rest := by
  rw [idsAt, List.filter_append, List.map_append]
  rfl

theorem idsAt_sublist : (idsAt priority channels).Sublist (channels.map (·.id)) :=
  (List.filter_sublist).map _

/-! ## One insertion -/

/-- The tier of a priority with a new member. -/
def Tier.add (tier : Tier) (id : ChannelId) : Tier :=
  if tier.members.contains id then tier else { tier with members := tier.members ++ [id] }

theorem insertTier_cons (priority : Int64) (id : ChannelId) (tier : Tier) (tiers : List Tier) :
    insertTier priority id (tier :: tiers) =
      if tier.priority < priority then ⟨priority, [id]⟩ :: tier :: tiers
      else if tier.priority = priority then tier.add id :: tiers
      else tier :: insertTier priority id tiers := rfl

theorem Tier.add_priority (tier : Tier) (id : ChannelId) : (tier.add id).priority = tier.priority := by
  unfold Tier.add
  split <;> rfl

theorem Tier.mem_add {other : ChannelId} :
    other ∈ (tier.add id).members ↔ other ∈ tier.members ∨ other = id := by
  unfold Tier.add
  split
  · rename_i h
    have hid : id ∈ tier.members := by simpa using h
    constructor
    · exact Or.inl
    · rintro (hmem | rfl)
      · exact hmem
      · exact hid
  · simp

theorem Tier.add_add (tier : Tier) (id : ChannelId) : (tier.add id).add id = tier.add id := by
  have hmem : id ∈ (tier.add id).members := Tier.mem_add.mpr (.inr rfl)
  rw [Tier.add, if_pos (List.contains_iff_mem.mpr hmem)]

/-- A second insertion finds the channel in its tier. -/
theorem insertTier_again (priority : Int64) (id : ChannelId) (tiers : List Tier) :
    insertTier priority id (insertTier priority id tiers) = insertTier priority id tiers := by
  have hself : ¬ priority < priority := Int64.lt_irrefl
  induction tiers with
  | nil =>
    rw [insertTier, insertTier_cons, if_neg hself, if_pos rfl, Tier.add, if_pos]
    simp
  | cons first others ih =>
    rw [insertTier_cons]
    split
    · rw [insertTier_cons, if_neg hself, if_pos rfl, Tier.add, if_pos]
      simp
    · rename_i hbelow
      split
      · rename_i hsame
        rw [insertTier_cons, Tier.add_priority, if_neg hbelow, if_pos hsame, Tier.add_add]
      · rename_i hother
        rw [insertTier_cons, if_neg hbelow, if_neg hother, ih]

/-- Below a tier whose priority is not too high there is no tier of the priority. -/
theorem ne_of_above {first : Tier} (above : ∀ lower ∈ tiers, lower.priority < first.priority)
    (h : first.priority ≤ priority) : ∀ lower ∈ tiers, lower.priority ≠ priority := by
  intro lower hlower heq
  have hlt := Int64.lt_of_lt_of_le (above lower hlower) h
  rw [heq] at hlt
  exact Int64.lt_irrefl hlt

/-- After an insertion into descending tiers, a tier of another priority is one of those before, and the
tier of the priority is the one before with the new member, or a new one. -/
theorem mem_insertTier (descending : Descending tiers) :
    tier ∈ insertTier priority id tiers ↔
      (tier ∈ tiers ∧ tier.priority ≠ priority) ∨
        (∃ old ∈ tiers, old.priority = priority ∧ tier = old.add id) ∨
        ((∀ old ∈ tiers, old.priority ≠ priority) ∧ tier = ⟨priority, [id]⟩) := by
  induction tiers with
  | nil => simp [insertTier]
  | cons first others ih =>
    obtain ⟨above, descending⟩ := List.pairwise_cons.mp descending
    rw [insertTier_cons]
    split
    · -- the new tier stands above all others
      rename_i hbelow
      have hne : ∀ old ∈ first :: others, old.priority ≠ priority := by
        intro old hold heq
        rcases List.mem_cons.mp hold with rfl | h
        · rw [heq] at hbelow
          exact Int64.lt_irrefl hbelow
        · exact ne_of_above above (Int64.le_of_lt hbelow) old h heq
      constructor
      · intro h
        rcases List.mem_cons.mp h with rfl | h
        · exact .inr (.inr ⟨hne, rfl⟩)
        · exact .inl ⟨h, hne tier h⟩
      · rintro (⟨h, _⟩ | ⟨old, hold, heq, _⟩ | ⟨_, rfl⟩)
        · exact List.mem_cons_of_mem _ h
        · exact absurd heq (hne old hold)
        · exact List.mem_cons_self
    · split
      · -- the tier is there already, and it is the only one of the priority
        rename_i heq
        have hne : ∀ old ∈ others, old.priority ≠ priority :=
          ne_of_above above (by rw [heq]; exact Int64.le_refl priority)
        constructor
        · intro h
          rcases List.mem_cons.mp h with rfl | h
          · exact .inr (.inl ⟨first, List.mem_cons_self, heq, rfl⟩)
          · exact .inl ⟨List.mem_cons_of_mem _ h, hne tier h⟩
        · rintro (⟨h, hother⟩ | ⟨old, hold, hold', rfl⟩ | ⟨hnone, _⟩)
          · rcases List.mem_cons.mp h with rfl | h
            · exact absurd heq hother
            · exact List.mem_cons_of_mem _ h
          · rcases List.mem_cons.mp hold with rfl | h
            · exact List.mem_cons_self
            · exact absurd hold' (hne old h)
          · exact absurd heq (hnone first List.mem_cons_self)
      · rename_i hne
        rw [List.mem_cons, ih descending]
        constructor
        · rintro (rfl | ⟨h, hother⟩ | ⟨old, hold, heq, rfl⟩ | ⟨hnone, rfl⟩)
          · exact .inl ⟨List.mem_cons_self, hne⟩
          · exact .inl ⟨List.mem_cons_of_mem _ h, hother⟩
          · exact .inr (.inl ⟨old, List.mem_cons_of_mem _ hold, heq, rfl⟩)
          · refine .inr (.inr ⟨?_, rfl⟩)
            intro old hold
            rcases List.mem_cons.mp hold with rfl | h
            · exact hne
            · exact hnone old h
        · rintro (⟨h, hother⟩ | ⟨old, hold, heq, rfl⟩ | ⟨hnone, rfl⟩)
          · rcases List.mem_cons.mp h with rfl | h
            · exact .inl rfl
            · exact .inr (.inl ⟨h, hother⟩)
          · rcases List.mem_cons.mp hold with rfl | h
            · exact absurd heq hne
            · exact .inr (.inr (.inl ⟨old, h, heq, rfl⟩))
          · exact .inr (.inr (.inr ⟨fun old hold => hnone old (List.mem_cons_of_mem _ hold), rfl⟩))

theorem Descending.insertTier (descending : Descending tiers) :
    Descending (insertTier priority id tiers) := by
  induction tiers with
  | nil => exact List.pairwise_singleton _ _
  | cons first others ih =>
    have all := descending
    obtain ⟨above, descending⟩ := List.pairwise_cons.mp descending
    rw [insertTier_cons]
    split
    · rename_i hbelow
      refine List.pairwise_cons.mpr ⟨?_, all⟩
      intro old hold
      rcases List.mem_cons.mp hold with rfl | h
      · exact hbelow
      · exact Int64.lt_trans (above old h) hbelow
    · rename_i habove
      split
      · rename_i heq
        refine List.pairwise_cons.mpr ⟨?_, descending⟩
        rw [Tier.add_priority]
        exact above
      · rename_i hne
        refine List.pairwise_cons.mpr ⟨?_, ih descending⟩
        intro tier htier
        rcases (mem_insertTier descending).mp htier with ⟨h, _⟩ | ⟨old, hold, _, rfl⟩ | ⟨_, rfl⟩
        · exact above tier h
        · rw [Tier.add_priority]
          exact above old hold
        · exact Int64.lt_of_le_of_ne (Int64.not_lt.mp habove) (Ne.symm hne)

/-! ## All channels -/

/-- The tiers that channels form, highest priority first. -/
def tiersOf (channels : List Channel) : List Tier :=
  channels.foldl (fun tiers channel => insertTier channel.priority channel.id tiers) []

theorem tiersOf_append (channels : List Channel) (channel : Channel) :
    tiersOf (channels ++ [channel]) =
      insertTier channel.priority channel.id (tiersOf channels) := by
  rw [tiersOf, List.foldl_append]
  rfl

theorem descending_tiersOf (channels : List Channel) : Descending (tiersOf channels) := by
  induction channels using List.reverseRecOn with
  | nil => exact List.Pairwise.nil
  | append_singleton channels channel ih =>
    rw [tiersOf_append]
    exact ih.insertTier

theorem tiersOf_ne_nil (h : channels ≠ []) : tiersOf channels ≠ [] := by
  cases channels using List.reverseRecOn with
  | nil => exact absurd rfl h
  | append_singleton channels channel =>
    rw [tiersOf_append]
    cases tiersOf channels with
    | nil => exact List.cons_ne_nil _ _
    | cons first others =>
      rw [insertTier_cons]
      split
      · exact List.cons_ne_nil _ _
      · split <;> exact List.cons_ne_nil _ _

/-- Only ids of the channels are listed. -/
theorem tiersOf_members (h : tier ∈ tiersOf channels) (hid : id ∈ tier.members) :
    ∃ channel ∈ channels, channel.id = id := by
  induction channels using List.reverseRecOn generalizing tier with
  | nil => cases h
  | append_singleton channels channel ih =>
    rw [tiersOf_append, mem_insertTier (descending_tiersOf channels)] at h
    have last : channel ∈ channels ++ [channel] := List.mem_append_right _ List.mem_cons_self
    have earlier : (∃ c ∈ channels, c.id = id) → ∃ c ∈ channels ++ [channel], c.id = id := by
      rintro ⟨c, hc, hcid⟩
      exact ⟨c, List.mem_append_left _ hc, hcid⟩
    rcases h with ⟨h, _⟩ | ⟨old, hold, _, rfl⟩ | ⟨_, rfl⟩
    · exact earlier (ih h hid)
    · rcases Tier.mem_add.mp hid with hid | rfl
      · exact earlier (ih hold hid)
      · exact ⟨channel, last, rfl⟩
    · exact ⟨channel, last, (List.mem_singleton.mp hid).symm⟩

/-! ## Distinct channels -/

/-- The tiers are descending, and they are those of the priorities of the channels. -/
structure Arranged (channels : List Channel) (tiers : List Tier) : Prop where
  descending : Descending tiers
  members : ∀ tier ∈ tiers, tier.members = idsAt tier.priority channels
  covered : ∀ channel ∈ channels, ∃ tier ∈ tiers, tier.priority = channel.priority
  inhabited : ∀ tier ∈ tiers, ∃ channel ∈ channels, channel.priority = tier.priority

/-- The insertion of a channel with a new id. -/
theorem Arranged.insert (h : Arranged channels tiers) (fresh : channel.id ∉ channels.map (·.id)) :
    Arranged (channels ++ [channel]) (insertTier channel.priority channel.id tiers) := by
  have last : channel ∈ channels ++ [channel] := List.mem_append_right _ List.mem_cons_self
  constructor
  case descending => exact h.descending.insertTier
  case members =>
    intro tier htier
    rw [idsAt_append]
    rcases (mem_insertTier h.descending).mp htier with ⟨hmem, hne⟩ | ⟨old, hold, heq, rfl⟩ |
      ⟨hnone, rfl⟩
    · have hnothing : idsAt tier.priority [channel] = [] := by simp [idsAt, Ne.symm hne]
      rw [hnothing, List.append_nil]
      exact h.members tier hmem
    · have hnew : channel.id ∉ old.members := by
        intro hmem
        rw [h.members old hold] at hmem
        exact fresh (idsAt_sublist.subset hmem)
      rw [Tier.add_priority, Tier.add, if_neg (by simpa using hnew), h.members old hold, heq]
      simp [idsAt]
    · have hnothing : idsAt channel.priority channels = [] := by
        rw [List.eq_nil_iff_forall_not_mem]
        intro id hid
        obtain ⟨other, hother, heq, _⟩ := mem_idsAt.mp hid
        obtain ⟨tier, htier, hpriority⟩ := h.covered other hother
        exact hnone tier htier (hpriority.trans heq)
      rw [hnothing]
      simp [idsAt]
  case covered =>
    intro other hother
    rcases List.mem_append.mp hother with hmem | hmem
    · obtain ⟨tier, htier, heq⟩ := h.covered other hmem
      by_cases hp : tier.priority = channel.priority
      · exact ⟨tier.add channel.id, (mem_insertTier h.descending).mpr (.inr (.inl
          ⟨tier, htier, hp, rfl⟩)), (Tier.add_priority tier channel.id).trans heq⟩
      · exact ⟨tier, (mem_insertTier h.descending).mpr (.inl ⟨htier, hp⟩), heq⟩
    · rw [List.mem_singleton.mp hmem]
      by_cases hp : ∃ tier ∈ tiers, tier.priority = channel.priority
      · obtain ⟨tier, htier, heq⟩ := hp
        exact ⟨tier.add channel.id, (mem_insertTier h.descending).mpr (.inr (.inl
          ⟨tier, htier, heq, rfl⟩)), (Tier.add_priority tier channel.id).trans heq⟩
      · refine ⟨⟨channel.priority, [channel.id]⟩, (mem_insertTier h.descending).mpr ?_, rfl⟩
        exact .inr (.inr ⟨fun old hold heq => hp ⟨old, hold, heq⟩, rfl⟩)
  case inhabited =>
    intro tier htier
    rcases (mem_insertTier h.descending).mp htier with ⟨hmem, _⟩ | ⟨old, hold, heq, rfl⟩ | ⟨_, rfl⟩
    · obtain ⟨other, hother, heq⟩ := h.inhabited tier hmem
      exact ⟨other, List.mem_append_left _ hother, heq⟩
    · exact ⟨channel, last, by rw [Tier.add_priority, heq]⟩
    · exact ⟨channel, last, rfl⟩

theorem arranged_tiersOf (distinct : (channels.map (·.id)).Nodup) :
    Arranged channels (tiersOf channels) := by
  induction channels using List.reverseRecOn with
  | nil =>
    constructor
    case descending => exact List.Pairwise.nil
    all_goals simp [tiersOf]
  | append_singleton channels channel ih =>
    rw [List.map_append, List.nodup_append] at distinct
    obtain ⟨before, _, apart⟩ := distinct
    rw [tiersOf_append]
    refine (ih before).insert ?_
    intro hmem
    exact apart _ hmem channel.id (by simp) rfl

end RelayGateway
