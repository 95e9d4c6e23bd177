import RelayGateway.Relay.Run

/-! # What a selection yields

A channel that is selected is one that the conditions allow. The lemmas follow the selection from the
inside out: the walk through the weights, the choice within a tier, the walk through the tiers, and the
selection for a routing key. `RelayPlan.select_not_mem` is what the attempts of a request need: none
of the excluded channels is selected.
-/

set_option autoImplicit false

namespace RelayGateway

/-! ## Within a tier -/

theorem walk_mem {channels : List Channel} {number : Nat} {channel : Channel}
    (h : walk channels number = some channel) : channel ∈ channels := by
  induction channels generalizing number with
  | nil => simp [walk] at h
  | cons first others ih =>
    rw [walk] at h
    split at h
    · rw [Option.some.inj h]
      exact List.mem_cons_self
    · exact List.mem_cons_of_mem _ (ih h)

theorem pick_mem {candidates : List Channel} {draws : Draws} {channel : Channel}
    (h : (pick candidates draws).1 = some channel) : channel ∈ candidates := by
  match candidates, h with
  | [], h => simp [pick] at h
  | [only], h =>
    rw [← Option.some.inj h]
    exact List.mem_cons_self
  | first :: second :: others, h =>
    simp only [pick] at h
    split at h
    · rw [← Option.some.inj h]
      exact List.mem_cons_self
    · exact walk_mem h

namespace Registry

variable {registry : Registry} {conditions : Conditions} {key : String} {channel : Channel}

theorem mem_candidates {tier : List ChannelId} :
    channel ∈ registry.candidates conditions key tier ↔
      (∃ id ∈ tier, registry.snapshot.channel? id = some channel) ∧
        registry.isEligible conditions key channel = true := by
  simp [candidates]

/-! ## Across the tiers -/

theorem pickFromTiers_mem {tiers : List (List ChannelId)} {draws : Draws}
    (h : (registry.pickFromTiers conditions key tiers draws).1 = some channel) :
    ∃ tier ∈ tiers, channel ∈ registry.candidates conditions key tier := by
  induction tiers generalizing draws with
  | nil => simp [pickFromTiers] at h
  | cons tier tiers ih =>
    rw [pickFromTiers] at h
    split at h
    · rename_i picked rest hpick
      have hp : (pick (registry.candidates conditions key tier) draws).1 = some channel := by
        rw [hpick]
        exact h
      exact ⟨tier, List.mem_cons_self, pick_mem hp⟩
    · obtain ⟨other, hmem, hc⟩ := ih h
      exact ⟨other, List.mem_cons_of_mem _ hmem, hc⟩

/-- A selected channel is listed in one of the tiers of its key and can be chosen. -/
theorem selectKey_ok {group : String} {draws : Draws}
    (h : registry.selectKey conditions group key draws = .ok channel) :
    ∃ tiers, registry.snapshot.tiers group key = some tiers ∧
      ∃ tier ∈ tiers, channel ∈ registry.candidates conditions key tier := by
  unfold selectKey at h
  split at h
  · split at h
    · cases h
    · cases h
    · rename_i tiers _ hsome
      refine ⟨tiers, hsome, ?_⟩
      split at h
      · rename_i picked hpick
        cases h
        exact pickFromTiers_mem hpick
      · split at h <;> cases h
  · cases h

theorem selectKey_eligible {group : String} {draws : Draws}
    (h : registry.selectKey conditions group key draws = .ok channel) :
    registry.isEligible conditions key channel = true := by
  obtain ⟨_, _, _, _, hc⟩ := selectKey_ok h
  exact (mem_candidates.mp hc).2

end Registry

/-! ## The exclusions of a request -/

theorem FilterOptions.not_mem_of_not_isFiltered {options : FilterOptions}
    {excluded : List ChannelId} {channel : Channel}
    (h : isFiltered (options.chain excluded) channel = false) : channel.id ∉ excluded := by
  intro hmem
  have hne : excluded.isEmpty = false := by
    cases excluded with
    | nil => simp at hmem
    | cons _ _ => rfl
  have hfilter : Filter.excludeChannels excluded ∈ options.chain excluded := by
    simp [chain, hne]
  have hskip : (Filter.excludeChannels excluded).skips channel = true := by
    simpa [Filter.skips] using hmem
  rw [isFiltered, List.any_eq_false] at h
  exact h _ hfilter hskip

/-- An excluded channel is not selected. -/
theorem RelayPlan.select_not_mem {plan : RelayPlan} {sight : Sight} {excluded : List ChannelId}
    {channel : Channel} (h : plan.select sight excluded = .ok channel) : channel.id ∉ excluded := by
  have he := Registry.selectKey_eligible h
  simp only [Registry.isEligible, Bool.and_eq_true, Bool.not_eq_true'] at he
  exact FilterOptions.not_mem_of_not_isFiltered he.2

end RelayGateway
