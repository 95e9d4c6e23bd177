import RelayGateway.Proofs.Routing.History
import RelayGateway.Proofs.Routing.Selection

/-! # The channels that a selection can use

* `Registry.Admits`: what a selection asks of a channel, apart from its priority.
* `pick_isSome`, `pickFromTiers_cases`: a choice is made as soon as there is a candidate, and from the
  first tier that has one.
* `build_candidates`: the candidates of a tier in the table of channels with distinct ids.
* `availableIds_cons`: one more exclusion takes exactly its own id from the available ones.
* `built_selectKey`: in the table of channels with distinct ids, a selection finds a channel of the highest
  priority that has an admitted one.
* `selection_meets_count`: selection and counting agree, and selection respects the priorities.
-/

set_option autoImplicit false

namespace RelayGateway

/-! ## One channel -/

/-- What a selection asks of a channel, apart from its priority. -/
structure Registry.Admits (registry : Registry) (cooldowns : CooldownTable) (now : Instant)
    (demands : FilterOptions) (excluded : List ChannelId) (key : String) (channel : Channel) :
    Prop where
  running : channel.id ∉ registry.disabled
  rested : cooldowns.isCooling channel.id key now = false
  untried : channel.id ∉ excluded
  suited : demands.skipOnlyChat = true → channel.onlyChat = false
  vendor : ∀ providers, demands.allowedProviders = some providers → channel.provider ∈ providers
  streams : ∀ model, demands.streamModel = some model → channel.allowsStream model = true

variable {registry : Registry} {cooldowns : CooldownTable} {now : Instant} {demands : FilterOptions}
  {excluded : List ChannelId} {key group : String} {channel : Channel} {conditions : Conditions}

theorem isFiltered_chain (demands : FilterOptions) (excluded : List ChannelId) (channel : Channel) :
    isFiltered (demands.chain excluded) channel = false ↔
    (demands.skipOnlyChat = true → channel.onlyChat = false) ∧ channel.id ∉ excluded ∧
      (∀ providers, demands.allowedProviders = some providers → channel.provider ∈ providers) ∧
      ∀ model, demands.streamModel = some model → channel.allowsStream model = true := by
  have chat : isFiltered (if demands.skipOnlyChat then [Filter.skipOnlyChat] else []) channel =
      (demands.skipOnlyChat && channel.onlyChat) := by
    cases demands.skipOnlyChat <;> simp [isFiltered, Filter.skips]
  have tried : isFiltered (if excluded.isEmpty then [] else [Filter.excludeChannels excluded])
      channel = excluded.contains channel.id := by
    cases excluded <;> simp [isFiltered, Filter.skips]
  have vendor : isFiltered (demands.allowedProviders.map Filter.allowProviders).toList channel =
      demands.allowedProviders.any fun providers => !providers.contains channel.provider := by
    cases demands.allowedProviders <;> simp [isFiltered, Filter.skips]
  have stream : isFiltered (demands.streamModel.map Filter.requireStream).toList channel =
      demands.streamModel.any fun model => !channel.allowsStream model := by
    cases demands.streamModel <;> simp [isFiltered, Filter.skips]
  have all : isFiltered (demands.chain excluded) channel =
      (demands.skipOnlyChat && channel.onlyChat || excluded.contains channel.id ||
        (demands.allowedProviders.any fun providers => !providers.contains channel.provider) ||
        demands.streamModel.any fun model => !channel.allowsStream model) := by
    rw [← chat, ← tried, ← vendor, ← stream]
    simp only [isFiltered, FilterOptions.chain, List.any_append]
  rw [all]
  simp [Option.any_eq_false, and_assoc]

theorem isEligible_iff :
    registry.isEligible ⟨cooldowns, now, demands.chain excluded⟩ key channel = true ↔
      registry.Admits cooldowns now demands excluded key channel := by
  have filtered := isFiltered_chain demands excluded channel
  simp only [Registry.isEligible, Registry.isDisabled, Bool.and_eq_true, Bool.not_eq_true',
    List.contains_eq_mem, decide_eq_false_iff_not]
  constructor
  · rintro ⟨⟨hrunning, hrested⟩, hfiltered⟩
    obtain ⟨hsuited, huntried, hvendor, hstreams⟩ := filtered.mp hfiltered
    exact ⟨hrunning, hrested, huntried, hsuited, hvendor, hstreams⟩
  · rintro ⟨hrunning, hrested, huntried, hsuited, hvendor, hstreams⟩
    exact ⟨⟨hrunning, hrested⟩, filtered.mpr ⟨hsuited, huntried, hvendor, hstreams⟩⟩

theorem Registry.Admits.excluding {excluded' : List ChannelId}
    (h : registry.Admits cooldowns now demands excluded key channel)
    (untried : channel.id ∉ excluded') :
    registry.Admits cooldowns now demands excluded' key channel :=
  { h with untried }

/-- The weight of a channel has no part in whether it can be chosen. -/
theorem admits_withWeight {defaultWeight : UInt32} :
    registry.Admits cooldowns now demands excluded key (Snapshot.withWeight defaultWeight channel) ↔
      registry.Admits cooldowns now demands excluded key channel := by
  unfold Snapshot.withWeight
  split
  · constructor
    · intro h
      exact ⟨h.running, h.rested, h.untried, h.suited, h.vendor, h.streams⟩
    · intro h
      exact ⟨h.running, h.rested, h.untried, h.suited, h.vendor, h.streams⟩
  · rfl

/-! ## A choice is made if there is a candidate -/

theorem below_lt {total : Nat} (h : 0 < total) (draws : Draws) : (draws.below total).1 < total := by
  induction draws with
  | nil => exact h
  | cons word words ih =>
    rw [Draws.below]
    unfold Draws.accepts?
    dsimp only
    split
    · rename_i result hresult
      split at hresult
      · cases hresult
        have hword : word.toNat < Draws.wordCount := word.toNat_lt
        apply Nat.div_lt_of_lt_mul
        exact Nat.mul_lt_mul_of_pos_right hword h
      · cases hresult
    · exact ih

theorem walk_isSome {channels : List Channel} {number : Nat} (h : number < totalWeight channels) :
    ∃ channel, walk channels number = some channel := by
  induction channels generalizing number with
  | nil =>
    rw [totalWeight] at h
    omega
  | cons first others ih =>
    rw [totalWeight] at h
    rw [walk]
    split
    · exact ⟨first, rfl⟩
    · apply ih
      omega

theorem pick_isSome {candidates : List Channel} (h : candidates ≠ []) (draws : Draws) :
    ∃ channel, (pick candidates draws).1 = some channel := by
  match candidates, h with
  | [only], _ => exact ⟨only, rfl⟩
  | first :: second :: others, _ =>
    simp only [pick]
    split
    · exact ⟨first, rfl⟩
    · rename_i hweight
      apply walk_isSome
      apply below_lt
      omega

namespace Registry

/-- Tier after tier is passed over as long as it has no candidate, and no further. -/
theorem pickFromTiers_cases (registry : Registry) (conditions : Conditions) (key : String)
    (tiers : List (List ChannelId)) (draws : Draws) :
    ((registry.pickFromTiers conditions key tiers draws).1 = none ∧
        ∀ tier ∈ tiers, registry.candidates conditions key tier = []) ∨
      ∃ upper tier lower channel,
        (registry.pickFromTiers conditions key tiers draws).1 = some channel ∧
          tiers = upper ++ tier :: lower ∧
          (∀ above ∈ upper, registry.candidates conditions key above = []) ∧
          channel ∈ registry.candidates conditions key tier := by
  induction tiers generalizing draws with
  | nil => exact .inl ⟨rfl, by simp⟩
  | cons tier tiers ih =>
    rw [pickFromTiers]
    by_cases hempty : registry.candidates conditions key tier = []
    · rw [hempty]
      have hskip : pick [] draws = (none, draws) := rfl
      rw [hskip]
      rcases ih draws with ⟨hnone, hall⟩ | ⟨upper, tier', lower, channel, hsome, rfl, habove, hmem⟩
      · refine .inl ⟨hnone, ?_⟩
        intro other hother
        rcases List.mem_cons.mp hother with rfl | h
        · exact hempty
        · exact hall other h
      · refine .inr ⟨tier :: upper, tier', lower, channel, hsome, rfl, ?_, hmem⟩
        intro other hother
        rcases List.mem_cons.mp hother with rfl | h
        · exact hempty
        · exact habove other h
    · obtain ⟨channel, hpick⟩ := pick_isSome hempty draws
      have hmem := pick_mem hpick
      refine .inr ⟨[], tier, tiers, channel, ?_, rfl, by simp, hmem⟩
      split
      · rename_i picked rest heq
        rw [heq] at hpick
        exact hpick
      · rename_i rest heq
        rw [heq] at hpick
        cases hpick

/-- In a sound table, a selection for a routed key rests on the choice from its tiers alone. -/
theorem selectKey_routed {tiers : List (List ChannelId)} (sound : registry.snapshot.Sound)
    (routed : registry.snapshot.tiers group key = some tiers) (draws : Draws) :
    registry.selectKey conditions group key draws =
      match (registry.pickFromTiers conditions key tiers draws).1 with
      | some channel => .ok channel
      | none => .error (.noAvailableChannelsAfterFiltering group key) := by
  obtain ⟨hne, hknown⟩ := sound group key tiers routed
  have hdangling : registry.danglingId? tiers = none := by
    apply List.find?_eq_none.mpr
    intro id hid
    have hsome := hknown id hid
    simp [Option.isSome_iff_ne_none.mp hsome]
  unfold selectKey
  rw [if_pos (hasGroup_of_tiers routed), routed]
  cases tiers with
  | nil => exact absurd rfl hne
  | cons tier tiers =>
    dsimp only
    generalize (registry.pickFromTiers conditions key (tier :: tiers) draws).1 = picked
    cases picked with
    | some channel => rfl
    | none => simp only [hdangling]

/-- A selection depends on the conditions only by which channels they make eligible. -/
theorem selectKey_congr {other : Conditions}
    (same : ∀ channel, registry.isEligible conditions key channel =
      registry.isEligible other key channel) (draws : Draws) :
    registry.selectKey conditions group key draws = registry.selectKey other group key draws := by
  have heligible : registry.isEligible conditions key = registry.isEligible other key := funext same
  have hpick : ∀ tiers draws, registry.pickFromTiers conditions key tiers draws =
      registry.pickFromTiers other key tiers draws := by
    intro tiers
    induction tiers with
    | nil => intro draws; rfl
    | cons tier tiers ih =>
      intro draws
      have hcandidates : registry.candidates conditions key tier =
          registry.candidates other key tier := by
        rw [candidates, candidates, heligible]
      rw [pickFromTiers, pickFromTiers, hcandidates]
      simp only [ih]
  unfold selectKey
  simp only [hpick]

end Registry

/-- The order of the exclusions does not matter. -/
theorem RelayPlan.select_congr (plan : RelayPlan) (sight : Sight) {excluded excluded' : List ChannelId}
    (same : ∀ id, id ∈ excluded ↔ id ∈ excluded') :
    plan.select sight excluded = plan.select sight excluded' := by
  apply Registry.selectKey_congr
  intro channel
  rw [Bool.eq_iff_iff, RelayPlan.conditions, RelayPlan.conditions, isEligible_iff, isEligible_iff]
  constructor
  · intro h
    exact h.excluding ((not_congr (same channel.id)).mp h.untried)
  · intro h
    exact h.excluding ((not_congr (same channel.id)).mpr h.untried)

/-! ## Counting -/

theorem eraseDups_of_nodup {ids : List ChannelId} (distinct : ids.Nodup) : ids.eraseDups = ids := by
  induction ids with
  | nil => rfl
  | cons id ids ih =>
    obtain ⟨hfresh, hrest⟩ := List.nodup_cons.mp distinct
    have hkept : ids.filter (fun other => !other == id) = ids := by
      apply List.filter_eq_self.mpr
      intro other hother
      have hne : other ≠ id := fun heq => hfresh (heq ▸ hother)
      simp [hne]
    rw [List.eraseDups_cons, hkept, ih hrest]

namespace Registry

theorem mem_availableIds {id : ChannelId} {tiers : List (List ChannelId)}
    (routed : registry.snapshot.tiers group key = some tiers) :
    id ∈ registry.availableIds conditions group key ↔
      id ∈ tiers.flatten ∧ ∃ channel, registry.snapshot.channel? id = some channel ∧
        registry.isEligible conditions key channel = true := by
  rw [availableIds, routed, Option.getD_some, List.mem_filter, List.mem_eraseDups]
  cases registry.snapshot.channel? id with
  | none => simp
  | some channel => simp

theorem nodup_availableIds {tiers : List (List ChannelId)}
    (routed : registry.snapshot.tiers group key = some tiers) (once : tiers.flatten.Nodup) :
    (registry.availableIds conditions group key).Nodup := by
  rw [availableIds, routed, Option.getD_some, eraseDups_of_nodup once]
  exact once.filter _

/-- Excluding one more id takes that id from the available ones, and no other. -/
theorem availableIds_cons (registry : Registry) (cooldowns : CooldownTable) (now : Instant)
    (demands : FilterOptions) (excluded excluded' : List ChannelId) (group key : String)
    (id : ChannelId) (added : ∀ other, other ∈ excluded' ↔ other = id ∨ other ∈ excluded) :
    registry.availableIds ⟨cooldowns, now, demands.chain excluded'⟩ group key =
      (registry.availableIds ⟨cooldowns, now, demands.chain excluded⟩ group key).filter
        fun other => other != id := by
  unfold availableIds
  rw [List.filter_filter]
  apply List.filter_congr
  intro other hother
  cases hchannel : registry.snapshot.channel? other with
  | none => simp
  | some channel =>
    have hid : channel.id = other := by simpa using List.find?_some hchannel
    have heligible : registry.isEligible ⟨cooldowns, now, demands.chain excluded'⟩ key channel =
        (other != id && registry.isEligible ⟨cooldowns, now, demands.chain excluded⟩ key channel) := by
      rw [Bool.eq_iff_iff, Bool.and_eq_true, isEligible_iff, isEligible_iff, bne_iff_ne]
      constructor
      · intro h
        have huntried := h.untried
        rw [added, not_or, hid] at huntried
        refine ⟨huntried.1, h.excluding ?_⟩
        rw [hid]
        exact huntried.2
      · rintro ⟨hne, h⟩
        apply h.excluding
        have huntried := h.untried
        rw [hid] at huntried
        rw [added, not_or, hid]
        exact ⟨hne, huntried⟩
    exact heligible

/-! ## The table of channels with distinct ids -/

section Built

variable {channels : List Channel} {defaultWeight : UInt32} {tiers : List (List ChannelId)}
  (distinct : (channels.map (·.id)).Nodup)
  (table : registry.snapshot = Snapshot.build channels defaultWeight)
  (routed : registry.snapshot.tiers group key = some tiers)
include distinct table routed

theorem built_layered : Layered (serving channels group key) tiers := by
  rw [table] at routed
  exact build_layered distinct routed

/-- A listed id stands for a channel that serves the key. -/
theorem built_channel? {id : ChannelId} (listed : id ∈ tiers.flatten) :
    registry.snapshot.channel? id = some channel ↔
      ∃ stored ∈ serving channels group key, stored.id = id ∧
        channel = Snapshot.withWeight defaultWeight stored := by
  have hlayered := built_layered distinct table routed
  rw [table, build_channel? distinct]
  constructor
  · rintro ⟨stored, hstored, _, hid, rfl⟩
    obtain ⟨served, hserved, hserved'⟩ := (hlayered.listed id).mp listed
    have hchannel := (mem_serving.mp hserved).1
    have heq : served = stored :=
      List.inj_on_of_nodup_map distinct hchannel hstored (hserved'.trans hid.symm)
    subst heq
    exact ⟨served, hserved, hid, rfl⟩
  · rintro ⟨stored, hstored, hid, rfl⟩
    obtain ⟨hchannel, henabled, _⟩ := mem_serving.mp hstored
    exact ⟨stored, hchannel, henabled, hid, rfl⟩

theorem built_candidates {tier : List ChannelId} (htier : tier ∈ tiers) :
    channel ∈ registry.candidates ⟨cooldowns, now, demands.chain excluded⟩ key tier ↔
      ∃ stored ∈ serving channels group key, stored.id ∈ tier ∧
        channel = Snapshot.withWeight defaultWeight stored ∧
        registry.Admits cooldowns now demands excluded key stored := by
  rw [mem_candidates, isEligible_iff]
  constructor
  · rintro ⟨⟨id, hid, hchannel⟩, hadmits⟩
    have hlisted : id ∈ tiers.flatten := List.mem_flatten_of_mem htier hid
    obtain ⟨stored, hstored, rfl, rfl⟩ :=
      (built_channel? distinct table routed hlisted).mp hchannel
    exact ⟨stored, hstored, hid, rfl, admits_withWeight.mp hadmits⟩
  · rintro ⟨stored, hstored, hid, rfl, hadmits⟩
    have hlisted : stored.id ∈ tiers.flatten := List.mem_flatten_of_mem htier hid
    have hchannel := (built_channel? distinct table routed hlisted).mpr ⟨stored, hstored, rfl, rfl⟩
    exact ⟨⟨stored.id, hid, hchannel⟩, admits_withWeight.mpr hadmits⟩

theorem built_availableIds {id : ChannelId} :
    id ∈ registry.availableIds ⟨cooldowns, now, demands.chain excluded⟩ group key ↔
      ∃ stored ∈ serving channels group key, stored.id = id ∧
        registry.Admits cooldowns now demands excluded key stored := by
  have hlayered := built_layered distinct table routed
  rw [mem_availableIds routed]
  constructor
  · rintro ⟨hlisted, channel, hchannel, heligible⟩
    obtain ⟨stored, hstored, hid, rfl⟩ := (built_channel? distinct table routed hlisted).mp hchannel
    exact ⟨stored, hstored, hid, admits_withWeight.mp (isEligible_iff.mp heligible)⟩
  · rintro ⟨stored, hstored, hid, hadmits⟩
    have hlisted : id ∈ tiers.flatten := (hlayered.listed id).mpr ⟨stored, hstored, hid⟩
    have hchannel := (built_channel? distinct table routed hlisted).mpr ⟨stored, hstored, hid, rfl⟩
    exact ⟨hlisted, _, hchannel, isEligible_iff.mpr (admits_withWeight.mpr hadmits)⟩

/-- A selection finds a channel of the highest priority that has an admitted one, or there is none. -/
theorem built_selectKey (draws : Draws) :
    (∃ stored ∈ serving channels group key,
        registry.selectKey ⟨cooldowns, now, demands.chain excluded⟩ group key draws =
          .ok (Snapshot.withWeight defaultWeight stored) ∧
        registry.Admits cooldowns now demands excluded key stored ∧
        ∀ other ∈ serving channels group key, stored.priority < other.priority →
          ¬ registry.Admits cooldowns now demands excluded key other) ∨
      (registry.selectKey ⟨cooldowns, now, demands.chain excluded⟩ group key draws =
          .error (.noAvailableChannelsAfterFiltering group key) ∧
        ∀ other ∈ serving channels group key,
          ¬ registry.Admits cooldowns now demands excluded key other) := by
  have hlayered := built_layered distinct table routed
  have sound : registry.snapshot.Sound := by
    rw [table]
    exact Snapshot.sound_build channels defaultWeight
  -- an admitted channel is a candidate of its tier
  have candidate : ∀ other ∈ serving channels group key,
      registry.Admits cooldowns now demands excluded key other →
      ∃ tier ∈ tiers, other.id ∈ tier ∧
        registry.candidates ⟨cooldowns, now, demands.chain excluded⟩ key tier ≠ [] := by
    intro other hother hadmits
    have hlisted : other.id ∈ tiers.flatten := (hlayered.listed other.id).mpr ⟨other, hother, rfl⟩
    obtain ⟨tier, htier, hid⟩ := List.mem_flatten.mp hlisted
    have hmem := (built_candidates distinct table routed htier).mpr
      ⟨other, hother, hid, rfl, hadmits⟩
    exact ⟨tier, htier, hid, List.ne_nil_of_mem hmem⟩
  rcases pickFromTiers_cases registry ⟨cooldowns, now, demands.chain excluded⟩ key tiers draws with
    ⟨hnone, hempty⟩ | ⟨upper, tier, lower, channel, hsome, heq, habove, hmem⟩
  · refine .inr ⟨?_, ?_⟩
    · rw [selectKey_routed sound routed, hnone]
    · intro other hother hadmits
      obtain ⟨tier, htier, _, hne⟩ := candidate other hother hadmits
      exact hne (hempty tier htier)
  · have htier : tier ∈ tiers := by simp [heq]
    obtain ⟨stored, hstored, hid, rfl, hadmits⟩ :=
      (built_candidates distinct table routed htier).mp hmem
    refine .inl ⟨stored, hstored, ?_, hadmits, ?_⟩
    · rw [selectKey_routed sound routed, hsome]
    · intro other hother hhigher hadmits'
      obtain ⟨tier', htier', hid', hne⟩ := candidate other hother hadmits'
      have hdescending := hlayered.descending
      rw [heq] at htier' hdescending
      rcases List.mem_append.mp htier' with hupper | hrest
      · exact hne (habove tier' hupper)
      · rcases List.mem_cons.mp hrest with rfl | hlower
        · -- of the same tier, hence of the same priority
          have hsame := (hlayered.together tier' htier stored hstored other hother hid).mp hid'
          rw [hsame] at hhigher
          exact Int64.lt_irrefl hhigher
        · have hbelow := (List.pairwise_append.mp hdescending).2.1
          have hlt := (List.pairwise_cons.mp hbelow).1 tier' hlower stored hstored other hother hid hid'
          exact Int64.lt_asymm hlt hhigher

theorem built_countAvailable_pos :
    0 < registry.countAvailable ⟨cooldowns, now, demands.chain excluded⟩ group key ↔
      ∃ stored ∈ serving channels group key,
        registry.Admits cooldowns now demands excluded key stored := by
  rw [countAvailable, List.length_pos_iff_exists_mem]
  constructor
  · rintro ⟨id, hid⟩
    obtain ⟨stored, hstored, _, hadmits⟩ := (built_availableIds distinct table routed).mp hid
    exact ⟨stored, hstored, hadmits⟩
  · rintro ⟨stored, hstored, hadmits⟩
    exact ⟨stored.id, (built_availableIds distinct table routed).mpr ⟨stored, hstored, rfl, hadmits⟩⟩

/-- Excluding an available channel leaves exactly one available channel less. -/
theorem built_countAvailable_fewer {stored : Channel} (hstored : stored ∈ serving channels group key)
    (admits : registry.Admits cooldowns now demands excluded key stored) {excluded' : List ChannelId}
    (added : ∀ id, id ∈ excluded' ↔ id = stored.id ∨ id ∈ excluded) :
    registry.countAvailable ⟨cooldowns, now, demands.chain excluded'⟩ group key + 1 =
      registry.countAvailable ⟨cooldowns, now, demands.chain excluded⟩ group key := by
  have hid : stored.id ∈
      registry.availableIds ⟨cooldowns, now, demands.chain excluded⟩ group key :=
    (built_availableIds distinct table routed).mpr ⟨stored, hstored, rfl, admits⟩
  have hdistinct : (registry.availableIds ⟨cooldowns, now, demands.chain excluded⟩ group key).Nodup :=
    nodup_availableIds routed (built_layered distinct table routed).once
  have hpositive := List.length_pos_of_mem hid
  rw [countAvailable, countAvailable, availableIds_cons registry cooldowns now demands excluded excluded'
    group key stored.id added, ← hdistinct.erase_eq_filter, List.length_erase_of_mem hid]
  omega

end Built

end Registry

/-! ## Selection and counting -/

/-- Selection and counting agree, whatever the flags, the cooldowns, the demands and the draws. For a
routed key a channel is selected exactly if one is available. It is an admitted one, every channel of a
higher priority is not, and excluding it leaves exactly one available channel less. -/
theorem selection_meets_count (channels : List Channel) (defaultWeight : UInt32)
    (distinct : (channels.map (·.id)).Nodup) (options : RegistryOptions)
    (disabled : List ChannelId) (cooldowns : CooldownTable) (now : Instant)
    (demands : FilterOptions) (excluded : List ChannelId) (group key : String) (draws : Draws) :
    let registry : Registry := ⟨options, Snapshot.build channels defaultWeight, disabled⟩
    let conditions := fun excluded => (⟨cooldowns, now, demands.chain excluded⟩ : Conditions)
    let selected := registry.selectKey (conditions excluded) group key draws
    (registry.snapshot.tiers group key).isSome = true →
      ((∃ channel, selected = .ok channel) ↔
          0 < registry.countAvailable (conditions excluded) group key) ∧
        (∀ channel, selected = .ok channel →
          (∃ stored ∈ serving channels group key,
              channel = Snapshot.withWeight defaultWeight stored) ∧
            registry.Admits cooldowns now demands excluded key channel ∧
            (∀ other ∈ serving channels group key, channel.priority < other.priority →
              ¬ registry.Admits cooldowns now demands excluded key other) ∧
            ∀ excluded', (∀ id, id ∈ excluded' ↔ id = channel.id ∨ id ∈ excluded) →
              registry.countAvailable (conditions excluded') group key + 1 =
                registry.countAvailable (conditions excluded) group key) ∧
        (registry.countAvailable (conditions excluded) group key = 0 →
          selected = .error (.noAvailableChannelsAfterFiltering group key)) := by
  intro registry conditions selected hrouted
  obtain ⟨tiers, routed⟩ := Option.isSome_iff_exists.mp hrouted
  have table : registry.snapshot = Snapshot.build channels defaultWeight := rfl
  have available : 0 < registry.countAvailable (conditions excluded) group key ↔
      ∃ stored ∈ serving channels group key,
        registry.Admits cooldowns now demands excluded key stored :=
    registry.built_countAvailable_pos distinct table routed
  rcases registry.built_selectKey distinct table routed draws with
    ⟨stored, hstored, hselect, hadmits, hhighest⟩ | ⟨hselect, hnone⟩
  · have hpositive := available.mpr ⟨stored, hstored, hadmits⟩
    refine ⟨⟨fun _ => hpositive, fun _ => ⟨_, hselect⟩⟩, ?_, fun hzero => by omega⟩
    intro channel hchannel
    obtain rfl : Snapshot.withWeight defaultWeight stored = channel :=
      Except.ok.inj (hselect.symm.trans hchannel)
    refine ⟨⟨stored, hstored, rfl⟩, admits_withWeight.mpr hadmits, ?_, ?_⟩
    · rw [withWeight_priority]
      exact hhighest
    · intro excluded' hadded
      rw [withWeight_id] at hadded
      exact registry.built_countAvailable_fewer distinct table routed hstored hadmits hadded
  · have unavailable : ¬ 0 < registry.countAvailable (conditions excluded) group key := by
      intro hpositive
      obtain ⟨other, hother, hadmits⟩ := available.mp hpositive
      exact hnone other hother hadmits
    have herror : ∀ channel, selected ≠ .ok channel := by
      intro channel hchannel
      cases hselect.symm.trans hchannel
    refine ⟨⟨?_, fun hpositive => absurd hpositive unavailable⟩, ?_, fun _ => hselect⟩
    · rintro ⟨channel, hchannel⟩
      exact absurd hchannel (herror channel)
    · intro channel hchannel
      exact absurd hchannel (herror channel)

/-- The channels of two priorities, of which the only one of the higher priority is disabled. -/
def topDisabled : Registry := ⟨⟨3, false⟩, Snapshot.build mixedChannels 3, [2]⟩

theorem topDisabled_selects :
    let conditions := fun excluded : List ChannelId =>
      (⟨.ofSeconds 60, 0, FilterOptions.none.chain excluded⟩ : Conditions)
    (mixedChannels.map (·.id)).Nodup ∧ (topDisabled.snapshot.tiers "g" "m").isSome = true ∧
      topDisabled.countAvailable (conditions []) "g" "m" = 2 ∧
      ∃ channel, topDisabled.selectKey (conditions []) "g" "m" [] = .ok channel ∧
        (∀ other ∈ serving mixedChannels "g" "m", channel.priority < other.priority →
          ¬ topDisabled.Admits (.ofSeconds 60) 0 .none [] "m" other) ∧
        topDisabled.countAvailable (conditions [channel.id]) "g" "m" = 1 := by
  intro conditions
  have distinct : (mixedChannels.map (·.id)).Nodup := by decide
  have routed : (topDisabled.snapshot.tiers "g" "m").isSome = true := by decide +kernel
  have two : topDisabled.countAvailable (conditions []) "g" "m" = 2 := by decide +kernel
  obtain ⟨hselects, hchosen, _⟩ := selection_meets_count mixedChannels 3 distinct ⟨3, false⟩ [2]
    (.ofSeconds 60) 0 .none [] "g" "m" [] routed
  obtain ⟨channel, hchannel⟩ := hselects.mpr (by decide +kernel)
  obtain ⟨_, _, hhighest, hfewer⟩ := hchosen channel hchannel
  have hone := hfewer [channel.id] (by simp)
  refine ⟨distinct, routed, two, channel, hchannel, hhighest, ?_⟩
  exact Nat.add_right_cancel (hone.trans two)

end RelayGateway
