import RelayGateway.Proofs.Routing.Indexes

/-! # The routing table of a list of channels

* `Channel.Serves`, `serving`: the channels that are routed for a group and a model key.
* `Draft.Reflects`: what each of the indexes says about the channels that have been added.
  `Reflects.add` is one turn of the loop over the channels, `reflects_foldl` the whole loop.
* `build_channel?_isSome`: the ids in the table are those of the enabled channels.
* `build_tiers`: the tiers of a group and a model key are those of the channels serving it.
* `Layered`: what the lists of ids say about the channels they stand for.
* `build_channel?`, `build_layered`: the table of channels with distinct ids.
-/

set_option autoImplicit false

namespace RelayGateway

/-! ## Who serves what -/

/-- The channel is enabled, and the group and the model key are among its names up to surrounding
white space. -/
def Channel.Serves (channel : Channel) (group model : String) : Prop :=
  channel.status = .enabled ∧
    (group ≠ "" ∧ ∃ name ∈ channel.groups, Text.trim name = group) ∧
    model ≠ "" ∧ ∃ name ∈ channel.models, Text.trim name = model

/-- A group and a model key are among the names of a channel. -/
def Channel.isListed (channel : Channel) (group model : String) : Bool :=
  channel.listedGroups.contains group && channel.listedModels.contains model

/-- The channels that serve a model key in a group, in order. -/
def serving (channels : List Channel) (group model : String) : List Channel :=
  channels.filter fun channel => channel.status == .enabled && channel.isListed group model

variable {channels : List Channel} {channel : Channel} {defaultWeight : UInt32}
  {group model : String} {id : ChannelId}

theorem isListed_iff : channel.isListed group model = true ↔
    (group ≠ "" ∧ ∃ name ∈ channel.groups, Text.trim name = group) ∧
      model ≠ "" ∧ ∃ name ∈ channel.models, Text.trim name = model := by
  simp only [Channel.isListed, Channel.listedGroups, Channel.listedModels, Bool.and_eq_true,
    List.contains_iff_mem, List.mem_filter, List.mem_map, bne_iff_ne]
  constructor
  · rintro ⟨⟨hgroup, hgroup'⟩, hmodel, hmodel'⟩
    exact ⟨⟨hgroup', hgroup⟩, hmodel', hmodel⟩
  · rintro ⟨⟨hgroup', hgroup⟩, hmodel', hmodel⟩
    exact ⟨⟨hgroup, hgroup'⟩, hmodel, hmodel'⟩

theorem mem_serving :
    channel ∈ serving channels group model ↔ channel ∈ channels ∧ channel.Serves group model := by
  simp only [serving, List.mem_filter, Bool.and_eq_true, beq_iff_eq, isListed_iff, Channel.Serves]

theorem serving_eq_nil :
    serving channels group model = [] ↔ ¬ ∃ channel ∈ channels, channel.Serves group model := by
  simp only [List.eq_nil_iff_forall_not_mem, mem_serving, not_exists]

theorem serving_concat (channels : List Channel) (channel : Channel) (group model : String) :
    serving (channels ++ [channel]) group model =
      if channel.status = .enabled ∧ channel.isListed group model = true then
        serving channels group model ++ [channel]
      else serving channels group model := by
  simp only [serving, List.filter_append, List.filter_cons, List.filter_nil, Bool.and_eq_true,
    beq_iff_eq]
  split
  · rfl
  · exact List.append_nil _

theorem serving_concat_ne_nil : serving (channels ++ [channel]) group model ≠ [] ↔
    serving channels group model ≠ [] ∨
      channel.status = .enabled ∧ channel.isListed group model = true := by
  rw [serving_concat]
  split
  · rename_i hlisted
    exact iff_of_true (List.append_ne_nil_of_right_ne_nil _ (List.cons_ne_nil _ _)) (.inr hlisted)
  · rename_i hunlisted
    exact (or_iff_left hunlisted).symm

theorem serving_ids_nodup (distinct : (channels.map (·.id)).Nodup) (group model : String) :
    ((serving channels group model).map (·.id)).Nodup :=
  distinct.sublist ((List.filter_sublist).map _)

/-! ## The channels of the table -/

/-- Among entries with distinct ids, the one that is found is the one with the id. -/
theorem find?_id_eq_some {α : Type} {idOf : α → ChannelId} {entries : List α} {entry : α}
    (distinct : (entries.map idOf).Nodup) :
    (entries.find? fun e => idOf e == id) = some entry ↔ entry ∈ entries ∧ idOf entry = id := by
  constructor
  · intro h
    exact ⟨List.mem_of_find?_eq_some h, by simpa using List.find?_some h⟩
  · rintro ⟨hmem, rfl⟩
    cases hfind : entries.find? fun e => idOf e == idOf entry with
    | none =>
      have := List.find?_eq_none.mp hfind entry hmem
      simp at this
    | some found =>
      have hid : idOf found = idOf entry := by simpa using List.find?_some hfind
      rw [List.inj_on_of_nodup_map distinct (List.mem_of_find?_eq_some hfind) hmem hid]

theorem withWeight_id (defaultWeight : UInt32) (channel : Channel) :
    (Snapshot.withWeight defaultWeight channel).id = channel.id := by
  unfold Snapshot.withWeight
  split <;> rfl

theorem withWeight_priority (defaultWeight : UInt32) (channel : Channel) :
    (Snapshot.withWeight defaultWeight channel).priority = channel.priority := by
  unfold Snapshot.withWeight
  split <;> rfl

/-- A weight of zero becomes the default weight, and nothing else changes. -/
theorem withWeight_eq (defaultWeight : UInt32) (channel : Channel) :
    Snapshot.withWeight defaultWeight channel =
      { channel with weight := if channel.weight = 0 then defaultWeight else channel.weight } := by
  unfold Snapshot.withWeight
  split <;> rfl

theorem withWeight_listedGroups (defaultWeight : UInt32) (channel : Channel) :
    (Snapshot.withWeight defaultWeight channel).listedGroups = channel.listedGroups := by
  unfold Snapshot.withWeight
  split <;> rfl

theorem withWeight_listedModels (defaultWeight : UInt32) (channel : Channel) :
    (Snapshot.withWeight defaultWeight channel).listedModels = channel.listedModels := by
  unfold Snapshot.withWeight
  split <;> rfl

/-- The pairs under which a channel is listed are those of its names. -/
theorem mem_listed_pairs : (group, model) ∈ (Snapshot.withWeight defaultWeight channel).listedGroups.product
      (Snapshot.withWeight defaultWeight channel).listedModels ↔ channel.isListed group model = true := by
  rw [List.pair_mem_product, withWeight_listedGroups, withWeight_listedModels, Channel.isListed,
    Bool.and_eq_true, List.contains_iff_mem, List.contains_iff_mem]

/-- The enabled channels, as the table has them. -/
def Snapshot.routable (channels : List Channel) (defaultWeight : UInt32) : List Channel :=
  (channels.filter fun channel => channel.status == .enabled).map (withWeight defaultWeight)

theorem routable_concat (channels : List Channel) (channel : Channel) (defaultWeight : UInt32) :
    Snapshot.routable (channels ++ [channel]) defaultWeight =
      if channel.status = .enabled then
        Snapshot.routable channels defaultWeight ++ [Snapshot.withWeight defaultWeight channel]
      else Snapshot.routable channels defaultWeight := by
  simp only [Snapshot.routable, List.filter_append, List.filter_cons, List.filter_nil, beq_iff_eq,
    List.map_append]
  split
  · rfl
  · exact List.append_nil _

theorem mem_routable {other : Channel} : other ∈ Snapshot.routable channels defaultWeight ↔
    ∃ channel ∈ channels, channel.status = .enabled ∧
      other = Snapshot.withWeight defaultWeight channel := by
  simp only [Snapshot.routable, List.mem_map, List.mem_filter, beq_iff_eq]
  constructor
  · rintro ⟨channel, ⟨hmem, henabled⟩, rfl⟩
    exact ⟨channel, hmem, henabled, rfl⟩
  · rintro ⟨channel, hmem, henabled, rfl⟩
    exact ⟨channel, ⟨hmem, henabled⟩, rfl⟩

theorem routable_ids_nodup (distinct : (channels.map (·.id)).Nodup) (defaultWeight : UInt32) :
    ((Snapshot.routable channels defaultWeight).map (·.id)).Nodup := by
  have hids : (Snapshot.routable channels defaultWeight).map (·.id) =
      (channels.filter fun channel => channel.status == .enabled).map (·.id) := by
    rw [Snapshot.routable, List.map_map]
    exact List.map_congr_left fun channel _ => withWeight_id defaultWeight channel
  rw [hids]
  exact distinct.sublist ((List.filter_sublist).map _)

theorem putChannel_ids (table : List Channel) (channel : Channel) :
    id ∈ (Snapshot.putChannel table channel).map (·.id) ↔
      id ∈ table.map (·.id) ∨ channel.id = id := by
  unfold Snapshot.putChannel
  split
  · rename_i h
    obtain ⟨old, hold, heq⟩ := List.any_eq_true.mp h
    have heq : old.id = channel.id := by simpa using heq
    have hids : (table.map fun c => if c.id = channel.id then channel else c).map (·.id) =
        table.map (·.id) := by
      rw [List.map_map]
      refine List.map_congr_left fun c _ => ?_
      dsimp only [Function.comp]
      split
      · rename_i hc
        exact hc.symm
      · rfl
    rw [hids]
    constructor
    · exact Or.inl
    · rintro (h | rfl)
      · exact h
      · exact List.mem_map.mpr ⟨old, hold, heq⟩
  · simp [eq_comm]

theorem foldl_putChannel_ids (table : List Channel) (added : List Channel) :
    id ∈ (added.foldl Snapshot.putChannel table).map (·.id) ↔
      id ∈ table.map (·.id) ∨ id ∈ added.map (·.id) := by
  induction added generalizing table with
  | nil => simp
  | cons first others ih =>
    rw [List.foldl_cons, ih, putChannel_ids, List.map_cons, List.mem_cons, or_assoc]
    simp [eq_comm]

/-- Channels with new ids are appended. -/
theorem foldl_putChannel_distinct (table : List Channel) (added : List Channel)
    (distinct : ((table ++ added).map (·.id)).Nodup) :
    added.foldl Snapshot.putChannel table = table ++ added := by
  induction added generalizing table with
  | nil => rw [List.append_nil]; rfl
  | cons first others ih =>
    have hput : Snapshot.putChannel table first = table ++ [first] := by
      unfold Snapshot.putChannel
      rw [if_neg]
      intro h
      obtain ⟨old, hold, heq⟩ := List.any_eq_true.mp h
      rw [List.map_append, List.nodup_append] at distinct
      refine distinct.2.2 old.id (List.mem_map_of_mem hold) first.id (by simp) ?_
      simpa using heq
    rw [List.foldl_cons, hput, ih]
    · simp
    · simpa using distinct

/-! ## The loop over the channels -/

namespace Draft

variable {draft : Draft}

/-- What the draft says about the channels that have been added. The buckets, the patterns and the groups of
the model keys are three accounts of what the enabled ones serve. -/
structure Reflects (defaultWeight : UInt32) (added : List Channel) (draft : Draft) : Prop where
  channels : draft.channels = (Snapshot.routable added defaultWeight).foldl Snapshot.putChannel []
  buckets : ∀ group model, draft.buckets.lookup (group, model) =
    if serving added group model = [] then none else some (tiersOf (serving added group model))
  wildcards : ∀ text, text ∈ draft.wildcards ↔
    isWildcard text = true ∧ ∃ group, serving added group text ≠ []
  groups : ∀ model group, group ∈ draft.groupsOf model ↔ serving added group model ≠ []

theorem Reflects.getD_buckets (h : Reflects defaultWeight channels draft) (group model : String) :
    (draft.buckets.lookup (group, model)).getD [] = tiersOf (serving channels group model) := by
  rw [h.buckets]
  split
  · rename_i hnone
    rw [hnone]
    rfl
  · rfl

theorem Reflects.skip (h : Reflects defaultWeight channels draft) (disabled : channel.status ≠ .enabled) :
    Reflects defaultWeight (channels ++ [channel]) draft := by
  have hserving : serving (channels ++ [channel]) = serving channels := by
    funext group model
    rw [serving_concat, if_neg fun hboth => disabled hboth.1]
  constructor
  case channels => rw [routable_concat, if_neg disabled, h.channels]
  all_goals rw [hserving]
  case buckets => exact h.buckets
  case wildcards => exact h.wildcards
  case groups => exact h.groups

theorem Reflects.enrol (h : Reflects defaultWeight channels draft) (enabled : channel.status = .enabled) :
    let weighted := Snapshot.withWeight defaultWeight channel
    Reflects defaultWeight (channels ++ [channel])
      (draft.enrol weighted weighted.listedGroups weighted.listedModels) := by
  intro weighted
  have listed := listed_foldl weighted draft (weighted.listedGroups.product weighted.listedModels)
  rw [enrol_eq]
  constructor
  case channels =>
    show Snapshot.putChannel _ weighted = _
    rw [listed.channels, h.channels, routable_concat, if_pos enabled, List.foldl_concat]
  case buckets =>
    intro group model
    refine (listed.buckets (group, model)).trans ?_
    rw [serving_concat]
    simp only [weighted, mem_listed_pairs, enabled, true_and]
    split
    · -- the bucket of a pair that the channel lists, whether or not there was one
      rw [if_neg (List.append_ne_nil_of_right_ne_nil _ (List.cons_ne_nil _ _)), tiersOf_append,
        h.getD_buckets, withWeight_priority, withWeight_id]
    · exact h.buckets group model
  case wildcards =>
    intro text
    refine (listed.wildcards text).trans ?_
    simp only [weighted, mem_listed_pairs, h.wildcards, serving_concat_ne_nil, enabled, true_and, exists_or,
      and_or_left]
  case groups =>
    intro model group
    refine (listed.groups model group).trans ?_
    simp only [weighted, mem_listed_pairs, h.groups, serving_concat_ne_nil, enabled, true_and]

theorem Reflects.add (h : Reflects defaultWeight channels draft) (channel : Channel) :
    Reflects defaultWeight (channels ++ [channel]) (draft.add defaultWeight channel) := by
  unfold Draft.add
  split
  case isTrue enabled => exact h.enrol enabled
  case isFalse disabled => exact h.skip disabled

theorem reflects_foldl (channels : List Channel) (defaultWeight : UInt32) :
    Reflects defaultWeight channels (channels.foldl (Draft.add defaultWeight) empty) := by
  induction channels using List.reverseRecOn with
  | nil =>
    constructor
    case channels => rfl
    case buckets => exact fun _ _ => rfl
    all_goals simp [empty, groupsOf, serving]
  | append_singleton channels channel ih =>
    rw [List.foldl_concat]
    exact ih.add channel

end Draft

/-! ## The finished table -/

theorem channel?_isSome (snapshot : Snapshot) (id : ChannelId) :
    (snapshot.channel? id).isSome = true ↔ id ∈ snapshot.channels.map (·.id) := by
  simp [Snapshot.channel?, List.find?_isSome]

/-- The keys of a group are those that have tiers in it. -/
theorem mem_keys {snapshot : Snapshot} :
    model ∈ snapshot.keys group ↔ (snapshot.tiers group model).isSome = true := by
  unfold Snapshot.keys Snapshot.tiers RoutingRule.tiers
  cases snapshot.rule.lookup group with
  | none => simp
  | some models => exact lookup_isSome.symm

theorem hasGroup_of_tiers {snapshot : Snapshot} {tiers : List (List ChannelId)}
    (routed : snapshot.tiers group model = some tiers) : snapshot.hasGroup group = true := by
  obtain ⟨models, hmodels, _⟩ := Option.bind_eq_some_iff.mp routed
  exact Option.isSome_of_eq_some hmodels

theorem build_channels_eq (channels : List Channel) (defaultWeight : UInt32) :
    (Snapshot.build channels defaultWeight).channels =
      (Snapshot.routable channels defaultWeight).foldl Snapshot.putChannel [] :=
  (Draft.reflects_foldl channels defaultWeight).channels

/-- The table has the enabled channels and no others. -/
theorem build_channel?_isSome (channels : List Channel) (defaultWeight : UInt32) (id : ChannelId) :
    ((Snapshot.build channels defaultWeight).channel? id).isSome = true ↔
      ∃ channel ∈ channels, channel.status = .enabled ∧ channel.id = id := by
  rw [channel?_isSome, build_channels_eq, foldl_putChannel_ids, List.map_nil, List.mem_map]
  constructor
  · rintro (h | ⟨other, hother, rfl⟩)
    · cases h
    · obtain ⟨channel, hmem, henabled, rfl⟩ := mem_routable.mp hother
      exact ⟨channel, hmem, henabled, (withWeight_id defaultWeight channel).symm⟩
  · rintro ⟨channel, hmem, henabled, rfl⟩
    exact .inr ⟨Snapshot.withWeight defaultWeight channel,
      mem_routable.mpr ⟨channel, hmem, henabled, rfl⟩, withWeight_id defaultWeight channel⟩

theorem build_channels (distinct : (channels.map (·.id)).Nodup) (defaultWeight : UInt32) :
    (Snapshot.build channels defaultWeight).channels = Snapshot.routable channels defaultWeight :=
  (build_channels_eq channels defaultWeight).trans
    (foldl_putChannel_distinct [] _ (routable_ids_nodup distinct defaultWeight))

/-- A channel of the table is the enabled channel with its id, up to a weight of zero. -/
theorem build_channel? (distinct : (channels.map (·.id)).Nodup) (defaultWeight : UInt32)
    {other : Channel} :
    (Snapshot.build channels defaultWeight).channel? id = some other ↔
      ∃ channel ∈ channels, channel.status = .enabled ∧ channel.id = id ∧
        other = Snapshot.withWeight defaultWeight channel := by
  rw [Snapshot.channel?, build_channels distinct,
    find?_id_eq_some (routable_ids_nodup distinct defaultWeight), mem_routable]
  constructor
  · rintro ⟨⟨channel, hmem, henabled, rfl⟩, hid⟩
    exact ⟨channel, hmem, henabled, (withWeight_id defaultWeight channel).symm.trans hid, rfl⟩
  · rintro ⟨channel, hmem, henabled, hid, rfl⟩
    exact ⟨⟨channel, hmem, henabled, rfl⟩, (withWeight_id defaultWeight channel).trans hid⟩

/-! ## The tiers of the table -/

/-- A group and a model key are routed if a channel serves them, and by the tiers of the channels that
do. -/
theorem build_tiers (channels : List Channel) (defaultWeight : UInt32) (group model : String) :
    (Snapshot.build channels defaultWeight).tiers group model =
      if serving channels group model = [] then none
      else some ((tiersOf (serving channels group model)).map (·.members)) := by
  have horderly := Draft.orderly_foldl channels defaultWeight
  refine (RoutingRule.tiers_ofBuckets horderly.buckets group model).trans ?_
  rw [(Draft.reflects_foldl channels defaultWeight).buckets]
  split <;> rfl

theorem build_tiers_eq_some {tiers : List (List ChannelId)} :
    (Snapshot.build channels defaultWeight).tiers group model = some tiers ↔
      serving channels group model ≠ [] ∧
        tiers = (tiersOf (serving channels group model)).map (·.members) := by
  rw [build_tiers]
  split
  · rename_i h
    simp [h]
  · rename_i h
    simp [h, eq_comm]

theorem build_tiers_isSome :
    ((Snapshot.build channels defaultWeight).tiers group model).isSome = true ↔
      ∃ channel ∈ channels, channel.Serves group model := by
  rw [build_tiers, ← not_iff_not, ← serving_eq_nil]
  split <;> simp_all

/-! ## What the lists of ids say -/

/-- The tiers list every channel once. Channels share a tier exactly if they have the same priority, a
tier before another has a higher one, and no tier is empty. -/
structure Layered (channels : List Channel) (tiers : List (List ChannelId)) : Prop where
  listed : ∀ id, id ∈ tiers.flatten ↔ ∃ channel ∈ channels, channel.id = id
  once : tiers.flatten.Nodup
  together : ∀ tier ∈ tiers, ∀ a ∈ channels, ∀ b ∈ channels, a.id ∈ tier →
    (b.id ∈ tier ↔ b.priority = a.priority)
  descending : tiers.Pairwise fun upper lower => ∀ a ∈ channels, ∀ b ∈ channels,
    a.id ∈ upper → b.id ∈ lower → b.priority < a.priority
  ordered : ∀ tier ∈ tiers, tier.Sublist (channels.map (·.id))
  filled : tiers ≠ [] ∧ ∀ tier ∈ tiers, tier ≠ []

theorem mem_idsAt_of_distinct {priority : Int64} (distinct : (channels.map (·.id)).Nodup)
    (hmem : channel ∈ channels) :
    channel.id ∈ idsAt priority channels ↔ channel.priority = priority := by
  rw [mem_idsAt]
  constructor
  · rintro ⟨other, hother, rfl, hid⟩
    rw [List.inj_on_of_nodup_map distinct hother hmem hid]
  · intro h
    exact ⟨channel, hmem, h, rfl⟩

theorem Arranged.layered {tiers : List Tier} (h : Arranged channels tiers)
    (distinct : (channels.map (·.id)).Nodup) (nonempty : channels ≠ []) :
    Layered channels (tiers.map (·.members)) := by
  have hat : ∀ tier ∈ tiers, ∀ channel ∈ channels,
      channel.id ∈ tier.members ↔ channel.priority = tier.priority := by
    intro tier htier channel hchannel
    rw [h.members tier htier]
    exact mem_idsAt_of_distinct distinct hchannel
  constructor
  case listed =>
    intro id
    rw [List.mem_flatten]
    constructor
    · rintro ⟨_, hmembers, hid⟩
      obtain ⟨tier, htier, rfl⟩ := List.mem_map.mp hmembers
      rw [h.members tier htier] at hid
      obtain ⟨channel, hchannel, _, rfl⟩ := mem_idsAt.mp hid
      exact ⟨channel, hchannel, rfl⟩
    · rintro ⟨channel, hchannel, rfl⟩
      obtain ⟨tier, htier, heq⟩ := h.covered channel hchannel
      exact ⟨tier.members, List.mem_map_of_mem htier, (hat tier htier channel hchannel).mpr heq.symm⟩
  case once =>
    rw [List.nodup_flatten]
    constructor
    · intro members hmembers
      obtain ⟨tier, htier, rfl⟩ := List.mem_map.mp hmembers
      rw [h.members tier htier]
      exact distinct.sublist idsAt_sublist
    · rw [List.pairwise_map]
      refine h.descending.imp_of_mem ?_
      intro upper lower hupper hlower hlt id hid hid'
      rw [h.members upper hupper] at hid
      obtain ⟨channel, hchannel, heq, rfl⟩ := mem_idsAt.mp hid
      rw [← heq, (hat lower hlower channel hchannel).mp hid'] at hlt
      exact Int64.lt_irrefl hlt
  case together =>
    intro members hmembers a ha b hb hid
    obtain ⟨tier, htier, rfl⟩ := List.mem_map.mp hmembers
    rw [hat tier htier b hb, (hat tier htier a ha).mp hid]
  case descending =>
    rw [List.pairwise_map]
    refine h.descending.imp_of_mem ?_
    intro upper lower hupper hlower hlt a ha b hb hid hid'
    rw [(hat upper hupper a ha).mp hid, (hat lower hlower b hb).mp hid']
    exact hlt
  case ordered =>
    intro members hmembers
    obtain ⟨tier, htier, rfl⟩ := List.mem_map.mp hmembers
    rw [h.members tier htier]
    exact idsAt_sublist
  case filled =>
    constructor
    · obtain ⟨channel, hchannel⟩ := List.exists_mem_of_ne_nil channels nonempty
      obtain ⟨tier, htier, _⟩ := h.covered channel hchannel
      exact List.ne_nil_of_mem (List.mem_map_of_mem htier)
    · intro members hmembers
      obtain ⟨tier, htier, rfl⟩ := List.mem_map.mp hmembers
      obtain ⟨channel, hchannel, heq⟩ := h.inhabited tier htier
      exact List.ne_nil_of_mem ((hat tier htier channel hchannel).mpr heq)

theorem build_layered (distinct : (channels.map (·.id)).Nodup) {tiers : List (List ChannelId)}
    (h : (Snapshot.build channels defaultWeight).tiers group model = some tiers) :
    Layered (serving channels group model) tiers := by
  obtain ⟨hserving, rfl⟩ := build_tiers_eq_some.mp h
  have hnodup := serving_ids_nodup distinct group model
  exact (arranged_tiersOf hnodup).layered hnodup hserving

end RelayGateway
