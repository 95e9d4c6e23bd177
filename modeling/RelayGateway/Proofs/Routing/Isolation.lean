import RelayGateway.Proofs.Routing.Availability
import RelayGateway.Proofs.Routing.Coherence
import RelayGateway.Proofs.Routing.Preference

/-! # What one group sees of the table

* `inGroup`: the enabled channels that list a group. The tiers of the group are made from them alone
  (`serving_inGroup`), so they are the same in every table that has these channels in this order.
* `Registry.Alike`: two registries with coherent tables that show a group the same tiers. They list the same
  keys for it, and resolve, select and count alike, although the patterns of all groups are in one list.
* `group_isolated`: channels that do not list a group change nothing for it.
-/

set_option autoImplicit false

namespace RelayGateway

/-! ## The channels of a group -/

/-- The enabled channels that list a group, in order. -/
def inGroup (channels : List Channel) (group : String) : List Channel :=
  channels.filter fun channel => channel.status == .enabled && channel.listedGroups.contains group

variable {channels ours others merged : List Channel} {channel : Channel} {defaultWeight : UInt32}
  {group model key : String} {id : ChannelId}

theorem serving_inGroup (channels : List Channel) (group model : String) :
    serving channels group model =
      (inGroup channels group).filter fun channel => channel.listedModels.contains model := by
  rw [serving, inGroup, List.filter_filter]
  refine List.filter_congr fun channel _ => ?_
  rw [Channel.isListed, ← Bool.and_assoc, Bool.and_comm]

/-! ## Registries that show a group the same -/

/-- Two registries treat names alike, and show a group the same tiers of the same channels with the same
runtime flags. The indexes of each are coherent. -/
structure Registry.Alike (group : String) (registry other : Registry) : Prop where
  ignoreCase : registry.options.ignoreCase = other.options.ignoreCase
  coherent : registry.snapshot.Coherent
  coherent' : other.snapshot.Coherent
  tiers : ∀ key, registry.snapshot.tiers group key = other.snapshot.tiers group key
  channels : ∀ key tiers, registry.snapshot.tiers group key = some tiers → ∀ id ∈ tiers.flatten,
    registry.snapshot.channel? id = other.snapshot.channel? id ∧
      registry.isDisabled id = other.isDisabled id

namespace Registry.Alike

variable {registry other : Registry} (h : Alike group registry other)
include h

theorem routes (key : String) :
    registry.snapshot.Routes group key ↔ other.snapshot.Routes group key := by
  rw [Snapshot.Routes, h.tiers, Snapshot.Routes]

theorem hasGroup : registry.snapshot.hasGroup group = other.snapshot.hasGroup group := by
  rw [Bool.eq_iff_iff, h.coherent.hasGroup, h.coherent'.hasGroup]
  exact exists_congr h.routes

theorem mem_keys_iff (key : String) :
    key ∈ registry.snapshot.keys group ↔ key ∈ other.snapshot.keys group := by
  rw [mem_keys, mem_keys, h.tiers]

theorem groupModels : registry.groupModels group = other.groupModels group := by
  have hmodels : registry.snapshot.groupModels group = other.snapshot.groupModels group :=
    sortTexts_congr (h.coherent.keys group) (h.coherent'.keys group) h.mem_keys_iff
  rw [Registry.groupModels, Registry.groupModels, h.hasGroup, hmodels]

/-- Among the keys of the group, the patterns of all groups are the keys that end in a star. -/
theorem patterns {key : String} (known : key ∈ other.snapshot.keys group) :
    key ∈ registry.snapshot.wildcards ↔ key ∈ other.snapshot.wildcards := by
  have hroutes : other.snapshot.Routes group key := mem_keys.mp known
  rw [h.coherent.wildcards, h.coherent'.wildcards]
  exact and_congr_right fun _ => iff_of_true ⟨group, (h.routes key).mpr hroutes⟩ ⟨group, hroutes⟩

theorem matchedKey? (model : String) :
    registry.matchedKey? group model = other.matchedKey? group model := by
  unfold Registry.matchedKey?
  rw [h.ignoreCase]
  exact resolveModel_congr h.mem_keys_iff fun _ known => h.patterns known

theorem resolve (model : String) : registry.resolve group model = other.resolve group model := by
  unfold Registry.resolve
  rw [h.hasGroup, h.matchedKey?]

variable {conditions : Conditions} {tiers : List (List ChannelId)}
  (routed : registry.snapshot.tiers group key = some tiers)
include routed

theorem isEligible (listed : id ∈ tiers.flatten)
    (found : registry.snapshot.channel? id = some channel) :
    registry.isEligible conditions key channel = other.isEligible conditions key channel := by
  have hid : channel.id = id := by simpa using List.find?_some found
  unfold Registry.isEligible
  rw [hid, (h.channels key tiers routed id listed).2]

theorem candidates {tier : List ChannelId} (htier : tier ∈ tiers) :
    registry.candidates conditions key tier = other.candidates conditions key tier := by
  have listed : ∀ id ∈ tier, id ∈ tiers.flatten := fun id hid => List.mem_flatten_of_mem htier hid
  unfold Registry.candidates
  rw [← List.filterMap_congr fun id hid => (h.channels key tiers routed id (listed id hid)).1]
  refine List.filter_congr fun channel hchannel => ?_
  obtain ⟨id, hid, hfound⟩ := List.mem_filterMap.mp hchannel
  exact h.isEligible routed (listed id hid) hfound

theorem danglingId? : registry.danglingId? tiers = other.danglingId? tiers := by
  unfold Registry.danglingId?
  rw [← List.head?_filter, ← List.head?_filter]
  congr 1
  refine List.filter_congr fun id hid => ?_
  rw [(h.channels key tiers routed id hid).1]

theorem pickFromTiers (draws : Draws) : registry.pickFromTiers conditions key tiers draws =
    other.pickFromTiers conditions key tiers draws := by
  have hcandidates : ∀ tier ∈ tiers, registry.candidates conditions key tier =
      other.candidates conditions key tier := fun tier htier => h.candidates routed htier
  clear routed
  induction tiers generalizing draws with
  | nil => rfl
  | cons tier tiers ih =>
    have hrest := fun draws => ih draws fun tier htier => hcandidates tier (List.mem_cons_of_mem _ htier)
    rw [Registry.pickFromTiers, Registry.pickFromTiers, hcandidates tier List.mem_cons_self]
    simp only [hrest]

omit routed in
theorem selectKey (draws : Draws) : registry.selectKey conditions group key draws =
    other.selectKey conditions group key draws := by
  unfold Registry.selectKey
  rw [h.hasGroup, ← h.tiers key]
  cases hrouted : registry.snapshot.tiers group key with
  | none => rfl
  | some tiers =>
    cases tiers with
    | nil => rfl
    | cons tier tiers =>
      dsimp only
      rw [h.pickFromTiers hrouted, h.danglingId? hrouted]

omit routed in
theorem select (draws : Draws) : registry.select conditions group model draws =
    other.select conditions group model draws := by
  unfold Registry.select
  rw [h.hasGroup, h.matchedKey?]
  cases other.matchedKey? group model with
  | none => rfl
  | some key =>
    dsimp only
    rw [← h.tiers key]
    cases hrouted : registry.snapshot.tiers group key with
    | none => rfl
    | some tiers => rw [Option.getD_some, h.pickFromTiers hrouted]

omit routed in
theorem availableIds : registry.availableIds conditions group key =
    other.availableIds conditions group key := by
  unfold Registry.availableIds
  rw [← h.tiers key]
  cases hrouted : registry.snapshot.tiers group key with
  | none => rfl
  | some tiers =>
    refine List.filter_congr fun id hid => ?_
    have hlisted : id ∈ tiers.flatten := List.mem_eraseDups.mp hid
    rw [← (h.channels key tiers hrouted id hlisted).1]
    cases hfound : registry.snapshot.channel? id with
    | none => rfl
    | some channel => exact h.isEligible hrouted hlisted hfound

end Registry.Alike

/-! ## Channels of other groups -/

/-- Channels that do not list a group have no part in it, wherever they stand among the others. -/
theorem inGroup_merged (merges : merged.Perm (ours ++ others)) (ordered : ours.Sublist merged)
    (apart : inGroup others group = []) : inGroup merged group = inGroup ours group := by
  refine ((ordered.filter _).eq_of_length ?_).symm
  have hlength := (merges.filter fun channel =>
    channel.status == .enabled && channel.listedGroups.contains group).length_eq
  have hnone : (others.filter fun channel =>
    channel.status == .enabled && channel.listedGroups.contains group) = [] := apart
  rw [hlength, List.filter_append, hnone, List.append_nil]

theorem build_channel?_merged (distinct : (merged.map (·.id)).Nodup) (ordered : ours.Sublist merged)
    (listed : ∃ channel ∈ ours, channel.id = id) :
    (Snapshot.build merged defaultWeight).channel? id =
      (Snapshot.build ours defaultWeight).channel? id := by
  have distinct' : (ours.map (·.id)).Nodup := distinct.sublist (ordered.map _)
  obtain ⟨own, hown, hid⟩ := listed
  ext channel
  rw [build_channel? distinct, build_channel? distinct']
  constructor
  · rintro ⟨stored, hstored, henabled, hstored', rfl⟩
    have hsame : stored = own := List.inj_on_of_nodup_map distinct hstored (ordered.subset hown)
      (hstored'.trans hid.symm)
    subst hsame
    exact ⟨stored, hown, henabled, hid, rfl⟩
  · rintro ⟨stored, hstored, hrest⟩
    exact ⟨stored, ordered.subset hstored, hrest⟩

theorem alike_merged (distinct : (merged.map (·.id)).Nodup) (ordered : ours.Sublist merged)
    (same : inGroup merged group = inGroup ours group) (options : RegistryOptions)
    (disabled disabled' : List ChannelId)
    (flags : ∀ channel ∈ ours, disabled.contains channel.id = disabled'.contains channel.id) :
    Registry.Alike group ⟨options, Snapshot.build merged options.defaultWeight, disabled⟩
      ⟨options, Snapshot.build ours options.defaultWeight, disabled'⟩ := by
  constructor
  case ignoreCase => rfl
  case coherent => exact Snapshot.build_coherent merged options.defaultWeight
  case coherent' => exact Snapshot.build_coherent ours options.defaultWeight
  case tiers =>
    intro key
    dsimp only
    rw [build_tiers, build_tiers, serving_inGroup, same, ← serving_inGroup]
  case channels =>
    intro key tiers routed id hid
    have hlayered := build_layered distinct routed
    obtain ⟨channel, hserving, rfl⟩ := (hlayered.listed id).mp hid
    have hown : channel ∈ ours := by
      rw [serving_inGroup, same, ← serving_inGroup] at hserving
      exact (mem_serving.mp hserving).1
    exact ⟨build_channel?_merged distinct ordered ⟨channel, hown, rfl⟩, flags channel hown⟩

/-- Channels that do not list a group are merged with others, whose order stays. Nothing changes for the
group: it is there or not, and has the same keys and tiers. Every name is resolved to the same key. As
long as the runtime flags of its channels are the same, so are selections and counts, whatever the
conditions and the draws. -/
theorem group_isolated (group : String) (ours others merged : List Channel)
    (distinct : ((ours ++ others).map (·.id)).Nodup) (merges : merged.Perm (ours ++ others))
    (ordered : ours.Sublist merged)
    (apart : ∀ channel ∈ others, channel.status = .enabled →
      group ∉ channel.groups.map Text.trim)
    (options : RegistryOptions) (disabled disabled' : List ChannelId)
    (flags : ∀ channel ∈ ours, disabled.contains channel.id = disabled'.contains channel.id) :
    let shared : Registry := ⟨options, Snapshot.build merged options.defaultWeight, disabled⟩
    let alone : Registry := ⟨options, Snapshot.build ours options.defaultWeight, disabled'⟩
    shared.snapshot.hasGroup group = alone.snapshot.hasGroup group ∧
      shared.groupModels group = alone.groupModels group ∧
      (∀ model, shared.snapshot.tiers group model = alone.snapshot.tiers group model) ∧
      (∀ model, shared.resolve group model = alone.resolve group model) ∧
      ∀ (conditions : Conditions) (model : String),
        (∀ draws, shared.select conditions group model draws =
          alone.select conditions group model draws) ∧
        (∀ draws, shared.selectKey conditions group model draws =
          alone.selectKey conditions group model draws) ∧
        shared.countAvailable conditions group model = alone.countAvailable conditions group model := by
  intro shared alone
  have none_listed : inGroup others group = [] := by
    refine List.filter_eq_nil_iff.mpr fun channel hchannel hlisted => ?_
    rw [Bool.and_eq_true, beq_iff_eq, List.contains_iff_mem] at hlisted
    exact apart channel hchannel hlisted.1 (List.mem_of_mem_filter hlisted.2)
  have distinct' : (merged.map (·.id)).Nodup := (merges.map _).nodup_iff.mpr distinct
  have alike : Registry.Alike group shared alone :=
    alike_merged distinct' ordered (inGroup_merged merges ordered none_listed) options disabled
      disabled' flags
  refine ⟨alike.hasGroup, alike.groupModels, alike.tiers, alike.resolve, fun conditions model => ?_⟩
  exact ⟨alike.select, alike.selectKey, congrArg List.length alike.availableIds⟩

def keyedChannel (id : ChannelId) (group key : String) : Channel :=
  { (default : Channel) with id, groups := [group], models := [key], status := .enabled }

/-- The shared table lists a pattern of the guests that a name of the members fits. -/
theorem guestPattern_isolated :
    let ours := [keyedChannel 1 "members" "m-4*"]
    let others := [keyedChannel 2 "guests" "m-*"]
    let merged := others ++ ours
    let shared : Registry := ⟨⟨1, false⟩, Snapshot.build merged 1, []⟩
    let alone : Registry := ⟨⟨1, false⟩, Snapshot.build ours 1, []⟩
    ((ours ++ others).map (·.id)).Nodup ∧ merged.Perm (ours ++ others) ∧ ours.Sublist merged ∧
      (∀ channel ∈ others, channel.status = .enabled →
        "members" ∉ channel.groups.map Text.trim) ∧
      "m-*" ∈ shared.snapshot.wildcards ∧
      shared.resolve "members" "m-4o" = .ok "m-4*" ∧
      shared.resolve "members" "m-5" = alone.resolve "members" "m-5" := by
  intro ours others merged shared alone
  have distinct : ((ours ++ others).map (·.id)).Nodup := by decide
  have merges : merged.Perm (ours ++ others) := List.perm_append_comm
  have ordered : ours.Sublist merged := List.sublist_append_right others ours
  have apart : ∀ channel ∈ others, channel.status = .enabled →
      "members" ∉ channel.groups.map Text.trim := by decide +kernel
  obtain ⟨_, _, _, hresolve, _⟩ := group_isolated "members" ours others merged distinct merges ordered
    apart ⟨1, false⟩ [] [] fun _ _ => rfl
  have pattern : "m-*" ∈ shared.snapshot.wildcards := by decide +kernel
  refine ⟨distinct, merges, ordered, apart, pattern, ?_, hresolve "m-5"⟩
  rw [hresolve "m-4o"]
  decide +kernel

end RelayGateway
