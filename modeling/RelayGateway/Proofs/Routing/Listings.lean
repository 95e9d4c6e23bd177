import RelayGateway.Proofs.Routing.Isolation
import RelayGateway.Proofs.Text.Trimming

/-! # What a registry lists

* `Text.Proper`, `Ascending`: names without blanks around them, in the strict order of their UTF-8 forms.
* `Snapshot.mem_groupModels`, `Snapshot.Coherent.mem_modelsGroups`: the listings of a table whose indexes
  are coherent, as views of what it routes.
* `Registry.Lists`: what the listings of a registry promise about the channels behind it.
* `listings_agree`: they promise it for all channels, and in the course of time.
-/

set_option autoImplicit false

namespace RelayGateway

/-! ## Names in order -/

/-- A name that is not empty and has no blanks around it. -/
def Text.Proper (text : String) : Prop := text ≠ "" ∧ Text.trim text = text

theorem Text.proper_of_trim {name text : String} (trimmed : Text.trim name = text)
    (nonempty : text ≠ "") : Text.Proper text := by
  subst trimmed
  exact ⟨nonempty, Text.trim_trim name⟩

/-- Each text comes before the next one in the order of UTF-8 forms, so none stands there twice. -/
def Ascending (texts : List String) : Prop :=
  texts.Pairwise fun a b => a.toUTF8.data.toList < b.toUTF8.data.toList

theorem ascending_iff {texts : List String} : Ascending texts ↔ texts.Pairwise (· < ·) := by
  simp only [Ascending, Text.utf8_lt_iff]

theorem ascending_sortTexts {texts : List String} (distinct : (sortTexts texts).Nodup) :
    Ascending (sortTexts texts) := by
  refine ascending_iff.mpr (((pairwise_sortTexts texts).and distinct).imp fun h => ?_)
  exact Std.lt_of_le_of_ne h.1 h.2

theorem Channel.Serves.proper {channel : Channel} {group model : String}
    (h : channel.Serves group model) : Text.Proper group ∧ Text.Proper model := by
  obtain ⟨_, ⟨hgroup, _, _, hgroupName⟩, hmodel, _, _, hmodelName⟩ := h
  exact ⟨Text.proper_of_trim hgroupName hgroup, Text.proper_of_trim hmodelName hmodel⟩

/-! ## The views of a table -/

namespace Snapshot

variable {snapshot : Snapshot} {group model : String}

/-- A name with blanks around it is listed without them. -/
example : (build mixedChannels 3).Routes "g" "m" ∧ ¬ (build mixedChannels 3).Routes " g" "m " := by
  unfold Routes
  decide +kernel

theorem mem_groupModels : model ∈ snapshot.groupModels group ↔ snapshot.Routes group model :=
  mem_sortTexts.trans mem_keys

namespace Coherent

variable (h : snapshot.Coherent)
include h

theorem mem_modelsGroups {groups : List String} : (model, groups) ∈ snapshot.modelsGroups ↔
    groups = snapshot.modelGroups model ∧ ∃ group, snapshot.Routes group model := by
  rw [modelsGroups, List.mem_map, ← h.models]
  constructor
  · rintro ⟨key, hkey, heq⟩
    cases heq
    exact ⟨rfl, hkey⟩
  · rintro ⟨rfl, hkey⟩
    exact ⟨model, hkey, rfl⟩

theorem ascending_groupModels (group : String) : Ascending (snapshot.groupModels group) :=
  ascending_sortTexts (nodup_sortTexts.mpr (h.keys group))

theorem ascending_models : Ascending (snapshot.modelsGroups.map Prod.fst) := by
  have hkeys : snapshot.modelsGroups.map Prod.fst = snapshot.models := by
    rw [modelsGroups, List.map_map]
    exact List.map_id' _
  rw [hkeys]
  exact ascending_sortTexts h.modelsOnce

end Coherent

end Snapshot

/-! ## The listings of a registry -/

namespace Registry

/-- A model key is in the listing of a group. -/
def ListsModel (registry : Registry) (group model : String) : Prop :=
  ∃ models, registry.groupModels group = .ok models ∧ model ∈ models

/-- A group is listed for a model key. -/
def ListsGroup (registry : Registry) (model group : String) : Prop :=
  ∃ groups, (model, groups) ∈ registry.snapshot.modelsGroups ∧ group ∈ groups

def withCase (registry : Registry) (ignoreCase : Bool) : Registry :=
  { registry with options := { registry.options with ignoreCase } }

/-- The listings of a registry agree with each other and with the channels behind it. -/
structure Lists (channels : List Channel) (registry : Registry) : Prop where
  served : ∀ group model, registry.ListsModel group model ↔
    ∃ channel ∈ channels, channel.Serves group model
  mirrored : ∀ group model, registry.ListsGroup model group ↔ registry.ListsModel group model
  groupModels : ∀ group models, registry.groupModels group = .ok models →
    Text.Proper group ∧ models ≠ [] ∧ Ascending models ∧ ∀ model ∈ models, Text.Proper model
  modelGroups : ∀ model groups, (model, groups) ∈ registry.snapshot.modelsGroups →
    Text.Proper model ∧ groups ≠ [] ∧ Ascending groups ∧ ∀ group ∈ groups, Text.Proper group
  models : Ascending (registry.snapshot.modelsGroups.map Prod.fst)
  patterns : Ascending registry.snapshot.wildcards
  pattern : ∀ text, text ∈ registry.snapshot.wildcards ↔
    (∃ stem, text = stem ++ "*") ∧ ∃ group, registry.ListsModel group text
  resolved : ∀ group model, registry.ListsModel group model → ∀ ignoreCase,
    (registry.withCase ignoreCase).resolve group model = .ok model

variable {registry : Registry} {group model : String}

theorem groupModels_eq_ok {models : List String} : registry.groupModels group = .ok models ↔
    registry.snapshot.hasGroup group = true ∧ models = registry.snapshot.groupModels group := by
  unfold Registry.groupModels
  split
  · rename_i hgroup
    rw [Except.ok.injEq]
    exact ⟨fun h => ⟨hgroup, h.symm⟩, fun h => h.2.symm⟩
  · rename_i hgroup
    exact ⟨nofun, fun h => absurd h.1 hgroup⟩

section Coherent

variable (h : registry.snapshot.Coherent)
include h

theorem listsModel_iff : registry.ListsModel group model ↔ registry.snapshot.Routes group model := by
  rw [← Snapshot.mem_groupModels]
  constructor
  · rintro ⟨models, hmodels, hmem⟩
    rw [(groupModels_eq_ok.mp hmodels).2] at hmem
    exact hmem
  · intro hmem
    have hgroup := (h.hasGroup group).mpr ⟨model, Snapshot.mem_groupModels.mp hmem⟩
    exact ⟨_, groupModels_eq_ok.mpr ⟨hgroup, rfl⟩, hmem⟩

theorem listsGroup_iff : registry.ListsGroup model group ↔ registry.snapshot.Routes group model := by
  constructor
  · rintro ⟨groups, hgroups, hmem⟩
    rw [(h.mem_modelsGroups.mp hgroups).1] at hmem
    exact (h.modelGroups model group).mp hmem
  · intro hroutes
    exact ⟨_, h.mem_modelsGroups.mpr ⟨rfl, group, hroutes⟩, (h.modelGroups model group).mpr hroutes⟩

/-- A listed key needs no pattern, so the case of letters does not matter either. -/
theorem resolve_listed (listed : registry.ListsModel group model) (ignoreCase : Bool) :
    (registry.withCase ignoreCase).resolve group model = .ok model := by
  have hroutes := (listsModel_iff h).mp listed
  have hmatched : (registry.withCase ignoreCase).matchedKey? group model = some model :=
    resolveModel_known (mem_keys.mpr hroutes)
  have hgroup : (registry.withCase ignoreCase).snapshot.hasGroup group = true :=
    (h.hasGroup group).mpr ⟨model, hroutes⟩
  rw [resolve, if_pos hgroup, hmatched]

/-- The listings of a table agree if its indexes do and it routes what the channels serve. -/
theorem lists_of_coherent {channels : List Channel}
    (routes : ∀ group model, registry.snapshot.Routes group model ↔
      ∃ channel ∈ channels, channel.Serves group model) : Lists channels registry := by
  have proper : ∀ group model, registry.snapshot.Routes group model →
      Text.Proper group ∧ Text.Proper model := by
    intro group model hroutes
    obtain ⟨_, _, hserves⟩ := (routes group model).mp hroutes
    exact hserves.proper
  constructor
  case served => exact fun group model => (listsModel_iff h).trans (routes group model)
  case mirrored => exact fun group model => (listsGroup_iff h).trans (listsModel_iff h).symm
  case groupModels =>
    intro group models hmodels
    obtain ⟨hgroup, rfl⟩ := groupModels_eq_ok.mp hmodels
    obtain ⟨model, hmodel⟩ := (h.hasGroup group).mp hgroup
    refine ⟨(proper group model hmodel).1, ?_, h.ascending_groupModels group, ?_⟩
    · exact List.ne_nil_of_mem (Snapshot.mem_groupModels.mpr hmodel)
    · intro model hmodel
      exact (proper group model (Snapshot.mem_groupModels.mp hmodel)).2
  case modelGroups =>
    intro model groups hgroups
    obtain ⟨rfl, group, hgroup⟩ := h.mem_modelsGroups.mp hgroups
    refine ⟨(proper group model hgroup).2, ?_, ascending_sortTexts (h.modelGroupsOnce model), ?_⟩
    · exact List.ne_nil_of_mem ((h.modelGroups model group).mpr hgroup)
    · intro group hgroup
      exact (proper group model ((h.modelGroups model group).mp hgroup)).1
  case models => exact h.ascending_models
  case patterns => exact ascending_iff.mpr h.ascending
  case pattern =>
    intro text
    simp only [h.wildcards, isWildcard, Text.endsWith_iff, listsModel_iff h]
  case resolved => exact fun group model listed => resolve_listed h listed

end Coherent

theorem lists_build {channels : List Channel} {defaultWeight : UInt32}
    (built : registry.snapshot = .build channels defaultWeight) : Lists channels registry := by
  refine lists_of_coherent ?_ fun group model => ?_
  · rw [built]
    exact Snapshot.build_coherent channels defaultWeight
  · rw [built]
    exact Snapshot.build_routes

end Registry

/-- The models of a group and the groups of a model are two views of one relation: that an enabled channel
serves the model in the group. Their names are proper and strictly ascending, and none of their lists is
empty. The patterns are the listed models that end in a star, and a listed model is resolved to itself,
whether letter case is ignored or not. All this holds of the registry with the table of any channels,
and of one that starts empty after any loads, failed ones among them, and any changes of runtime flags. -/
theorem listings_agree :
    (∀ (channels : List Channel) (options : RegistryOptions) (disabled : List ChannelId),
      Registry.Lists channels ⟨options, .build channels options.defaultWeight, disabled⟩) ∧
    ∀ (options : RegistryOptions) (history : List RegistryEvent),
      Registry.Lists (lastFetched (loads history))
        (history.foldl Registry.after (.empty options)) := by
  constructor
  · intro channels options disabled
    exact Registry.lists_build rfl
  · intro options history
    exact Registry.lists_build (Registry.snapshot_history options history)

end RelayGateway
