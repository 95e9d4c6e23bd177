import RelayGateway.Proofs.Routing.Table

/-! # Indexes that agree

* `pairwise_sortTexts`, `mem_sortTexts`, `sortTexts_congr`: texts in ascending order.
* `Snapshot.Routes`: a table has tiers for a group and a model key.
* `Snapshot.Coherent`: each of the indexes of a table is an account of this relation. Nothing but the way
  in which they are filled makes them agree; every table that is built from channels is coherent
  (`Snapshot.build_coherent`).
-/

set_option autoImplicit false

namespace RelayGateway

/-! ## Texts in order -/

section Order

variable {texts others : List String} {text : String}

theorem pairwise_sortTexts (texts : List String) : (sortTexts texts).Pairwise (· ≤ ·) := by
  have hsorted : (sortTexts texts).Pairwise fun a b => (!decide (b < a)) = true := by
    refine List.pairwise_mergeSort (fun a b c hab hbc => ?_) (fun a b => ?_) texts
    · simp only [Bool.not_eq_true', decide_eq_false_iff_not, String.not_lt] at hab hbc ⊢
      exact String.le_trans hab hbc
    · simp only [Bool.or_eq_true, Bool.not_eq_true', decide_eq_false_iff_not, String.not_lt]
      exact String.le_total a b
  refine hsorted.imp fun h => ?_
  rwa [Bool.not_eq_true', decide_eq_false_iff_not, String.not_lt] at h

theorem sortTexts_perm (texts : List String) : (sortTexts texts).Perm texts :=
  List.mergeSort_perm texts _

theorem mem_sortTexts : text ∈ sortTexts texts ↔ text ∈ texts :=
  (sortTexts_perm texts).mem_iff

theorem nodup_sortTexts : (sortTexts texts).Nodup ↔ texts.Nodup :=
  (sortTexts_perm texts).nodup_iff

/-- The order of texts of which none is repeated does not depend on where they stood before. -/
theorem sortTexts_congr (distinct : texts.Nodup) (distinct' : others.Nodup)
    (same : ∀ text, text ∈ texts ↔ text ∈ others) : sortTexts texts = sortTexts others := by
  have hperm : (sortTexts texts).Perm (sortTexts others) :=
    (sortTexts_perm texts).trans
      (((List.perm_ext_iff_of_nodup distinct distinct').mpr same).trans (sortTexts_perm others).symm)
  exact hperm.eq_of_pairwise (fun _ _ _ _ => String.le_antisymm) (pairwise_sortTexts _)
    (pairwise_sortTexts _)

end Order

namespace Snapshot

variable {snapshot : Snapshot} {channels : List Channel} {defaultWeight : UInt32}
  {group model : String}

/-- The table has tiers for a group and a model key. -/
def Routes (snapshot : Snapshot) (group model : String) : Prop :=
  (snapshot.tiers group model).isSome = true

/-- The groups, the keys of a group, the patterns, and the two sides of the reverse index are accounts of
the same routes. No account says anything twice. -/
structure Coherent (snapshot : Snapshot) : Prop where
  hasGroup : ∀ group, snapshot.hasGroup group = true ↔ ∃ model, snapshot.Routes group model
  groups : snapshot.groups.Nodup
  keys : ∀ group, (snapshot.keys group).Nodup
  wildcards : ∀ text, text ∈ snapshot.wildcards ↔
    isWildcard text = true ∧ ∃ group, snapshot.Routes group text
  ascending : snapshot.wildcards.Pairwise (· < ·)
  models : ∀ model, model ∈ snapshot.models ↔ ∃ group, snapshot.Routes group model
  modelsOnce : snapshot.models.Nodup
  modelGroups : ∀ model group, group ∈ snapshot.modelGroups model ↔ snapshot.Routes group model
  modelGroupsOnce : ∀ model, (snapshot.modelGroups model).Nodup

/-- A table routes what its enabled channels serve. -/
theorem build_routes : (build channels defaultWeight).Routes group model ↔
    ∃ channel ∈ channels, channel.Serves group model :=
  build_tiers_isSome

theorem build_routes_iff : (build channels defaultWeight).Routes group model ↔
    serving channels group model ≠ [] := by
  rw [build_routes, Ne, serving_eq_nil, not_not]

theorem build_hasGroup (group : String) : (build channels defaultWeight).hasGroup group = true ↔
    ∃ model, (build channels defaultWeight).Routes group model := by
  constructor
  · intro hgroup
    obtain ⟨models, hmodels⟩ := Option.isSome_iff_exists.mp hgroup
    -- a group is only in the rule with keys of its own
    have hne : models ≠ [] := ((RoutingRule.orderly_ofBuckets _).models _ (mem_of_lookup hmodels)).1
    obtain ⟨⟨model, tiers⟩, hmem⟩ := List.exists_mem_of_ne_nil _ hne
    refine ⟨model, mem_keys.mp ?_⟩
    unfold keys
    rw [hmodels]
    exact List.mem_map_of_mem hmem
  · rintro ⟨model, hroutes⟩
    obtain ⟨tiers, htiers⟩ := Option.isSome_iff_exists.mp hroutes
    exact hasGroup_of_tiers htiers

theorem build_keys_nodup (channels : List Channel) (defaultWeight : UInt32) (group : String) :
    ((build channels defaultWeight).keys group).Nodup := by
  unfold keys
  cases hmodels : (build channels defaultWeight).rule.lookup group with
  | none => exact List.nodup_nil
  | some models => exact ((RoutingRule.orderly_ofBuckets _).models _ (mem_of_lookup hmodels)).2

theorem build_models : model ∈ (build channels defaultWeight).models ↔
    ∃ group, group ∈ (build channels defaultWeight).modelGroups model := by
  have horderly := Draft.orderly_foldl channels defaultWeight
  simp only [models, modelGroups, mem_sortTexts, ← lookup_isSome]
  cases hfound : (build channels defaultWeight).groupsByModel.lookup model with
  | none => simp
  | some groups =>
    have hne : groups ≠ [] := (horderly.groups _ (mem_of_lookup hfound)).1
    simpa using List.exists_mem_of_ne_nil _ hne

theorem build_coherent (channels : List Channel) (defaultWeight : UInt32) :
    (build channels defaultWeight).Coherent := by
  have hreflects := Draft.reflects_foldl channels defaultWeight
  have horderly := Draft.orderly_foldl channels defaultWeight
  have hgroups : ∀ model group, group ∈ (build channels defaultWeight).modelGroups model ↔
      (build channels defaultWeight).Routes group model := by
    intro model group
    rw [modelGroups, mem_sortTexts, build_routes_iff]
    exact hreflects.groups model group
  constructor
  case hasGroup => exact build_hasGroup
  case groups => exact (RoutingRule.orderly_ofBuckets _).groups
  case keys => exact build_keys_nodup channels defaultWeight
  case wildcards =>
    intro text
    simp only [build_routes_iff]
    exact hreflects.wildcards text
  case ascending => exact horderly.wildcards
  case models =>
    intro model
    rw [build_models]
    exact exists_congr (hgroups model)
  case modelsOnce => exact nodup_sortTexts.mpr horderly.models
  case modelGroups => exact hgroups
  case modelGroupsOnce => exact fun model => nodup_sortTexts.mpr (horderly.groupsOf_nodup model)

end Snapshot

end RelayGateway
