import Mathlib.Data.List.Induction
import Mathlib.Data.List.ProdSigma
import RelayGateway.Proofs.Routing.Tiers

/-! # Indexes filled side by side

* `lookup_amend`, `mem_keys_amend`, `mem_amend`: entries by key after one has been made anew.
* `mem_insertText`, `ascending_insertText`: ascending texts after another has been put among them.
* `Draft.Listed`: a draft that was listed under some names compared with the draft before. `Listed.list` is
  one turn of the loop over the names, `listed_foldl` the whole loop. A pair of names that comes again
  changes nothing, since `insertTier` finds the channel in its tier.
* `Draft.Orderly`: no key stands in an index twice, no list is empty, and nothing is repeated in one.
* `RoutingRule.tiers_ofBuckets`, `RoutingRule.orderly_ofBuckets`: the rule that is made from the tiers of all pairs.
-/

set_option autoImplicit false

namespace RelayGateway

/-! ## Entries by key -/

section Entries

variable {κ α : Type} [BEq κ] [LawfulBEq κ] {key other : κ} {value : α} {entry : κ × α}
  {next : Option α → α} {entries : List (κ × α)}

theorem lookup_amend (key : κ) (next : Option α → α) (entries : List (κ × α)) (other : κ) :
    (amend key next entries).lookup other =
      if other == key then some (next (entries.lookup key)) else entries.lookup other := by
  induction entries with
  | nil =>
    rw [amend, List.lookup_cons]
    cases other == key <;> rfl
  | cons first entries ih =>
    obtain ⟨known, value⟩ := first
    rw [amend]
    by_cases hknown : key = known
    · subst hknown
      rw [if_pos BEq.rfl, List.lookup_cons, List.lookup_cons_self, List.lookup_cons]
      cases other == key <;> rfl
    · have hmiss : (key == known) = false := beq_eq_false_iff_ne.mpr hknown
      rw [hmiss, if_neg Bool.false_ne_true, List.lookup_cons, ih, List.lookup_cons, List.lookup_cons,
        hmiss]
      by_cases hother : other = known
      · subst hother
        have hkey : (other == key) = false := beq_eq_false_iff_ne.mpr (Ne.symm hknown)
        rw [BEq.rfl, hkey]
        rfl
      · rw [beq_eq_false_iff_ne.mpr hother]

theorem mem_keys_amend : other ∈ (amend key next entries).map Prod.fst ↔
    other = key ∨ other ∈ entries.map Prod.fst := by
  induction entries with
  | nil => simp [amend]
  | cons first entries ih =>
    obtain ⟨known, value⟩ := first
    rw [amend]
    split
    · rename_i hknown
      rw [beq_iff_eq] at hknown
      subst hknown
      simp
    · rw [List.map_cons, List.mem_cons, ih, List.map_cons, List.mem_cons]
      exact or_left_comm

theorem nodup_keys_amend (distinct : (entries.map Prod.fst).Nodup) :
    ((amend key next entries).map Prod.fst).Nodup := by
  induction entries with
  | nil => simp [amend]
  | cons first entries ih =>
    obtain ⟨known, value⟩ := first
    obtain ⟨hfresh, hrest⟩ := List.nodup_cons.mp distinct
    rw [amend]
    split
    · exact distinct
    · rename_i hother
      refine List.nodup_cons.mpr ⟨fun hmem => ?_, ih hrest⟩
      rcases mem_keys_amend.mp hmem with heq | hmem
      · exact hother (beq_iff_eq.mpr heq.symm)
      · exact hfresh hmem

theorem mem_of_lookup (found : entries.lookup key = some value) : (key, value) ∈ entries := by
  obtain ⟨before, after, rfl, _⟩ := List.lookup_eq_some_iff.mp found
  exact List.mem_append_right before List.mem_cons_self

theorem lookup_isSome : (entries.lookup key).isSome = true ↔ key ∈ entries.map Prod.fst := by
  simp only [List.lookup_isSome_iff, beq_iff_eq, List.mem_map]
  constructor
  · rintro ⟨entry, hentry, rfl⟩
    exact ⟨entry, hentry, rfl⟩
  · rintro ⟨entry, hentry, rfl⟩
    exact ⟨entry, hentry, rfl⟩

theorem lookup_eq_none (h : key ∉ entries.map Prod.fst) : entries.lookup key = none := by
  rw [← Option.not_isSome_iff_eq_none, lookup_isSome]
  exact h

/-- An entry is one of those before, or the one that was made from the entry of the key. -/
theorem mem_amend (h : entry ∈ amend key next entries) :
    entry ∈ entries ∨ entry = (key, next (entries.lookup key)) := by
  induction entries with
  | nil => exact .inr (List.mem_singleton.mp h)
  | cons first entries ih =>
    obtain ⟨known, value⟩ := first
    rw [amend] at h
    split at h
    · rename_i hknown
      rw [beq_iff_eq] at hknown
      subst hknown
      rcases List.mem_cons.mp h with rfl | h
      · rw [List.lookup_cons_self]
        exact .inr rfl
      · exact .inl (List.mem_cons_of_mem _ h)
    · rename_i hother
      rw [List.lookup_cons, Bool.eq_false_iff.mpr hother]
      rcases List.mem_cons.mp h with rfl | h
      · exact .inl List.mem_cons_self
      · exact (ih h).imp_left (List.mem_cons_of_mem _)

end Entries

/-! ## Ascending texts -/

variable {text other : String} {texts : List String}

theorem mem_insertText : other ∈ insertText text texts ↔ other = text ∨ other ∈ texts := by
  induction texts with
  | nil => simp [insertText]
  | cons first others ih =>
    rw [insertText]
    split
    · exact List.mem_cons
    · split
      · rename_i hsame
        subst hsame
        simp
      · rw [List.mem_cons, ih, List.mem_cons]
        exact or_left_comm

theorem ascending_insertText (ascending : texts.Pairwise (· < ·)) :
    (insertText text texts).Pairwise (· < ·) := by
  induction texts with
  | nil => exact List.pairwise_singleton _ _
  | cons first others ih =>
    obtain ⟨habove, hothers⟩ := List.pairwise_cons.mp ascending
    rw [insertText]
    split
    · rename_i hbelow
      refine List.pairwise_cons.mpr ⟨fun other hother => ?_, ascending⟩
      rcases List.mem_cons.mp hother with rfl | hother
      · exact hbelow
      · exact String.lt_trans hbelow (habove other hother)
    · rename_i hnot
      split
      · exact ascending
      · rename_i hne
        have hfirst : first < text := Std.lt_of_le_of_ne (String.not_lt.mp hnot) (Ne.symm hne)
        refine List.pairwise_cons.mpr ⟨fun other hother => ?_, ih hothers⟩
        rcases mem_insertText.mp hother with rfl | hother
        · exact hfirst
        · exact habove other hother

/-! ## The loop over the names of a channel -/

namespace Draft

variable {channel : Channel} {before after draft : Draft} {pairs : List (String × String)}

/-- The groups that have a model key so far. -/
def groupsOf (draft : Draft) (model : String) : List String :=
  (draft.groupsByModel.lookup model).getD []

/-- A draft in which a channel has been listed under pairs of a group and a model key, compared with the
one before. In the bucket of each of the pairs it was inserted once, however often the pair was named. -/
structure Listed (channel : Channel) (before : Draft) (pairs : List (String × String))
    (after : Draft) : Prop where
  channels : after.channels = before.channels
  buckets : ∀ pair, after.buckets.lookup pair =
    if pair ∈ pairs then
      some (insertTier channel.priority channel.id ((before.buckets.lookup pair).getD []))
    else before.buckets.lookup pair
  wildcards : ∀ text, text ∈ after.wildcards ↔
    text ∈ before.wildcards ∨ isWildcard text = true ∧ ∃ group, (group, text) ∈ pairs
  groups : ∀ model group, group ∈ after.groupsOf model ↔
    group ∈ before.groupsOf model ∨ (group, model) ∈ pairs

theorem mem_groupsOf_list {group model listed key : String} :
    listed ∈ (draft.list channel group model).groupsOf key ↔
      listed ∈ draft.groupsOf key ∨ (listed, key) = (group, model) := by
  unfold groupsOf list
  rw [lookup_amend]
  by_cases hkey : key = model
  · subst hkey
    rw [if_pos BEq.rfl, Option.getD_some, List.mem_insert_iff, or_comm]
    simp
  · rw [if_neg (by simpa using hkey)]
    simp [hkey]

theorem Listed.list (h : Listed channel before pairs after) (group model : String) :
    Listed channel before (pairs ++ [(group, model)]) (after.list channel group model) := by
  constructor
  case channels => exact h.channels
  case buckets =>
    intro pair
    have hlookup : (after.list channel group model).buckets.lookup pair =
        if pair == (group, model) then
          some (insertTier channel.priority channel.id
            ((after.buckets.lookup (group, model)).getD []))
        else after.buckets.lookup pair := lookup_amend _ _ _ _
    rw [hlookup]
    by_cases hpair : pair = (group, model)
    · subst hpair
      rw [if_pos BEq.rfl, if_pos (List.mem_append_right _ List.mem_cons_self), h.buckets]
      split
      · -- the pair was named before, and the channel is in its tier
        rw [Option.getD_some, insertTier_again]
      · rfl
    · rw [if_neg (by simpa using hpair), h.buckets]
      simp [hpair]
  case wildcards =>
    intro text
    have hwildcards : text ∈ (after.list channel group model).wildcards ↔
        text ∈ after.wildcards ∨ isWildcard text = true ∧ text = model := by
      show text ∈ (if isWildcard model then insertText model after.wildcards else after.wildcards) ↔ _
      split
      · rename_i hmodel
        rw [mem_insertText, or_comm]
        refine or_congr_right ⟨?_, And.right⟩
        rintro rfl
        exact ⟨hmodel, rfl⟩
      · rename_i hmodel
        refine ⟨.inl, ?_⟩
        rintro (htext | ⟨htext, rfl⟩)
        · exact htext
        · exact absurd htext hmodel
    rw [hwildcards, h.wildcards, or_assoc, ← and_or_left]
    simp [exists_or]
  case groups =>
    intro key listed
    rw [mem_groupsOf_list, h.groups, or_assoc, List.mem_append, List.mem_singleton]

theorem listed_foldl (channel : Channel) (before : Draft) (pairs : List (String × String)) :
    Listed channel before pairs
      (pairs.foldl (fun draft pair => draft.list channel pair.1 pair.2) before) := by
  induction pairs using List.reverseRecOn with
  | nil => constructor <;> simp
  | append_singleton pairs pair ih =>
    rw [List.foldl_concat]
    exact ih.list pair.1 pair.2

/-- The two loops over the names of a channel are one loop over their pairs. -/
theorem enrol_eq (draft : Draft) (channel : Channel) (groups models : List String) :
    draft.enrol channel groups models =
      let listed := (groups.product models).foldl (fun draft pair =>
        draft.list channel pair.1 pair.2) draft
      { listed with channels := Snapshot.putChannel listed.channels channel } := by
  unfold enrol List.product
  simp only [List.foldl_flatMap, List.foldl_map]

/-! ## Orderly drafts -/

/-- No key stands in an index twice, the patterns are ascending, and each model key has groups, every one
of them once. -/
structure Orderly (draft : Draft) : Prop where
  buckets : (draft.buckets.map Prod.fst).Nodup
  wildcards : draft.wildcards.Pairwise (· < ·)
  models : (draft.groupsByModel.map Prod.fst).Nodup
  groups : ∀ entry ∈ draft.groupsByModel, entry.2 ≠ [] ∧ entry.2.Nodup

theorem Orderly.groupsOf_nodup (h : draft.Orderly) (model : String) : (draft.groupsOf model).Nodup := by
  unfold groupsOf
  cases hfound : draft.groupsByModel.lookup model with
  | none => exact List.nodup_nil
  | some groups => exact (h.groups _ (mem_of_lookup hfound)).2

theorem Orderly.list (h : draft.Orderly) (channel : Channel) (group model : String) :
    (draft.list channel group model).Orderly := by
  constructor
  case buckets => exact nodup_keys_amend h.buckets
  case wildcards =>
    show (if isWildcard model then insertText model draft.wildcards else draft.wildcards).Pairwise (· < ·)
    split
    · exact ascending_insertText h.wildcards
    · exact h.wildcards
  case models => exact nodup_keys_amend h.models
  case groups =>
    intro entry hentry
    rcases mem_amend hentry with hentry | rfl
    · exact h.groups entry hentry
    · refine ⟨List.ne_nil_of_mem (List.mem_insert_self), ?_⟩
      exact (h.groupsOf_nodup model).insert

theorem Orderly.foldl (h : draft.Orderly) (channel : Channel) (pairs : List (String × String)) :
    (pairs.foldl (fun draft pair => draft.list channel pair.1 pair.2) draft).Orderly := by
  induction pairs generalizing draft with
  | nil => exact h
  | cons pair pairs ih => exact ih (h.list channel pair.1 pair.2)

theorem Orderly.enrol (h : draft.Orderly) (channel : Channel) (groups models : List String) :
    (draft.enrol channel groups models).Orderly := by
  rw [enrol_eq]
  obtain ⟨hbuckets, hwildcards, hmodels, hgroups⟩ := h.foldl channel (groups.product models)
  exact ⟨hbuckets, hwildcards, hmodels, hgroups⟩

theorem Orderly.add (h : draft.Orderly) (defaultWeight : UInt32) (channel : Channel) :
    (draft.add defaultWeight channel).Orderly := by
  unfold Draft.add
  split
  · exact h.enrol _ _ _
  · exact h

theorem orderly_foldl (channels : List Channel) (defaultWeight : UInt32) :
    (channels.foldl (add defaultWeight) empty).Orderly := by
  induction channels using List.reverseRecOn with
  | nil => constructor <;> simp [empty]
  | append_singleton channels channel ih =>
    rw [List.foldl_concat]
    exact ih.add defaultWeight channel

end Draft

/-! ## The rule -/

namespace RoutingRule

variable {rule : RoutingRule} {group model : String} {tiers : List (List ChannelId)}

theorem tiers_route (rule : RoutingRule) (group model : String) (tiers : List (List ChannelId))
    (group' model' : String) : (rule.route group model tiers).tiers group' model' =
      if (group', model') = (group, model) then some tiers else rule.tiers group' model' := by
  unfold RoutingRule.tiers route
  rw [lookup_amend]
  by_cases hgroup : group' = group
  · subst hgroup
    rw [if_pos BEq.rfl, Option.bind_some, lookup_amend]
    by_cases hmodel : model' = model
    · simp [hmodel]
    · cases rule.lookup group' <;> simp [hmodel]
  · simp [hgroup]

theorem ofBuckets_concat (buckets : List ((String × String) × List Tier))
    (bucket : (String × String) × List Tier) : ofBuckets (buckets ++ [bucket]) =
      (ofBuckets buckets).route bucket.1.1 bucket.1.2 (bucket.2.map (·.members)) :=
  List.foldl_concat _ _ _ _

/-- The rule made from the tiers of pairs of which none stands there twice. -/
theorem tiers_ofBuckets {buckets : List ((String × String) × List Tier)}
    (distinct : (buckets.map Prod.fst).Nodup) (group model : String) :
    (ofBuckets buckets).tiers group model =
      (buckets.lookup (group, model)).map fun tiers => tiers.map (·.members) := by
  induction buckets using List.reverseRecOn with
  | nil => rfl
  | append_singleton buckets bucket ih =>
    obtain ⟨pair, tiers⟩ := bucket
    rw [List.map_append, List.nodup_append] at distinct
    obtain ⟨hbefore, _, hapart⟩ := distinct
    rw [ofBuckets_concat, tiers_route, ih hbefore, List.lookup_append]
    by_cases hpair : (group, model) = pair
    · subst hpair
      have hfresh : (group, model) ∉ buckets.map Prod.fst :=
        fun hmem => hapart _ hmem (group, model) (by simp) rfl
      rw [if_pos rfl, lookup_eq_none hfresh, Option.none_or, List.lookup_cons_self, Option.map_some]
    · rw [if_neg hpair, List.lookup_cons, beq_eq_false_iff_ne.mpr hpair, List.lookup_nil, Option.or_none]

/-- No group stands in the rule twice, and each of them has model keys, every one once. -/
structure Orderly (rule : RoutingRule) : Prop where
  groups : (rule.map Prod.fst).Nodup
  models : ∀ entry ∈ rule, entry.2 ≠ [] ∧ (entry.2.map Prod.fst).Nodup

theorem Orderly.route (h : rule.Orderly) (group model : String) (tiers : List (List ChannelId)) :
    (rule.route group model tiers).Orderly := by
  constructor
  case groups => exact nodup_keys_amend h.groups
  case models =>
    intro entry hentry
    rcases mem_amend hentry with hentry | rfl
    · exact h.models entry hentry
    · constructor
      · have hmem : model ∈ (amend model (fun _ => tiers) ((rule.lookup group).getD [])).map Prod.fst :=
          mem_keys_amend.mpr (.inl rfl)
        exact fun hnil => List.ne_nil_of_mem hmem (List.map_eq_nil_iff.mpr hnil)
      · refine nodup_keys_amend ?_
        cases hfound : rule.lookup group with
        | none => exact List.nodup_nil
        | some models => exact (h.models _ (mem_of_lookup hfound)).2

theorem orderly_ofBuckets (buckets : List ((String × String) × List Tier)) :
    (ofBuckets buckets).Orderly := by
  induction buckets using List.reverseRecOn with
  | nil => exact ⟨List.nodup_nil, nofun⟩
  | append_singleton buckets bucket ih =>
    rw [ofBuckets_concat]
    exact ih.route _ _ _

end RoutingRule

end RelayGateway
