import RelayGateway.Proofs.Routing.History

/-! # What a model name is resolved to

* `resolveModel_mem`: a resolved key is one of the keys of the group.
* `Registry.Built`: the table of a registry was built from channels, and stays so (`Registry.built_after`).
* `Registry.resolve_ne_empty`: no name is resolved to the empty key.
-/

set_option autoImplicit false

namespace RelayGateway

/-- A fold that keeps one of two texts at each step ends with one of the texts. -/
theorem foldl_choice_mem {choose : String → String → String}
    (chooses : ∀ a b, choose a b = a ∨ choose a b = b) (texts : List String) (first : String) :
    texts.foldl choose first ∈ first :: texts := by
  induction texts generalizing first with
  | nil => exact List.mem_singleton_self first
  | cons text texts ih =>
    rw [List.foldl_cons]
    have hmem := ih (choose first text)
    rcases chooses first text with h | h
    · rw [h] at hmem ⊢
      rcases List.mem_cons.mp hmem with heq | hrest
      · rw [heq]
        exact List.mem_cons_self
      · exact List.mem_cons_of_mem _ (List.mem_cons_of_mem _ hrest)
    · rw [h] at hmem ⊢
      exact List.mem_cons_of_mem _ hmem

theorem lesser_cases (a b : String) : lesser a b = a ∨ lesser a b = b := by
  unfold lesser
  split
  · exact .inr rfl
  · exact .inl rfl

theorem preferredPattern_cases (a b : String) :
    preferredPattern a b = a ∨ preferredPattern a b = b := by
  unfold preferredPattern
  split
  · exact .inr rfl
  · exact .inl rfl

theorem least?_mem {texts : List String} {text : String} (h : least? texts = some text) :
    text ∈ texts := by
  cases texts with
  | nil => cases h
  | cons first others =>
    rw [← Option.some.inj h]
    exact foldl_choice_mem lesser_cases others first

theorem bestPattern?_mem {patterns : List String} {pattern : String}
    (h : bestPattern? patterns = some pattern) : pattern ∈ patterns := by
  cases patterns with
  | nil => cases h
  | cons first others =>
    rw [← Option.some.inj h]
    exact foldl_choice_mem preferredPattern_cases others first

theorem resolveModel_mem {ignoreCase : Bool} {keys wildcards : List String} {model key : String}
    (h : resolveModel ignoreCase keys wildcards model = some key) : key ∈ keys := by
  have matched : ∀ {upToCase : Bool}, matchWildcard upToCase (wildcards.filter keys.contains) model =
      some key → key ∈ keys := by
    intro upToCase hmatch
    have hpattern := List.mem_of_mem_filter (bestPattern?_mem hmatch)
    exact List.contains_iff_mem.mp (List.mem_filter.mp hpattern).2
  unfold resolveModel at h
  split at h
  · rename_i hknown
    rw [← Option.some.inj h]
    exact List.contains_iff_mem.mp hknown
  · rcases Option.or_eq_some_iff.mp h with hcase | ⟨_, hmatch⟩
    · split at hcase
      · rcases Option.or_eq_some_iff.mp hcase with hleast | ⟨_, hmatch⟩
        · exact List.mem_of_mem_filter (least?_mem hleast)
        · exact matched hmatch
      · cases hcase
    · exact matched hmatch

/-! ## Registries whose table was built from channels -/

/-- The table was built from channels. -/
def Registry.Built (registry : Registry) : Prop :=
  ∃ channels defaultWeight, registry.snapshot = Snapshot.build channels defaultWeight

namespace Registry

variable {registry : Registry} {group model key : String}

theorem built_after (h : registry.Built) (event : RegistryEvent) : (registry.after event).Built := by
  match event with
  | .load (.ok channels) => exact ⟨channels, registry.options.defaultWeight, rfl⟩
  | .load (.error _) => exact h
  | .setEnabled id enabled =>
    obtain ⟨channels, defaultWeight, hsnapshot⟩ := h
    exact ⟨channels, defaultWeight, (setEnabled_snapshot registry id enabled).trans hsnapshot⟩

theorem resolve_mem_keys (h : registry.resolve group model = .ok key) :
    key ∈ registry.snapshot.keys group := by
  unfold resolve at h
  split at h
  · split at h
    · rename_i resolved hresolved
      rw [← Except.ok.inj h]
      exact resolveModel_mem hresolved
    · cases h
  · cases h

/-- What a name is resolved to is routed. -/
theorem resolve_tiers (h : registry.resolve group model = .ok key) :
    ∃ tiers, registry.snapshot.tiers group key = some tiers :=
  Option.isSome_iff_exists.mp (mem_keys.mp (resolve_mem_keys h))

/-- No channel is routed under the empty key. -/
theorem resolve_ne_empty (built : registry.Built) (h : registry.resolve group model = .ok key) :
    key ≠ "" := by
  obtain ⟨channels, defaultWeight, hsnapshot⟩ := built
  have hkey := resolve_mem_keys h
  rw [hsnapshot, mem_keys, build_tiers_isSome] at hkey
  obtain ⟨_, _, _, _, hne, _⟩ := hkey
  exact hne

end Registry

end RelayGateway
