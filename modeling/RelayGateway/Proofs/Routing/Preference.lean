import Mathlib.Data.Set.Basic
import RelayGateway.Proofs.Routing.Resolution
import RelayGateway.Proofs.Text.ByteOrder

/-! # Which key a model name is resolved to

* `Foremost`: a text that has a property and comes, in some order, before all others that have it.
* `Outranks`: the order of the stems of patterns, the longest first.
* `Fitting`: the stems of the patterns of a group that a name begins with.
* `Resolves`: the key of a name, in terms of the sets of keys and patterns alone.
* `resolution_exact`: resolution finds this key and no other, so the order in which keys and patterns are
  listed, and how often, has no part in it.

Lengths are those of UTF-8 forms, and ties are broken by their order.
-/

set_option autoImplicit false

namespace RelayGateway

/-! ## The foremost of several texts -/

/-- A text that has a property and precedes all others that have it. -/
structure Foremost (precedes : String → String → Prop) (property : String → Prop) (text : String) :
    Prop where
  holds : property text
  first : ∀ other, property other → precedes text other

/-- The order of UTF-8 forms. -/
def Bytewise (a b : String) : Prop := a.toUTF8.data.toList ≤ b.toUTF8.data.toList

/-- The order of stems: the longer first, and those of the same length by their patterns. -/
def Outranks (stem other : String) : Prop :=
  other.utf8ByteSize < stem.utf8ByteSize ∨
    other.utf8ByteSize = stem.utf8ByteSize ∧ Bytewise (stem ++ "*") (other ++ "*")

/-- The order of patterns: the longer first. -/
def Preceding (a b : String) : Prop :=
  b.utf8ByteSize < a.utf8ByteSize ∨ b.utf8ByteSize = a.utf8ByteSize ∧ Bytewise a b

variable {a b c : String}

theorem bytewise_iff : Bytewise a b ↔ a ≤ b := Text.utf8_le_iff

theorem Bytewise.refl (a : String) : Bytewise a a := bytewise_iff.mpr (String.le_refl a)

theorem Bytewise.trans (h : Bytewise a b) (h' : Bytewise b c) : Bytewise a c :=
  bytewise_iff.mpr (String.le_trans (bytewise_iff.mp h) (bytewise_iff.mp h'))

theorem Bytewise.antisymm (h : Bytewise a b) (h' : Bytewise b a) : a = b :=
  String.le_antisymm (bytewise_iff.mp h) (bytewise_iff.mp h')

theorem Preceding.refl (a : String) : Preceding a a := .inr ⟨rfl, .refl a⟩

theorem Preceding.trans (h : Preceding a b) (h' : Preceding b c) : Preceding a c := by
  rcases h with h | ⟨heq, h⟩
  · rcases h' with h' | ⟨heq', _⟩
    · exact .inl (h'.trans h)
    · exact .inl (heq' ▸ h)
  · rcases h' with h' | ⟨heq', h'⟩
    · exact .inl (heq ▸ h')
    · exact .inr ⟨heq'.trans heq, h.trans h'⟩

theorem Preceding.antisymm (h : Preceding a b) (h' : Preceding b a) : a = b := by
  rcases h with h | ⟨_, h⟩ <;> rcases h' with h' | ⟨_, h'⟩
  · omega
  · omega
  · omega
  · exact h.antisymm h'

theorem preceding_pattern {stem other : String} :
    Preceding (stem ++ "*") (other ++ "*") ↔ Outranks stem other := by
  unfold Preceding Outranks
  rw [String.utf8ByteSize_append, String.utf8ByteSize_append, Nat.add_lt_add_iff_right,
    Nat.add_right_cancel_iff]

theorem Foremost.unique {precedes : String → String → Prop} {property : String → Prop}
    (antisymm : ∀ {a b}, precedes a b → precedes b a → a = b)
    (ha : Foremost precedes property a) (hb : Foremost precedes property b) : a = b :=
  antisymm (ha.first b hb.holds) (hb.first a ha.holds)

/-- An order of texts, and the choice of the first of two in it. -/
structure Chooses (precedes : String → String → Prop) (choose : String → String → String) :
    Prop where
  refl : ∀ a, precedes a a
  trans : ∀ {a b c}, precedes a b → precedes b c → precedes a c
  antisymm : ∀ {a b}, precedes a b → precedes b a → a = b
  either : ∀ a b, choose a b = a ∨ choose a b = b
  best : ∀ a b, precedes (choose a b) a ∧ precedes (choose a b) b

section Chooses

variable {precedes : String → String → Prop} {choose : String → String → String}
  (h : Chooses precedes choose)
include h

/-- A fold that chooses at each step ends with the first of all texts. -/
theorem Chooses.foldl (texts : List String) (text : String) :
    Foremost precedes (· ∈ text :: texts) (texts.foldl choose text) := by
  refine ⟨foldl_choice_mem h.either texts text, ?_⟩
  induction texts generalizing text with
  | nil =>
    intro other hother
    rw [List.mem_singleton.mp hother]
    exact h.refl text
  | cons next texts ih =>
    intro other hother
    rw [List.foldl_cons]
    -- the choice between the first two takes part in the rest of the fold
    have hchoice := ih (choose text next) _ List.mem_cons_self
    rcases List.mem_cons.mp hother with rfl | hrest
    · exact h.trans hchoice (h.best other next).1
    · rcases List.mem_cons.mp hrest with rfl | hrest
      · exact h.trans hchoice (h.best text other).2
      · exact ih (choose text next) other (List.mem_cons_of_mem _ hrest)

theorem Chooses.foldl_eq_iff {texts : List String} {text chosen : String} :
    texts.foldl choose text = chosen ↔ Foremost precedes (· ∈ text :: texts) chosen := by
  constructor
  · rintro rfl
    exact h.foldl texts text
  · exact (h.foldl texts text).unique h.antisymm

end Chooses

theorem lesser_chooses : Chooses Bytewise lesser := by
  refine ⟨.refl, .trans, Bytewise.antisymm, lesser_cases, fun a b => ?_⟩
  unfold lesser
  split
  · rename_i hless
    exact ⟨bytewise_iff.mpr (String.lt_asymm hless), .refl b⟩
  · rename_i hnot
    exact ⟨.refl a, bytewise_iff.mpr hnot⟩

theorem patternPreferred_eq_true : patternPreferred a b = true ↔
    b.utf8ByteSize < a.utf8ByteSize ∨ a.utf8ByteSize = b.utf8ByteSize ∧ a < b := by
  simp [patternPreferred]

theorem preferredPattern_chooses : Chooses Preceding preferredPattern := by
  refine ⟨.refl, .trans, Preceding.antisymm, preferredPattern_cases, fun a b => ?_⟩
  unfold preferredPattern
  split
  · rename_i hpreferred
    refine ⟨?_, .refl b⟩
    rcases patternPreferred_eq_true.mp hpreferred with hlonger | ⟨hsize, hless⟩
    · exact .inl hlonger
    · exact .inr ⟨hsize.symm, bytewise_iff.mpr (String.lt_asymm hless)⟩
  · rename_i hnot
    rw [patternPreferred_eq_true, not_or, not_and] at hnot
    refine ⟨.refl a, ?_⟩
    rcases Nat.lt_or_eq_of_le (Nat.not_lt.mp hnot.1) with hlonger | hsize
    · exact .inl hlonger
    · exact .inr ⟨hsize, bytewise_iff.mpr (hnot.2 hsize)⟩

theorem least?_eq_some {texts : List String} {text : String} :
    least? texts = some text ↔ Foremost Bytewise (· ∈ texts) text := by
  cases texts with
  | nil => exact ⟨nofun, fun h => nomatch h.holds⟩
  | cons first others => rw [least?, Option.some_inj, lesser_chooses.foldl_eq_iff]

theorem least?_eq_none {texts : List String} : least? texts = none ↔ texts = [] := by
  cases texts <;> simp [least?]

theorem bestPattern?_eq_some {patterns : List String} {pattern : String} :
    bestPattern? patterns = some pattern ↔ Foremost Preceding (· ∈ patterns) pattern := by
  cases patterns with
  | nil => exact ⟨nofun, fun h => nomatch h.holds⟩
  | cons first others => rw [bestPattern?, Option.some_inj, preferredPattern_chooses.foldl_eq_iff]

theorem bestPattern?_eq_none {patterns : List String} : bestPattern? patterns = none ↔ patterns = [] := by
  cases patterns <;> simp [bestPattern?]

/-! ## Patterns that a name begins with -/

/-- A text as it is compared with others: lower-cased if letter case is ignored. -/
def inCase (ignoreCase : Bool) (text : String) : String :=
  if ignoreCase then Text.toLower text else text

/-- The stems of the patterns that are keys of a group and that a name begins with. -/
def Fitting (ignoreCase : Bool) (keys wildcards : Set String) (model stem : String) : Prop :=
  stem ++ "*" ∈ wildcards ∧ stem ++ "*" ∈ keys ∧
    (inCase ignoreCase stem).toList <+: (inCase ignoreCase model).toList

theorem stem?_eq_some {pattern stem : String} :
    stem? pattern = some stem ↔ pattern = stem ++ "*" := by
  have star : "*".toList = ['*'] := rfl
  unfold stem? isWildcard Text.endsWith
  constructor
  · intro h
    split at h
    · rename_i hsuffix
      obtain ⟨cs, hcs⟩ := List.isSuffixOf_iff_suffix.mp hsuffix
      rw [← Option.some.inj h, ← String.toList_inj, String.toList_append, String.toList_ofList, ← hcs,
        star, List.dropLast_concat]
    · cases h
  · rintro rfl
    rw [String.toList_append, star, List.dropLast_concat, String.ofList_toList, if_pos]
    exact List.isSuffixOf_iff_suffix.mpr (List.suffix_append _ _)

theorem patternMatches_iff {ignoreCase : Bool} {model pattern : String} :
    patternMatches ignoreCase model pattern = true ↔ ∃ stem, pattern = stem ++ "*" ∧
      (inCase ignoreCase stem).toList <+: (inCase ignoreCase model).toList := by
  unfold patternMatches
  constructor
  · intro h
    split at h
    · cases h
    · rename_i stem hstem
      refine ⟨stem, stem?_eq_some.mp hstem, ?_⟩
      cases ignoreCase <;> exact List.isPrefixOf_iff_prefix.mp h
  · rintro ⟨stem, hpattern, hprefix⟩
    rw [stem?_eq_some.mpr hpattern]
    cases ignoreCase <;> exact List.isPrefixOf_iff_prefix.mpr hprefix

variable {ignoreCase : Bool} {keys wildcards : List String} {model key stem : String}

/-- The patterns that a wildcard match chooses from are those with a fitting stem. -/
theorem mem_fitting_patterns {pattern : String} :
    pattern ∈ (wildcards.filter keys.contains).filter (patternMatches ignoreCase model) ↔
      ∃ stem, pattern = stem ++ "*" ∧
        Fitting ignoreCase {key | key ∈ keys} {pattern | pattern ∈ wildcards} model stem := by
  rw [List.mem_filter, List.mem_filter, List.contains_iff_mem, patternMatches_iff]
  constructor
  · rintro ⟨⟨hwildcard, hkey⟩, stem, rfl, hprefix⟩
    exact ⟨stem, rfl, hwildcard, hkey, hprefix⟩
  · rintro ⟨stem, rfl, hwildcard, hkey, hprefix⟩
    exact ⟨⟨hwildcard, hkey⟩, stem, rfl, hprefix⟩

theorem matchWildcard_eq_some :
    matchWildcard ignoreCase (wildcards.filter keys.contains) model = some key ↔
      ∃ stem, key = stem ++ "*" ∧ Foremost Outranks
        (Fitting ignoreCase {key | key ∈ keys} {pattern | pattern ∈ wildcards} model) stem := by
  rw [matchWildcard, bestPattern?_eq_some]
  constructor
  · intro h
    obtain ⟨stem, rfl, hfits⟩ := mem_fitting_patterns.mp h.holds
    refine ⟨stem, rfl, hfits, fun other hother => ?_⟩
    exact preceding_pattern.mp (h.first _ (mem_fitting_patterns.mpr ⟨other, rfl, hother⟩))
  · rintro ⟨stem, rfl, h⟩
    refine ⟨mem_fitting_patterns.mpr ⟨stem, rfl, h.holds⟩, fun pattern hpattern => ?_⟩
    obtain ⟨other, rfl, hother⟩ := mem_fitting_patterns.mp hpattern
    exact preceding_pattern.mpr (h.first other hother)

theorem matchWildcard_eq_none :
    matchWildcard ignoreCase (wildcards.filter keys.contains) model = none ↔
      ∀ stem, ¬ Fitting ignoreCase {key | key ∈ keys} {pattern | pattern ∈ wildcards} model stem := by
  rw [matchWildcard, bestPattern?_eq_none, List.eq_nil_iff_forall_not_mem]
  constructor
  · intro h stem hfits
    exact h _ (mem_fitting_patterns.mpr ⟨stem, rfl, hfits⟩)
  · intro h pattern hpattern
    obtain ⟨stem, _, hfits⟩ := mem_fitting_patterns.mp hpattern
    exact h stem hfits

/-! ## The key of a name -/

/-- The key of a name: the name itself; else, if letter case is ignored, the least key that differs in
case only, or the pattern with the longest stem that the name begins with up to case; else the pattern
with the longest stem that the name begins with. -/
inductive Resolves (keys wildcards : Set String) (model : String) : Bool → String → Prop where
  | known {ignoreCase : Bool} (known : model ∈ keys) : Resolves keys wildcards model ignoreCase model
  | upToCase {key : String} (unknown : model ∉ keys)
      (least : Foremost Bytewise (fun key => key ∈ keys ∧ Text.toLower key = Text.toLower model) key) :
      Resolves keys wildcards model true key
  | patternUpToCase {stem : String} (unknown : model ∉ keys)
      (unlike : ∀ key ∈ keys, Text.toLower key ≠ Text.toLower model)
      (longest : Foremost Outranks (Fitting true keys wildcards model) stem) :
      Resolves keys wildcards model true (stem ++ "*")
  | pattern {ignoreCase : Bool} {stem : String} (unknown : model ∉ keys)
      (unlike : ignoreCase = true → (∀ key ∈ keys, Text.toLower key ≠ Text.toLower model) ∧
        ∀ stem, ¬ Fitting true keys wildcards model stem)
      (longest : Foremost Outranks (Fitting false keys wildcards model) stem) :
      Resolves keys wildcards model ignoreCase (stem ++ "*")

theorem leastUpToCase_eq_some :
    least? (keys.filter fun key => Text.toLower key == Text.toLower model) = some key ↔
      Foremost Bytewise (fun key => key ∈ keys ∧ Text.toLower key = Text.toLower model) key := by
  simp only [least?_eq_some, List.mem_filter, beq_iff_eq]

theorem leastUpToCase_eq_none :
    least? (keys.filter fun key => Text.toLower key == Text.toLower model) = none ↔
      ∀ key ∈ keys, Text.toLower key ≠ Text.toLower model := by
  rw [least?_eq_none, List.filter_eq_nil_iff]
  simp only [beq_iff_eq, ne_eq]

theorem resolveModel_known (known : model ∈ keys) :
    resolveModel ignoreCase keys wildcards model = some model := by
  rw [resolveModel, if_pos (List.contains_iff_mem.mpr known)]

theorem resolveModel_sensitive (unknown : model ∉ keys) :
    resolveModel false keys wildcards model =
      matchWildcard false (wildcards.filter keys.contains) model := by
  rw [resolveModel, if_neg (mt List.contains_iff_mem.mp unknown)]
  rfl

theorem resolveModel_insensitive (unknown : model ∉ keys) :
    resolveModel true keys wildcards model =
      ((least? (keys.filter fun key => Text.toLower key == Text.toLower model)).or
        (matchWildcard true (wildcards.filter keys.contains) model)).or
          (matchWildcard false (wildcards.filter keys.contains) model) := by
  rw [resolveModel, if_neg (mt List.contains_iff_mem.mp unknown)]
  rfl

theorem resolveModel_eq_some :
    resolveModel ignoreCase keys wildcards model = some key ↔
      Resolves {key | key ∈ keys} {pattern | pattern ∈ wildcards} model ignoreCase key := by
  by_cases known : model ∈ keys
  · rw [resolveModel_known known, Option.some_inj]
    constructor
    · rintro rfl
      exact .known known
    · intro h
      cases h with
      | known _ => rfl
      | upToCase unknown _ => exact absurd known unknown
      | patternUpToCase unknown _ _ => exact absurd known unknown
      | pattern unknown _ _ => exact absurd known unknown
  · cases ignoreCase with
    | false =>
      rw [resolveModel_sensitive known, matchWildcard_eq_some]
      constructor
      · rintro ⟨stem, rfl, hlongest⟩
        exact .pattern known nofun hlongest
      · intro h
        cases h with
        | known h => exact absurd h known
        | pattern _ _ hlongest => exact ⟨_, rfl, hlongest⟩
    | true =>
      rw [resolveModel_insensitive known, Option.or_eq_some_iff, Option.or_eq_some_iff,
        Option.or_eq_none_iff, leastUpToCase_eq_some, leastUpToCase_eq_none, matchWildcard_eq_some,
        matchWildcard_eq_some, matchWildcard_eq_none]
      constructor
      · rintro ((hleast | ⟨hunlike, stem, rfl, hlongest⟩) | ⟨hunlike, stem, rfl, hlongest⟩)
        · exact .upToCase known hleast
        · exact .patternUpToCase known hunlike hlongest
        · exact .pattern known (fun _ => hunlike) hlongest
      · intro h
        cases h with
        | known h => exact absurd h known
        | upToCase _ hleast => exact .inl (.inl hleast)
        | patternUpToCase _ hunlike hlongest => exact .inl (.inr ⟨hunlike, _, rfl, hlongest⟩)
        | pattern _ hunlike hlongest => exact .inr ⟨hunlike rfl, _, rfl, hlongest⟩

theorem resolveModel_eq_none :
    resolveModel ignoreCase keys wildcards model = none ↔ model ∉ keys ∧
      (ignoreCase = true → (∀ key ∈ keys, Text.toLower key ≠ Text.toLower model) ∧
        ∀ stem, ¬ Fitting true {key | key ∈ keys} {pattern | pattern ∈ wildcards} model stem) ∧
      ∀ stem, ¬ Fitting false {key | key ∈ keys} {pattern | pattern ∈ wildcards} model stem := by
  by_cases known : model ∈ keys
  · rw [resolveModel_known known]
    exact ⟨nofun, fun h => absurd known h.1⟩
  · cases ignoreCase with
    | false =>
      rw [resolveModel_sensitive known, matchWildcard_eq_none]
      exact ⟨fun h => ⟨known, nofun, h⟩, fun h => h.2.2⟩
    | true =>
      rw [resolveModel_insensitive known, Option.or_eq_none_iff, Option.or_eq_none_iff,
        leastUpToCase_eq_none, matchWildcard_eq_none, matchWildcard_eq_none]
      exact ⟨fun h => ⟨known, fun _ => h.1, h.2⟩, fun h => ⟨h.2.1 rfl, h.2.2⟩⟩

/-- What is resolved depends on the set of keys, and on which of them are patterns. -/
theorem resolveModel_congr {keys' wildcards' : List String} (sameKeys : ∀ key, key ∈ keys' ↔ key ∈ keys)
    (samePatterns : ∀ key ∈ keys, key ∈ wildcards' ↔ key ∈ wildcards) :
    resolveModel ignoreCase keys' wildcards' model = resolveModel ignoreCase keys wildcards model := by
  -- only the patterns among the keys are looked at
  have hrelevant : ∀ keys wildcards : List String,
      resolveModel ignoreCase keys wildcards model =
        resolveModel ignoreCase keys (wildcards.filter keys.contains) model := by
    intro keys wildcards
    unfold resolveModel
    simp only [List.filter_filter, Bool.and_self]
  have hkeys : {key | key ∈ keys'} = {key | key ∈ keys} := Set.ext sameKeys
  have hpattern : ∀ pattern, pattern ∈ wildcards'.filter keys'.contains ↔
      pattern ∈ wildcards.filter keys.contains := by
    intro pattern
    simp only [List.mem_filter, List.contains_iff_mem, sameKeys]
    exact and_congr_left (samePatterns pattern)
  have hpatterns : {pattern | pattern ∈ wildcards'.filter keys'.contains} =
      {pattern | pattern ∈ wildcards.filter keys.contains} := Set.ext hpattern
  refine Option.ext fun key => ?_
  rw [hrelevant, resolveModel_eq_some, hkeys, hpatterns, hrelevant keys, resolveModel_eq_some]

/-- Resolution finds the key that the sets of keys and patterns determine, and none only if no key is the
name, is the name up to case as far as case is ignored, or is a pattern that it begins with. The key is one
of the group. -/
theorem resolution_exact (ignoreCase : Bool) (keys wildcards : List String) (model : String) :
    (∀ key, resolveModel ignoreCase keys wildcards model = some key ↔
      Resolves {key | key ∈ keys} {pattern | pattern ∈ wildcards} model ignoreCase key) ∧
    (resolveModel ignoreCase keys wildcards model = none ↔ model ∉ keys ∧
      (ignoreCase = true → (∀ key ∈ keys, Text.toLower key ≠ Text.toLower model) ∧
        ∀ stem, ¬ Fitting true {key | key ∈ keys} {pattern | pattern ∈ wildcards} model stem) ∧
      ∀ stem, ¬ Fitting false {key | key ∈ keys} {pattern | pattern ∈ wildcards} model stem) ∧
    (∀ key, resolveModel ignoreCase keys wildcards model = some key → key ∈ keys) ∧
    ∀ keys' wildcards', (∀ key, key ∈ keys' ↔ key ∈ keys) →
      (∀ pattern, pattern ∈ wildcards' ↔ pattern ∈ wildcards) →
      resolveModel ignoreCase keys' wildcards' model = resolveModel ignoreCase keys wildcards model := by
  refine ⟨fun key => resolveModel_eq_some, resolveModel_eq_none, fun key => resolveModel_mem, ?_⟩
  intro keys' wildcards' sameKeys sameWildcards
  exact resolveModel_congr sameKeys fun pattern _ => sameWildcards pattern

/-- Two patterns fit a name up to case and have stems of the same length. -/
theorem tiedPatterns_exact :
    let keys := ["m-*", "m-4*", "M-4*"]
    let shuffled := ["M-4*", "m-4*", "m-*", "m-4*"]
    (∀ key, key ∈ shuffled ↔ key ∈ keys) ∧
      Resolves {key | key ∈ keys} {pattern | pattern ∈ keys} "m-4O" true "M-4*" ∧
      resolveModel true shuffled shuffled "m-4O" = some "M-4*" ∧
      resolveModel false shuffled shuffled "m-4O" = some "m-4*" := by
  intro keys shuffled
  have same : ∀ key, key ∈ shuffled ↔ key ∈ keys := by
    intro key
    simp only [keys, shuffled, List.mem_cons, List.not_mem_nil, or_false]
    tauto
  obtain ⟨hkey, _, _, hshuffled⟩ := resolution_exact true keys keys "m-4O"
  obtain ⟨_, _, _, hshuffled'⟩ := resolution_exact false keys keys "m-4O"
  have hchosen : resolveModel true keys keys "m-4O" = some "M-4*" := by decide +kernel
  have hchosen' : resolveModel false keys keys "m-4O" = some "m-4*" := by decide +kernel
  exact ⟨same, (hkey "M-4*").mp hchosen, (hshuffled shuffled shuffled same same).trans hchosen,
    (hshuffled' shuffled shuffled same same).trans hchosen'⟩

end RelayGateway
