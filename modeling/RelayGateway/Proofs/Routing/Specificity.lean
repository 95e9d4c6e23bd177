import RelayGateway.Proofs.Routing.Preference
import RelayGateway.Proofs.Text.Lowercasing

/-! # Patterns found up to letter case

* `SplitsWord`: a name begins with a stem that ends in a final sigma, which is no final one in the name.
* `fitting_upToCase_iff`: a pattern that fits a name fits it up to case, unless its stem splits a word.
* `specificity_kept`: the pattern found up to case has no shorter stem than the one found with case, unless
  the stem of that one splits a word and only shorter ones fit up to case.
* `splitWord_neglected`: such a stem, for which a shorter one is found.
-/

set_option autoImplicit false

namespace RelayGateway

/-- A name goes on after a stem within the word that a sigma ends in the stem. -/
def SplitsWord (stem model : String) : Prop :=
  ∃ rest, model.toList = stem.toList ++ rest ∧ Text.CutsWord [] stem.toList rest

variable {keys wildcards : List String} {model stem : String}

/-- A pattern that fits a name fits it up to case as well, unless its stem splits a word of the name. -/
theorem fitting_upToCase_iff {keys wildcards : Set String}
    (fits : Fitting false keys wildcards model stem) :
    Fitting true keys wildcards model stem ↔ ¬ SplitsWord stem model := by
  obtain ⟨hwildcard, hkey, rest, hmodel⟩ := fits
  have hlower := Text.toLower_prefix_iff hmodel.symm
  constructor
  · rintro ⟨_, _, hprefix⟩ ⟨rest', hmodel', hcuts⟩
    have hrest : rest' = rest := List.append_cancel_left (hmodel'.symm.trans hmodel.symm)
    exact hlower.mp hprefix (hrest ▸ hcuts)
  · intro hwhole
    exact ⟨hwildcard, hkey, hlower.mpr fun hcuts => hwhole ⟨rest, hmodel.symm, hcuts⟩⟩

/-- If letter case is ignored, a name that is no key up to case is resolved to a pattern whenever it is with
letter case. The stem of that pattern is the shorter one in one case only: the other stem splits a word of
the name, so it does not fit up to case, while others do and all of these are shorter. -/
theorem specificity_kept (keys wildcards : List String) (model pattern : String)
    (unlike : ∀ key ∈ keys, Text.toLower key ≠ Text.toLower model)
    (chosen : resolveModel false keys wildcards model = some pattern) :
    ∃ stem other, pattern = stem ++ "*" ∧
      resolveModel true keys wildcards model = some (other ++ "*") ∧
      (other.utf8ByteSize < stem.utf8ByteSize ↔ SplitsWord stem model ∧
        (∃ shorter, Fitting true {key | key ∈ keys} {pattern | pattern ∈ wildcards} model shorter) ∧
        ∀ shorter, Fitting true {key | key ∈ keys} {pattern | pattern ∈ wildcards} model shorter →
          shorter.utf8ByteSize < stem.utf8ByteSize) := by
  have unknown : model ∉ keys := fun hmem => unlike model hmem rfl
  rw [resolveModel_sensitive unknown, matchWildcard_eq_some] at chosen
  obtain ⟨stem, rfl, hlongest⟩ := chosen
  refine ⟨stem, ?_⟩
  cases hmatch : matchWildcard true (wildcards.filter keys.contains) model with
  | none =>
    -- no pattern fits up to case, and the search with letter case decides
    have hnone := matchWildcard_eq_none.mp hmatch
    refine ⟨stem, rfl, resolveModel_eq_some.mpr (.pattern unknown (fun _ => ⟨unlike, hnone⟩) hlongest), ?_⟩
    refine iff_of_false (Nat.lt_irrefl _) ?_
    rintro ⟨_, ⟨shorter, hshorter⟩, _⟩
    exact hnone shorter hshorter
  | some found =>
    obtain ⟨other, rfl, hother⟩ := matchWildcard_eq_some.mp hmatch
    refine ⟨other, rfl, resolveModel_eq_some.mpr (.patternUpToCase unknown unlike hother), ?_⟩
    have hsize : ∀ shorter, Fitting true {key | key ∈ keys} {pattern | pattern ∈ wildcards} model
        shorter → shorter.utf8ByteSize ≤ other.utf8ByteSize := by
      intro shorter hshorter
      rcases hother.first shorter hshorter with hless | ⟨heq, _⟩
      · exact Nat.le_of_lt hless
      · exact Nat.le_of_eq heq
    constructor
    · intro hless
      refine ⟨?_, ⟨other, hother.holds⟩, fun shorter hshorter => Nat.lt_of_le_of_lt (hsize _ hshorter) hless⟩
      by_contra hwhole
      have hstem := hsize stem ((fitting_upToCase_iff hlongest.holds).mpr hwhole)
      exact Nat.not_lt.mpr hstem hless
    · rintro ⟨_, _, hshorter⟩
      exact hshorter other hother.holds

/-- A stem with a final sigma, and a name in which the word ends with the stem. -/
theorem wholeWord_specific :
    let keys := ["Α*", "ΑΣ*"]
    (∀ key ∈ keys, Text.toLower key ≠ Text.toLower "ΑΣ-Α") ∧
      resolveModel false keys keys "ΑΣ-Α" = some "ΑΣ*" ∧
      ∃ other, resolveModel true keys keys "ΑΣ-Α" = some (other ++ "*") ∧
        "ΑΣ".utf8ByteSize ≤ other.utf8ByteSize := by
  intro keys
  have unlike : ∀ key ∈ keys, Text.toLower key ≠ Text.toLower "ΑΣ-Α" := by decide +kernel
  have chosen : resolveModel false keys keys "ΑΣ-Α" = some "ΑΣ*" := by decide +kernel
  obtain ⟨stem, other, hpattern, hother, hshorter⟩ :=
    specificity_kept keys keys "ΑΣ-Α" "ΑΣ*" unlike chosen
  have hsplit : "ΑΣ" ++ "*" = "ΑΣ*" := by decide +kernel
  obtain rfl : "ΑΣ" = stem := (String.append_left_inj "*").mp (hsplit.trans hpattern)
  have whole : ¬ SplitsWord "ΑΣ" "ΑΣ-Α" := by
    rintro ⟨rest, hmodel, _, _, _, _, _, hcased⟩
    have hname : "ΑΣ-Α".toList = "ΑΣ".toList ++ ['-', 'Α'] := by decide +kernel
    obtain rfl : ['-', 'Α'] = rest := List.append_cancel_left (hname.symm.trans hmodel)
    exact absurd hcased (by decide +kernel)
  exact ⟨unlike, chosen, other, hother, Nat.not_lt.mp fun hless => whole (hshorter.mp hless).1⟩

/-- Up to case a shorter stem is found for a name that begins with a longer one as it stands. -/
theorem splitWord_neglected :
    let keys := ["Α*", "ΑΣ*"]
    (∀ key ∈ keys, Text.toLower key ≠ Text.toLower "ΑΣΑ") ∧
      resolveModel false keys keys "ΑΣΑ" = some "ΑΣ*" ∧
      resolveModel true keys keys "ΑΣΑ" = some "Α*" ∧
      ¬ ∃ other, resolveModel true keys keys "ΑΣΑ" = some (other ++ "*") ∧
        "ΑΣ".utf8ByteSize ≤ other.utf8ByteSize := by
  intro keys
  have found : resolveModel true keys keys "ΑΣΑ" = some "Α*" := by decide +kernel
  refine ⟨by decide +kernel, by decide +kernel, found, ?_⟩
  rintro ⟨other, hother, hsize⟩
  rw [found, Option.some_inj] at hother
  have hsplit : "Α" ++ "*" = "Α*" := by decide +kernel
  obtain rfl : "Α" = other := (String.append_left_inj "*").mp (hsplit.trans hother)
  exact absurd hsize (by decide +kernel)

end RelayGateway
