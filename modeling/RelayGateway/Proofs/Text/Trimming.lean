import Mathlib.Data.List.TakeWhile
import RelayGateway.Proofs.Text.Occurrence

/-! # Texts with blanks around them

* `Text.Pads`: one text is another one with blanks before and after it.
* `Text.trim_pads`: trimming does not tell them apart.
* `Text.pads_trim`, `Text.trim_trim`: trimming takes such blanks away and nothing else, so it does no more
  when it is done again.
-/

set_option autoImplicit false

namespace RelayGateway.Text

/-- Blanks before and after a text make it another one. -/
def Pads (text padded : String) : Prop :=
  ∃ before after : List Char, (∀ c ∈ before, isBlank c = true) ∧ (∀ c ∈ after, isBlank c = true) ∧
    padded.toList = before ++ text.toList ++ after

variable {before after cs : List Char}

theorem trimEndChars_concat (blank : ∀ c ∈ after, isBlank c = true) :
    trimEndChars (cs ++ after) = trimEndChars cs := by
  have hblank : ∀ c ∈ after.reverse, isBlank c = true := fun c hc => blank c (List.mem_reverse.mp hc)
  rw [trimEndChars, trimEndChars, List.reverse_append, List.dropWhile_append_of_pos hblank]

theorem trimChars_padded (blankBefore : ∀ c ∈ before, isBlank c = true)
    (blankAfter : ∀ c ∈ after, isBlank c = true) :
    trimChars (before ++ cs ++ after) = trimChars cs := by
  rw [trimChars, List.append_assoc, List.dropWhile_append_of_pos blankBefore, List.dropWhile_append]
  split
  · -- a text of blanks only is used up before the blanks after it are
    rename_i hempty
    rw [trimChars, List.isEmpty_iff.mp hempty, List.dropWhile_eq_nil_iff.mpr blankAfter]
  · exact trimEndChars_concat blankAfter

theorem trim_pads {text padded : String} (h : Pads text padded) : trim padded = trim text := by
  obtain ⟨before, after, blankBefore, blankAfter, hpadded⟩ := h
  rw [trim, trim, hpadded, trimChars_padded blankBefore blankAfter]

theorem pads_trim (text : String) : Pads (trim text) text := by
  obtain ⟨blanks, hsplit, blankAfter⟩ := trimEndChars_append (text.toList.dropWhile isBlank)
  refine ⟨text.toList.takeWhile isBlank, blanks, fun c hc => List.mem_takeWhile_imp hc, blankAfter, ?_⟩
  rw [trim, String.toList_ofList, trimChars, List.append_assoc, ← hsplit,
    List.takeWhile_append_dropWhile]

theorem trim_trim (text : String) : trim (trim text) = trim text :=
  (trim_pads (pads_trim text)).symm

end RelayGateway.Text
