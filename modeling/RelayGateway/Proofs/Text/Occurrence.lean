import Mathlib.Data.List.Infix
import RelayGateway.Text.Blank
import RelayGateway.Text.Search

/-! # Where one text occurs in another

* `Text.charsAfter?_eq_some`, `Text.contains_iff`, `Text.endsWith_iff`: the searches as relations between
  lists of characters.
* `Text.infix_append_cons`, `Text.infix_cons`, `Text.infix_concat`: a text that a certain character is no
  part of occurs on one side of that character.
* `Text.trimEndChars_append`: trimming takes blanks away, and only at the end.
-/

set_option autoImplicit false

namespace RelayGateway.Text

variable {needle before after cs rest : List Char} {c : Char}

theorem charsAfter?_eq_some {start : List Char} :
    charsAfter? start cs = some rest ↔ cs = start ++ rest := by
  induction start generalizing cs with
  | nil => simp only [charsAfter?, Option.some.injEq, List.nil_append]
  | cons s start ih =>
    cases cs with
    | nil => simp only [charsAfter?, List.cons_append, reduceCtorEq]
    | cons c cs =>
      simp only [charsAfter?, List.cons_append, List.cons.injEq]
      split
      · rename_i heq
        rw [ih, and_iff_right heq.symm]
      · rename_i hother
        exact iff_of_false nofun fun h => hother h.1.symm

theorem occursIn_iff : occursIn needle cs = true ↔ needle <:+: cs := by
  induction cs with
  | nil => rw [occursIn, List.isEmpty_iff, List.infix_nil]
  | cons c cs ih =>
    rw [occursIn, Bool.or_eq_true, ih, List.isPrefixOf_iff_prefix, List.infix_cons_iff]

theorem contains_iff {text needle : String} :
    contains text needle = true ↔ needle.toList <:+: text.toList :=
  occursIn_iff

theorem contains_eq_false {text needle : String} :
    contains text needle = false ↔ ¬ needle.toList <:+: text.toList := by
  rw [← contains_iff, Bool.not_eq_true]

theorem endsWith_iff {text finish : String} :
    endsWith text finish = true ↔ ∃ stem, text = stem ++ finish := by
  rw [endsWith, List.isSuffixOf_iff_suffix]
  constructor
  · rintro ⟨stem, hstem⟩
    refine ⟨String.ofList stem, String.toList_inj.mp ?_⟩
    rw [String.toList_append, String.toList_ofList, hstem]
  · rintro ⟨stem, rfl⟩
    exact ⟨stem.toList, String.toList_append.symm⟩

/-! ## Beside a character that has no part in it -/

theorem infix_cons (other : needle.head? ≠ some c) : needle <:+: c :: cs ↔ needle <:+: cs := by
  rw [List.infix_cons_iff, or_iff_right_iff_imp]
  intro hbegins
  rcases List.prefix_cons_iff.mp hbegins with rfl | ⟨rest, rfl, _⟩
  · exact List.nil_infix
  · exact absurd rfl other

theorem infix_concat (other : needle.getLast? ≠ some c) : needle <:+: cs ++ [c] ↔ needle <:+: cs := by
  rw [List.infix_concat_iff, or_iff_right_iff_imp]
  intro hsuffix
  rcases List.suffix_concat_iff.mp hsuffix with rfl | ⟨start, rfl, _⟩
  · exact List.nil_infix
  · exact absurd List.getLast?_concat other

theorem infix_append_cons (absent : c ∉ needle) :
    needle <:+: before ++ c :: after ↔ needle <:+: before ∨ needle <:+: after := by
  have hfirst : needle.head? ≠ some c := fun h => absent (List.mem_of_head? h)
  rw [List.infix_append_iff, infix_cons hfirst, ← or_assoc, or_iff_left_iff_imp]
  rintro ⟨left, right, rfl, hleft, hright⟩
  -- what lies on the far side begins with the character, so it is empty
  rcases List.prefix_cons_iff.mp hright with rfl | ⟨rest, rfl, _⟩
  · rw [List.append_nil]
    exact .inl hleft.isInfix
  · exact absurd (List.mem_append_right left List.mem_cons_self) absent

/-! ## Trimming -/

/-- Trimming takes away nothing but blanks at the end. -/
theorem trimEndChars_append (cs : List Char) :
    ∃ blanks, cs = trimEndChars cs ++ blanks ∧ ∀ c ∈ blanks, isBlank c = true := by
  refine ⟨(cs.reverse.takeWhile isBlank).reverse, ?_, fun c hc => ?_⟩
  · rw [trimEndChars, ← List.reverse_append, List.takeWhile_append_dropWhile, List.reverse_reverse]
  · exact List.all_eq_true.mp List.all_takeWhile c (List.mem_reverse.mp hc)

end RelayGateway.Text
