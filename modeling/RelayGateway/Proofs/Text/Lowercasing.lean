import Mathlib.Data.List.Infix
import Mathlib.Data.List.TakeWhile
import RelayGateway.Text.Lowercase

/-! # Lower-casing the beginning of a text

A beginning of a text is lower-cased as in the whole text, apart from one letter: a capital sigma ends a
word by what follows it.

* `Text.CutsWord`: a beginning ends in such a sigma, though the word goes on in the whole text.
* `Text.toLower_prefix_iff`: the lower case of a beginning is a beginning of the lower case of the whole,
  unless the beginning cuts a word.
-/

set_option autoImplicit false

namespace RelayGateway.Text

variable {before stem rest : List Char} {c : Char}

/-- Apart from case-ignorable characters `stem` ends in a capital sigma, which ends a word in `stem` and
none if `rest` follows. `before` stands before `stem` and is read backwards. -/
def CutsWord (before stem rest : List Char) : Prop :=
  ∃ start finish, stem = start ++ 'Σ' :: finish ∧ (∀ c ∈ finish, isCaseIgnorable c = true) ∧
    meetsCased (start.reverse ++ before) = true ∧ meetsCased rest = true

theorem cutsWord_cons : CutsWord before (c :: stem) rest ↔
    (c = 'Σ' ∧ (∀ d ∈ stem, isCaseIgnorable d = true) ∧ meetsCased before = true ∧
      meetsCased rest = true) ∨ CutsWord (c :: before) stem rest := by
  constructor
  · rintro ⟨start, finish, hstem, hignorable, hbefore, hrest⟩
    cases start with
    | nil =>
      obtain ⟨rfl, rfl⟩ := List.cons.inj hstem
      exact .inl ⟨rfl, hignorable, hbefore, hrest⟩
    | cons d start =>
      obtain ⟨rfl, rfl⟩ := List.cons.inj hstem
      refine .inr ⟨start, finish, rfl, hignorable, ?_, hrest⟩
      rwa [List.reverse_cons, List.append_assoc] at hbefore
  · rintro (⟨rfl, hignorable, hbefore, hrest⟩ | ⟨start, finish, rfl, hignorable, hbefore, hrest⟩)
    · exact ⟨[], stem, rfl, hignorable, hbefore, hrest⟩
    · refine ⟨c :: start, finish, rfl, hignorable, ?_, hrest⟩
      rwa [List.reverse_cons, List.append_assoc]

/-- Case-ignorable characters are passed over. -/
theorem meetsCased_ignorable (ignorable : ∀ c ∈ stem, isCaseIgnorable c = true) :
    meetsCased (stem ++ rest) = meetsCased rest := by
  rw [meetsCased, List.dropWhile_append_of_pos ignorable, meetsCased]

theorem meetsCased_eq_false (ignorable : ∀ c ∈ stem, isCaseIgnorable c = true) :
    meetsCased stem = false := by
  rw [← List.append_nil stem, meetsCased_ignorable ignorable]
  rfl

/-- The first character that is not case-ignorable decides, whatever follows it. -/
theorem meetsCased_decided (decided : ¬ ∀ c ∈ stem, isCaseIgnorable c = true) :
    meetsCased (stem ++ rest) = meetsCased stem := by
  have hkept : stem.dropWhile isCaseIgnorable ≠ [] := mt List.dropWhile_eq_nil_iff.mp decided
  rw [meetsCased, meetsCased, List.dropWhile_append, if_neg (mt List.isEmpty_iff.mp hkept)]
  cases hdropped : stem.dropWhile isCaseIgnorable with
  | nil => exact absurd hdropped hkept
  | cons c cs => rfl

/-! ## One character -/

/-- The lower case of a character between others. -/
def lowerAt (before : List Char) (c : Char) (after : List Char) : List Char :=
  if c = 'Σ' then (if finalSigma before after then ['ς'] else ['σ']) else lowerChar c

theorem lowerFrom_cons (before : List Char) (c : Char) (cs : List Char) :
    lowerFrom before (c :: cs) = lowerAt before c cs ++ lowerFrom (c :: before) cs := rfl

theorem lowerAt_cut (ignorable : ∀ d ∈ stem, isCaseIgnorable d = true)
    (hbefore : meetsCased before = true) (hrest : meetsCased rest = true) :
    lowerAt before 'Σ' stem = ['ς'] ∧ lowerAt before 'Σ' (stem ++ rest) = ['σ'] := by
  constructor
  · simp [lowerAt, finalSigma, hbefore, meetsCased_eq_false ignorable]
  · simp [lowerAt, finalSigma, meetsCased_ignorable ignorable, hrest]

/-- What follows a beginning has no part in the lower case of a character in it, other than that of a
sigma. -/
theorem lowerAt_append (whole : ¬ (c = 'Σ' ∧ (∀ d ∈ stem, isCaseIgnorable d = true) ∧
      meetsCased before = true ∧ meetsCased rest = true)) :
    lowerAt before c (stem ++ rest) = lowerAt before c stem := by
  unfold lowerAt
  split
  · rename_i hsigma
    have hfinal : finalSigma before (stem ++ rest) = finalSigma before stem := by
      unfold finalSigma
      by_cases hignorable : ∀ d ∈ stem, isCaseIgnorable d = true
      · rw [meetsCased_ignorable hignorable, meetsCased_eq_false hignorable]
        -- either no cased character stands before, or none follows
        cases hbefore : meetsCased before with
        | false => rfl
        | true =>
          cases hrest : meetsCased rest with
          | false => rfl
          | true => exact absurd ⟨hsigma, hignorable, hbefore, hrest⟩ whole
      · rw [meetsCased_decided hignorable]
    rw [hfinal]
  · rfl

/-! ## All characters -/

theorem lowerFrom_prefix_iff (before stem rest : List Char) :
    lowerFrom before stem <+: lowerFrom before (stem ++ rest) ↔ ¬ CutsWord before stem rest := by
  induction stem generalizing before with
  | nil =>
    refine iff_of_true List.nil_prefix ?_
    rintro ⟨start, finish, hnil, _⟩
    exact List.append_ne_nil_of_right_ne_nil start (List.cons_ne_nil _ _) hnil.symm
  | cons c stem ih =>
    rw [List.cons_append, lowerFrom_cons, lowerFrom_cons, cutsWord_cons]
    by_cases hcut : c = 'Σ' ∧ (∀ d ∈ stem, isCaseIgnorable d = true) ∧ meetsCased before = true ∧
        meetsCased rest = true
    · refine iff_of_false ?_ (not_not_intro (.inl hcut))
      obtain ⟨rfl, hignorable, hbefore, hrest⟩ := hcut
      obtain ⟨hfinal, hinner⟩ := lowerAt_cut hignorable hbefore hrest
      rw [hfinal, hinner, List.singleton_append, List.singleton_append, List.cons_prefix_cons]
      rintro ⟨hsame, _⟩
      exact absurd hsame (by decide)
    · rw [lowerAt_append hcut, List.prefix_append_right_inj, ih, or_iff_right hcut]

/-- Lower-casing keeps a beginning of a text, unless it cuts a word. -/
theorem toLower_prefix_iff {beginning whole : String} (h : whole.toList = beginning.toList ++ rest) :
    (toLower beginning).toList <+: (toLower whole).toList ↔ ¬ CutsWord [] beginning.toList rest := by
  rw [toLower, toLower, String.toList_ofList, String.toList_ofList, h, lowerFrom_prefix_iff]

end RelayGateway.Text
