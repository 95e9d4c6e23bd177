import Mathlib.Order.Basic
import Mathlib.Tactic.SplitIfs

/-! # The order of texts as bytes

* `Text.utf8EncodeChar_lt`: the UTF-8 form of a lesser character comes before that of a greater one,
  whatever follows them.
* `Text.utf8_lt_iff`, `Text.utf8_le_iff`: texts compared by code points are compared as their bytes are.
-/

set_option autoImplicit false

namespace RelayGateway.Text

/-- Of two numbers the lesser has the lesser digit in the first place, to the base 64, where they
differ. -/
theorem digits_lt {v w : Nat} (less : v < w) :
    v / 262144 < w / 262144 ∨ v / 262144 = w / 262144 ∧
      (v / 4096 % 64 < w / 4096 % 64 ∨ v / 4096 % 64 = w / 4096 % 64 ∧
        (v / 64 % 64 < w / 64 % 64 ∨ v / 64 % 64 = w / 64 % 64 ∧ v % 64 < w % 64)) := by
  omega

theorem utf8EncodeChar_lt {c d : Char} (less : c < d) (after other : List UInt8) :
    String.utf8EncodeChar c ++ after < String.utf8EncodeChar d ++ other := by
  have hless : c.val.toNat < d.val.toNat := less
  have hbound : d.val.toNat < 0x110000 := by
    have hvalid := d.valid
    simp only [UInt32.isValidChar, Nat.isValidChar] at hvalid
    omega
  have hdigits := digits_lt hless
  unfold String.utf8EncodeChar
  dsimp only
  generalize c.val.toNat = v at *
  generalize d.val.toNat = w at *
  -- a longer form has the greater first byte; forms of one length are compared digit by digit
  split_ifs <;>
    simp (disch := omega) only [List.cons_append, List.nil_append, List.cons_lt_cons_iff,
      UInt8.lt_iff_toNat_lt, UInt8.toNat_ofNat', ← UInt8.toNat_inj, Nat.mod_eq_of_lt, Nat.reducePow,
      Nat.add_lt_add_iff_right, Nat.add_right_cancel_iff]
  all_goals omega

theorem flatMap_utf8EncodeChar_lt {cs ds : List Char} (less : cs < ds) :
    cs.flatMap String.utf8EncodeChar < ds.flatMap String.utf8EncodeChar := by
  induction less with
  | nil =>
    rename_i d ds
    rw [List.flatMap_nil, List.flatMap_cons]
    cases hbytes : String.utf8EncodeChar d with
    | nil => exact absurd hbytes String.utf8EncodeChar_ne_nil
    | cons byte bytes => exact List.nil_lt_cons byte _
  | cons _ ih =>
    rw [List.flatMap_cons, List.flatMap_cons]
    exact List.append_left_lt ih
  | rel hfirst =>
    rw [List.flatMap_cons, List.flatMap_cons]
    exact utf8EncodeChar_lt hfirst _ _

theorem toUTF8_toList (text : String) :
    text.toUTF8.data.toList = text.toList.flatMap String.utf8EncodeChar := by
  rw [String.toUTF8_eq_toByteArray, ← String.utf8Encode_toList, List.utf8Encode,
    List.toList_data_toByteArray]

/-- Texts are in the order of their UTF-8 forms. -/
theorem utf8_lt_iff {a b : String} : a.toUTF8.data.toList < b.toUTF8.data.toList ↔ a < b := by
  rw [toUTF8_toList, toUTF8_toList]
  constructor
  · intro h
    by_contra hnot
    have hchars : ¬ a.toList < b.toList := hnot
    rcases List.le_iff_lt_or_eq.mp (List.not_lt.mp hchars) with hless | heq
    · exact List.lt_asymm h (flatMap_utf8EncodeChar_lt hless)
    · rw [heq] at h
      exact List.lt_irrefl _ h
  · exact flatMap_utf8EncodeChar_lt

theorem utf8_le_iff {a b : String} : a.toUTF8.data.toList ≤ b.toUTF8.data.toList ↔ a ≤ b :=
  not_congr utf8_lt_iff

end RelayGateway.Text
