import RelayGateway.Proofs.Relay.Billing

/-! # Token estimates as a measure of texts

* `Text.asciiCount`, `Text.otherCount`: how many characters of the two kinds there are.
* `Text.exactTokens`: the tokens of a text in unbounded numbers. An append may save one of them, and no more
  (`Text.exactTokens_append_le`, `Text.add_exactTokens_le`).
* `WordCounters`: counters in 32-bit words that see one character after another and stop at the greatest word.
  `WordCounters.Shows.see` is one character, `WordCounters.shows_ofChars` a whole text.
* `estimateTokens_eq_counters`, `toNat_estimateTokens_of_length_lt`: an estimate is what the counters come to,
  and it is exact for a text of fewer than 2³² characters.
* `estimate_measures`: what estimates promise, of one text and of two.
-/

set_option autoImplicit false

namespace RelayGateway

/-! ## The characters of a text -/

namespace Text

def asciiCount (cs : List Char) : Nat := cs.countP fun c => c.toNat < 128

def otherCount (cs : List Char) : Nat := cs.countP fun c => ¬ c.toNat < 128

/-- Four ASCII characters to a token, begun ones included, and every other character as one. -/
def exactTokens (cs : List Char) : Nat := (asciiCount cs + 3) / 4 + otherCount cs

theorem asciiCount_append (as bs : List Char) :
    asciiCount (as ++ bs) = asciiCount as + asciiCount bs :=
  List.countP_append

theorem otherCount_append (as bs : List Char) :
    otherCount (as ++ bs) = otherCount as + otherCount bs :=
  List.countP_append

theorem asciiCount_concat (cs : List Char) (c : Char) :
    asciiCount (cs ++ [c]) = asciiCount cs + if c.toNat < 128 then 1 else 0 := by
  have hlast : asciiCount [c] = if c.toNat < 128 then 1 else 0 := by
    simp only [asciiCount, List.countP_singleton, decide_eq_true_eq]
  rw [asciiCount_append, hlast]

theorem otherCount_concat (cs : List Char) (c : Char) :
    otherCount (cs ++ [c]) = otherCount cs + if c.toNat < 128 then 0 else 1 := by
  have hlast : otherCount [c] = if ¬ c.toNat < 128 then 1 else 0 := by
    simp only [otherCount, List.countP_singleton, decide_eq_true_eq]
  rw [otherCount_append, hlast, ite_not]

theorem asciiCount_add_otherCount (cs : List Char) : asciiCount cs + otherCount cs = cs.length := by
  rw [List.length_eq_countP_add_countP fun c : Char => decide (c.toNat < 128)]
  simp [asciiCount, otherCount]

theorem asciiCount_add_otherCount_toList (text : String) :
    asciiCount text.toList + otherCount text.toList = text.length := by
  rw [asciiCount_add_otherCount, String.length_toList]

variable {as bs : List Char}

theorem asciiCount_perm (h : as.Perm bs) : asciiCount as = asciiCount bs := h.countP_eq _

theorem otherCount_perm (h : as.Perm bs) : otherCount as = otherCount bs := h.countP_eq _

theorem exactTokens_append_le (as bs : List Char) :
    exactTokens (as ++ bs) ≤ exactTokens as + exactTokens bs := by
  unfold exactTokens
  rw [asciiCount_append, otherCount_append]
  omega

/-- The ASCII characters that are left over in both texts may share a token in the joined one. -/
theorem add_exactTokens_le (as bs : List Char) :
    exactTokens as + exactTokens bs ≤ exactTokens (as ++ bs) + 1 := by
  unfold exactTokens
  rw [asciiCount_append, otherCount_append]
  omega

theorem quarter_le_exactTokens (cs : List Char) : (cs.length + 3) / 4 ≤ exactTokens cs := by
  have := asciiCount_add_otherCount cs
  unfold exactTokens
  omega

end Text

/-! ## Counters in words -/

/-- The sum of two words, or the greatest word if the sum wraps. -/
def addStopping (a b : UInt32) : UInt32 := if a + b < a then 4294967295 else a + b

theorem toNat_addStopping (a b : UInt32) :
    (addStopping a b).toNat = min (a.toNat + b.toNat) maxUInt32 := by
  have ha := a.toNat_lt
  have hb := b.toNat_lt
  have hsum := UInt32.toNat_add a b
  have hgreatest : (4294967295 : UInt32).toNat = 4294967295 := rfl
  unfold addStopping maxUInt32
  -- A sum of two words wraps once at most, and then it is below both.
  split <;> rename_i hwraps <;> rw [UInt32.lt_iff_toNat_lt] at hwraps
  · rw [hgreatest]
    omega
  · omega

/-- A quarter of a word, rounded up. -/
def quarterUp (word : UInt32) : UInt32 := word / 4 + if word % 4 = 0 then 0 else 1

theorem toNat_quarterUp (word : UInt32) : (quarterUp word).toNat = (word.toNat + 3) / 4 := by
  have hword := word.toNat_lt
  have hrest : word % 4 = 0 ↔ word.toNat % 4 = 0 := by
    rw [← UInt32.toNat_inj, UInt32.toNat_mod]
    rfl
  have hfour : (word / 4).toNat = word.toNat / 4 := UInt32.toNat_div word 4
  have hsum := UInt32.toNat_add (word / 4) 1
  have hone : (1 : UInt32).toNat = 1 := rfl
  unfold quarterUp
  split <;> rename_i hwhole <;> rw [hrest] at hwhole
  · rw [UInt32.add_zero]
    omega
  · omega

/-- Two counters in 32-bit words: of ASCII characters, and of others. -/
structure WordCounters where
  ascii : UInt32
  other : UInt32

namespace WordCounters

/-- The counters after one more character. -/
def see (counters : WordCounters) (c : Char) : WordCounters :=
  if c.toNat < 128 then { counters with ascii := addStopping counters.ascii 1 }
  else { counters with other := addStopping counters.other 1 }

def ofChars (cs : List Char) : WordCounters := cs.foldl see ⟨0, 0⟩

def tokens (counters : WordCounters) : UInt32 := addStopping (quarterUp counters.ascii) counters.other

/-- What the counters show once they have seen some characters: how many there are of a kind, or the
greatest word from there on. -/
structure Shows (counters : WordCounters) (cs : List Char) : Prop where
  ascii : counters.ascii.toNat = min (Text.asciiCount cs) maxUInt32
  other : counters.other.toNat = min (Text.otherCount cs) maxUInt32

theorem Shows.see {counters : WordCounters} {cs : List Char} (h : counters.Shows cs) (c : Char) :
    (counters.see c).Shows (cs ++ [c]) := by
  have hone : (1 : UInt32).toNat = 1 := rfl
  unfold WordCounters.see
  split <;> rename_i hkind
  · constructor
    · rw [toNat_addStopping, h.ascii, Text.asciiCount_concat, if_pos hkind, hone]
      omega
    · rw [h.other, Text.otherCount_concat, if_pos hkind, Nat.add_zero]
  · constructor
    · rw [h.ascii, Text.asciiCount_concat, if_neg hkind, Nat.add_zero]
    · rw [toNat_addStopping, h.other, Text.otherCount_concat, if_neg hkind, hone]
      omega

/-- The induction is from the end of the text: the counters have seen all characters before the last. -/
theorem shows_ofChars (cs : List Char) : (ofChars cs).Shows cs := by
  induction cs using List.reverseRecOn with
  | nil => exact ⟨rfl, rfl⟩
  | append_singleton cs c ih =>
    have hlast : ofChars (cs ++ [c]) = (ofChars cs).see c := List.foldl_concat see ⟨0, 0⟩ c cs
    rw [hlast]
    exact ih.see c

end WordCounters

/-! ## Estimates -/

theorem toNat_estimateTokens_eq_min (text : String) :
    (estimateTokens text).toNat =
      min ((min (Text.asciiCount text.toList) maxUInt32 + 3) / 4 + Text.otherCount text.toList)
        maxUInt32 := by
  have hcount := Text.asciiCount_add_otherCount text.toList
  have hestimate : (estimateTokens text).toNat =
      min ((min (Text.asciiCount text.toList) maxUInt32 + 3) / 4 +
        min (text.toList.length - Text.asciiCount text.toList) maxUInt32) maxUInt32 :=
    toNat_estimateTokens text
  omega

theorem estimateTokens_eq_counters (text : String) :
    estimateTokens text = (WordCounters.ofChars text.toList).tokens := by
  have hshows := WordCounters.shows_ofChars text.toList
  apply UInt32.toNat_inj.mp
  rw [toNat_estimateTokens_eq_min, WordCounters.tokens, toNat_addStopping, toNat_quarterUp, hshows.ascii,
    hshows.other]
  omega

/-- Estimates do not fall when a text grows, however long it is. -/
theorem estimateTokens_le_append (a b : String) : estimateTokens a ≤ estimateTokens (a ++ b) := by
  rw [UInt32.le_iff_toNat_le, toNat_estimateTokens_eq_min, toNat_estimateTokens_eq_min, String.toList_append,
    Text.asciiCount_append, Text.otherCount_append]
  omega

theorem estimateTokens_perm {a b : String} (h : a.toList.Perm b.toList) :
    estimateTokens a = estimateTokens b := by
  apply UInt32.toNat_inj.mp
  rw [toNat_estimateTokens_eq_min, toNat_estimateTokens_eq_min, Text.asciiCount_perm h, Text.otherCount_perm h]

theorem estimateTokens_eq_zero_iff {text : String} : estimateTokens text = 0 ↔ text = "" := by
  constructor
  · intro hzero
    by_contra hnonempty
    exact UInt32.pos_iff_ne_zero.mp (estimateTokens_pos hnonempty) hzero
  · rintro rfl
    decide

theorem toNat_estimateTokens_le_length (text : String) :
    (estimateTokens text).toNat ≤ text.length := by
  have hcount := Text.asciiCount_add_otherCount_toList text
  rw [toNat_estimateTokens_eq_min]
  omega

theorem toNat_estimateTokens_of_length_lt {text : String} (h : text.length < UInt32.size) :
    (estimateTokens text).toNat = Text.exactTokens text.toList := by
  have hcount := Text.asciiCount_add_otherCount_toList text
  rw [toNat_estimateTokens_eq_min, Text.exactTokens]
  unfold maxUInt32
  unfold UInt32.size at h
  omega

theorem countPrompt_eq_ok_iff {limit tokens : UInt32} {prompt : String} :
    countPrompt limit prompt = .ok tokens ↔
      tokens = estimateTokens prompt ∧ estimateTokens prompt ≤ limit := by
  unfold countPrompt
  dsimp only
  split <;> rename_i hlimit
  · simp [hlimit, eq_comm]
  · simp [hlimit]

/-- Two texts of fewer than 2³² characters together are estimated at what they come to when they are joined,
or at one token more. Only the characters of a text count, in whatever order, and only the empty text is
estimated at nothing. Each character counts as a token at most and, in a text of fewer than 2³² of them, as a
quarter of one at least. A text of any length is estimated without a sum that wraps: the words that count its
characters stop at the greatest word, and so does what they come to, so that a text never counts for less when
more is written to it. The tokens of a prompt are counted exactly if the estimate is within the limit. -/
theorem estimate_measures :
    (∀ a b : String, a.length + b.length < UInt32.size →
      (estimateTokens (a ++ b)).toNat ≤ (estimateTokens a).toNat + (estimateTokens b).toNat ∧
        (estimateTokens a).toNat + (estimateTokens b).toNat ≤ (estimateTokens (a ++ b)).toNat + 1) ∧
      (∀ a b : String, a.toList.Perm b.toList → estimateTokens a = estimateTokens b) ∧
      (∀ text : String, estimateTokens text = 0 ↔ text = "") ∧
      (∀ text : String,
        (text.length < UInt32.size → (text.length + 3) / 4 ≤ (estimateTokens text).toNat) ∧
          (estimateTokens text).toNat ≤ text.length) ∧
      (∀ text : String, estimateTokens text = (WordCounters.ofChars text.toList).tokens ∧
        (estimateTokens text).toNat =
          min ((min (Text.asciiCount text.toList) maxUInt32 + 3) / 4 + Text.otherCount text.toList)
            maxUInt32) ∧
      (∀ a b : String, estimateTokens a ≤ estimateTokens (a ++ b)) ∧
      ∀ (limit : UInt32) (prompt : String) (tokens : UInt32),
        countPrompt limit prompt = .ok tokens ↔
          tokens = estimateTokens prompt ∧ estimateTokens prompt ≤ limit := by
  refine ⟨?_, fun _ _ => estimateTokens_perm, fun _ => estimateTokens_eq_zero_iff, ?_, ?_,
    estimateTokens_le_append, fun _ _ _ => countPrompt_eq_ok_iff⟩
  · intro a b hlength
    have hboth : (a ++ b).length < UInt32.size := by rwa [String.length_append]
    have ha : a.length < UInt32.size := Nat.lt_of_le_of_lt (Nat.le_add_right _ _) hlength
    have hb : b.length < UInt32.size := Nat.lt_of_le_of_lt (Nat.le_add_left _ _) hlength
    rw [toNat_estimateTokens_of_length_lt hboth, toNat_estimateTokens_of_length_lt ha,
      toNat_estimateTokens_of_length_lt hb, String.toList_append]
    exact ⟨Text.exactTokens_append_le _ _, Text.add_exactTokens_le _ _⟩
  · intro text
    refine ⟨fun hlength => ?_, toNat_estimateTokens_le_length text⟩
    rw [toNat_estimateTokens_of_length_lt hlength, ← String.length_toList]
    exact Text.quarter_le_exactTokens _
  · exact fun text => ⟨estimateTokens_eq_counters text, toNat_estimateTokens_eq_min text⟩

/-- Two texts that are estimated at one token more than both in one, and 2³² characters that are estimated at
the greatest word. -/
theorem sharedToken_measured :
    "abcde".length + "f你".length < UInt32.size ∧
      (estimateTokens "abcde").toNat + (estimateTokens "f你").toNat =
        (estimateTokens ("abcde" ++ "f你")).toNat + 1 ∧
      "你fabcde".toList.Perm ("abcde" ++ "f你").toList ∧
      estimateTokens "你fabcde" = estimateTokens ("abcde" ++ "f你") ∧
      countPrompt 2 "abcde" = .ok 2 ∧ countPrompt 1 "abcde" ≠ .ok 2 ∧
      estimateTokens (String.ofList (List.replicate UInt32.size '你')) = 4294967295 := by
  obtain ⟨together, permuted, _, _, words, _, prompts⟩ := estimate_measures
  have hlength : "abcde".length + "f你".length < UInt32.size := by decide
  have hperm : "你fabcde".toList.Perm ("abcde" ++ "f你").toList := by decide
  have hfive : estimateTokens "abcde" = 2 := by decide
  have hparts : (estimateTokens "abcde").toNat + (estimateTokens "f你").toNat = 4 := by decide
  have hjoined : (estimateTokens ("abcde" ++ "f你")).toNat ≤ 3 := by decide
  refine ⟨hlength, ?_, hperm, permuted _ _ hperm, ?_, ?_, ?_⟩
  · have := (together "abcde" "f你" hlength).2
    omega
  · exact (prompts 2 "abcde" 2).mpr ⟨hfive.symm, UInt32.le_of_eq hfive⟩
  · intro hcounted
    have hwithin : estimateTokens "abcde" ≤ 1 := ((prompts 1 "abcde" 2).mp hcounted).2
    exact absurd hwithin (by decide)
  · have hascii : Text.asciiCount (List.replicate UInt32.size '你') = 0 :=
      List.countP_replicate.trans (if_neg (by decide))
    have hother : Text.otherCount (List.replicate UInt32.size '你') = UInt32.size :=
      List.countP_replicate.trans (if_pos (by decide))
    have hcount := (words (String.ofList (List.replicate UInt32.size '你'))).2
    rw [String.toList_ofList, hascii, hother] at hcount
    exact UInt32.toNat_inj.mp hcount

end RelayGateway
