import Mathlib.Data.FinEnum
import Mathlib.Data.Set.Card
import Mathlib.Order.Interval.Finset.Nat
import Mathlib.Algebra.BigOperators.Group.Finset.Basic
import RelayGateway.Proofs.Routing.Availability

/-! # Shares in a weighted choice

* `Draws.accepts?_iff_mem`: the words that give a number below the total lie side by side.
* `Draws.ncard_accepted`: there are equally many of them for each number.
* `walk_eq_some`: the numbers that lead the walk to a channel, as many as its weight.
* `wordTotal`, `wordWalk`: the sum and the walk in 64-bit words; nothing wraps around in them.
* `drawn?`, `ncard_drawn`: the channel that a word selects, and how many words select a channel.
* `pick_proportional`: a choice within a tier, from no candidate to many.
-/

set_option autoImplicit false

namespace RelayGateway

/-! ## Words and numbers -/

namespace Draws

variable {total number : Nat} {word : UInt64}

theorem leadingZeros_bounds (positive : 0 < total) (bounded : total < 2 ^ 64) :
    2 ^ 63 ≤ total * 2 ^ leadingZeros total ∧ total * 2 ^ leadingZeros total < 2 ^ 64 := by
  have hlow : 2 ^ total.log2 ≤ total := Nat.log2_self_le positive.ne'
  have hhigh : total < 2 ^ (total.log2 + 1) := Nat.lt_log2_self
  have hlog : total.log2 < 64 := (Nat.log2_lt positive.ne').mpr bounded
  have hscale : 0 < 2 ^ (63 - total.log2) := Nat.two_pow_pos _
  unfold leadingZeros
  constructor
  · calc 2 ^ 63 = 2 ^ total.log2 * 2 ^ (63 - total.log2) := by rw [← Nat.pow_add]; congr 1; omega
      _ ≤ total * 2 ^ (63 - total.log2) := Nat.mul_le_mul_right _ hlow
  · calc total * 2 ^ (63 - total.log2) < 2 ^ (total.log2 + 1) * 2 ^ (63 - total.log2) :=
        Nat.mul_lt_mul_of_pos_right hhigh hscale
      _ = 2 ^ 64 := by rw [← Nat.pow_add]; congr 1; omega

/-- The numbers below the total divide the products of a word and the total into stretches of equal length.
The first part of each is accepted, and is as long as a multiple of the total. -/
theorem accepts?_eq_some (positive : 0 < total) (bounded : total < 2 ^ 64) :
    accepts? total word = some number ↔
      number * 2 ^ 64 ≤ word.toNat * total ∧
        word.toNat * total < number * 2 ^ 64 + total * 2 ^ leadingZeros total := by
  obtain ⟨hlow, hhigh⟩ := leadingZeros_bounds positive bounded
  have hzone : acceptZone total = total * 2 ^ leadingZeros total - 1 := by
    rw [acceptZone, Nat.shiftLeft_eq]
  have hcount : wordCount = 2 ^ 64 := rfl
  unfold accepts?
  dsimp only
  rw [hzone, hcount]
  generalize total * 2 ^ leadingZeros total = room at *
  generalize word.toNat * total = wide
  split
  · rw [Option.some.injEq]
    omega
  · constructor
    · intro h
      cases h
    · omega

/-- The least word for a number below the total. -/
def firstWord (total number : Nat) : Nat := (number * 2 ^ 64 + (total - 1)) / total

def wordsFor (total number : Nat) : Finset Nat :=
  Finset.Ico (firstWord total number) (firstWord total number + 2 ^ leadingZeros total)

theorem accepts?_iff_mem (positive : 0 < total) (bounded : total < 2 ^ 64) :
    accepts? total word = some number ↔ word.toNat ∈ wordsFor total number := by
  have hfirst : firstWord total number ≤ word.toNat ↔ number * 2 ^ 64 ≤ word.toNat * total := by
    rw [firstWord, Nat.div_le_iff_le_mul_add_pred positive, Nat.mul_comm word.toNat]
    omega
  have hend : firstWord total number + 2 ^ leadingZeros total =
      (number * 2 ^ 64 + total * 2 ^ leadingZeros total + (total - 1)) / total := by
    rw [firstWord, Nat.add_right_comm, Nat.add_mul_div_left _ _ positive]
  have hpast : firstWord total number + 2 ^ leadingZeros total ≤ word.toNat ↔
      number * 2 ^ 64 + total * 2 ^ leadingZeros total ≤ word.toNat * total := by
    rw [hend, Nat.div_le_iff_le_mul_add_pred positive, Nat.mul_comm word.toNat]
    omega
  rw [accepts?_eq_some positive bounded, wordsFor, Finset.mem_Ico, hfirst, ← not_le, ← not_le, hpast]

theorem accepts?_lt (positive : 0 < total) (h : accepts? total word = some number) : number < total := by
  have hword : word.toNat < 2 ^ 64 := word.toNat_lt
  unfold accepts? at h
  dsimp only at h
  split at h
  · rw [← Option.some.inj h]
    exact Nat.div_lt_of_lt_mul (Nat.mul_lt_mul_of_pos_right hword positive)
  · cases h

theorem lt_of_mem_wordsFor (positive : 0 < total) (bounded : total < 2 ^ 64) (below : number < total)
    {value : Nat} (h : value ∈ wordsFor total number) : value < 2 ^ 64 := by
  obtain ⟨_, hhigh⟩ := leadingZeros_bounds positive bounded
  have hlast : firstWord total number + 2 ^ leadingZeros total ≤ 2 ^ 64 := by
    rw [firstWord, ← Nat.add_mul_div_left _ _ positive, Nat.div_le_iff_le_mul_add_pred positive]
    have hshares : (number + 1) * 2 ^ 64 ≤ total * 2 ^ 64 := Nat.mul_le_mul_right _ below
    omega
  exact (Finset.mem_Ico.mp h).2.trans_le hlast

theorem toNat_image_accepted (positive : 0 < total) (bounded : total < 2 ^ 64) {numbers : Finset Nat}
    (below : ∀ number ∈ numbers, number < total) :
    UInt64.toNat '' {word | ∃ number ∈ numbers, accepts? total word = some number} =
      ↑(numbers.biUnion (wordsFor total)) := by
  ext value
  simp only [Set.mem_image, Set.mem_ofPred_eq, Finset.mem_coe, Finset.mem_biUnion]
  constructor
  · rintro ⟨word, ⟨number, hnumber, haccepts⟩, rfl⟩
    exact ⟨number, hnumber, (accepts?_iff_mem positive bounded).mp haccepts⟩
  · rintro ⟨number, hnumber, hvalue⟩
    have hword : (UInt64.ofNat value).toNat = value :=
      UInt64.toNat_ofNat_of_lt' (lt_of_mem_wordsFor positive bounded (below number hnumber) hvalue)
    refine ⟨UInt64.ofNat value, ⟨number, hnumber, ?_⟩, hword⟩
    rw [accepts?_iff_mem positive bounded, hword]
    exact hvalue

theorem wordsFor_disjoint (positive : 0 < total) (bounded : total < 2 ^ 64) {numbers : Finset Nat}
    (below : ∀ number ∈ numbers, number < total) :
    (numbers : Set Nat).PairwiseDisjoint (wordsFor total) := by
  intro first hfirst second hsecond hne
  rw [Function.onFun, Finset.disjoint_left]
  intro value hvalue hother
  have hword : (UInt64.ofNat value).toNat = value :=
    UInt64.toNat_ofNat_of_lt' (lt_of_mem_wordsFor positive bounded (below first hfirst) hvalue)
  rw [← hword, ← accepts?_iff_mem positive bounded] at hvalue hother
  exact hne (Option.some.inj (hvalue.symm.trans hother))

/-- Every result below the total has equally many words. -/
theorem ncard_accepted (positive : 0 < total) (bounded : total < 2 ^ 64) {numbers : Finset Nat}
    (below : ∀ number ∈ numbers, number < total) :
    {word | ∃ number ∈ numbers, accepts? total word = some number}.ncard =
      numbers.card * 2 ^ leadingZeros total := by
  have hinjective : Function.Injective UInt64.toNat := fun _ _ => UInt64.toNat_inj.mp
  rw [← Set.ncard_image_of_injective _ hinjective, toNat_image_accepted positive bounded below,
    Set.ncard_coe_finset, Finset.card_biUnion (wordsFor_disjoint positive bounded below)]
  have hcard : ∀ number ∈ numbers, (wordsFor total number).card = 2 ^ leadingZeros total := by
    intro number _
    rw [wordsFor, Nat.card_Ico, Nat.add_sub_cancel_left]
  rw [Finset.sum_congr rfl hcard, Finset.sum_const, nsmul_eq_mul, Nat.cast_id]

end Draws

/-! ## The walk -/

theorem totalWeight_append (first rest : List Channel) :
    totalWeight (first ++ rest) = totalWeight first + totalWeight rest := by
  induction first with
  | nil => exact (Nat.zero_add _).symm
  | cons channel channels ih => rw [List.cons_append, totalWeight, totalWeight, ih, Nat.add_assoc]

theorem totalWeight_le (channels : List Channel) :
    totalWeight channels ≤ channels.length * (2 ^ 32 - 1) := by
  induction channels with
  | nil => exact Nat.zero_le _
  | cons channel channels ih =>
    have hweight : channel.weight.toNat < 2 ^ 32 := channel.weight.toNat_lt
    rw [totalWeight, List.length_cons]
    omega

theorem walk_append {before after : List Channel} {channel : Channel} {number : Nat}
    (hlow : totalWeight before ≤ number) (hhigh : number < totalWeight before + channel.weight.toNat) :
    walk (before ++ channel :: after) number = some channel := by
  induction before generalizing number with
  | nil =>
    rw [totalWeight] at hhigh
    rw [List.nil_append, walk, if_pos (by omega)]
  | cons first before ih =>
    rw [totalWeight] at hlow hhigh
    rw [List.cons_append, walk, if_neg (by omega)]
    exact ih (by omega) (by omega)

theorem walk_split {channels : List Channel} {channel : Channel} {number : Nat}
    (h : walk channels number = some channel) :
    ∃ before after, channels = before ++ channel :: after ∧ totalWeight before ≤ number ∧
      number < totalWeight before + channel.weight.toNat := by
  induction channels generalizing number with
  | nil => cases h
  | cons first others ih =>
    rw [walk] at h
    split at h
    · cases h
      refine ⟨[], others, rfl, Nat.zero_le _, ?_⟩
      rw [totalWeight]
      omega
    · obtain ⟨before, after, rfl, hlow, hhigh⟩ := ih h
      refine ⟨first :: before, after, rfl, ?_, ?_⟩ <;> rw [totalWeight] <;> omega

/-- The total as 64-bit words add it up. -/
def wordTotal : List Channel → UInt64
  | [] => 0
  | channel :: channels => channel.weight.toUInt64 + wordTotal channels

/-- The walk in 64-bit words, in which a subtraction can wrap around. -/
def wordWalk : List Channel → UInt64 → Option Channel
  | [], _ => none
  | channel :: channels, remaining =>
    if remaining < channel.weight.toUInt64 then some channel
    else wordWalk channels (remaining - channel.weight.toUInt64)

theorem toNat_wordTotal {channels : List Channel} (h : totalWeight channels < 2 ^ 64) :
    (wordTotal channels).toNat = totalWeight channels := by
  induction channels with
  | nil => rfl
  | cons channel channels ih =>
    rw [totalWeight] at h
    rw [wordTotal, UInt64.toNat_add, UInt32.toNat_toUInt64, ih (by omega), totalWeight, Nat.mod_eq_of_lt h]

theorem wordWalk_eq (channels : List Channel) (remaining : UInt64) :
    wordWalk channels remaining = walk channels remaining.toNat := by
  induction channels generalizing remaining with
  | nil => rfl
  | cons channel channels ih =>
    have hweight : channel.weight.toUInt64.toNat = channel.weight.toNat := UInt32.toNat_toUInt64 _
    have hless : remaining < channel.weight.toUInt64 ↔ remaining.toNat < channel.weight.toNat := by
      rw [UInt64.lt_iff_toNat_lt, hweight]
    rw [wordWalk, walk]
    by_cases hshare : remaining.toNat < channel.weight.toNat
    · rw [if_pos hshare, if_pos (hless.mpr hshare)]
    · have hle : channel.weight.toUInt64 ≤ remaining := by
        rw [UInt64.le_iff_toNat_le, hweight]
        omega
      rw [if_neg hshare, if_neg (fun h => hshare (hless.mp h)), ih, UInt64.toNat_sub_of_le _ _ hle, hweight]


theorem walk_eq_some {before after : List Channel} {channel : Channel} {number : Nat}
    (distinct : (before ++ channel :: after).Nodup) :
    walk (before ++ channel :: after) number = some channel ↔
      number ∈ Finset.Ico (totalWeight before) (totalWeight before + channel.weight.toNat) := by
  rw [Finset.mem_Ico]
  constructor
  · intro h
    obtain ⟨before', after', heq, hlow, hhigh⟩ := walk_split h
    rw [List.nodup_append, List.nodup_cons] at distinct
    obtain ⟨_, ⟨hafter, _⟩, hbefore⟩ := distinct
    have hnot : channel ∉ before := fun hmem => hbefore _ hmem _ List.mem_cons_self rfl
    obtain ⟨rfl, _, _⟩ := (List.append_cons_inj_of_notMem hnot hafter).mp heq
    exact ⟨hlow, hhigh⟩
  · rintro ⟨hlow, hhigh⟩
    exact walk_append hlow hhigh

/-! ## One word -/

/-- The channel that a first word selects, unless the word is rejected. -/
def drawn? (candidates : List Channel) (word : UInt64) : Option Channel :=
  (Draws.accepts? (totalWeight candidates) word).bind (walk candidates)

section Drawn

variable {candidates : List Channel} {channel : Channel} {word : UInt64}

theorem drawn?_eq_some :
    drawn? candidates word = some channel ↔
      ∃ number, Draws.accepts? (totalWeight candidates) word = some number ∧
        walk candidates number = some channel :=
  Option.bind_eq_some_iff

theorem drawn?_eq_none (positive : 0 < totalWeight candidates) :
    drawn? candidates word = none ↔ Draws.accepts? (totalWeight candidates) word = none := by
  cases haccepts : Draws.accepts? (totalWeight candidates) word with
  | none => simp [drawn?, haccepts]
  | some number =>
    obtain ⟨channel, hwalk⟩ := walk_isSome (Draws.accepts?_lt positive haccepts)
    simp [drawn?, haccepts, hwalk]

theorem ncard_drawn (positive : 0 < totalWeight candidates) (bounded : totalWeight candidates < 2 ^ 64)
    (distinct : candidates.Nodup) (member : channel ∈ candidates) :
    {word | drawn? candidates word = some channel}.ncard =
      channel.weight.toNat * 2 ^ Draws.leadingZeros (totalWeight candidates) := by
  obtain ⟨before, after, rfl⟩ := List.append_of_mem member
  have hshare : {word | drawn? (before ++ channel :: after) word = some channel} =
      {word | ∃ number ∈ Finset.Ico (totalWeight before) (totalWeight before + channel.weight.toNat),
        Draws.accepts? (totalWeight (before ++ channel :: after)) word = some number} := by
    ext word
    simp only [Set.mem_ofPred_eq, drawn?_eq_some, walk_eq_some distinct]
    exact exists_congr fun _ => and_comm
  have hbelow : ∀ number ∈ Finset.Ico (totalWeight before) (totalWeight before + channel.weight.toNat),
      number < totalWeight (before ++ channel :: after) := by
    intro number hnumber
    rw [totalWeight_append, totalWeight]
    have hhigh := (Finset.mem_Ico.mp hnumber).2
    omega
  rw [hshare, Draws.ncard_accepted positive bounded hbelow, Nat.card_Ico, Nat.add_sub_cancel_left]

/-- The words that are not rejected are those of the results below the total. -/
theorem ncard_rejected (positive : 0 < totalWeight candidates)
    (bounded : totalWeight candidates < 2 ^ 64) :
    {word | drawn? candidates word = none}.ncard =
      2 ^ 64 - totalWeight candidates * 2 ^ Draws.leadingZeros (totalWeight candidates) := by
  have haccepted : {word | drawn? candidates word = none}ᶜ =
      {word | ∃ number ∈ Finset.range (totalWeight candidates),
        Draws.accepts? (totalWeight candidates) word = some number} := by
    ext word
    simp only [Set.mem_compl_iff, Set.mem_ofPred_eq, drawn?_eq_none positive, Finset.mem_range]
    rw [← ne_eq, Option.ne_none_iff_exists']
    constructor
    · rintro ⟨number, haccepts⟩
      exact ⟨number, Draws.accepts?_lt positive haccepts, haccepts⟩
    · rintro ⟨number, _, haccepts⟩
      exact ⟨number, haccepts⟩
  have hwords : Nat.card UInt64 = 2 ^ 64 := by
    rw [Nat.card_eq_fintype_card, ← FinEnum.card_eq_fintypeCard, FinEnum.card_UInt64]
  have hsplit := Set.ncard_add_ncard_compl {word | drawn? candidates word = none}
  rw [haccepted, Draws.ncard_accepted positive bounded (fun _ h => Finset.mem_range.mp h),
    Finset.card_range, hwords] at hsplit
  omega

end Drawn

/-! ## A choice within a tier -/

theorem pick_cons {candidates : List Channel} (several : 1 < candidates.length)
    (positive : 0 < totalWeight candidates) (word : UInt64) (words : Draws) :
    pick candidates (word :: words) =
      match drawn? candidates word with
      | some channel => (some channel, words)
      | none => pick candidates words := by
  match candidates, several with
  | first :: second :: others, _ =>
    have hne : totalWeight (first :: second :: others) ≠ 0 := positive.ne'
    have hpick : ∀ draws, pick (first :: second :: others) draws =
        (walk (first :: second :: others) (draws.below (totalWeight (first :: second :: others))).1,
          (draws.below (totalWeight (first :: second :: others))).2) := by
      intro draws
      simp only [pick, if_neg hne]
    rw [hpick, hpick, Draws.below]
    cases haccepts : Draws.accepts? (totalWeight (first :: second :: others)) word with
    | none => simp only [drawn?, haccepts, Option.bind_none]
    | some number =>
      obtain ⟨channel, hwalk⟩ := walk_isSome (Draws.accepts?_lt positive haccepts)
      simp only [drawn?, haccepts, Option.bind_some, hwalk]

theorem pick_weight {candidates : List Channel} {draws : Draws} {channel : Channel}
    (several : 1 < candidates.length) (positive : 0 < totalWeight candidates)
    (h : (pick candidates draws).1 = some channel) : channel.weight ≠ 0 := by
  match candidates, several with
  | first :: second :: others, _ =>
    simp only [pick, if_neg positive.ne'] at h
    obtain ⟨before, after, _, hlow, hhigh⟩ := walk_split h
    intro hzero
    rw [hzero, UInt32.toNat_zero] at hhigh
    omega

theorem Registry.candidates_ids_sublist (registry : Registry) (conditions : Conditions) (key : String)
    (tier : List ChannelId) :
    ((registry.candidates conditions key tier).map (·.id)).Sublist tier := by
  have hids : (tier.filterMap registry.snapshot.channel?).map (·.id) =
      tier.filter fun id => (registry.snapshot.channel? id).isSome := by
    rw [List.map_filterMap, ← List.filterMap_eq_filter]
    congr 1
    funext id
    cases hfound : registry.snapshot.channel? id with
    | none => simp [Option.guard, hfound]
    | some channel =>
      have hid : channel.id = id := by simpa using List.find?_some hfound
      simp [Option.guard, hfound, hid]
  refine (List.Sublist.map _ List.filter_sublist).trans ?_
  rw [hids]
  exact List.filter_sublist

/-- What a choice among several candidates, not all of them without weight, makes of the words drawn. -/
structure FairDraw (candidates : List Channel) : Prop where
  /-- A word that is accepted leads to a channel: the walk does not reach its end, and in 64-bit words
  nothing wraps around on the way. -/
  leads : ∀ word number, Draws.accepts? (totalWeight candidates) word = some number →
    ∃ before channel after, candidates = before ++ channel :: after ∧ totalWeight before ≤ number ∧
      number < totalWeight before + channel.weight.toNat ∧
      wordWalk candidates (.ofNat number) = some channel ∧ drawn? candidates word = some channel
  /-- After a word that is rejected another one is drawn. -/
  draws : ∀ word words, pick candidates (word :: words) =
    match drawn? candidates word with
    | some channel => (some channel, words)
    | none => pick candidates words
  /-- Each channel has words in proportion to its weight. -/
  share : ∀ channel ∈ candidates, {word | drawn? candidates word = some channel}.ncard =
    channel.weight.toNat * 2 ^ Draws.leadingZeros (totalWeight candidates)
  /-- All other words are rejected. -/
  rejected : {word | drawn? candidates word = none}.ncard =
    2 ^ 64 - totalWeight candidates * 2 ^ Draws.leadingZeros (totalWeight candidates)
  /-- The scale is the greatest with which the total is still a word. -/
  scale : 2 ^ 63 ≤ totalWeight candidates * 2 ^ Draws.leadingZeros (totalWeight candidates) ∧
    totalWeight candidates * 2 ^ Draws.leadingZeros (totalWeight candidates) < 2 ^ 64
  weighty : ∀ words channel, (pick candidates words).1 = some channel → channel.weight ≠ 0

theorem fairDraw {candidates : List Channel} (distinct : candidates.Nodup)
    (bounded : totalWeight candidates < 2 ^ 64) (several : 1 < candidates.length)
    (positive : 0 < totalWeight candidates) : FairDraw candidates := by
  constructor
  case leads =>
    intro word number haccepts
    have hbelow := Draws.accepts?_lt positive haccepts
    have hnumber : (UInt64.ofNat number).toNat = number := UInt64.toNat_ofNat_of_lt' (hbelow.trans bounded)
    obtain ⟨channel, hwalk⟩ := walk_isSome hbelow
    obtain ⟨before, after, hsplit, hlow, hhigh⟩ := walk_split hwalk
    refine ⟨before, channel, after, hsplit, hlow, hhigh, ?_, drawn?_eq_some.mpr ⟨number, haccepts, hwalk⟩⟩
    rw [wordWalk_eq, hnumber]
    exact hwalk
  case draws => exact pick_cons several positive
  case share => exact fun channel member => ncard_drawn positive bounded distinct member
  case rejected => exact ncard_rejected positive bounded
  case scale => exact Draws.leadingZeros_bounds positive bounded
  case weighty => exact fun words channel h => pick_weight several positive h

/-- A choice within a tier. Nothing is chosen if and only if there is no candidate. The only candidate, and
the first of several without weight, is chosen without a draw. In all other cases the first word drawn is as
likely to select a candidate as its weight says, and if it selects none, another word is drawn. -/
theorem pick_proportional (registry : Registry) (conditions : Conditions) (key : String)
    {tier : List ChannelId} (distinct : tier.Nodup) (short : tier.length < 2 ^ 32) :
    let candidates := registry.candidates conditions key tier
    (candidates.map (·.id)).Nodup ∧ (wordTotal candidates).toNat = totalWeight candidates ∧
      (∀ draws, (pick candidates draws).1 = none ↔ candidates = []) ∧
      (∀ first others draws, candidates = first :: others →
        others = [] ∨ totalWeight candidates = 0 → pick candidates draws = (some first, draws)) ∧
      (1 < candidates.length → 0 < totalWeight candidates → FairDraw candidates) := by
  intro candidates
  have hsublist := registry.candidates_ids_sublist conditions key tier
  have hids : (candidates.map (·.id)).Nodup := distinct.sublist hsublist
  have hlength : candidates.length ≤ tier.length := by simpa using hsublist.length_le
  have hbounded : totalWeight candidates < 2 ^ 64 := by
    have hsum := totalWeight_le candidates
    have hmost : candidates.length * (2 ^ 32 - 1) ≤ 2 ^ 32 * (2 ^ 32 - 1) :=
      Nat.mul_le_mul_right _ (by omega)
    omega
  refine ⟨hids, toNat_wordTotal hbounded, ?_, ?_, ?_⟩
  · intro draws
    constructor
    · intro hnone
      by_contra hsome
      obtain ⟨channel, hpicked⟩ := pick_isSome hsome draws
      rw [hnone] at hpicked
      cases hpicked
    · intro hnil
      rw [hnil]
      rfl
  · intro first others draws heq hplain
    rw [heq] at hplain ⊢
    cases others with
    | nil => rfl
    | cons second others =>
      rcases hplain with hnil | hzero
      · cases hnil
      · simp only [pick, if_pos hzero]
  · intro several positive
    exact fairDraw (List.Nodup.of_map _ hids) hbounded several positive

def weightedChannel (id : ChannelId) (weight : UInt32) : Channel :=
  { (default : Channel) with id, weight }

/-- Three channels of one tier, the second without weight. -/
def unequalChannels : List Channel := [weightedChannel 1 1, weightedChannel 2 0, weightedChannel 3 3]

def unequalRegistry : Registry := ⟨⟨1, false⟩, { Snapshot.empty with channels := unequalChannels }, []⟩

theorem unequalChannels_proportional :
    let tier : List ChannelId := [1, 2, 3]
    let words := fun channel => {word | drawn? unequalChannels word = some channel}
    tier.Nodup ∧ tier.length < 2 ^ 32 ∧
      unequalRegistry.candidates ⟨.ofSeconds 5, 0, []⟩ "m" tier = unequalChannels ∧
      (words (weightedChannel 1 1)).ncard = 2 ^ 61 ∧ (words (weightedChannel 2 0)).ncard = 0 ∧
      (words (weightedChannel 3 3)).ncard = 3 * 2 ^ 61 := by
  intro tier words
  have distinct : tier.Nodup := by decide
  have short : tier.length < 2 ^ 32 := by decide
  have hcandidates : unequalRegistry.candidates ⟨.ofSeconds 5, 0, []⟩ "m" tier = unequalChannels := by
    decide +kernel
  have hscale : Draws.leadingZeros (totalWeight unequalChannels) = 61 := by decide +kernel
  obtain ⟨_, _, _, _, drawn⟩ :=
    pick_proportional unequalRegistry ⟨.ofSeconds 5, 0, []⟩ "m" distinct short
  rw [hcandidates] at drawn
  have share := (drawn (by decide) (by decide)).share
  rw [hscale] at share
  exact ⟨distinct, short, hcandidates, share (weightedChannel 1 1) (by decide),
    share (weightedChannel 2 0) (by decide), share (weightedChannel 3 3) (by decide)⟩

end RelayGateway
