import RelayGateway.Proofs.Text.Trimming
import RelayGateway.Text.Fields

/-! # Lists in texts

* `splitList_eq`: a list in a text is what stands between its commas, trimmed, without what is empty then.
* `Text.IsItem`: the texts that can be items of a list.
* `Text.splitList_append`: a comma joins two lists.
* `Text.isItem_of_mem_splitList`, `Text.splitList_intercalate`: every list in a text is one of items, and
  every list of items is one in a text.
-/

set_option autoImplicit false

namespace RelayGateway

/-- A list in a text is what stands between its commas, trimmed, without what is empty then. -/
theorem splitList_eq (text : String) :
    Text.splitList text = ((Text.splitAt ',' text).map Text.trim).filter fun item => item != "" := by
  have htrim : (Text.splitAt ',' text).map Text.trim =
      ((Text.fields ',' text.toList).map Text.trimChars).map String.ofList := by
    simp [Text.splitAt, Text.trim, Function.comp_def]
  rw [htrim, List.filter_map, Text.splitList]
  congr 2
  funext item
  rw [Bool.eq_iff_iff]
  simp [← String.toList_inj]

namespace Text

variable {sep : Char} {cs : List Char}

/-! ## Between the separators -/

theorem fields_eq_splitOn (sep : Char) (cs : List Char) : fields sep cs = cs.splitOn sep := by
  induction cs with
  | nil => rfl
  | cons c cs ih =>
    have hfirst : fields sep (c :: cs) = consField sep c (fields sep cs) := rfl
    obtain ⟨first, rest, hsplit⟩ := List.exists_cons_of_ne_nil (List.splitOn_ne_nil sep cs)
    rw [hfirst, ih, List.splitOn_cons_eq_if_modifyHead, hsplit]
    by_cases hsep : c = sep
    · simp [consField, hsep]
    · simp [consField, hsep]

theorem not_mem_of_mem_fields {piece : List Char} (h : piece ∈ fields sep cs) : sep ∉ piece := by
  induction cs generalizing piece with
  | nil =>
    obtain rfl := List.mem_singleton.mp h
    exact List.not_mem_nil
  | cons c cs ih =>
    have h : piece ∈ consField sep c (fields sep cs) := h
    unfold consField at h
    split at h
    · rcases List.mem_cons.mp h with rfl | hlater
      · exact List.not_mem_nil
      · exact ih hlater
    · rename_i hother
      split at h
      · obtain rfl := List.mem_singleton.mp h
        simpa using Ne.symm hother
      · rename_i first rest hfields
        rcases List.mem_cons.mp h with rfl | hlater
        · have hfirst : sep ∉ first := ih (hfields ▸ List.mem_cons_self)
          simpa [Ne.symm hother] using hfirst
        · exact ih (hfields ▸ List.mem_cons_of_mem _ hlater)

/-! ## Items -/

/-- A text that can be an item of a list. -/
structure IsItem (item : String) : Prop where
  nonempty : item ≠ ""
  commaFree : ',' ∉ item.toList
  trimmed : trim item = item

instance (item : String) : Decidable (IsItem item) :=
  decidable_of_iff (item ≠ "" ∧ ',' ∉ item.toList ∧ trim item = item)
    ⟨fun ⟨nonempty, commaFree, trimmed⟩ => ⟨nonempty, commaFree, trimmed⟩,
      fun h => ⟨h.nonempty, h.commaFree, h.trimmed⟩⟩

example : IsItem "gpt-4o mini" ∧ ¬ IsItem " vip" ∧ ¬ IsItem "a,b" := by decide +kernel

/-- Trimming adds no characters. -/
theorem mem_of_mem_trim {text : String} {c : Char} (h : c ∈ (trim text).toList) : c ∈ text.toList := by
  obtain ⟨before, after, _, _, hsplit⟩ := pads_trim text
  rw [hsplit]
  exact List.mem_append_left after (List.mem_append_right before h)

theorem isItem_of_mem_splitList {text item : String} (h : item ∈ splitList text) : IsItem item := by
  rw [splitList_eq, List.mem_filter, List.mem_map, bne_iff_ne] at h
  obtain ⟨⟨piece, hpiece, rfl⟩, hnonempty⟩ := h
  refine ⟨hnonempty, fun hcomma => ?_, trim_trim piece⟩
  obtain ⟨cs, hcs, rfl⟩ := List.mem_map.mp hpiece
  have hcomma := mem_of_mem_trim hcomma
  rw [String.toList_ofList] at hcomma
  exact not_mem_of_mem_fields hcs hcomma

theorem splitList_item {item : String} (h : IsItem item) : splitList item = [item] := by
  have hwhole : splitAt ',' item = [item] := by
    rw [splitAt, fields_eq_splitOn, List.splitOn_eq_singleton h.commaFree, List.map_singleton,
      String.ofList_toList]
  rw [splitList_eq, hwhole, List.map_singleton, h.trimmed, List.filter_cons_of_pos, List.filter_nil]
  exact bne_iff_ne.mpr h.nonempty

/-! ## Joining and splitting -/

theorem splitList_append (a b : String) : splitList (a ++ "," ++ b) = splitList a ++ splitList b := by
  have hpieces : splitAt ',' (a ++ "," ++ b) = splitAt ',' a ++ splitAt ',' b := by
    have hchars : (a ++ "," ++ b).toList = a.toList ++ ',' :: b.toList := by
      rw [String.toList_append, String.toList_append, List.append_assoc]
      rfl
    rw [splitAt, hchars, fields_eq_splitOn, List.splitOn_append_cons_self, List.map_append,
      ← fields_eq_splitOn, ← fields_eq_splitOn]
    rfl
  rw [splitList_eq, hpieces, List.map_append, List.filter_append, ← splitList_eq, ← splitList_eq]

theorem splitList_intercalate {items : List String} (h : ∀ item ∈ items, IsItem item) :
    splitList (",".intercalate items) = items := by
  induction items with
  | nil => rfl
  | cons item items ih =>
    have hitem := splitList_item (h item List.mem_cons_self)
    cases items with
    | nil => rw [String.intercalate_singleton, hitem]
    | cons next items =>
      rw [String.intercalate_cons_cons, splitList_append, hitem,
        ih fun later hlater => h later (List.mem_cons_of_mem _ hlater), List.singleton_append]

end Text

end RelayGateway
