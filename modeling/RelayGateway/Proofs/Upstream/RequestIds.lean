import Mathlib.Data.List.TakeWhile
import RelayGateway.Proofs.Upstream.Disclosure

/-! # Request ids in messages

* `requestIdTag`, `interleave`: a request id as it stands in a text, and a text made of pieces with request
  ids between them.
* `removeRequestIds_interleave`: pieces in which no id begins are what is left when the ids are removed.
* `exists_interleave`: every text is made of pieces that are left and ids that are removed, and there is no id
  in a piece.
* `message_rewritten`: what becomes of a message with request ids, and of one without.
* `onlyRequestId_iff`, `foreignIds_hidden`: the gateway's id is the only one in a message, unless a mark is
  left open in the pieces as they are put together.
* `joinedId_survives`: pieces that make up an id when they are put together.
-/

set_option autoImplicit false

namespace RelayGateway

variable {cs rest id text own : List Char} {c : Char}

/-- What can be a request id. -/
def IsRequestId (id : List Char) : Prop := id ≠ [] ∧ ')' ∉ id

/-- A request id as it stands in a text. -/
def requestIdTag (id : List Char) : List Char := requestIdMark ++ id ++ [')']

/-- The mark of a request id without the blank at its end. -/
def requestIdStart : List Char := "(request id:".toList

theorem IsRequestId.head? (valid : IsRequestId id) (next : List Char) :
    (id ++ next).head? ≠ some ')' := by
  obtain ⟨hnonempty, hclosed⟩ := valid
  cases id with
  | nil => exact absurd rfl hnonempty
  | cons c id =>
    intro hhead
    rw [List.cons_append, List.head?_cons, Option.some.injEq] at hhead
    exact hclosed (hhead ▸ List.mem_cons_self)

/-- The first closing bracket ends an id. -/
theorem dropWhile_closed (closed : ')' ∉ id) (next : List Char) :
    (id ++ ')' :: next).dropWhile (fun c => c != ')') = ')' :: next := by
  have hpassed : ∀ c ∈ id, (c != ')') = true := fun c hc => bne_iff_ne.mpr fun heq => closed (heq ▸ hc)
  rw [List.dropWhile_append_of_pos hpassed]
  rfl

theorem closed_inj {next : List Char} (closed : ')' ∉ id) (other : ')' ∉ own)
    (h : id ++ ')' :: next = own ++ ')' :: rest) : id = own ∧ next = rest := by
  have hnext : ')' :: next = ')' :: rest := by
    rw [← dropWhile_closed closed next, h, dropWhile_closed other]
  obtain rfl : next = rest := List.cons_injective hnext
  exact ⟨List.append_cancel_right h, rfl⟩

theorem afterRequestId?_eq_some :
    afterRequestId? cs = some rest ↔ ∃ id, IsRequestId id ∧ cs = requestIdTag id ++ rest := by
  have htag : ∀ id, requestIdTag id ++ rest = requestIdMark ++ (id ++ ')' :: rest) := by
    intro id
    rw [requestIdTag, List.append_assoc, List.append_assoc]
    rfl
  simp only [htag]
  constructor
  · intro h
    unfold afterRequestId? at h
    split at h
    · cases h
    rename_i tail hmarked
    split at h
    · cases h
    rename_i c remainder hdropped
    split at h
    · cases h
    rename_i hfirst
    obtain rfl : remainder = rest := Option.some.inj h
    -- the bracket that was found is the first one in the tail
    have hbracket : ')' ∈ tail := by
      by_contra habsent
      have hall : tail.dropWhile (fun c => c != ')') = [] :=
        List.dropWhile_eq_nil_iff.mpr fun d hd => bne_iff_ne.mpr fun heq => habsent (heq ▸ hd)
      rw [hall] at hdropped
      cases hdropped
    obtain ⟨id, next, rfl, hclosed⟩ := List.eq_append_cons_of_mem hbracket
    rw [dropWhile_closed hclosed, List.cons.injEq] at hdropped
    obtain ⟨rfl, rfl⟩ := hdropped
    refine ⟨id, ⟨?_, hclosed⟩, Text.charsAfter?_eq_some.mp hmarked⟩
    rintro rfl
    exact hfirst rfl
  · rintro ⟨id, hvalid, rfl⟩
    have hmarked := Text.charsAfter?_eq_some.mpr (Eq.refl (requestIdMark ++ (id ++ ')' :: rest)))
    unfold afterRequestId?
    rw [hmarked]
    dsimp only
    rw [dropWhile_closed hvalid.2]
    dsimp only
    rw [if_neg (hvalid.head? _)]

theorem afterRequestId?_eq_none :
    afterRequestId? cs = none ↔ ∀ id, IsRequestId id → ¬ requestIdTag id <+: cs := by
  rw [Option.eq_none_iff_forall_ne_some]
  constructor
  · rintro h id hvalid ⟨rest, rfl⟩
    exact h rest (afterRequestId?_eq_some.mpr ⟨id, hvalid, rfl⟩)
  · intro h rest hfound
    obtain ⟨id, hvalid, rfl⟩ := afterRequestId?_eq_some.mp hfound
    exact h id hvalid (List.prefix_append _ _)

/-! ## Pieces and ids -/

/-- A text made of pieces, with request ids between them. -/
def interleave (first : List Char) (removed : List (List Char × List Char)) : List Char :=
  first ++ removed.flatMap fun entry => requestIdTag entry.1 ++ entry.2

/-- The pieces put together. -/
def remaining (first : List Char) (removed : List (List Char × List Char)) : List Char :=
  first ++ removed.flatMap Prod.snd

theorem removeRequestIds_tag (valid : IsRequestId id) :
    removeRequestIds (requestIdTag id ++ rest) = removeRequestIds rest := by
  have hafter : afterRequestId? (requestIdTag id ++ rest) = some rest :=
    afterRequestId?_eq_some.mpr ⟨id, valid, rfl⟩
  rw [removeRequestIds]
  split
  · rename_i found hfound
    rw [hafter, Option.some.injEq] at hfound
    rw [hfound]
  · rename_i hnone
    rw [hafter] at hnone
    cases hnone

theorem removeRequestIds_cons (clear : afterRequestId? (c :: cs) = none) :
    removeRequestIds (c :: cs) = c :: removeRequestIds cs := by
  rw [removeRequestIds]
  split
  · rename_i found hfound
    rw [clear] at hfound
    cases hfound
  · rfl

theorem removeRequestIds_nil : removeRequestIds [] = [] := by
  have hnone : afterRequestId? [] = none := rfl
  rw [removeRequestIds]
  split
  · rename_i found hfound
    rw [hnone] at hfound
    cases hfound
  · rfl

/-- A mark that begins in a text lies in it as a whole, if what follows the text can only begin another
mark. -/
theorem requestIdMark_whole {begun next : List Char} (nonempty : begun ≠ [])
    (opens : ∀ c ∈ next.head?, c = '(') (marked : begun ++ next = requestIdMark ++ rest) :
    requestIdMark <+: begun := by
  rcases List.append_eq_append_iff.mp marked with ⟨missing, hmark, hnext⟩ | ⟨more, hbegun, _⟩
  · cases missing with
    | nil =>
      rw [List.append_nil] at hmark
      exact hmark ▸ List.prefix_rfl
    | cons c missing =>
      -- the bracket at the beginning of what follows would be a second one in the mark
      obtain rfl : c = '(' := opens c (by rw [hnext]; rfl)
      obtain ⟨b, begun, rfl⟩ := List.exists_cons_of_ne_nil nonempty
      have htail : requestIdMark.tail = begun ++ '(' :: missing := by rw [hmark]; rfl
      have hbracket : '(' ∈ requestIdMark.tail :=
        htail ▸ List.mem_append_right begun List.mem_cons_self
      exact absurd hbracket (by decide)
  · exact ⟨more, hbegun.symm⟩

theorem requestIdMark_starts : requestIdStart <+: requestIdMark := List.prefix_append _ _

/-- Nothing is removed from a piece without a mark. -/
theorem removeRequestIds_append (unmarked : ¬ requestIdStart <:+: text)
    (opens : ∀ c ∈ rest.head?, c = '(') :
    removeRequestIds (text ++ rest) = text ++ removeRequestIds rest := by
  induction text with
  | nil => rfl
  | cons c text ih =>
    have hclear : afterRequestId? (c :: (text ++ rest)) = none := by
      refine afterRequestId?_eq_none.mpr fun id _ hbegins => unmarked ?_
      obtain ⟨next, hnext⟩ := hbegins
      rw [requestIdTag, List.append_assoc, List.append_assoc, ← List.cons_append] at hnext
      have hmark := requestIdMark_whole (List.cons_ne_nil c text) opens hnext.symm
      exact (requestIdMark_starts.trans hmark).isInfix
    have hrest : ¬ requestIdStart <:+: text := fun h => unmarked (List.infix_cons h)
    rw [List.cons_append, removeRequestIds_cons hclear, ih hrest, List.cons_append]

/-- Every text is made of pieces that are left and ids that are removed, and no piece has an id in it. -/
theorem exists_interleave (cs : List Char) :
    ∃ first removed, cs = interleave first removed ∧ removeRequestIds cs = remaining first removed ∧
      (∀ entry ∈ removed, IsRequestId entry.1) ∧
      ∀ piece ∈ first :: removed.map Prod.snd, ∀ id, IsRequestId id → ¬ requestIdTag id <:+: piece := by
  induction cs using removeRequestIds.induct with
  | case1 cs rest hfound ih =>
    obtain ⟨id, hvalid, rfl⟩ := afterRequestId?_eq_some.mp hfound
    obtain ⟨first, removed, rfl, hremaining, hids, hclean⟩ := ih
    refine ⟨[], (id, first) :: removed, ?_, ?_, ?_, ?_⟩
    · rw [interleave, interleave, List.nil_append, List.flatMap_cons, List.append_assoc]
    · rw [removeRequestIds_tag hvalid, hremaining, remaining, remaining, List.nil_append,
        List.flatMap_cons]
    · exact List.forall_mem_cons.mpr ⟨hvalid, hids⟩
    · refine List.forall_mem_cons.mpr ⟨fun id _ hinfix => ?_, hclean⟩
      cases List.infix_nil.mp hinfix
  | case2 =>
    refine ⟨[], [], rfl, removeRequestIds_nil, nofun, ?_⟩
    refine List.forall_mem_cons.mpr ⟨fun id _ hinfix => ?_, nofun⟩
    cases List.infix_nil.mp hinfix
  | case3 c cs hclear ih =>
    obtain ⟨first, removed, rfl, hremaining, hids, hclean⟩ := ih
    obtain ⟨hfirst, hothers⟩ := List.forall_mem_cons.mp hclean
    refine ⟨c :: first, removed, rfl, ?_, hids,
      List.forall_mem_cons.mpr ⟨fun id hvalid hinfix => ?_, hothers⟩⟩
    · rw [removeRequestIds_cons hclear, hremaining]
      rfl
    · -- an id at the very beginning of the piece would have been removed
      rcases List.infix_cons_iff.mp hinfix with hbegins | hinner
      · exact afterRequestId?_eq_none.mp hclear id hvalid (hbegins.trans ⟨_, rfl⟩)
      · exact hfirst id hvalid hinner

/-- A mark in a text has no closing bracket right after it. The blank at its end may be the one that the
gateway puts before its own id. -/
def LeavesMarkOpen (text : List Char) : Prop :=
  ∃ before after, text ++ [' '] = before ++ requestIdMark ++ after ∧ after.head? ≠ some ')'

theorem not_leavesMarkOpen (unmarked : ¬ requestIdStart <:+: text) : ¬ LeavesMarkOpen text := by
  rintro ⟨before, after, hsplit, _⟩
  have hmarked : requestIdMark <:+: text ++ [' '] := ⟨before, after, hsplit.symm⟩
  exact unmarked ((Text.infix_concat (by decide)).mp (requestIdMark_starts.isInfix.trans hmarked))

/-- `own` is the only request id in a text, and stands at its end. -/
def OnlyRequestId (text own : List Char) : Prop :=
  ∀ before id after, text = before ++ requestIdTag id ++ after → IsRequestId id → id = own ∧ after = []

theorem requestIdTag_append (id next : List Char) :
    requestIdTag id ++ next = requestIdMark ++ (id ++ ')' :: next) := by
  rw [requestIdTag, List.append_assoc, List.append_assoc]
  rfl

theorem requestIdTag_inj (valid : IsRequestId own) (other : IsRequestId id)
    (h : requestIdTag own = requestIdTag id ++ rest) : id = own ∧ rest = [] := by
  rw [← List.append_nil (requestIdTag own), requestIdTag_append, requestIdTag_append] at h
  obtain ⟨rfl, rfl⟩ := closed_inj valid.2 other.2 (List.append_cancel_left h)
  exact ⟨rfl, rfl⟩

/-- After a mark that is left open an id is found, and it ends in the gateway's own at the latest. -/
theorem LeavesMarkOpen.found (leaves : LeavesMarkOpen text) (own : List Char) :
    ∃ before id after, text ++ [' '] ++ requestIdTag own = before ++ requestIdTag id ++ after ∧
      IsRequestId id ∧ before.length < (text ++ [' ']).length := by
  obtain ⟨before, after, hsplit, hopen⟩ := leaves
  have hbracket : ')' ∈ after ++ requestIdTag own :=
    List.mem_append_right _ (List.mem_append_right _ List.mem_cons_self)
  obtain ⟨id, next, hid, hclosed⟩ := List.eq_append_cons_of_mem hbracket
  refine ⟨before, id, next, ?_, ⟨?_, hclosed⟩, ?_⟩
  · rw [hsplit, List.append_assoc, hid, List.append_assoc, List.append_assoc, requestIdTag_append]
  · rintro rfl
    cases after with
    | nil => exact absurd (List.cons.inj hid).1 (by decide)
    | cons c after => exact hopen (congrArg some (List.cons.inj hid).1)
  · have hmark : 0 < requestIdMark.length := by decide
    rw [hsplit, List.length_append, List.length_append]
    omega

/-- An id that begins before the gateway's own begins after a mark that is left open. -/
theorem leavesMarkOpen_of_found {before begun after : List Char} (valid : IsRequestId id)
    (begins : begun ≠ []) (split : text ++ [' '] = before ++ begun)
    (found : requestIdTag id ++ after = begun ++ requestIdTag own) : LeavesMarkOpen text := by
  rw [requestIdTag_append] at found
  obtain ⟨next, rfl⟩ := requestIdMark_whole begins (by rintro c ⟨⟩; rfl) found.symm
  refine ⟨before, next, by rw [split, List.append_assoc], fun hbracket => ?_⟩
  obtain ⟨next, rfl⟩ := List.head?_eq_some_iff.mp hbracket
  rw [List.append_assoc] at found
  exact valid.head? (')' :: after) (by rw [List.append_cancel_left found]; rfl)

/-- The gateway's id is the only one in a message exactly if no mark is left open before it. -/
theorem onlyRequestId_iff (valid : IsRequestId own) (plain : '(' ∉ own) :
    OnlyRequestId (text ++ [' '] ++ requestIdTag own) own ↔ ¬ LeavesMarkOpen text := by
  constructor
  · intro honly hleaves
    obtain ⟨before, id, after, hfound, hid, hearlier⟩ := hleaves.found own
    obtain ⟨rfl, rfl⟩ := honly before id after hfound hid
    have hlength := congrArg List.length hfound
    simp only [List.length_append, List.length_nil] at hlength hearlier
    omega
  · intro hclosed before id after hfound hid
    rw [List.append_assoc before] at hfound
    rcases List.append_eq_append_iff.mp hfound with ⟨more, _, htag⟩ | ⟨begun, hsplit, htag⟩
    · cases more with
      | nil => exact requestIdTag_inj valid hid htag
      | cons c more =>
        -- there is no second opening bracket in the gateway's id
        have htail : requestIdMark.tail ++ own ++ [')'] = more ++ (requestIdTag id ++ after) :=
          (List.cons.inj htag).2
        have hbracket : '(' ∈ requestIdMark.tail ++ own ++ [')'] :=
          htail ▸ List.mem_append_right more List.mem_cons_self
        rcases List.mem_append.mp hbracket with hmem | hmem
        · rcases List.mem_append.mp hmem with hmark | hown
          · exact absurd hmark (by decide)
          · exact absurd hown plain
        · exact absurd hmem (by decide)
    · by_cases hbegun : begun = []
      · rw [hbegun] at htag
        exact requestIdTag_inj valid hid htag.symm
      · exact absurd (leavesMarkOpen_of_found hid hbegun hsplit htag) hclosed

/-! ## Ids that a client sees -/

theorem bareWording_remaining (err : UpstreamError) :
    ∃ blanks, removeRequestIds err.wording.toList = err.bareWording.toList ++ blanks ∧
      ∀ c ∈ blanks, Text.isBlank c = true := by
  unfold UpstreamError.bareWording
  split
  · rw [stripRequestIds, String.toList_ofList]
    exact Text.trimEndChars_append _
  · rename_i hunmarked
    refine ⟨[], ?_, nofun⟩
    have hkept : removeRequestIds (err.wording.toList ++ []) = err.wording.toList ++ removeRequestIds [] :=
      removeRequestIds_append (mt Text.contains_iff.mpr hunmarked) nofun
    rw [List.append_nil, removeRequestIds_nil] at hkept
    exact hkept

/-- No id that stands in an error as a whole is left of it. So the only id that a client sees is the
gateway's own, unless a mark is left open: one without its bracket, or one that pieces make up when the id
between them is gone. -/
theorem foreignIds_hidden (err : UpstreamError) (requestId : String)
    (uncoded : err.body.code ≠ some "bad_response_status_code") (named : requestId ≠ "")
    (plain : '(' ∉ requestId.toList ∧ ')' ∉ requestId.toList) :
    (∃ first removed blanks, err.wording.toList = interleave first removed ∧
      (∀ entry ∈ removed, IsRequestId entry.1) ∧
      (∀ piece ∈ first :: removed.map Prod.snd, ∀ id, IsRequestId id → ¬ requestIdTag id <:+: piece) ∧
      remaining first removed = err.bareWording.toList ++ blanks ∧ ∀ c ∈ blanks, Text.isBlank c = true) ∧
    (OnlyRequestId (disclose err requestId).message.toList requestId.toList ↔
      isConcealed err requestId = true ∨ ¬ LeavesMarkOpen err.bareWording.toList) := by
  constructor
  · obtain ⟨first, removed, hwording, hremaining, hids, hclean⟩ := exists_interleave err.wording.toList
    obtain ⟨blanks, hbare, hblank⟩ := bareWording_remaining err
    exact ⟨first, removed, blanks, hwording, hids, hclean, hremaining.symm.trans hbare, hblank⟩
  · have htold : (disclose err requestId).message = toldMessage err requestId := by
      rw [disclose_eq]
      exact if_neg fun h => uncoded h.1
    have hvalid : IsRequestId requestId.toList :=
      ⟨fun hnil => named (String.toList_eq_nil_iff.mp hnil), plain.2⟩
    rw [htold, toldMessage]
    cases isConcealed err requestId with
    | true =>
      refine iff_of_true (fun before id after hfound _ => ?_) (.inl rfl)
      -- no bracket opens in the general message
      have hbracket : '(' ∈ saturatedMessage.toList := by
        rw [if_pos rfl] at hfound
        rw [hfound]
        exact List.mem_append_left _ (List.mem_append_right _ List.mem_cons_self)
      exact absurd hbracket (by decide)
    | false =>
      have hmessage : (withRequestId err.bareWording requestId).toList =
          err.bareWording.toList ++ [' '] ++ requestIdTag requestId.toList :=
        toList_withRequestId _ _
      rw [if_neg Bool.false_ne_true, hmessage, onlyRequestId_iff hvalid plain.1,
        or_iff_right Bool.false_ne_true]

/-- Both ids of an upstream are gone, although the blank between them is not. -/
theorem twoIds_hidden :
    let err := UpstreamError.upstream 500 "boom (request id: up-1) (request id: up-2)" "server_error"
    err.body.code ≠ some "bad_response_status_code" ∧ "req-1" ≠ "" ∧
      ('(' ∉ "req-1".toList ∧ ')' ∉ "req-1".toList) ∧
      OnlyRequestId (disclose err "req-1").message.toList "req-1".toList := by
  intro err
  have uncoded : err.body.code ≠ some "bad_response_status_code" := by decide
  have named : "req-1" ≠ "" := by decide
  have plain : '(' ∉ "req-1".toList ∧ ')' ∉ "req-1".toList := by decide
  have unmarked : ¬ requestIdStart <:+: err.bareWording.toList := by decide +kernel
  exact ⟨uncoded, named, plain,
    (foreignIds_hidden err "req-1" uncoded named plain).2.mpr (.inr (not_leavesMarkOpen unmarked))⟩

/-- An id that was cut in two by another one is shown to the client. -/
theorem joinedId_survives :
    ¬ ∀ (err : UpstreamError) (requestId : String), err.body.code ≠ some "bad_response_status_code" →
      requestId ≠ "" → '(' ∉ requestId.toList ∧ ')' ∉ requestId.toList →
        OnlyRequestId (disclose err requestId).message.toList requestId.toList := by
  intro hidden
  have honly := hidden
    (.upstream 500 "boom (request (request id: x)id: y)" "server_error") "req-1" (by decide) (by decide)
    (by decide)
  have hfound :
      (disclose (.upstream 500 "boom (request (request id: x)id: y)" "server_error") "req-1").message =
        "boom (request id: y) (request id: req-1)" := by decide +kernel
  have hsplit : "boom (request id: y) (request id: req-1)".toList =
      "boom ".toList ++ requestIdTag ['y'] ++ " (request id: req-1)".toList := by decide
  rw [hfound, hsplit] at honly
  obtain ⟨hid, _⟩ := honly "boom ".toList ['y'] " (request id: req-1)".toList rfl ⟨by decide, by decide⟩
  exact absurd hid (by decide)

end RelayGateway
