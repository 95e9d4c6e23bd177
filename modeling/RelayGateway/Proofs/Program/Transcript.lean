import RelayGateway.Program

/-! # Transcripts of programs

What can be said of a program for all surroundings at once.

* `Exchange`: a call with the reply to it.
* `Program.Ends p t a`: asked the calls of the transcript `t` and given its replies, `p` is done with
  `a`. `ends_bind` and `ends_request_bind` follow the program, so that its transcripts are found by
  rewriting.
* `Surroundings`: a reply to every call, in the light of all that went before. `Program.meet` is the
  transcript and the value of a program in them; `ends_meet` says that there always is one.
-/

set_option autoImplicit false

namespace RelayGateway

/-- A call with the reply to it. -/
structure Exchange {Call : Type} (Reply : Call → Type) where
  call : Call
  reply : Reply call

/-- A reply to every call, after the exchanges that came before it. -/
abbrev Surroundings {Call : Type} (Reply : Call → Type) :=
  List (Exchange Reply) → (call : Call) → Reply call

/-- An entry of a list with a new one at its end is the new one or one of those before. -/
theorem append_singleton_eq {α : Type} {list earlier later : List α} {new entry : α}
    (h : list ++ [new] = earlier ++ entry :: later) :
    (earlier = list ∧ entry = new ∧ later = []) ∨
      ∃ later', later = later' ++ [new] ∧ list = earlier ++ entry :: later' := by
  rcases List.eq_nil_or_concat later with rfl | ⟨later', last, rfl⟩
  · obtain ⟨rfl, heq⟩ := List.append_inj' h rfl
    cases heq
    exact .inl ⟨rfl, rfl, rfl⟩
  · rw [List.concat_eq_append, ← List.cons_append, ← List.append_assoc] at h
    obtain ⟨rfl, heq⟩ := List.append_inj' h rfl
    cases heq
    exact .inr ⟨later', List.concat_eq_append, rfl⟩

/-- An entry of a list that is put together stands in one of the two parts. -/
theorem append_eq_split {α : Type} {first rest earlier later : List α} {entry : α}
    (h : first ++ rest = earlier ++ entry :: later) :
    (∃ middle, earlier = first ++ middle ∧ rest = middle ++ entry :: later) ∨
      ∃ middle, first = earlier ++ entry :: middle ∧ later = middle ++ rest := by
  rcases List.append_eq_append_iff.mp h with ⟨middle, hearlier, hrest⟩ | ⟨middle, hfirst, hlater⟩
  · exact .inl ⟨middle, hearlier, hrest⟩
  · cases middle with
    | nil =>
      rw [List.append_nil] at hfirst
      exact .inl ⟨[], by rw [hfirst, List.append_nil], hlater.symm⟩
    | cons head tail =>
      obtain ⟨rfl, htail⟩ := List.cons.inj hlater
      exact .inr ⟨tail, hfirst, htail⟩

theorem getElem?_append_singleton {α : Type} {list : List α} {new entry : α} {index : Nat}
    (h : (list ++ [new])[index]? = some entry) :
    list[index]? = some entry ∨ index = list.length ∧ entry = new := by
  rcases Nat.lt_trichotomy index list.length with hlt | heq | hgt
  · rw [List.getElem?_append_left hlt] at h
    exact .inl h
  · rw [heq, List.getElem?_concat_length] at h
    exact .inr ⟨heq, (Option.some.inj h).symm⟩
  · have hnone : (list ++ [new])[index]? = none := by
      rw [List.getElem?_eq_none_iff, List.length_append, List.length_singleton]
      omega
    rw [hnone] at h
    cases h

theorem getElem?_append_of_some {α : Type} {list : List α} {entry : α} {index : Nat}
    (h : list[index]? = some entry) (rest : List α) : (list ++ rest)[index]? = some entry := by
  obtain ⟨hlt, _⟩ := List.getElem?_eq_some_iff.mp h
  rw [List.getElem?_append_left hlt]
  exact h

namespace Program

variable {Call : Type} {Reply : Call → Type} {α β : Type}

/-- Asked the calls of a transcript and given its replies, the program is done with a value. -/
def Ends : Program Reply α → List (Exchange Reply) → α → Prop
  | .done value, transcript, result => transcript = [] ∧ result = value
  | .ask call next, transcript, result =>
    ∃ reply rest, transcript = ⟨call, reply⟩ :: rest ∧ Ends (next reply) rest result

theorem ends_request (call : Call) (transcript : List (Exchange Reply)) (reply : Reply call) :
    Ends (request call) transcript reply ↔ transcript = [⟨call, reply⟩] := by
  constructor
  · rintro ⟨answer, rest, rfl, rfl, rfl⟩
    rfl
  · rintro rfl
    exact ⟨reply, [], rfl, rfl, rfl⟩

theorem ends_request_bind (call : Call) (after : Reply call → Program Reply β)
    (transcript : List (Exchange Reply)) (result : β) :
    Ends (request call >>= after) transcript result ↔
      ∃ reply rest, transcript = ⟨call, reply⟩ :: rest ∧ Ends (after reply) rest result := Iff.rfl

/-- A program that goes on with another one has the transcript of the first and then that of the
second. -/
theorem ends_bind (program : Program Reply α) (after : α → Program Reply β)
    (transcript : List (Exchange Reply)) (result : β) :
    Ends (program >>= after) transcript result ↔
      ∃ first value rest, transcript = first ++ rest ∧ Ends program first value ∧
        Ends (after value) rest result := by
  induction program generalizing transcript with
  | done value =>
    constructor
    · intro h
      exact ⟨[], value, transcript, rfl, ⟨rfl, rfl⟩, h⟩
    · rintro ⟨first, value', rest, rfl, ⟨rfl, rfl⟩, h⟩
      exact h
  | ask call next ih =>
    constructor
    · rintro ⟨reply, rest, rfl, h⟩
      obtain ⟨first, value, rest', rfl, hf, hr⟩ := (ih reply rest).mp h
      exact ⟨⟨call, reply⟩ :: first, value, rest', rfl, ⟨reply, first, rfl, hf⟩, hr⟩
    · rintro ⟨_, value, rest, rfl, ⟨reply, first, rfl, hf⟩, hr⟩
      exact ⟨reply, first ++ rest, rfl, (ih reply _).mpr ⟨first, value, rest, rfl, hf, hr⟩⟩

/-- The transcript and the value of a program in the given surroundings, after `past`. -/
def meet (surroundings : Surroundings Reply) (past : List (Exchange Reply)) :
    Program Reply α → List (Exchange Reply) × α
  | .done value => ([], value)
  | .ask call next =>
    let exchange : Exchange Reply := ⟨call, surroundings past call⟩
    let rest := meet surroundings (past ++ [exchange]) (next exchange.reply)
    (exchange :: rest.1, rest.2)

theorem ends_meet (surroundings : Surroundings Reply) (past : List (Exchange Reply))
    (program : Program Reply α) :
    program.Ends (program.meet surroundings past).1 (program.meet surroundings past).2 := by
  induction program generalizing past with
  | done value => exact ⟨rfl, rfl⟩
  | ask call next ih => exact ⟨_, _, rfl, ih _ _⟩

/-- Every reply in the transcript is that of the surroundings to the call, after what came before. -/
theorem meet_reply (surroundings : Surroundings Reply) {past : List (Exchange Reply)}
    {program : Program Reply α} {earlier later : List (Exchange Reply)} {exchange : Exchange Reply}
    (h : (program.meet surroundings past).1 = earlier ++ exchange :: later) :
    exchange.reply = surroundings (past ++ earlier) exchange.call := by
  induction program generalizing past earlier with
  | done value => simp [meet] at h
  | ask call next ih =>
    rw [meet] at h
    cases earlier with
    | nil =>
      obtain ⟨rfl, _⟩ := List.cons.inj h
      rw [List.append_nil]
    | cons first earlier =>
      obtain ⟨rfl, hrest⟩ := List.cons.inj h
      have hreply := ih _ hrest
      rwa [List.append_assoc] at hreply

end Program

end RelayGateway
