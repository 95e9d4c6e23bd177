import RelayGateway.Proofs.Program.Transcript

/-! # Programs whose calls are answered by programs

`Program.run` with an answer that is itself a program puts the answers in the place of the calls.

* `Program.run_bind`: a program followed by another one is run like the two one after the other.
* `Expands`: a transcript in which every exchange is replaced by the exchanges of its answer.
* `Program.ends_run`: the transcripts of such a program are the expanded ones.
* `Expands.split`: an entry of an expanded transcript stands in the answer to one call.
-/

set_option autoImplicit false

namespace RelayGateway

variable {Call Inner : Type} {Reply : Call → Type} {InnerReply : Inner → Type} {α β : Type}

theorem Program.run_bind {m : Type → Type} [Monad m] [LawfulMonad m]
    (answer : (call : Call) → m (Reply call)) (program : Program Reply α) (next : α → Program Reply β) :
    (program >>= next).run answer = program.run answer >>= fun value => (next value).run answer := by
  induction program with
  | done value =>
    rw [run, pure_bind]
    rfl
  | ask call follow ih =>
    rw [run, bind_assoc]
    exact bind_congr fun reply => ih reply

/-- The second transcript is the first with the exchanges of its answer in the place of every call. -/
inductive Expands (answer : (call : Call) → Program InnerReply (Reply call)) :
    List (Exchange Reply) → List (Exchange InnerReply) → Prop
  | nil : Expands answer [] []
  | cons {call : Call} {reply : Reply call} {first inner : List (Exchange InnerReply)}
      {outer : List (Exchange Reply)} (answered : (answer call).Ends first reply)
      (others : Expands answer outer inner) :
      Expands answer (⟨call, reply⟩ :: outer) (first ++ inner)

variable {answer : (call : Call) → Program InnerReply (Reply call)}

theorem Program.ends_run (program : Program Reply α) (transcript : List (Exchange InnerReply))
    (result : α) :
    (program.run answer).Ends transcript result ↔
      ∃ outer, program.Ends outer result ∧ Expands answer outer transcript := by
  induction program generalizing transcript with
  | done value =>
    constructor
    · rintro ⟨rfl, rfl⟩
      exact ⟨[], ⟨rfl, rfl⟩, .nil⟩
    · rintro ⟨_, ⟨rfl, rfl⟩, expanded⟩
      cases expanded
      exact ⟨rfl, rfl⟩
  | ask call next ih =>
    rw [Program.run, Program.ends_bind]
    constructor
    · rintro ⟨first, reply, rest, rfl, answered, hrest⟩
      obtain ⟨outer, houter, expanded⟩ := (ih reply rest).mp hrest
      exact ⟨⟨call, reply⟩ :: outer, ⟨reply, outer, rfl, houter⟩, .cons answered expanded⟩
    · rintro ⟨_, ⟨reply, outer, rfl, houter⟩, expanded⟩
      cases expanded with
      | cons answered others =>
        exact ⟨_, reply, _, rfl, answered, (ih reply _).mpr ⟨outer, houter, others⟩⟩

/-- An entry of an expanded transcript stands in the answer to one call. -/
theorem Expands.split {outer : List (Exchange Reply)} {inner earlier later : List (Exchange InnerReply)}
    {entry : Exchange InnerReply} (h : Expands answer outer inner)
    (placed : inner = earlier ++ entry :: later) :
    ∃ before call reply after first last rest, outer = before ++ ⟨call, reply⟩ :: after ∧
      (answer call).Ends (first ++ entry :: last) reply ∧ later = last ++ rest ∧
      Expands answer after rest := by
  induction h generalizing earlier with
  | nil => simp at placed
  | @cons call reply first inner outer answered others ih =>
    rcases append_eq_split placed with ⟨middle, _, hinner⟩ | ⟨last, rfl, rfl⟩
    · obtain ⟨before, call', reply', after, first', last, rest, rfl, hanswer, hlater, expanded⟩ :=
        ih hinner
      exact ⟨⟨call, reply⟩ :: before, call', reply', after, first', last, rest, rfl, hanswer, hlater,
        expanded⟩
    · exact ⟨[], call, reply, outer, earlier, last, inner, rfl, answered, rfl, others⟩

end RelayGateway
