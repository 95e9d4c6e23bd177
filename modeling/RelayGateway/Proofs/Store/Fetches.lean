import RelayGateway.ServiceError

/-! # The last successful fetch

* `lastFetched`: what the last successful one of some fetches gave; the failed ones after it do not count.
-/

set_option autoImplicit false

namespace RelayGateway

variable {α : Type}

/-- What the last successful fetch gave, and nothing before there was one. -/
def lastFetched (fetches : List (Except ServiceError (List α))) : List α :=
  (fetches.filterMap Except.toOption).getLast?.getD []

theorem lastFetched_ok (fetches : List (Except ServiceError (List α))) (fetched : List α) :
    lastFetched (fetches ++ [.ok fetched]) = fetched := by
  unfold lastFetched
  rw [List.filterMap_append]
  simp [Except.toOption]

theorem lastFetched_error (fetches : List (Except ServiceError (List α))) (err : ServiceError) :
    lastFetched (fetches ++ [.error err]) = lastFetched fetches := by
  unfold lastFetched
  rw [List.filterMap_append]
  simp [Except.toOption]

theorem lastFetched_mem (fetches : List (Except ServiceError (List α))) :
    lastFetched fetches = [] ∨ .ok (lastFetched fetches) ∈ fetches := by
  unfold lastFetched
  cases hlast : (fetches.filterMap Except.toOption).getLast? with
  | none => exact .inl rfl
  | some fetched =>
    have hmem := List.mem_of_getLast? hlast
    rw [List.mem_filterMap] at hmem
    obtain ⟨reply, hreply, hok⟩ := hmem
    cases reply with
    | error err => cases hok
    | ok other =>
      cases hok
      exact .inr hreply

end RelayGateway
