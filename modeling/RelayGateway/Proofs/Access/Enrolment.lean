import Mathlib.Data.List.Induction
import RelayGateway.Proofs.Store.Fetches
import RelayGateway.Relay.Run

/-! # Groups after their fetches

* `enrolled?`: the group that a symbol stands for in a fetch. Of enabled groups with one symbol the last
  one counts.
* `GroupTable.loaded`: the table after fetches. It shows the last successful one (`group?_loaded`).
* `Admitted`: the demands on a group that a user wants to use; `authorize_eq_ok` says that they are all.
-/

set_option autoImplicit false

namespace RelayGateway

def enrolled? (fetched : List UserGroup) (symbol : String) : Option UserGroup :=
  (fetched.filter fun group => group.enabled && group.symbol == symbol).getLast?

namespace GroupTable

/-- Groups with another symbol are found as before, whether some are replaced or not. -/
theorem find?_replaced_ne (groups : List UserGroup) {group : UserGroup} {symbol : String}
    (hne : group.symbol ≠ symbol) :
    (groups.map fun g => if g.symbol = group.symbol then group else g).find?
        (fun other => other.symbol == symbol) =
      groups.find? fun other => other.symbol == symbol := by
  induction groups with
  | nil => rfl
  | cons first others ih =>
    rw [List.map_cons, List.find?_cons, List.find?_cons, ih]
    by_cases hfirst : first.symbol = group.symbol
    · have hfirst' : first.symbol ≠ symbol := fun h => hne (hfirst.symm.trans h)
      rw [if_pos hfirst, beq_eq_false_iff_ne.mpr hne, beq_eq_false_iff_ne.mpr hfirst']
    · rw [if_neg hfirst]

theorem find?_replaced_self {groups : List UserGroup} {group : UserGroup}
    (known : groups.any (fun g => g.symbol == group.symbol) = true) :
    (groups.map fun g => if g.symbol = group.symbol then group else g).find?
        (fun other => other.symbol == group.symbol) = some group := by
  induction groups with
  | nil => cases known
  | cons first others ih =>
    rw [List.map_cons, List.find?_cons]
    by_cases hfirst : first.symbol = group.symbol
    · rw [if_pos hfirst, beq_self_eq_true]
    · rw [if_neg hfirst, beq_eq_false_iff_ne.mpr hfirst]
      exact ih (by simpa [hfirst] using known)

theorem find?_put (groups : List UserGroup) (group : UserGroup) (symbol : String) :
    (put groups group).find? (fun other => other.symbol == symbol) =
      if group.symbol = symbol then some group
      else groups.find? fun other => other.symbol == symbol := by
  unfold put
  by_cases hsymbol : group.symbol = symbol
  · subst hsymbol
    rw [if_pos rfl]
    split
    · rename_i hknown
      exact find?_replaced_self hknown
    · rename_i hnew
      have hnone : groups.find? (fun other => other.symbol == group.symbol) = none := by
        rw [List.find?_eq_none]
        intro other hother hsame
        exact hnew (List.any_eq_true.mpr ⟨other, hother, hsame⟩)
      simp [hnone]
  · rw [if_neg hsymbol]
    split
    · exact find?_replaced_ne groups hsymbol
    · simp [hsymbol]

theorem find?_foldl_put (added groups : List UserGroup) (symbol : String) :
    (added.foldl put groups).find? (fun other => other.symbol == symbol) =
      ((added.filter fun other => other.symbol == symbol).getLast?).or
        (groups.find? fun other => other.symbol == symbol) := by
  induction added using List.reverseRecOn with
  | nil => simp
  | append_singleton added group ih =>
    rw [List.foldl_append, List.filter_append, List.getLast?_append]
    show (put (added.foldl put groups) group).find? _ = _
    rw [find?_put, ih]
    by_cases hsymbol : group.symbol = symbol
    · simp [hsymbol]
    · simp [hsymbol]

theorem group?_ofGroups (fetched : List UserGroup) (symbol : String) :
    (ofGroups fetched).group? symbol = enrolled? fetched symbol := by
  unfold group? ofGroups enrolled?
  dsimp only
  rw [find?_foldl_put, List.filter_filter, List.find?_nil, Option.or_none]
  congr 2
  funext group
  exact Bool.and_comm _ _

def loaded (fetches : List (Except ServiceError (List UserGroup))) : GroupTable :=
  fetches.foldl (fun table fetched => (table.load fetched).2) .empty

theorem loaded_eq (fetches : List (Except ServiceError (List UserGroup))) :
    loaded fetches = ofGroups (lastFetched fetches) := by
  induction fetches using List.reverseRecOn with
  | nil => rfl
  | append_singleton fetches fetched ih =>
    have hstep : loaded (fetches ++ [fetched]) = ((loaded fetches).load fetched).2 := by
      unfold loaded
      rw [List.foldl_append]
      rfl
    rw [hstep]
    cases fetched with
    | ok groups =>
      rw [lastFetched_ok]
      rfl
    | error err =>
      rw [lastFetched_error, ← ih]
      rfl

theorem group?_loaded (fetches : List (Except ServiceError (List UserGroup))) (symbol : String) :
    (loaded fetches).group? symbol = enrolled? (lastFetched fetches) symbol := by
  rw [loaded_eq, group?_ofGroups]

end GroupTable

/-- A user may use a group: a fetch has it enabled, and it is the user's own or public. -/
structure Admitted (fetched : List UserGroup) (userGroup symbol : String) (group : UserGroup) :
    Prop where
  enrolled : enrolled? fetched symbol = some group
  allowed : symbol = userGroup ∨ group.isPublic = true

/-- The leave is given exactly for an admitted group, which is then routed and billed. -/
theorem GroupTable.authorize_eq_ok {fetches : List (Except ServiceError (List UserGroup))}
    {userGroup tokenGroup : String} {grant : GroupGrant} :
    (loaded fetches).authorize userGroup tokenGroup = .ok grant ↔
      ∃ group, Admitted (lastFetched fetches) userGroup (effectiveGroup userGroup tokenGroup) group ∧
        grant = ⟨userGroup, effectiveGroup userGroup tokenGroup, group.ratio⟩ := by
  have hgroup := group?_loaded fetches (effectiveGroup userGroup tokenGroup)
  unfold authorize
  dsimp only
  rw [hgroup]
  cases henrolled : enrolled? (lastFetched fetches) (effectiveGroup userGroup tokenGroup) with
  | none =>
    constructor
    · intro h
      cases h
    · rintro ⟨group, hadmitted, _⟩
      cases henrolled.symm.trans hadmitted.enrolled
  | some group =>
    dsimp only
    split
    · rename_i hforeign
      constructor
      · intro h
        cases h
      · rintro ⟨other, hadmitted, _⟩
        cases henrolled.symm.trans hadmitted.enrolled
        rcases hadmitted.allowed with hown | hpublic
        · exact absurd hown hforeign.1
        · simp [hpublic] at hforeign
    · rename_i hallowed
      have hallowed : effectiveGroup userGroup tokenGroup = userGroup ∨ group.isPublic = true := by
        rcases Bool.eq_false_or_eq_true group.isPublic with hpublic | hclosed
        · exact .inr hpublic
        · refine .inl (Decidable.byContradiction fun hforeign => hallowed ⟨hforeign, ?_⟩)
          rw [hclosed]
          rfl
      constructor
      · intro h
        exact ⟨group, ⟨henrolled, hallowed⟩, (Except.ok.inj h).symm⟩
      · rintro ⟨other, hadmitted, rfl⟩
        cases henrolled.symm.trans hadmitted.enrolled
        rfl

end RelayGateway
