import RelayGateway.Proofs.Balance.Cooling
import RelayGateway.Proofs.Gateway.Traffic

/-! # Rate limited channels

A channel that was rate limited rests, whoever asks for it and whatever happens meanwhile.

* `limited_step`: the next step of a run whose attempt was rate limited starts the cooldown.
* `until_step`, `until_run`: the cooldown goes on until its end, and no longer.
* `resting_not_selected`: a channel that is cooling for a key is not selected for it.
* `cooldown_suppresses`: all of this, for a gateway in traffic.
-/

set_option autoImplicit false

namespace RelayGateway

namespace Traffic

variable {traffic : Traffic} {id : ChannelId} {key : String} {stop : Instant}

/-! ## The cooldown in the course of time -/

theorem until_step (h : traffic.gateway.cooldowns.Until id key stop traffic.gateway.now)
    (happening : Happening)
    (early : traffic.cools? happening = some (id, key) → traffic.gateway.now < stop) :
    (traffic.step happening).gateway.cooldowns.Until id key stop
      (traffic.step happening).gateway.now := by
  have hnow := (step_now traffic happening).1
  rcases step_cooldowns traffic happening with hsame | hswept | ⟨other, model, hcools, hset⟩
  · rw [hsame]
    exact h.later hnow
  · rw [hswept]
    exact h.sweep.later hnow
  · rw [hset]
    refine CooldownTable.Until.later (h.set ?_) hnow
    rintro rfl rfl
    exact early hcools

theorem until_run (h : traffic.gateway.cooldowns.Until id key stop traffic.gateway.now)
    (happenings : List Happening)
    (early : ∀ sooner happening later, happenings = sooner ++ happening :: later →
      (traffic.run sooner).cools? happening = some (id, key) →
        (traffic.run sooner).gateway.now < stop) :
    (traffic.run happenings).gateway.cooldowns.Until id key stop
      (traffic.run happenings).gateway.now := by
  induction happenings generalizing traffic with
  | nil => exact h
  | cons first others ih =>
    apply ih (until_step h first (early [] first others rfl))
    intro sooner happening later hsplit
    exact early (first :: sooner) happening later (by rw [hsplit]; rfl)

/-- Whatever is recorded before the end is recorded in time. -/
theorem early_of_before {happenings : List Happening}
    (before : (traffic.run happenings).gateway.now < stop) {sooner later : List Happening}
    {happening : Happening} (split : happenings = sooner ++ happening :: later) :
    (traffic.run sooner).gateway.now < stop := by
  rw [split, run_append] at before
  exact Int.lt_of_le_of_lt (run_now _ _) before

/-! ## The start of a cooldown -/

/-- A run whose attempt was rate limited starts the cooldown in its next step. -/
theorem limited_step (orderly : traffic.Orderly) {run : Nat} {running : Running}
    (placed : traffic.runs[run]? = some running)
    (limited : rateLimited? running.past = some (id, key)) (outside : Outside) :
    key ≠ "" ∧ traffic.cools? (.relay run outside) = some (id, key) ∧
      (traffic.step (.relay run outside)).gateway =
        { traffic.gateway with
          cooldowns := (traffic.gateway.cooldowns.set id key traffic.gateway.now).2 } := by
  have habides := orderly.abides running (List.mem_of_getElem? placed)
  have howed := ledgerOf_limited limited
  obtain ⟨past', rest⟩ := running
  cases rest with
  | done value =>
    have hsettled : (ledgerOf past').owed = .nothing := habides
    rw [howed] at hsettled
    cases hsettled
  | ask call next =>
    have hallowed : (ledgerOf past').Allows call := habides.1
    rcases hallowed.pays with hnothing | ⟨_, _, hother⟩ | ⟨other, model, rfl, hcool, hne⟩
    · cases howed.symm.trans hnothing
    · exact absurd howed (hother id key)
    · cases howed.symm.trans hcool
      refine ⟨hne, by rw [cools?, placed], ?_⟩
      rw [step_relay placed]
      show { traffic.gateway with
        cooldowns := (traffic.gateway.cooldowns.set id key (traffic.gateway.now + 0)).2 } = _
      rw [Int.add_zero]

theorem step_duration (traffic : Traffic) (happening : Happening) :
    (traffic.step happening).gateway.cooldowns.duration = traffic.gateway.cooldowns.duration := by
  rcases step_cooldowns traffic happening with h | h | ⟨id, key, _, h⟩
  · rw [h]
  · rw [h]
    rfl
  · rw [h]
    exact CooldownTable.set_duration _ id key _

theorem run_duration (traffic : Traffic) (happenings : List Happening) :
    (traffic.run happenings).gateway.cooldowns.duration = traffic.gateway.cooldowns.duration := by
  refine run_keeps (fun later =>
    later.gateway.cooldowns.duration = traffic.gateway.cooldowns.duration) ?_ rfl happenings
  intro later happening h
  exact (step_duration later happening).trans h

end Traffic

/-! ## Selections -/

theorem Registry.isEligible_rested {registry : Registry} {conditions : Conditions} {key : String}
    {channel : Channel} (h : registry.isEligible conditions key channel = true) :
    conditions.cooldowns.isCooling channel.id key conditions.now = false := by
  simp only [Registry.isEligible, Bool.and_eq_true, Bool.not_eq_true'] at h
  exact h.1.2

/-- A name is resolved to the key for which the channel is then selected. -/
theorem Registry.select_eligible {registry : Registry} {conditions : Conditions}
    {group model : String} {draws : Draws} {channel : Channel}
    (h : registry.select conditions group model draws = .ok channel) :
    ∃ key, registry.matchedKey? group model = some key ∧
      registry.isEligible conditions key channel = true := by
  unfold Registry.select at h
  split at h
  · split at h
    · cases h
    · rename_i key hkey
      dsimp only at h
      split at h
      · rename_i picked hpicked
        cases h
        obtain ⟨tier, _, hmem⟩ := Registry.pickFromTiers_mem hpicked
        exact ⟨key, hkey, (Registry.mem_candidates.mp hmem).2⟩
      · cases h
  · cases h

/-- No selection for the key yields the channel, in whatever group and with whatever demands; nor does
one for a name that stands for the key. -/
structure Gateway.PassesOver (gateway : Gateway) (id : ChannelId) (key : String) : Prop where
  byKey : ∀ options excluded group draws chosen,
    gateway.registry.selectKey (gateway.conditions options excluded) group key draws = .ok chosen →
      chosen.id ≠ id
  byName : ∀ options excluded group model draws chosen,
    gateway.registry.matchedKey? group model = some key →
      gateway.registry.select (gateway.conditions options excluded) group model draws = .ok chosen →
        chosen.id ≠ id

theorem Gateway.passesOver_cooling {gateway : Gateway} {id : ChannelId} {key : String}
    (cooling : gateway.cooldowns.isCooling id key gateway.now = true) : gateway.PassesOver id key := by
  have rested : ∀ options excluded (chosen : Channel), gateway.registry.isEligible
      (gateway.conditions options excluded) key chosen = true → chosen.id ≠ id := by
    rintro options excluded chosen heligible rfl
    have hrested : gateway.cooldowns.isCooling chosen.id key gateway.now = false :=
      Registry.isEligible_rested heligible
    rw [cooling] at hrested
    cases hrested
  constructor
  · intro options excluded group draws chosen hselect
    exact rested options excluded chosen (Registry.selectKey_eligible hselect)
  · intro options excluded group model draws chosen hkey hselect
    obtain ⟨key', hkey', heligible⟩ := Registry.select_eligible hselect
    obtain rfl := Option.some.inj (hkey'.symm.trans hkey)
    exact rested options excluded chosen heligible

/-! ## The law of cooling -/

/-- A rate limit suppresses its channel. Whatever has happened to a gateway, if the attempt of a run
has just been rate limited and the pair of its channel and its key is not cooling, then the next step of
the run starts a cooldown. Whatever happens then, up to the end of the cooldown no selection for the key
yields the channel. The pair has stopped cooling at that end, however often the channel was rate limited
before it, unless it was so again since. -/
theorem cooldown_suppresses (origin : Gateway) (built : origin.registry.Built)
    (earlier later : List Happening) (run : Nat) (running : Running) (id : ChannelId) (key : String)
    (outside : Outside) :
    let before := (Traffic.start origin).run earlier
    let after := before.step (.relay run outside)
    let current := after.run later
    let stop := before.gateway.now + origin.cooldowns.duration
    before.runs[run]? = some running → rateLimited? running.past = some (id, key) →
    id ≠ 0 → 0 < origin.cooldowns.duration →
    before.gateway.cooldowns.isCooling id key before.gateway.now = false →
      (current.gateway.now < stop →
        current.gateway.cooldowns.isCooling id key current.gateway.now = true ∧
          current.gateway.PassesOver id key) ∧
        (stop ≤ current.gateway.now →
          (∀ sooner happening rest, later = sooner ++ happening :: rest →
            (after.run sooner).cools? happening = some (id, key) →
              (after.run sooner).gateway.now < stop) →
          current.gateway.cooldowns.isCooling id key current.gateway.now = false) := by
  intro before after current stop placed limited hid hduration rested
  have orderly : before.Orderly := (Traffic.Orderly.start built).run earlier
  obtain ⟨named, _, hafter⟩ := Traffic.limited_step orderly placed limited outside
  have hafter : after.gateway = { before.gateway with
      cooldowns := (before.gateway.cooldowns.set id key before.gateway.now).2 } := hafter
  have sameDuration : before.gateway.cooldowns.duration = origin.cooldowns.duration :=
    Traffic.run_duration (Traffic.start origin) earlier
  have accepted : before.gateway.cooldowns.accepts id key = true := by
    rw [CooldownTable.accepts, sameDuration]
    simp [hid, named, Nat.pos_iff_ne_zero.mp hduration]
  have started : after.gateway.cooldowns.Until id key stop after.gateway.now := by
    have huntil := CooldownTable.until_set accepted rested
    rw [sameDuration] at huntil
    rw [hafter]
    exact huntil
  constructor
  · intro hbefore
    have huntil : current.gateway.cooldowns.Until id key stop current.gateway.now :=
      Traffic.until_run started later fun sooner happening rest hsplit _ =>
        Traffic.early_of_before hbefore hsplit
    have cooling : current.gateway.cooldowns.isCooling id key current.gateway.now = true := by
      rw [huntil.isCooling, decide_eq_true hbefore]
    exact ⟨cooling, Gateway.passesOver_cooling cooling⟩
  · intro hover early
    have huntil : current.gateway.cooldowns.Until id key stop current.gateway.now :=
      Traffic.until_run started later early
    rw [huntil.isCooling, decide_eq_false (Int.not_lt.mpr hover)]

/-- Every upstream limits the rate. -/
def limiting : Outside where
  reserve charge := .ok ⟨charge, 1⟩
  dispatch _ _ _ := .error ⟨.upstream 429 "slow down" "", false⟩
  settle _ _ _ := .ok ()
  reverse _ := .ok ()
  elapsed := 0
  draws := []

/-- The first attempt of a run up to its reversal. -/
def firstLimited : List Happening :=
  .arrive sampleRequest :: List.replicate 7 (.relay 0 limiting)

theorem firstLimited_rests :
    let before := (Traffic.start sampleGateway).run firstLimited
    let after := before.step (.relay 0 limiting)
    (before.runs[0]?.bind fun running => rateLimited? running.past) = some (1, "m") ∧
      (after.run [.sweep, .pass 4999]).gateway.cooldowns.isCooling 1 "m" 4999 = true ∧
      (after.run [.sweep, .pass 4999]).gateway.PassesOver 1 "m" ∧
      (after.run [.pass 5000, .sweep]).gateway.cooldowns.isCooling 1 "m" 5000 = false := by
  intro before after
  have limited : (before.runs[0]?.bind fun running => rateLimited? running.past) = some (1, "m") := by
    decide +kernel
  obtain ⟨running, placed, hlimited⟩ := Option.bind_eq_some_iff.mp limited
  have built : sampleGateway.registry.Built := ⟨_, _, rfl⟩
  have rested : before.gateway.cooldowns.isCooling 1 "m" before.gateway.now = false := by
    decide +kernel
  have law := fun later => cooldown_suppresses sampleGateway built firstLimited later 0 running 1 "m"
    limiting placed hlimited (by decide) (by decide) rested
  obtain ⟨hrests, _⟩ := law [.sweep, .pass 4999]
  obtain ⟨_, hends⟩ := law [.pass 5000, .sweep]
  have hduring : (after.run [.sweep, .pass 4999]).gateway.now = 4999 := by decide +kernel
  have hlater : (after.run [.pass 5000, .sweep]).gateway.now = 5000 := by decide +kernel
  obtain ⟨hcooling, hpasses⟩ := hrests (by decide +kernel)
  refine ⟨limited, ?_, hpasses, ?_⟩
  · rw [← hduring]
    exact hcooling
  · rw [← hlater]
    apply hends (by decide +kernel)
    intro sooner happening rest hsplit hcools
    -- neither letting time pass nor sweeping starts a cooldown
    have hmem : happening ∈ [Happening.pass 5000, .sweep] := by
      rw [hsplit]
      simp
    simp only [List.mem_cons, List.not_mem_nil, or_false] at hmem
    rcases hmem with rfl | rfl <;> cases hcools

end RelayGateway
