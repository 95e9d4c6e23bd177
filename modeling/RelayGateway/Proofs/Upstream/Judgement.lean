import RelayGateway.Proofs.Text.Occurrence
import RelayGateway.Proofs.Text.Trimming
import RelayGateway.Upstream.Verdict

/-! # What the ordered rules come to

* `MayRetry`, `MustDisable`: when another channel may be tried, and when the channel is disabled, each as
  one condition without an order.
* `shouldRetry_iff`: the first rule that applies decides so.
* `shouldDisable_iff`: some rule applies exactly then.
* `Rewritten`: the keywords in another order, one of them once more, or with blanks around it.
* `verdicts_unordered`: both conditions, and that rewritten keywords disable the same channels.
-/

set_option autoImplicit false

namespace RelayGateway

variable {err : UpstreamError} {provider : Provider} {automatic : Bool} {keywords keywords' : List String}

/-! ## Retrying -/

/-- A bad request that is not the fault of the request: the vendor says that the credential is. -/
def BlamesCredential (err : UpstreamError) (provider : Provider) : Prop :=
  match provider with
  | .anthropic => "Your credit balance is too low".toList <:+: err.message.toList
  | .bedrock => "Operation not allowed".toList <:+: err.message.toList
  | .openai | .azure | .gemini | .mistral | .ollama | .vertexai | .other _ =>
    err.body.param = some "INVALID_ARGUMENT" ∧ "API key not valid".toList <:+: err.message.toList

/-- Another channel may be tried. -/
def MayRetry (err : UpstreamError) (provider : Provider) : Prop :=
  err.isLocal = false ∧
    (err.status = 429 ∨ err.status = 307 ∨
      (err.status ∉ ([408, 504, 524] : List UInt16) ∧ ¬ (200 ≤ err.status ∧ err.status ≤ 299) ∧
        (err.status = 400 → BlamesCredential err provider)))

namespace RetryRule

/-- The rules for a bad request of which the credential is to blame. -/
def ofVendors : List RetryRule := [.anthropicCreditBalance, .bedrockOperationNotAllowed, .invalidApiKeyArgument]

theorem ofVendors_any : (ofVendors.any fun rule => rule.applies err provider) = true ↔
    err.status = 400 ∧ BlamesCredential err provider := by
  cases provider <;>
    simp [ofVendors, applies, BlamesCredential, Text.contains_iff, and_assoc]

/-- Rules of one verdict that stand together decide as one. -/
theorem retries_find?_append (rules : List RetryRule) {rest : List RetryRule} {p : RetryRule → Bool}
    (verdict : Bool) (uniform : ∀ rule ∈ rules, rule.retries = verdict) :
    (((rules ++ rest).find? p).getD .otherwise).retries =
      if rules.any p then verdict else ((rest.find? p).getD .otherwise).retries := by
  rw [List.find?_append]
  cases hfound : rules.find? p with
  | none => rw [if_neg (by simpa using hfound), Option.none_or]
  | some rule =>
    have hmem := List.mem_of_find?_eq_some hfound
    rw [if_pos (List.any_eq_true.mpr ⟨rule, hmem, List.find?_some hfound⟩)]
    exact uniform rule hmem

end RetryRule

open RetryRule in
/-- The rules in their order, those of the vendors taken together. -/
theorem shouldRetry_eq (err : UpstreamError) (provider : Provider) : shouldRetry err provider =
    if err.isLocal then false
    else if err.status = 429 ∨ err.status = 307 then true
    else if err.status ∈ ([408, 504, 524] : List UInt16) then false
    else if ofVendors.any fun rule => rule.applies err provider then true
    else if err.status = 400 then false
    else if err.status / 100 = 5 then true
    else if err.status / 100 = 2 then false
    else true := by
  have horder : all = [.localError] ++ ([.rateLimitedOrRedirect] ++ ([.timeout] ++
    (ofVendors ++ ([.badRequest] ++ ([.serverError] ++ ([.successStatus] ++ [.otherwise])))))) := rfl
  unfold shouldRetry deciding
  rw [horder, retries_find?_append [.localError] false (by decide),
    retries_find?_append [.rateLimitedOrRedirect] true (by decide),
    retries_find?_append [.timeout] false (by decide), retries_find?_append ofVendors true (by decide),
    retries_find?_append [.badRequest] false (by decide),
    retries_find?_append [.serverError] true (by decide),
    retries_find?_append [.successStatus] false (by decide)]
  simp [applies, retries, or_assoc]

theorem shouldRetry_iff : shouldRetry err provider = true ↔ MayRetry err provider := by
  have hsuccess : err.status / 100 = 2 ↔ 200 ≤ err.status ∧ err.status ≤ 299 := by
    rw [← UInt16.toNat_inj, UInt16.le_iff_toNat_le, UInt16.le_iff_toNat_le, UInt16.toNat_div]
    show err.status.toNat / 100 = 2 ↔ 200 ≤ err.status.toNat ∧ err.status.toNat ≤ 299
    omega
  rw [shouldRetry_eq]
  -- in the order of the rules: each case is one verdict
  split
  · rename_i hown
    exact iff_of_false Bool.false_ne_true fun h => Bool.false_ne_true (h.1.symm.trans hown)
  rename_i hforeign
  have hforeign : err.isLocal = false := by simpa using hforeign
  split
  · rename_i hlimited
    exact iff_of_true rfl ⟨hforeign, hlimited.elim .inl fun h => .inr (.inl h)⟩
  rename_i hunlimited
  have hrest : MayRetry err provider ↔ err.status ∉ ([408, 504, 524] : List UInt16) ∧
      ¬ (200 ≤ err.status ∧ err.status ≤ 299) ∧ (err.status = 400 → BlamesCredential err provider) := by
    unfold MayRetry
    rw [and_iff_right hforeign, ← or_assoc, or_iff_right hunlimited]
  rw [hrest, ← hsuccess]
  split
  · rename_i htimeout
    exact iff_of_false Bool.false_ne_true fun h => h.1 htimeout
  rename_i hintime
  split
  · rename_i hvendor
    obtain ⟨hbad, hblames⟩ := RetryRule.ofVendors_any.mp hvendor
    refine iff_of_true rfl ⟨hintime, ?_, fun _ => hblames⟩
    rw [hbad]
    decide
  rename_i hvendor
  split
  · rename_i hbad
    exact iff_of_false Bool.false_ne_true fun h => hvendor (RetryRule.ofVendors_any.mpr ⟨hbad, h.2.2 hbad⟩)
  rename_i hwell
  split
  · rename_i hserver
    refine iff_of_true rfl ⟨hintime, ?_, fun hbad => absurd hbad hwell⟩
    rw [hserver]
    decide
  split
  · rename_i hok
    exact iff_of_false Bool.false_ne_true fun h => h.2.1 hok
  · rename_i hfailed
    exact iff_of_true rfl ⟨hintime, hfailed, fun hbad => absurd hbad hwell⟩

/-! ## Disabling -/

/-- What a keyword is compared as. -/
def keywordMeaning (keyword : String) : String := Text.toLower (Text.trim keyword)

/-- The channel is disabled. -/
def MustDisable (automatic : Bool) (keywords : List String) (err : UpstreamError)
    (provider : Provider) : Prop :=
  automatic = true ∧ err.isLocal = false ∧
    (err.status = 401 ∨ (err.status = 403 ∧ provider = .gemini) ∨
      (∃ code ∈ ["invalid_api_key", "account_deactivated", "billing_not_active"],
        err.body.code = some code) ∨
      err.body.kind ∈ ["insufficient_quota", "authentication_error", "permission_error", "forbidden"] ∨
      err.body.param = some "PERMISSIONDENIED" ∨
      ∃ keyword ∈ keywords, keywordMeaning keyword ≠ "" ∧
        (keywordMeaning keyword).toList <:+: (Text.toLower err.message).toList)

/-- Whichever rule applies first, the channel is disabled if one does. -/
theorem Classifier.shouldDisable_eq (classifier : Classifier) :
    classifier.shouldDisable err provider = true ↔
      classifier.automaticDisable = true ∧ err.isLocal = false ∧
        ∃ rule : DisableRule, rule.applies classifier.keywords err provider = true := by
  have hall : ∀ rule : DisableRule, rule ∈ DisableRule.all := by
    intro rule
    cases rule <;> decide
  unfold shouldDisable disableRule?
  cases classifier.automaticDisable with
  | false => simp
  | true =>
    cases err.isLocal with
    | true => simp
    | false => simp [List.find?_isSome, hall]

theorem Classifier.mem_ofKeywords {meaning : String} :
    meaning ∈ (ofKeywords automatic keywords).keywords ↔
      ∃ keyword ∈ keywords, keywordMeaning keyword = meaning ∧ meaning ≠ "" := by
  unfold ofKeywords
  rw [List.mem_filter, List.mem_map, bne_iff_ne]
  constructor
  · rintro ⟨⟨keyword, hkeyword, hmeaning⟩, hnonempty⟩
    exact ⟨keyword, hkeyword, hmeaning, hnonempty⟩
  · rintro ⟨keyword, hkeyword, hmeaning, hnonempty⟩
    exact ⟨⟨keyword, hkeyword, hmeaning⟩, hnonempty⟩

theorem mentions_iff {message : String} :
    DisableRule.mentions (Classifier.ofKeywords automatic keywords).keywords message = true ↔
      ∃ keyword ∈ keywords, keywordMeaning keyword ≠ "" ∧
        (keywordMeaning keyword).toList <:+: (Text.toLower message).toList := by
  unfold DisableRule.mentions
  rw [List.any_eq_true]
  constructor
  · rintro ⟨meaning, hmeaning, hfound⟩
    obtain ⟨keyword, hkeyword, rfl, hnonempty⟩ := Classifier.mem_ofKeywords.mp hmeaning
    exact ⟨keyword, hkeyword, hnonempty, Text.contains_iff.mp hfound⟩
  · rintro ⟨keyword, hkeyword, hnonempty, hfound⟩
    exact ⟨keywordMeaning keyword, Classifier.mem_ofKeywords.mpr ⟨keyword, hkeyword, rfl, hnonempty⟩,
      Text.contains_iff.mpr hfound⟩

theorem shouldDisable_iff : (Classifier.ofKeywords automatic keywords).shouldDisable err provider = true ↔
    MustDisable automatic keywords err provider := by
  have hcode : err.body.code.any DisableRule.credentialCodes.contains = true ↔
      ∃ code ∈ ["invalid_api_key", "account_deactivated", "billing_not_active"],
        err.body.code = some code := by
    cases err.body.code with
    | none => simp
    | some code => simp [DisableRule.credentialCodes]
  have hkind : DisableRule.credentialTypes.contains err.body.kind = true ↔
      err.body.kind ∈ ["insufficient_quota", "authentication_error", "permission_error", "forbidden"] :=
    List.contains_iff_mem
  rw [Classifier.shouldDisable_eq]
  unfold MustDisable
  refine and_congr_right fun _ => and_congr_right fun _ => ?_
  constructor
  · rintro ⟨rule, happlies⟩
    cases rule with
    | unauthorized => exact .inl (beq_iff_eq.mp happlies)
    | geminiForbidden =>
      obtain ⟨hstatus, hgemini⟩ := Bool.and_eq_true_iff.mp happlies
      exact .inr (.inl ⟨beq_iff_eq.mp hstatus, beq_iff_eq.mp hgemini⟩)
    | credentialCode => exact .inr (.inr (.inl (hcode.mp happlies)))
    | credentialType => exact .inr (.inr (.inr (.inl (hkind.mp happlies))))
    | permissionDeniedParam => exact .inr (.inr (.inr (.inr (.inl (beq_iff_eq.mp happlies)))))
    | keyword => exact .inr (.inr (.inr (.inr (.inr (mentions_iff.mp happlies)))))
  · rintro (hstatus | ⟨hstatus, hgemini⟩ | hnamed | htyped | hparam | hmentioned)
    · exact ⟨.unauthorized, beq_iff_eq.mpr hstatus⟩
    · exact ⟨.geminiForbidden, Bool.and_eq_true_iff.mpr ⟨beq_iff_eq.mpr hstatus, beq_iff_eq.mpr hgemini⟩⟩
    · exact ⟨.credentialCode, hcode.mpr hnamed⟩
    · exact ⟨.credentialType, hkind.mpr htyped⟩
    · exact ⟨.permissionDeniedParam, beq_iff_eq.mpr hparam⟩
    · exact ⟨.keyword, mentions_iff.mpr hmentioned⟩

/-! ## Keywords written in another way -/

/-- The keywords in another order, one of them once more, or one with blanks around it. -/
inductive Rewritten : List String → List String → Prop where
  | permuted {keywords keywords' : List String} (same : keywords.Perm keywords') :
      Rewritten keywords keywords'
  | repeated {keyword : String} {keywords : List String} (known : keyword ∈ keywords) :
      Rewritten keywords (keyword :: keywords)
  | padded {keyword padded : String} (blanks : Text.Pads keyword padded) (keywords : List String) :
      Rewritten (keyword :: keywords) (padded :: keywords)

theorem Rewritten.meanings (h : Rewritten keywords keywords') (meaning : String) :
    meaning ∈ keywords'.map keywordMeaning ↔ meaning ∈ keywords.map keywordMeaning := by
  cases h with
  | permuted same => exact (same.map keywordMeaning).mem_iff.symm
  | repeated known =>
    rw [List.map_cons, List.mem_cons, or_iff_right_iff_imp]
    rintro rfl
    exact List.mem_map_of_mem known
  | padded blanks keywords =>
    rw [List.map_cons, List.map_cons, keywordMeaning, Text.trim_pads blanks]
    rfl

theorem Rewritten.shouldDisable (h : Rewritten keywords keywords') :
    (Classifier.ofKeywords automatic keywords').shouldDisable err provider =
      (Classifier.ofKeywords automatic keywords).shouldDisable err provider := by
  have hmentions : (∃ keyword ∈ keywords', keywordMeaning keyword ≠ "" ∧
      (keywordMeaning keyword).toList <:+: (Text.toLower err.message).toList) ↔
      ∃ keyword ∈ keywords, keywordMeaning keyword ≠ "" ∧
        (keywordMeaning keyword).toList <:+: (Text.toLower err.message).toList := by
    have hby : ∀ keywords : List String, (∃ keyword ∈ keywords, keywordMeaning keyword ≠ "" ∧
        (keywordMeaning keyword).toList <:+: (Text.toLower err.message).toList) ↔
        ∃ meaning ∈ keywords.map keywordMeaning, meaning ≠ "" ∧
          meaning.toList <:+: (Text.toLower err.message).toList :=
      fun keywords => by simp only [List.mem_map, exists_exists_and_eq_and]
    rw [hby, hby]
    exact exists_congr fun meaning => and_congr_left fun _ => h.meanings meaning
  rw [Bool.eq_iff_iff, shouldDisable_iff, shouldDisable_iff, MustDisable, MustDisable, hmentions]

/-- The rules come to conditions without an order: another channel may be tried after an error exactly if
`MayRetry` holds of it, and its channel is disabled exactly if `MustDisable` does. Keywords disable the same
channels in any order, however often each is repeated, and with any blanks around it. -/
theorem verdicts_unordered (err : UpstreamError) (provider : Provider) (automatic : Bool)
    (keywords : List String) :
    (shouldRetry err provider = true ↔ MayRetry err provider) ∧
      ((Classifier.ofKeywords automatic keywords).shouldDisable err provider = true ↔
        MustDisable automatic keywords err provider) ∧
      ∀ keywords', Rewritten keywords keywords' →
        (Classifier.ofKeywords automatic keywords').shouldDisable err provider =
          (Classifier.ofKeywords automatic keywords).shouldDisable err provider :=
  ⟨shouldRetry_iff, shouldDisable_iff, fun _ h => h.shouldDisable⟩

/-- A rate limit that mentions a keyword is retried, and disables its channel whatever blanks stand around
the keyword. The timeout of an upstream is not retried, although it is a server error as well. -/
theorem paddedKeyword_disables :
    let err := UpstreamError.upstream 429 "you exceeded your CURRENT QUOTA" "requests"
    Text.Pads "Current quota" "  Current quota\n" ∧ shouldRetry err .openai = true ∧
      shouldRetry (.upstream 504 "gateway timeout" "server_error") .openai = false ∧
      (Classifier.ofKeywords true ["  Current quota\n", "balance"]).shouldDisable err .openai = true := by
  intro err
  have blanks : Text.Pads "Current quota" "  Current quota\n" :=
    ⟨[' ', ' '], ['\n'], by simp [Text.isBlank], by simp [Text.isBlank], rfl⟩
  obtain ⟨hretry, hdisable, hsame⟩ := verdicts_unordered err .openai true ["Current quota", "balance"]
  obtain ⟨htimeout, _, _⟩ :=
    verdicts_unordered (.upstream 504 "gateway timeout" "server_error") .openai true []
  refine ⟨blanks, hretry.mpr ⟨rfl, .inl rfl⟩, ?_, ?_⟩
  · rw [Bool.eq_false_iff]
    intro hretries
    rcases (htimeout.mp hretries).2 with hlimited | hredirected | ⟨hintime, _⟩
    · exact absurd hlimited (by decide)
    · exact absurd hredirected (by decide)
    · exact absurd hintime (by decide)
  · rw [hsame _ (.padded blanks ["balance"]), hdisable]
    have hfound : (keywordMeaning "Current quota").toList <:+: (Text.toLower err.message).toList := by
      decide
    exact ⟨rfl, rfl, .inr (.inr (.inr (.inr (.inr ⟨_, List.mem_cons_self, by decide, hfound⟩))))⟩

end RelayGateway
