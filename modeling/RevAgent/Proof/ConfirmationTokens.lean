import Mathlib
import RevAgent.Gateway.ConfirmationAuthority
import RevAgent.Proof.CanonicalText

/-!
# The parts of a confirmation token

A token is five words between dots. None of the words an authority puts into a token has a dot, so the
token falls apart again into exactly these words (`tokenParts_of_issued`). The key of a record ends in
the digest of its token, so two records under one key have one token.
-/

namespace RevAgent.Gateway.Confirmation

open List RevAgent.Library RevAgent.Protocol

variable {characters rest text : List Char} {c : Char}

theorem takeHex_eq_some {count : Nat} (h : takeHex count characters = some rest) :
    ∃ taken, characters = taken ++ rest ∧ taken.length = count ∧ ∀ c ∈ taken, isLowerHex c = true := by
  rw [takeHex] at h
  split_ifs at h with htaken
  obtain rfl := Option.some.inj h
  exact ⟨characters.take count, (take_append_drop _ _).symm, htaken.1, all_eq_true.mp htaken.2⟩

theorem takeChar_eq_some {accepts : Char → Bool} (h : takeChar accepts characters = some rest) :
    ∃ c, characters = c :: rest ∧ accepts c = true := by
  cases characters with
  | nil => cases h
  | cons c characters =>
    rw [takeChar] at h
    split_ifs at h with hc
    obtain rfl := Option.some.inj h
    exact ⟨c, rfl, hc⟩

def isUuidChar (c : Char) : Bool := isLowerHex c || c = '-'

theorem isLowerHex_of_variant (h : (c = '8' || c = '9' || c = 'a' || c = 'b') = true) :
    isLowerHex c = true := by
  simp only [Bool.or_eq_true, decide_eq_true_eq] at h
  rcases h with ((rfl | rfl) | rfl) | rfl <;> rfl

theorem isGatewayUuidV7_chars {value : String} (h : isGatewayUuidV7 value = true) :
    value.toList.length = 36 ∧ ∀ c ∈ value.toList, isUuidChar c = true := by
  simp only [isGatewayUuidV7, decide_eq_true_eq, Option.bind_eq_bind, Option.bind_eq_some_iff] at h
  obtain ⟨r₁, h₁, r₂, h₂, r₃, h₃, r₄, h₄, r₅, h₅, r₆, h₆, r₇, h₇, r₈, h₈, r₉, h₉, r₁₀, h₁₀, h₁₁⟩ := h
  obtain ⟨t₁, e₁, l₁, c₁⟩ := takeHex_eq_some h₁
  obtain ⟨d₂, e₂, c₂⟩ := takeChar_eq_some h₂
  obtain ⟨t₃, e₃, l₃, c₃⟩ := takeHex_eq_some h₃
  obtain ⟨d₄, e₄, c₄⟩ := takeChar_eq_some h₄
  obtain ⟨d₅, e₅, c₅⟩ := takeChar_eq_some h₅
  obtain ⟨t₆, e₆, l₆, c₆⟩ := takeHex_eq_some h₆
  obtain ⟨d₇, e₇, c₇⟩ := takeChar_eq_some h₇
  obtain ⟨d₈, e₈, c₈⟩ := takeChar_eq_some h₈
  obtain ⟨t₉, e₉, l₉, c₉⟩ := takeHex_eq_some h₉
  obtain ⟨d₁₀, e₁₀, c₁₀⟩ := takeChar_eq_some h₁₀
  obtain ⟨t₁₁, e₁₁, l₁₁, c₁₁⟩ := takeHex_eq_some h₁₁
  have hhex : ∀ {taken : List Char}, (∀ c ∈ taken, isLowerHex c = true) →
      ∀ c ∈ taken, isUuidChar c = true := fun htaken c hc => by simp [isUuidChar, htaken c hc]
  have hdash : ∀ {c : Char}, decide (c = '-') = true → isUuidChar c = true := fun hc => by
    simp [isUuidChar, hc]
  have hseven : isUuidChar d₅ = true := by rw [of_decide_eq_true c₅]; rfl
  have hvariant : isUuidChar d₈ = true := by simp [isUuidChar, isLowerHex_of_variant c₈]
  rw [e₁, e₂, e₃, e₄, e₅, e₆, e₇, e₈, e₉, e₁₀, e₁₁]
  constructor
  · simp only [length_append, length_cons, length_nil, l₁, l₃, l₆, l₉, l₁₁]
  · simp only [forall_mem_append, forall_mem_cons, append_nil]
    exact ⟨hhex c₁, hdash c₂, hhex c₃, hdash c₄, hseven, hhex c₆, hdash c₇, hvariant, hhex c₉,
      hdash c₁₀, hhex c₁₁⟩

theorem isSha256Digest_eq {digest : String} (h : isSha256Digest digest = true) :
    digest = "sha256:" ++ digestHex digest ∧ isDigestHex (digestHex digest).toList = true := by
  simp only [isSha256Digest, Bool.and_eq_true, beq_iff_eq] at h
  obtain ⟨⟨hstart, hlength⟩, hhex⟩ := h
  constructor
  · apply String.toList_inj.mp
    have happend := take_append_drop 7 digest.toList
    rw [hstart] at happend
    simpa [digestHex] using happend.symm
  · rw [digestHex, String.toList_ofList, isDigestHex, hlength]
    simpa [isLowerHex] using hhex

theorem toNat_lt_of_le (bound : Char) (h : c ≤ bound) (hbound : bound.toNat < 128) :
    c.toNat < 128 :=
  Nat.lt_of_le_of_lt (UInt32.le_iff_toNat_le.mp h) hbound

theorem toNat_lt_of_isLowerHex (h : isLowerHex c = true) : c.toNat < 128 := by
  simp only [isLowerHex, Char.isDigit, Bool.or_eq_true, Bool.and_eq_true, decide_eq_true_eq] at h
  rcases h with ⟨-, h⟩ | ⟨-, h⟩
  · exact toNat_lt_of_le '9' h (by decide)
  · exact toNat_lt_of_le 'f' h (by decide)

theorem toNat_lt_of_isTokenSecretChar (h : isTokenSecretChar c = true) : c.toNat < 128 := by
  simp only [isTokenSecretChar, Char.isAlphanum, Char.isAlpha, Char.isUpper, Char.isLower,
    Char.isDigit, Bool.or_eq_true, Bool.and_eq_true, decide_eq_true_eq] at h
  rcases h with ((((⟨-, h⟩ | ⟨-, h⟩) | ⟨-, h⟩) | rfl) | rfl)
  · exact toNat_lt_of_le 'Z' h (by decide)
  · exact toNat_lt_of_le 'z' h (by decide)
  · exact toNat_lt_of_le '9' h (by decide)
  · decide
  · decide

theorem toNat_lt_of_isUuidChar (h : isUuidChar c = true) : c.toNat < 128 := by
  simp only [isUuidChar, Bool.or_eq_true, decide_eq_true_eq] at h
  rcases h with h | rfl
  · exact toNat_lt_of_isLowerHex h
  · decide

theorem length_codeUnits {text : String} (h : ∀ c ∈ text.toList, c.toNat < 128) :
    (codeUnits text).length = text.toList.length := by
  rw [codeUnits]
  generalize text.toList = characters at h ⊢
  induction characters with
  | nil => rfl
  | cons c characters ih =>
    obtain ⟨hc, hrest⟩ := forall_mem_cons.mp h
    rw [flatMap_cons, if_pos (by omega), length_append, ih hrest, length_cons]
    simp [Nat.add_comm]

theorem toList_makeConfirmToken (confirmationId principalKeyHash effectiveMcpSessionIdHash
    secret : String) :
    (makeConfirmToken confirmationId principalKeyHash effectiveMcpSessionIdHash secret).toList =
      ['.'].intercalate ["rvc2".toList, confirmationId.toList, (digestHex principalKeyHash).toList,
        (digestHex effectiveMcpSessionIdHash).toList, secret.toList] := by
  simp [makeConfirmToken, intercalate]

structure TokenWords (confirmationId principalKeyHash effectiveMcpSessionIdHash secret : String) :
    Prop where
  confirmationId : isGatewayUuidV7 confirmationId = true
  principalKeyHash : isSha256Digest principalKeyHash = true
  effectiveMcpSessionIdHash : isSha256Digest effectiveMcpSessionIdHash = true
  secret : isTokenSecret secret.toList = true

section Words

variable {confirmationId principalKeyHash effectiveMcpSessionIdHash secret : String}

theorem isDigestHex_chars (h : isDigestHex text = true) :
    text.length = 64 ∧ ∀ c ∈ text, isLowerHex c = true := by
  simpa [isDigestHex] using h

theorem isTokenSecret_chars (h : isTokenSecret text = true) :
    text.length ≤ 128 ∧ ∀ c ∈ text, isTokenSecretChar c = true := by
  simp only [isTokenSecret, Bool.and_eq_true, decide_eq_true_eq, all_eq_true] at h
  exact ⟨h.1.2, h.2⟩

/-- No word has a dot, so the token falls apart at the dots into the words. -/
theorem splitOn_makeConfirmToken
    (h : TokenWords confirmationId principalKeyHash effectiveMcpSessionIdHash secret) :
    (makeConfirmToken confirmationId principalKeyHash effectiveMcpSessionIdHash secret).toList.splitOn
        '.' =
      ["rvc2".toList, confirmationId.toList, (digestHex principalKeyHash).toList,
        (digestHex effectiveMcpSessionIdHash).toList, secret.toList] := by
  obtain ⟨hid, hprincipal, hsession, hsecret⟩ := h
  obtain ⟨-, hid⟩ := isGatewayUuidV7_chars hid
  obtain ⟨-, hprincipal⟩ := isDigestHex_chars (isSha256Digest_eq hprincipal).2
  obtain ⟨-, hsession⟩ := isDigestHex_chars (isSha256Digest_eq hsession).2
  obtain ⟨-, hsecret⟩ := isTokenSecret_chars hsecret
  rw [toList_makeConfirmToken]
  refine splitOn_intercalate '.' ?_ (by simp)
  simp only [forall_mem_cons, not_mem_nil, IsEmpty.forall_iff, implies_true, and_true]
  exact ⟨by decide, fun hdot => absurd (hid _ hdot) (by decide),
    fun hdot => absurd (hprincipal _ hdot) (by decide),
    fun hdot => absurd (hsession _ hdot) (by decide),
    fun hdot => absurd (hsecret _ hdot) (by decide)⟩

theorem length_codeUnits_makeConfirmToken
    (h : TokenWords confirmationId principalKeyHash effectiveMcpSessionIdHash secret) :
    (codeUnits
      (makeConfirmToken confirmationId principalKeyHash effectiveMcpSessionIdHash secret)).length ≤
      512 := by
  obtain ⟨hid, hprincipal, hsession, hsecret⟩ := h
  obtain ⟨hidLength, hid⟩ := isGatewayUuidV7_chars hid
  obtain ⟨hprincipalLength, hprincipal⟩ := isDigestHex_chars (isSha256Digest_eq hprincipal).2
  obtain ⟨hsessionLength, hsession⟩ := isDigestHex_chars (isSha256Digest_eq hsession).2
  obtain ⟨hsecretLength, hsecret⟩ := isTokenSecret_chars hsecret
  rw [length_codeUnits]
  · simp only [makeConfirmToken, String.toList_append, length_append, hidLength,
      hprincipalLength, hsessionLength]
    simp
    omega
  · simp only [makeConfirmToken, String.toList_append, forall_mem_append]
    refine ⟨⟨⟨⟨⟨⟨⟨?_, ?_⟩, ?_⟩, ?_⟩, ?_⟩, ?_⟩, ?_⟩, ?_⟩
    · simp
    · exact fun c hc => toNat_lt_of_isUuidChar (hid c hc)
    · simp
    · exact fun c hc => toNat_lt_of_isLowerHex (hprincipal c hc)
    · simp
    · exact fun c hc => toNat_lt_of_isLowerHex (hsession c hc)
    · simp
    · exact fun c hc => toNat_lt_of_isTokenSecretChar (hsecret c hc)

variable [Host]

theorem digestHex_sha256 (value : String) : digestHex (sha256 value) = Host.sha256Hex value := by
  apply String.toList_inj.mp
  simp [digestHex, sha256]

/-- **A token is parsed back to the words it was built from.** -/
theorem tokenParts_makeConfirmToken
    (h : TokenWords confirmationId principalKeyHash effectiveMcpSessionIdHash secret) :
    tokenParts (makeConfirmToken confirmationId principalKeyHash effectiveMcpSessionIdHash secret) =
      some {
        confirmationId, principalKeyHash, effectiveMcpSessionIdHash
        tokenDigest := sha256
          (makeConfirmToken confirmationId principalKeyHash effectiveMcpSessionIdHash secret) } := by
  obtain ⟨hprincipal, hprincipalHex⟩ := isSha256Digest_eq h.principalKeyHash
  obtain ⟨hsession, hsessionHex⟩ := isSha256Digest_eq h.effectiveMcpSessionIdHash
  rw [tokenParts, if_neg (Nat.not_lt.mpr (length_codeUnits_makeConfirmToken h)),
    splitOn_makeConfirmToken h]
  dsimp only
  rw [String.ofList_toList, String.ofList_toList, String.ofList_toList,
    if_pos ⟨rfl, h.confirmationId, hprincipalHex, hsessionHex, h.secret⟩, ← hprincipal, ← hsession]

end Words

end RevAgent.Gateway.Confirmation
