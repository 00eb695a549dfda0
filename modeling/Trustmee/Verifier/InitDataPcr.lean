import Trustmee.Verifier.Vtpm

/-!
# The init data in a PCR

The verifiers of TPM quotes check the init data hash against PCR 8, and put that PCR into the
claims. The hash is copied into the second half of a buffer of 64 bytes, and the PCR is taken by its
index; neither length is checked first. `pcrChecked_iff` says where the check is total and exact.
-/

namespace Trustmee

namespace Tpm

variable (T : Vtpm)

/-- `parse_tee_evidence`, by itself. -/
def teeEvidenceClaims (quote : T.Quote) : Outcome Json := do
  let pcr ← Vtpm.initDataPcr (T.pcrsSha256 quote)
  return .object (Json.Map.ofList
    [("init_data", .string (hexEncode pcr)),
     ("report_data", .string (hexEncode (nonceOrDefault T quote)))])

/-- `extend_claim`, by itself. -/
def extendClaim (claim : Json) (quote : T.Quote) : Outcome Json :=
  match claim with
  | .object map => .ok (.object (Json.Map.extend map (Vtpm.pcrClaims (T.pcrsSha256 quote))))
  | _ => .bail "failed to extend the claim, not an object"

theorem returns_extendClaim (claim : Json) (quote : T.Quote) :
    (extendClaim T claim quote).Returns := by
  cases claim with
  | object map => exact Outcome.returns_ok _
  | _ => exact Outcome.returns_bail _

end Tpm

namespace Vtpm

variable {T : Vtpm} {pcrs : List Bytes} {hash : Bytes} {msg : String}

theorem initDataPcr_eq_ok {pcr : Bytes} :
    initDataPcr pcrs = .ok pcr ↔ pcrs[INITDATA_PCR]? = some pcr := by
  unfold initDataPcr
  cases pcrs[INITDATA_PCR]? with
  | some pcr' => simp
  | none => exact iff_of_false (fun h => nomatch h) nofun

/-- The PCR is taken without a panic where there are nine of them. -/
theorem returns_initDataPcr_iff : (initDataPcr pcrs).Returns ↔ 8 < pcrs.length := by
  constructor
  · intro h
    by_contra hlength
    have hnone : pcrs[INITDATA_PCR]? = none := List.getElem?_eq_none (Nat.le_of_not_lt hlength)
    rw [initDataPcr, hnone] at h
    exact h _ rfl
  · intro hlength
    have hsome : pcrs[INITDATA_PCR]? = some pcrs[8] := List.getElem?_eq_getElem hlength
    rw [initDataPcr, hsome]
    exact Outcome.returns_ok _

/-- The hash is copied without a panic where it has 32 bytes. -/
theorem returns_extendedPcr_iff : (T.extendedPcr hash).Returns ↔ hash.length = 32 := by
  unfold extendedPcr
  split
  · next h => exact iff_of_true (Outcome.returns_ok _) h
  · next h => exact iff_of_false (fun hreturns => hreturns _ rfl) h

variable (T pcrs) in
/-- The hash can be copied, where there is one, and the PCR can be taken. -/
def Checkable (expected : InitDataHash) : Prop :=
  8 < pcrs.length ∧ ∀ hash, expected = .value hash → hash.length = 32

theorem returns_checkInitData_iff {expected : InitDataHash} :
    (T.checkInitData msg pcrs expected).Returns ↔
      ∀ hash, expected = .value hash → hash.length = 32 ∧ 8 < pcrs.length := by
  cases expected with
  | notProvided => exact iff_of_true (Outcome.returns_ok _) nofun
  | value hash =>
    rw [checkInitData]
    constructor
    · rintro h _ ⟨⟩
      obtain ⟨hextend, hrest⟩ := Outcome.returns_bind_iff.1 h
      have hlength := returns_extendedPcr_iff.1 hextend
      have hpcr := hrest _ (if_pos hlength)
      exact ⟨hlength, returns_initDataPcr_iff.1 (Outcome.returns_bind_iff.1 hpcr).1⟩
    · intro h
      obtain ⟨hlength, hpcr⟩ := h hash rfl
      apply (returns_extendedPcr_iff.2 hlength).bind
      intro digest _
      apply (returns_initDataPcr_iff.2 hpcr).bind
      intro pcr _
      exact Outcome.returns_ensure _ _

/-- The PCR holds what the hash, brought to 32 bytes, extends it to. -/
def PcrHolds (T : Vtpm) (pcrs : List Bytes) (hash : Bytes) : Prop :=
  pcrs[INITDATA_PCR]? = some (T.sha256 (List.replicate 32 0 ++ regularizeData hash 32))

theorem checkInitData_eq_ok_iff (h : hash.length = 32) :
    T.checkInitData msg pcrs (.value hash) = .ok () ↔ PcrHolds T pcrs hash := by
  have hextend : T.extendedPcr hash = .ok (T.sha256 (List.replicate 32 0 ++ hash)) := if_pos h
  have hregular : regularizeData hash 32 = hash := by
    rw [regularizeData_of_le (Nat.le_of_eq h), h, Nat.sub_self, List.replicate_zero,
      List.append_nil]
  simp only [checkInitData, hextend, Outcome.ok_bind, Outcome.bind_eq_ok, initDataPcr_eq_ok,
    Outcome.ensure_eq_ok, beq_iff_eq, PcrHolds, hregular]
  constructor
  · rintro ⟨pcr, hpcr, rfl⟩
    exact hpcr
  · intro hpcr
    exact ⟨_, hpcr, rfl⟩

/-- Of the claims of an object, the PCR is one. -/
theorem returns_extendClaim_iff {quote : T.Quote} :
    (∀ claim, (T.extendClaim claim quote).Returns) ↔ 8 < (T.pcrsSha256 quote).length := by
  constructor
  · intro h
    have hobject := h (.object [])
    exact returns_initDataPcr_iff.1 (Outcome.returns_bind_iff.1 hobject).1
  · intro hlength claim
    cases claim with
    | object map =>
      apply (returns_initDataPcr_iff.2 hlength).bind
      intro pcr _
      apply (Outcome.returns_ofExcept _).bind
      intro nonce _
      exact Outcome.returns_ok _
    | _ => exact Outcome.returns_bail _

/-! ## Total and exact -/

variable (T) in
/-- The checks and the claims of a quote are found without a panic, and the check of a hash is
passed exactly where the PCR holds it. -/
structure PcrChecked (quote : T.Quote) (expected : InitDataHash) : Prop where
  azure : (T.verifyInitData expected (T.pcrsSha256 quote)).Returns
  tpm : (Tpm.verifyInitData T expected quote).Returns
  azureClaim : ∀ claim, (T.extendClaim claim quote).Returns
  tpmClaim : ∀ claim, (Tpm.extendClaim T claim quote).Returns
  teeEvidence : (Tpm.teeEvidenceClaims T quote).Returns
  azure_iff : ∀ hash, expected = .value hash →
    (T.verifyInitData expected (T.pcrsSha256 quote) = .ok () ↔
      PcrHolds T (T.pcrsSha256 quote) hash)
  tpm_iff : ∀ hash, expected = .value hash →
    (Tpm.verifyInitData T expected quote = .ok () ↔ PcrHolds T (T.pcrsSha256 quote) hash)

theorem PcrChecked.checkable {quote : T.Quote} {expected : InitDataHash}
    (h : PcrChecked T quote expected) : Checkable (T.pcrsSha256 quote) expected := by
  refine ⟨returns_extendClaim_iff.1 h.azureClaim, ?_⟩
  intro hash hexpected
  exact (returns_checkInitData_iff.1 h.azure hash hexpected).1

theorem Checkable.pcrChecked {quote : T.Quote} {expected : InitDataHash}
    (h : Checkable (T.pcrsSha256 quote) expected) : PcrChecked T quote expected := by
  obtain ⟨hpcr, hlength⟩ := h
  have hboth (hash : Bytes) (hexpected : expected = .value hash) :
      hash.length = 32 ∧ 8 < (T.pcrsSha256 quote).length := ⟨hlength hash hexpected, hpcr⟩
  refine {
    azure := returns_checkInitData_iff.2 hboth
    tpm := returns_checkInitData_iff.2 hboth
    azureClaim := returns_extendClaim_iff.2 hpcr
    tpmClaim := fun claim => Tpm.returns_extendClaim T claim quote
    teeEvidence := (returns_initDataPcr_iff.2 hpcr).bind fun _ _ => Outcome.returns_ok _
    azure_iff := ?_
    tpm_iff := ?_ }
  · rintro hash rfl
    exact checkInitData_eq_ok_iff (hlength hash rfl)
  · rintro hash rfl
    exact checkInitData_eq_ok_iff (hlength hash rfl)

variable (T) in
/-- **The check of the init data is total and exact exactly for hashes of 32 bytes and quotes of
nine PCRs or more.** -/
theorem pcrChecked_iff (quote : T.Quote) (expected : InitDataHash) :
    PcrChecked T quote expected ↔ Checkable (T.pcrsSha256 quote) expected :=
  ⟨PcrChecked.checkable, Checkable.pcrChecked⟩

/-- Quotes that are their PCRs. -/
def pcrQuotes : Vtpm where
  Quote := List Bytes
  quoteFromValue _ := .ok []
  quoteFromParts _ _ pcrs := .ok pcrs
  nonce _ := .ok (List.replicate 32 0)
  pcrsSha256 := id
  verifyPcrs _ := .ok ()
  PublicKey := Unit
  publicKeyFromDer _ := .ok ()
  verifySignature _ _ := .ok ()
  HclReport := Unit
  hclReport _ := .ok ()
  AkPub := Unit
  akPub _ := .ok ()
  akPubToDer _ := .ok []
  varDataSha256 _ := List.replicate 32 0
  snpReport _ := .error "not an SNP report"
  sha256 b := b.take 32
  unmarshallSignature _ := .ok none

/-- A SHA-384 digest is not checked: copying it panics, in a quote of 24 PCRs. -/
theorem not_pcrChecked_sha384 :
    ¬ PcrChecked pcrQuotes (List.replicate 24 (List.replicate 32 0))
      (.value (List.replicate 48 0)) := by
  intro h
  exact absurd (h.checkable.2 _ rfl) (by decide)

end Vtpm

end Trustmee
