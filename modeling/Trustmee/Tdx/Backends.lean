import Trustmee.Foundations.LittleEndian
import Trustmee.Tdx.Claims

/-!
# The verification of a TDX quote's signature

The native verifier asks the DCAP library of Intel, or, where it is configured so, `dcap-qvl`; the
component always asks `dcap-qvl`. Each gives its answer as claims, in words of its own: only the
DCAP library says how far collateral has expired, and only `dcap-qvl` says that it has.
-/

namespace Trustmee.Tdx

/-- What `tee_verify_quote` makes of a quote: a result that goes into the claims, or a terminal one,
by its name and its code. -/
inductive QuoteVerificationResult
  | accepted (result : QvResult)
  | terminal (name code : String)

/-- `intel_tee_quote_verification_rs`. -/
structure DcapLibrary where
  /-- `tee_get_supplemental_data_version_and_size`: the size. -/
  supplementalDataSize : Bytes → Except String ℕ
  Collateral : Type
  /-- `tee_qv_get_collateral`. -/
  getCollateral : Bytes → Except String Collateral
  /-- `tee_verify_quote`, with or without room for supplemental data: the collateral's expiration
  status, the result, and what it leaves of the supplemental data. -/
  verifyQuote : Bytes → Option Collateral → Bool →
    Except String (ℕ × QuoteVerificationResult × SupplementalData)
  /-- The size of `sgx_ql_qv_supplemental_t`. -/
  sizeOfSupplementalData : ℕ

/-- `intel_dcap::ecdsa_quote_verification`. -/
def DcapLibrary.ecdsaQuoteVerification (L : DcapLibrary) (quote : Bytes) : Outcome CustomClaims := do
  let suppSize ← (Outcome.ofExcept (L.supplementalDataSize quote)).mapErr
    fun e => ["tee_get_quote_supplemental_data_size failed: " ++ e.display]
  let collateral := (L.getCollateral quote).toOption
  let (collateralExpirationStatus, result, suppData) ← (Outcome.ofExcept
    (L.verifyQuote quote collateral (suppSize == L.sizeOfSupplementalData))).mapErr
      fun e => ["tee_verify_quote failed: " ++ e.display]
  match result with
  | .accepted result => return .prepareCustomClaimsMap suppData collateralExpirationStatus result
  | .terminal name code =>
    .bail ("Verification completed with Terminal result: " ++ name ++ " (" ++ code ++ ")")

/-- `QuoteCollateralV3`, by the two texts that say when they are to be updated. -/
structure QuoteCollateral where
  tcbInfo : String
  qeIdentity : String

/-- `dcap_qvl`, and the clock. -/
structure DcapQvl where
  /-- `get_collateral_cached`. -/
  getCollateralCached : Bytes → Outcome QuoteCollateral
  now : ℕ
  /-- `dcap_qvl::verify::verify`. -/
  verify : Bytes → QuoteCollateral → ℕ → Except String VerifiedReport
  /-- `parse_next_update_secs`. -/
  parseNextUpdateSecs : String → Option ℕ

/-- `collateral_expired`. -/
def DcapQvl.collateralExpired (Q : DcapQvl) (collateral : QuoteCollateral) : Bool :=
  [Q.parseNextUpdateSecs collateral.tcbInfo, Q.parseNextUpdateSecs collateral.qeIdentity].any
    fun nextUpdate => nextUpdate.any fun nextUpdate => decide (nextUpdate < Q.now)

/-- `dcap_qvl::ecdsa_quote_verification_with_timing`, and the component's
`ecdsa_quote_verification_via_dcap_qvl`. -/
def DcapQvl.ecdsaQuoteVerification (Q : DcapQvl) (quote : Bytes) : Outcome CustomClaims := do
  let collateral ← (Q.getCollateralCached quote).context "get collateral"
  let verified ← (Outcome.ofExcept (Q.verify quote collateral Q.now)).context
    "dcap-qvl quote verification failed"
  return .fromVerifiedReport verified (Q.collateralExpired collateral)

/-- What a native verifier has at its disposal. -/
structure NativeBackends where
  dcapLibrary : DcapLibrary
  dcapQvl : DcapQvl
  /-- `TDX_NATIVE_USE_DCAP_QVL` is set. -/
  useDcapQvl : Bool

/-- The verification that the native verifier runs. -/
def NativeBackends.quoteVerification (B : NativeBackends) (quote : Bytes) : Outcome CustomClaims :=
  if B.useDcapQvl then B.dcapQvl.ecdsaQuoteVerification quote
  else B.dcapLibrary.ecdsaQuoteVerification quote

/-! ## The claims that a verification adds -/

/-- Claims of one of the two kinds, which all verifications give. -/
inductive CustomClaims.Given : CustomClaims → Prop
  | dcapLibrary (supp : SupplementalData) (status : ℕ) (result : QvResult) :
    Given (.prepareCustomClaimsMap supp status result)
  | dcapQvl (report : VerifiedReport) (expired : Bool) : Given (.fromVerifiedReport report expired)

theorem given_of_dcapLibrary {L : DcapLibrary} {quote : Bytes} {custom : CustomClaims}
    (h : L.ecdsaQuoteVerification quote = .ok custom) : custom.Given := by
  simp only [DcapLibrary.ecdsaQuoteVerification, Outcome.bind_eq_ok] at h
  obtain ⟨_, -, ⟨status, result, supp⟩, -, h⟩ := h
  cases result with
  | accepted result =>
    cases h
    exact .dcapLibrary supp status result
  | terminal name code => exact absurd h Outcome.bail_ne_ok

theorem given_of_dcapQvl {Q : DcapQvl} {quote : Bytes} {custom : CustomClaims}
    (h : Q.ecdsaQuoteVerification quote = .ok custom) : custom.Given := by
  simp only [DcapQvl.ecdsaQuoteVerification, Outcome.bind_eq_ok] at h
  obtain ⟨collateral, -, verified, -, h⟩ := h
  cases h
  exact .dcapQvl verified _

theorem given_of_native {B : NativeBackends} {quote : Bytes} {custom : CustomClaims}
    (h : B.quoteVerification quote = .ok custom) : custom.Given := by
  unfold NativeBackends.quoteVerification at h
  split at h
  · exact given_of_dcapQvl h
  · exact given_of_dcapLibrary h

/-- No verification adds one of the claims of the quote and its event log. -/
theorem CustomClaims.Given.get_eq_none {custom : CustomClaims} (h : custom.Given) {k : String}
    (hk : k ∈ ["uefi_event_logs", "quote", "td_attributes", "report_data", "init_data"]) :
    Json.Map.get custom.map k = none := by
  have hne : ∀ name ∈ ["earliest_issue_date", "latest_issue_date", "earliest_expiration_date",
      "tcb_date", "pck_crl_num", "root_ca_crl_num", "tcb_eval_num", "platform_provider_id",
      "sgx_type", "is_dynamic_platform", "is_cached_keys", "is_smt_enabled", "root_key_id",
      "tcb_status", "collateral_expiration_status", "advisory_ids", "collateral_expired"],
      k ≠ name := by
    revert k
    decide
  cases h with
  | dcapLibrary supp status result =>
    simp only [prepareCustomClaimsMap]
    rw [Json.Map.ofList, Json.Map.get_extend_of_none]
    · rfl
    · unfold platformMembers
      split_ifs <;> simp [Json.Map.get_cons, hne]
  | dcapQvl report expired =>
    cases expired <;>
      simp [fromVerifiedReport, Json.Map.ofList, Json.Map.extend_cons, Json.Map.get_insert, hne]

end Trustmee.Tdx
