import Trustmee.Eventlog.EventData
import Trustmee.Eventlog.Replay
import Trustmee.Tdx.Agreement
import Trustmee.Tdx.Backends

/-!
# The event log of an accepted quote

The native TDX verifier with the event log it really works on. What it accepts is a quote whose
signature was verified, whose report data and configuration ID are the expected ones, and whose
registers are the hash chains of the measurements in the event log, where one was supplied
(`verifyEvidence_measured`). The log is published as it was parsed. The registers fix what the
replay sees of it, up to a collision of SHA-384 (`sameReplay_or_broken`); they say nothing of an
event of another register, or of a digest of another algorithm, which the parser lets pass all the
same.
-/

namespace Trustmee.Tdx

open Eventlog

/-- The surroundings of a verifier, with the event log of the `eventlog` crate and a verification of
quotes. -/
def logEnv (H : Hashes) (P : Parsers) (quoteVerification : Bytes → Outcome CustomClaims) : Env where
  EventLog := CcEventLog
  parseEventLog := CcEventLog.tryFrom H P
  replayAndMatch ccel data :=
    match ccel.replayAndMatch H (data.map fun r => ⟨r.index, .Sha384, r.reference⟩) with
    | .ok () => .ok ()
    | .err e => .error e.display
    | .panic m => .error m
  logToValue ccel := .ok ccel.toValue
  quoteVerification := quoteVerification

/-- The surroundings of the native verifier. -/
def measuredEnv (H : Hashes) (P : Parsers) (B : NativeBackends) : Env :=
  logEnv H P B.quoteVerification

/-- The registers of the event log that a TDX quote has. -/
def registers : List ℕ := [1, 2, 3, 4]

/-! ## Where a quote has its fields -/

/-- Where the body of a quote starts, by the version of the quote. -/
inductive BodyAt (quoteBin : Bytes) : ℕ → Prop
  | v4 (h : field quoteBin 0 2 = [4, 0]) : BodyAt quoteBin 48
  | v5 (h : field quoteBin 0 2 = [5, 0]) : BodyAt quoteBin 54

theorem field_slice {b : Bytes} {start n m offset : ℕ} (h : offset + m ≤ n) :
    field (field b start n) offset m = field b (start + offset) m := by
  rw [field, field, field, List.drop_take, List.drop_drop, List.take_take,
    Nat.min_eq_left (by omega)]

/-- The version is read from the first bytes of the quote. -/
theorem version_of_pread {quoteBin quoteHeader : Bytes} {header : QuoteHeader}
    (hslice : slice quoteBin 0 QUOTE_HEADER_SIZE = .ok quoteHeader)
    (hheader : QuoteHeader.pread quoteHeader 0 = some header) :
    header.version = field quoteBin 0 2 := by
  unfold slice at hslice
  split at hslice
  · cases hslice
    unfold QuoteHeader.pread at hheader
    split at hheader
    · cases hheader
      exact field_slice (by decide)
    · cases hheader
  · cases hslice

theorem body_of_pread {b : Bytes} {offset : ℕ} {body : ReportBody2}
    (h : ReportBody2.pread b offset = some body) :
    offset + 584 ≤ b.length ∧ body = .read b offset := by
  unfold ReportBody2.pread at h
  split at h
  · next hlen => exact ⟨hlen, (Option.some.inj h).symm⟩
  · cases h

/-- The larger body starts with the fields of the smaller one. -/
theorem body_of_pread_v15 {b : Bytes} {offset : ℕ} {body : ReportBody2v15}
    (h : ReportBody2v15.pread b offset = some body) :
    offset + 584 ≤ b.length ∧ body.toReportBody2 = .read b offset := by
  unfold ReportBody2v15.pread at h
  split at h
  · next hlen =>
    cases h
    exact ⟨by omega, rfl⟩
  · cases h

/-- The body of a parsed quote is read from its bytes, behind the header. -/
theorem body_of_parseTdxQuote {quoteBin : Bytes} {quote : Quote}
    (h : parseTdxQuote quoteBin = .ok quote) :
    ∃ offset, BodyAt quoteBin offset ∧ offset + 584 ≤ quoteBin.length ∧
      quote.body = .read quoteBin offset := by
  obtain ⟨quoteHeader, hslice, h⟩ := Outcome.bind_eq_ok.1 h
  obtain ⟨header, hheader, h⟩ := Outcome.bind_eq_ok.1 h
  have hversion := version_of_pread hslice (Outcome.okOr_eq_ok.1 hheader)
  split at h
  · next h4 =>
    obtain ⟨body, hbody, h⟩ := Outcome.bind_eq_ok.1 h
    cases h
    exact ⟨48, .v4 (hversion ▸ h4), body_of_pread (Outcome.okOr_eq_ok.1 hbody)⟩
  · split at h
    · next h5 =>
      obtain ⟨typeBytes, -, h⟩ := Outcome.bind_eq_ok.1 h
      obtain ⟨type, -, h⟩ := Outcome.bind_eq_ok.1 h
      obtain ⟨size, -, h⟩ := Outcome.bind_eq_ok.1 h
      refine ⟨54, .v5 (hversion ▸ h5), ?_⟩
      cases type with
      | TDX10 =>
        obtain ⟨body, hbody, h⟩ := Outcome.bind_eq_ok.1 h
        cases h
        exact body_of_pread (Outcome.okOr_eq_ok.1 hbody)
      | TDX15 =>
        obtain ⟨body, hbody, h⟩ := Outcome.bind_eq_ok.1 h
        cases h
        exact body_of_pread_v15 (Outcome.okOr_eq_ok.1 hbody)
    · exact absurd h Outcome.bail_ne_ok

/-- The four registers of a quote stand one after the other. -/
theorem forall_compareObj {quoteBin : Bytes} {offset : ℕ} {quote : Quote}
    (hbody : quote.body = .read quoteBin offset) (p : ℕ → Bytes → Prop) :
    (∀ r ∈ compareObj quote, p r.index r.reference) ↔
      ∀ i < 4, p (i + 1) (field quoteBin (offset + 328 + 48 * i) 48) := by
  simp only [compareObj, Quote.rtmr0, Quote.rtmr1, Quote.rtmr2, Quote.rtmr3, hbody,
    ReportBody2.read, List.forall_mem_cons, List.not_mem_nil, false_imp_iff, implies_true, and_true]
  constructor
  · rintro ⟨h₀, h₁, h₂, h₃⟩ i hi
    obtain rfl | rfl | rfl | rfl : i = 0 ∨ i = 1 ∨ i = 2 ∨ i = 3 := by omega
    · exact h₀
    · exact h₁
    · exact h₂
    · exact h₃
  · intro h
    exact ⟨h 0 (by omega), h 1 (by omega), h 2 (by omega), h 3 (by omega)⟩

/-! ## What is accepted -/

variable {H : Hashes} {P : Parsers} {B : NativeBackends} {rd : ReportData} {id : InitDataHash}
  {ev : Native.TdxEvidence} {v : Json}

/-- The registers of a quote hold what the log gives for them. -/
def RegistersHold (H : Hashes) (quoteBin : Bytes) (offset : ℕ) (log : List EventlogEntry) : Prop :=
  ∀ i < 4, HashChain.value H.sha384 (List.replicate 48 0) (measurements log .Sha384 (i + 1)) =
    field quoteBin (offset + 328 + 48 * i) 48

theorem registersHold_of_replayAndMatch {quoteBin : Bytes} {offset : ℕ} {quote : Quote}
    (hbody : quote.body = .read quoteBin offset) {ccel : CcEventLog}
    (h : (measuredEnv H P B).replayAndMatch ccel (compareObj quote) = .ok ()) :
    RegistersHold H quoteBin offset ccel.log := by
  have hmatch : ccel.replayAndMatch H
      ((compareObj quote).map fun r => ⟨r.index, .Sha384, r.reference⟩) = .ok () := by
    simp only [measuredEnv, logEnv] at h
    split at h
    · assumption
    · cases h
    · cases h
  have hpairs : ((compareObj quote).map fun r => (⟨r.index, .Sha384, r.reference⟩ :
      Eventlog.ReferenceMeasurement)) = ((compareObj quote).map fun r =>
        (r.index, r.reference)).map fun r => ⟨r.1, .Sha384, r.2⟩ := by
    rw [List.map_map]
    rfl
  rw [hpairs, replayAndMatch_sha384, List.forall_mem_map] at hmatch
  exact (forall_compareObj hbody fun index reference => HashChain.value H.sha384
    (List.replicate 48 0) (measurements ccel.log .Sha384 index) = reference).1 hmatch

/-- The event log of accepted evidence: nothing is published where none was supplied. -/
theorem get_uefiEventLogs {quote : Quote} {ccel : Option CcEventLog} {claims : Json.Map}
    (h : generateParsedClaim (E := measuredEnv H P B) quote ccel = .ok (.object claims)) :
    Json.Map.get claims "uefi_event_logs" = ccel.map CcEventLog.toValue := by
  obtain ⟨tdAttributes, -, h⟩ := Outcome.bind_eq_ok.1 h
  obtain ⟨logClaims, hlog, h⟩ := Outcome.bind_eq_ok.1 h
  cases h
  simp only [Json.Map.get_insert, String.reduceEq, if_false]
  cases ccel with
  | none =>
    cases hlog
    rfl
  | some ccel =>
    cases hlog
    rfl

/-- The claims that the verification adds do not hide it. -/
theorem get_uefiEventLogs_extend {quoteBin : Bytes} {custom : CustomClaims} {quote : Quote}
    {ccel : Option CcEventLog} {claims : Json.Map}
    (h : Native.Accepts (measuredEnv H P B) rd id ev quoteBin custom quote ccel claims) :
    Json.Map.get (Json.Map.extend claims custom.map) "uefi_event_logs" =
      ccel.map CcEventLog.toValue := by
  have hnone := (given_of_native h.verification).get_eq_none
    (show "uefi_event_logs" ∈ _ from List.mem_cons_self)
  rw [Json.Map.get_extend_of_none _ _ hnone, get_uefiEventLogs h.claims]

/-- A log that was supplied is parsed and replayed. -/
theorem exists_log_of_accepts {quoteBin : Bytes} {offset : ℕ} {custom : CustomClaims}
    {quote : Quote} {ccel : Option CcEventLog} {claims : Json.Map}
    (h : Native.Accepts (measuredEnv H P B) rd id ev quoteBin custom quote ccel claims)
    (hbody : quote.body = .read quoteBin offset) {el : String} (hel : ev.ccEventlog = some el)
    (hne : el ≠ "") : ∃ ccelData log, ccel = some log ∧ Base64.decode el = some ccelData ∧
      CcEventLog.tryFrom H P ccelData = .ok log ∧ RegistersHold H quoteBin offset log.log := by
  have hlog := h.eventlog
  rw [hel, Native.checkEventlog, if_pos hne] at hlog
  obtain ⟨ccelData, hdecode, hlog⟩ := Outcome.bind_eq_ok.1 hlog
  obtain ⟨log, hparse, hlog⟩ := Outcome.bind_eq_ok.1 hlog
  obtain ⟨_, hreplay, hlog⟩ := Outcome.bind_eq_ok.1 hlog
  cases hlog
  exact ⟨ccelData, log, rfl, decodeBase64_eq_ok.1 hdecode, Outcome.mapErr_eq_ok.1 hparse,
    registersHold_of_replayAndMatch hbody (Outcome.ofExcept_eq_ok.1 hreplay)⟩

/-- Without a log there is none. -/
theorem eq_none_of_accepts {quoteBin : Bytes} {custom : CustomClaims} {quote : Quote}
    {ccel : Option CcEventLog} {claims : Json.Map}
    (h : Native.Accepts (measuredEnv H P B) rd id ev quoteBin custom quote ccel claims)
    (hnone : ev.ccEventlog = none ∨ ev.ccEventlog = some "") : ccel = none := by
  have hlog := h.eventlog
  rcases hnone with hnone | hnone
  · rw [hnone] at hlog
    cases hlog
    rfl
  · rw [hnone, Native.checkEventlog, if_neg (not_not.2 rfl)] at hlog
    cases hlog
    rfl

/-! ## A quote with a log, and its log -/

/-- Hash functions of which SHA-384 has one value. -/
def constantHashes : Hashes where
  sha256 _ := []
  sha384 _ := List.replicate 48 1
  sha512 _ := []
  sm3 _ := []
  length_sha384 _ := List.length_replicate

/-- What the parser of blank events makes of each. -/
def blankParsers : Parsers := fun _ _ => .ok .empty

/-- A native verifier with `dcap-qvl`, which accepts one quote. -/
def qvlBackendsFor (accepted : Bytes) : NativeBackends where
  dcapLibrary := {
    supplementalDataSize := fun _ => .error "no DCAP library"
    Collateral := Empty
    getCollateral := fun _ => .error "no DCAP library"
    verifyQuote := fun _ _ _ => .error "no DCAP library"
    sizeOfSupplementalData := 0 }
  dcapQvl := {
    getCollateralCached := fun _ => .ok ⟨"{}", "{}"⟩
    now := 0
    verify := fun quote _ _ =>
      if quote = accepted then .ok ⟨"UpToDate", [], zeros 16⟩ else .error "invalid signature"
    parseNextUpdateSecs := fun _ => none }
  useDcapQvl := true

def qvlBackends : NativeBackends := qvlBackendsFor zeroQuoteBin

/-- The header of a log, with digests of SHA-384. -/
def logHeader : Bytes :=
  [0, 0, 0, 0, 3, 0, 0, 0] ++ zeros 20 ++ [33, 0, 0, 0] ++ zeros 24 ++ [1, 0, 0, 0, 12, 0, 48, 0, 0]

/-- A log with one event, of a register that no quote has. -/
def unmeasuredLog : Bytes := logHeader ++
  [5, 0, 0, 0, 4, 0, 0, 0, 1, 0, 0, 0, 12, 0] ++ List.replicate 48 7 ++ [4, 0, 0, 0, 0, 0, 0, 0]

def unmeasuredEvent : EventlogEntry where
  details := .empty
  digestMatchesEvent := false
  digests := [⟨.Sha384, List.replicate 48 7⟩]
  event := Base64.encode (zeros 4)
  index := 5
  eventType := .EvSeparator

set_option maxRecDepth 4000 in
theorem tryFrom_unmeasuredLog :
    CcEventLog.tryFrom constantHashes blankParsers unmeasuredLog = .ok ⟨[unmeasuredEvent]⟩ := rfl

/-- A boot variable: its GUID, the lengths of its name and of its value, and both. -/
def bootVariable : Bytes :=
  zeros 16 ++ [1, 0, 0, 0, 0, 0, 0, 0] ++ [1, 0, 0, 0, 0, 0, 0, 0] ++ [97, 0, 7]

/-- A log with one event, of the first register, which measures a boot variable. -/
def bootLog : Bytes := logHeader ++
  [1, 0, 0, 0, 2, 0, 0, 0x80, 1, 0, 0, 0, 12, 0] ++ List.replicate 48 1 ++ [35, 0, 0, 0] ++
    bootVariable

def bootEvent : EventlogEntry where
  details := { EventDetails.empty with
    unicodeName := some "a"
    unicodeNameLength := some 1
    variableData := some (Base64.encode [7])
    variableDataLength := some 1
    variableName := some "00000000-0000-0000-0000-000000000000" }
  digestMatchesEvent := true
  digests := [⟨.Sha384, List.replicate 48 1⟩]
  event := Base64.encode bootVariable
  index := 1
  eventType := .EvEfiVariableBoot

set_option maxRecDepth 4000 in
theorem tryFrom_bootLog (overflowChecks : Bool) (serde : SerdeJson) :
    CcEventLog.tryFrom constantHashes (parsers overflowChecks serde) bootLog = .ok ⟨[bootEvent]⟩ :=
  rfl

/-- The payload of a quote whose first register holds what the log gives for it. -/
def bootQuoteBin : Bytes := 4 :: (zeros 375 ++ List.replicate 48 1 ++ zeros 208)

def bootQuote : Quote :=
  .V4 ⟨[4, 0], zeros 2, zeros 4, zeros 4, zeros 16, zeros 20⟩
    ⟨zeros 16, zeros 48, zeros 48, zeros 8, zeros 8, zeros 8, zeros 48, zeros 48, zeros 48, zeros 48,
      List.replicate 48 1, zeros 48, zeros 48, zeros 48, zeros 64⟩

set_option maxRecDepth 4000 in
theorem parseTdxQuote_bootQuoteBin : parseTdxQuote bootQuoteBin = .ok bootQuote := rfl

theorem encode_ne_empty {b : Bytes} (h : b ≠ []) : Base64.encode b ≠ "" := by
  intro hempty
  have hdecode := Base64.decode_encode b
  rw [hempty] at hdecode
  exact h (Option.some.inj hdecode).symm

/-- A quote that holds the expected values is accepted with every log that is. -/
theorem accepts_of_parse {P : Parsers} {quoteBin rd id : Bytes} {quote : Quote}
    {ccEventlog : Option String} {ccel : Option CcEventLog} {claims : Json.Map}
    (hne : quoteBin ≠ []) (hparse : parseTdxQuote quoteBin = .ok quote)
    (hreport : regularizeData rd 64 = quote.reportData)
    (hconfig : regularizeData id 48 = quote.mrConfigId)
    (hlog : Native.checkEventlog (E := measuredEnv constantHashes P (qvlBackendsFor quoteBin)) quote
      ccEventlog = .ok ccel)
    (hclaims : generateParsedClaim (E := measuredEnv constantHashes P (qvlBackendsFor quoteBin))
      quote ccel = .ok (.object claims)) :
    Native.Accepts (measuredEnv constantHashes P (qvlBackendsFor quoteBin)) (.value rd) (.value id)
      ⟨ccEventlog, Base64.encode quoteBin⟩ quoteBin upToDate quote ccel claims where
  quote_ne := encode_ne_empty hne
  decode := Base64.decode_encode quoteBin
  verification := by
    simp only [measuredEnv, logEnv, NativeBackends.quoteVerification, qvlBackendsFor,
      DcapQvl.ecdsaQuoteVerification, if_true]
    rfl
  parse := hparse
  reportData := by
    rw [Native.checkReportData, hreport]
    exact Outcome.ensure_eq_ok.2 (beq_self_eq_true _)
  initData := by
    rw [Native.checkInitData, hconfig]
    exact Outcome.ensure_eq_ok.2 (beq_self_eq_true _)
  eventlog := hlog
  claims := hclaims

/-- The quote of zeros, with the log or without it. -/
def measuredEvidence (ccEventlog : Option String) : Native.TdxEvidence where
  ccEventlog
  quote := Base64.encode zeroQuoteBin

/-- The log is checked when it is parsed and replayed. -/
theorem checkEventlog_of_tryFrom {P : Parsers} {B : NativeBackends} {quote : Quote} {log : Bytes}
    {ccel : CcEventLog} (hne : log ≠ [])
    (hparse : CcEventLog.tryFrom constantHashes P log = .ok ccel)
    (hreplay : (measuredEnv constantHashes P B).replayAndMatch ccel (compareObj quote) = .ok ()) :
    Native.checkEventlog (E := measuredEnv constantHashes P B) quote (some (Base64.encode log)) =
      .ok (some ccel) := by
  have hdecode : decodeBase64 (Base64.encode log) = .ok log :=
    decodeBase64_eq_ok.2 (Base64.decode_encode _)
  have hparse : (measuredEnv constantHashes P B).parseEventLog log = .ok ccel := hparse
  rw [Native.checkEventlog, if_pos (encode_ne_empty hne), hdecode, Outcome.ok_bind, hparse]
  change (Outcome.ofExcept ((measuredEnv constantHashes P B).replayAndMatch ccel
    (compareObj quote)) >>= fun _ => .ok (some ccel)) = _
  rw [hreplay]
  rfl

theorem checkEventlog_unmeasuredLog :
    Native.checkEventlog (E := measuredEnv constantHashes blankParsers qvlBackends) zeroQuote
      (some (Base64.encode unmeasuredLog)) = .ok (some ⟨[unmeasuredEvent]⟩) :=
  checkEventlog_of_tryFrom (by decide) tryFrom_unmeasuredLog rfl

theorem checkEventlog_bootLog (overflowChecks : Bool) (serde : SerdeJson) (B : NativeBackends) :
    Native.checkEventlog (E := measuredEnv constantHashes (parsers overflowChecks serde) B)
      bootQuote (some (Base64.encode bootLog)) = .ok (some ⟨[bootEvent]⟩) :=
  checkEventlog_of_tryFrom (by decide) (tryFrom_bootLog overflowChecks serde) rfl

/-- The quote is accepted with every log that is. -/
theorem verifyEvidence_measuredEvidence {ccEventlog : Option String} {ccel : Option CcEventLog}
    (hlog : Native.checkEventlog (E := measuredEnv constantHashes blankParsers qvlBackends) zeroQuote
      ccEventlog = .ok ccel) :
    ∃ v, Native.verifyEvidence (measuredEnv constantHashes blankParsers qvlBackends)
      (.value (zeros 64)) (.value (zeros 48)) (measuredEvidence ccEventlog) = .ok v ∧
        v.get "uefi_event_logs" = ccel.map CcEventLog.toValue := by
  obtain ⟨claims, hclaims⟩ : ∃ claims, generateParsedClaim
      (E := measuredEnv constantHashes blankParsers qvlBackends) zeroQuote ccel =
        .ok (.object claims) := by
    cases ccel with
    | none => exact ⟨_, rfl⟩
    | some ccel => exact ⟨_, rfl⟩
  have hreport : regularizeData (zeros 64) 64 = zeroQuote.reportData := rfl
  have hconfig : regularizeData (zeros 48) 48 = zeroQuote.mrConfigId := rfl
  have haccepts := accepts_of_parse (by decide) parseTdxQuote_zeroQuoteBin hreport hconfig hlog
    hclaims
  exact ⟨_, Native.verifyEvidence_eq_ok.2 ⟨_, _, _, _, _, haccepts, rfl⟩,
    get_uefiEventLogs_extend haccepts⟩

/-- The quote whose first register is measured is accepted with its log. -/
theorem exists_verifyEvidence_bootLog (overflowChecks : Bool) (serde : SerdeJson) :
    ∃ v, Native.verifyEvidence (measuredEnv constantHashes (parsers overflowChecks serde)
      (qvlBackendsFor bootQuoteBin)) (.value (zeros 64)) (.value (zeros 48))
        ⟨some (Base64.encode bootLog), Base64.encode bootQuoteBin⟩ = .ok v :=
  ⟨_, Native.verifyEvidence_eq_ok.2 ⟨_, _, _, _, _, accepts_of_parse (by decide)
    parseTdxQuote_bootQuoteBin rfl rfl (checkEventlog_bootLog overflowChecks serde _) rfl, rfl⟩⟩

/-! ## What acceptance means -/

/-- **Soundness of acceptance with an event log.** -/
theorem verifyEvidence_measured
    (h : Native.verifyEvidence (measuredEnv H P B) rd id ev = .ok v) :
    ∃ quoteBin offset, Base64.decode ev.quote = some quoteBin ∧
      (∃ custom, B.quoteVerification quoteBin = .ok custom) ∧
      BodyAt quoteBin offset ∧ offset + 584 ≤ quoteBin.length ∧
      (∀ expected, rd = .value expected →
        field quoteBin (offset + 520) 64 = regularizeData expected 64) ∧
      (∀ expected, id = .value expected →
        field quoteBin (offset + 184) 48 = regularizeData expected 48) ∧
      (∀ el, ev.ccEventlog = some el → el ≠ "" → ∃ ccelData ccel, Base64.decode el = some ccelData ∧
        CcEventLog.tryFrom H P ccelData = .ok ccel ∧
        v.get "uefi_event_logs" = some (.array (ccel.log.map EventlogEntry.toValue)) ∧
        RegistersHold H quoteBin offset ccel.log) ∧
      (ev.ccEventlog = none ∨ ev.ccEventlog = some "" → v.get "uefi_event_logs" = none) := by
  obtain ⟨quoteBin, custom, quote, ccel, claims, haccepts, rfl⟩ := Native.verifyEvidence_eq_ok.1 h
  obtain ⟨offset, hat, hlen, hbody⟩ := body_of_parseTdxQuote haccepts.parse
  have hget := get_uefiEventLogs_extend haccepts
  refine ⟨quoteBin, offset, haccepts.decode, ⟨custom, haccepts.verification⟩, hat, hlen, ?_, ?_, ?_,
    ?_⟩
  · rintro expected rfl
    have hcheck := haccepts.reportData
    simp only [Native.checkReportData, Outcome.ensure_eq_ok, beq_iff_eq, Quote.reportData,
      hbody] at hcheck
    exact hcheck.symm
  · rintro expected rfl
    have hcheck := haccepts.initData
    simp only [Native.checkInitData, Outcome.ensure_eq_ok, beq_iff_eq, Quote.mrConfigId,
      hbody] at hcheck
    exact hcheck.symm
  · intro el hel hne
    obtain ⟨ccelData, log, rfl, hdecode, hparse, hhold⟩ :=
      exists_log_of_accepts haccepts hbody hel hne
    exact ⟨ccelData, log, hdecode, hparse, hget, hhold⟩
  · intro hnone
    rw [eq_none_of_accepts haccepts hnone] at hget
    exact hget

/-- The theorem at a quote whose first register holds the measurement of a boot variable. -/
theorem verifyEvidence_measured_example :
    ∃ v quoteBin offset, Native.verifyEvidence (measuredEnv constantHashes (parsers true zeroSerde)
        (qvlBackendsFor bootQuoteBin)) (.value (zeros 64)) (.value (zeros 48))
        ⟨some (Base64.encode bootLog), Base64.encode bootQuoteBin⟩ = .ok v ∧
      BodyAt quoteBin offset ∧ field quoteBin (offset + 520) 64 = regularizeData (zeros 64) 64 ∧
      v.get "uefi_event_logs" = some (.array [bootEvent.toValue]) ∧
      RegistersHold constantHashes quoteBin offset [bootEvent] := by
  obtain ⟨v, hv⟩ := exists_verifyEvidence_bootLog true zeroSerde
  obtain ⟨quoteBin, offset, -, -, hat, -, hreport, -, hlog, -⟩ := verifyEvidence_measured hv
  obtain ⟨ccelData, ccel, hdecode, hparse, hget, hhold⟩ :=
    hlog _ rfl (encode_ne_empty (by decide))
  rw [Base64.decode_encode] at hdecode
  obtain rfl := Option.some.inj hdecode
  obtain rfl : ⟨[bootEvent]⟩ = ccel :=
    Outcome.ok.inj ((tryFrom_bootLog true zeroSerde).symm.trans hparse)
  exact ⟨v, quoteBin, offset, hv, hat, hreport _ rfl, hget, hhold⟩

/-! ## Events that the registers say nothing of -/

/-- The log has events of the quote's registers alone, each with a digest, and digests of SHA-384
alone. -/
def InRegisters (log : List EventlogEntry) : Prop :=
  ∀ entry ∈ log, entry.index ∈ registers ∧ entry.digests ≠ [] ∧ ∀ d ∈ entry.digests, d.alg = .Sha384

/-- Two logs with the same registers look the same to the replay, or they show SHA-384 broken. -/
theorem sameReplay_or_broken {quoteBin : Bytes} {offset : ℕ} {log log' : List EventlogEntry}
    (h : RegistersHold H quoteBin offset log) (h' : RegistersHold H quoteBin offset log') :
    SameReplay .Sha384 registers log log' ∨
      ∃ register ∈ registers, HashChain.Broken H.sha384 (List.replicate 48 0)
        (measurements log .Sha384 register) (measurements log' .Sha384 register) := by
  by_cases hbroken : ∃ register ∈ registers, HashChain.Broken H.sha384 (List.replicate 48 0)
      (measurements log .Sha384 register) (measurements log' .Sha384 register)
  · exact .inr hbroken
  · left
    intro register hregister
    have hlen : ∀ x, (H.sha384 x).length = (List.replicate 48 (0 : UInt8)).length := by
      intro x
      rw [H.length_sha384, List.length_replicate]
    have hvalue : HashChain.value H.sha384 (List.replicate 48 0)
        (measurements log .Sha384 register) = HashChain.value H.sha384 (List.replicate 48 0)
        (measurements log' .Sha384 register) := by
      simp only [registers, List.mem_cons, List.not_mem_nil, or_false] at hregister
      rcases hregister with rfl | rfl | rfl | rfl
      · exact (h 0 (by omega)).trans (h' 0 (by omega)).symm
      · exact (h 1 (by omega)).trans (h' 1 (by omega)).symm
      · exact (h 2 (by omega)).trans (h' 2 (by omega)).symm
      · exact (h 3 (by omega)).trans (h' 3 (by omega)).symm
    rcases HashChain.eq_or_broken hlen hvalue with heq | hb
    · exact heq
    · exact absurd ⟨register, hregister, hb⟩ hbroken

end Trustmee.Tdx
