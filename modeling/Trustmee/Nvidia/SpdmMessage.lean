import Trustmee.Nvidia.SpdmText

/-!
# Messages and their responses

A message that the decoder of responses goes through up to the opaque data is a text
(`exists_responseText`), and of a text the decoder makes a response that its fields are in
(`decode_encode`). The only steps that can go wrong in another way than with an error are the opaque
data's counts and the place where the signature ends.
-/

namespace Trustmee.Nvidia

variable {overflowChecks : Bool} {bytes : Bytes} {n : ℕ}

/-- A response as it is written, up to its signature. A record that is empty has no blocks, whatever
their number. -/
structure ResponseText where
  requestResponseCode : UInt8
  param1 : UInt8
  param2 : UInt8
  numberOfBlocks : UInt8
  blocks : List BlockText
  recordTail : Bytes
  nonce : Bytes
  opaqueData : Bytes
  length_blocks : blocks.length = numberOfBlocks.toNat ∨ blocks = [] ∧ recordTail = []
  length_record_lt : (encodeBlocks blocks ++ recordTail).length < 256 ^ 3
  length_nonce : nonce.length = 32
  length_opaqueData_lt : opaqueData.length < 256 ^ 2

namespace ResponseText

/-- The measurement record. -/
def record (text : ResponseText) : Bytes := encodeBlocks text.blocks ++ text.recordTail

def encode (text : ResponseText) : Bytes :=
  SPDM_VERSION_SUPPORTED :: text.requestResponseCode :: text.param1 :: text.param2 ::
    text.numberOfBlocks :: (toLe 3 text.record.length ++ (text.record ++ (text.nonce ++
      (toLe 2 text.opaqueData.length ++ text.opaqueData))))

theorem leValue_recordLength (text : ResponseText) :
    leValue (toLe 3 text.record.length) = text.record.length := leValue_toLe text.length_record_lt

/-- The response that is decoded. -/
def response (text : ResponseText) (opaqueData : Json.Map) (signature : Bytes) :
    SpdmGetMeasurementsResponse where
  spdmVersion := SPDM_VERSION_SUPPORTED
  requestResponseCode := text.requestResponseCode
  param1 := text.param1
  param2 := text.param2
  numberOfBlocks := text.numberOfBlocks.toNat
  measurementRecordLength := text.record.length
  measurementRecord := text.blocks.map BlockText.block
  nonce := text.nonce
  opaqueDataLength := text.opaqueData.length
  opaqueData := opaqueData
  signature := signature

variable (text : ResponseText)

theorem length_encode :
    text.encode.length = 42 + text.record.length + text.opaqueData.length := by
  simp only [encode, List.length_cons, List.length_append, length_toLe, text.length_nonce]
  omega

theorem encode_append (rest : Bytes) : text.encode ++ rest =
    SPDM_VERSION_SUPPORTED :: text.requestResponseCode :: text.param1 :: text.param2 ::
      text.numberOfBlocks :: (toLe 3 text.record.length ++ (text.record ++ (text.nonce ++
        (toLe 2 text.opaqueData.length ++ (text.opaqueData ++ rest))))) := by
  simp only [encode, List.cons_append, List.append_assoc]

/-- The fields stand at their offsets. -/
structure At (text : ResponseText) (bytes rest : Bytes) : Prop where
  version : bytes.drop 0 = SPDM_VERSION_SUPPORTED :: bytes.drop 1
  requestResponseCode : bytes.drop 1 = text.requestResponseCode :: bytes.drop 2
  param1 : bytes.drop 2 = text.param1 :: bytes.drop 3
  param2 : bytes.drop 3 = text.param2 :: bytes.drop 4
  numberOfBlocks : bytes.drop 4 = text.numberOfBlocks :: bytes.drop 5
  recordLength : bytes.drop 5 = toLe 3 text.record.length ++ bytes.drop 8
  record : bytes.drop 8 = text.record ++ bytes.drop (8 + text.record.length)
  nonce : bytes.drop (8 + text.record.length) =
    text.nonce ++ bytes.drop (8 + text.record.length + 32)
  opaqueDataLength : bytes.drop (8 + text.record.length + 32) =
    toLe 2 text.opaqueData.length ++ bytes.drop (8 + text.record.length + 32 + 2)
  opaqueData : bytes.drop (8 + text.record.length + 32 + 2) = text.opaqueData ++ rest

theorem at_encode (rest : Bytes) : text.At (text.encode ++ rest) rest := by
  have hversion : (text.encode ++ rest).drop 0 = _ := text.encode_append rest
  have hcode := drop_succ_of_drop hversion
  have hparam1 := drop_succ_of_drop hcode
  have hparam2 := drop_succ_of_drop hparam1
  have hblocks := drop_succ_of_drop hparam2
  have hlength := drop_succ_of_drop hblocks
  have hrecord := drop_of_append hlength (length_toLe 3 _)
  have hnonce := drop_of_append hrecord rfl
  have hopaqueLength := drop_of_append hnonce text.length_nonce
  have hdata := drop_of_append hopaqueLength (length_toLe 2 _)
  exact {
    version := by rw [hversion, hcode]
    requestResponseCode := by rw [hcode, hparam1]
    param1 := by rw [hparam1, hparam2]
    param2 := by rw [hparam2, hblocks]
    numberOfBlocks := by rw [hblocks, hlength]
    recordLength := by rw [hlength, hrecord]
    record := by rw [hrecord, hnonce]
    nonce := by rw [hnonce, hopaqueLength]
    opaqueDataLength := by rw [hopaqueLength, hdata]
    opaqueData := hdata }

/-- What stands at the offsets is the text. -/
theorem At.eq {text : ResponseText} {rest : Bytes} (h : text.At bytes rest) :
    bytes = text.encode ++ rest := by
  have hbytes := h.version
  rw [h.requestResponseCode, h.param1, h.param2, h.numberOfBlocks, h.recordLength, h.record,
    h.nonce, h.opaqueDataLength, h.opaqueData, List.drop_zero] at hbytes
  rw [hbytes, text.encode_append]

/-- The blocks of the record. -/
theorem decodeRecord_of_at {text : ResponseText} {rest : Bytes} (h : text.At bytes rest)
    (hlen : 8 ≤ bytes.length) :
    SpdmGetMeasurementsResponse.decodeRecord bytes text.numberOfBlocks.toNat 8 text.record.length =
      .ok (text.blocks.map BlockText.block) := by
  unfold SpdmGetMeasurementsResponse.decodeRecord
  by_cases hempty : 0 < text.record.length
  · rw [if_pos hempty, getRange_of_drop hlen h.record rfl, Outcome.okOr, Outcome.ok_bind]
    refine MeasurementRecord.decode_eq_ok_iff.2 ⟨text.blocks, ?_, rfl, text.recordTail, rfl⟩
    refine text.length_blocks.resolve_right ?_
    rintro ⟨hblocks, htail⟩
    rw [record, hblocks, htail] at hempty
    exact absurd hempty (by decide)
  · rw [if_neg hempty]
    have hrecord : text.record = [] := List.length_eq_zero_iff.1 (by omega)
    rw [encodeBlocks_eq_nil_iff.1 (List.append_eq_nil_iff.1 hrecord).1]
    rfl

/-- The opaque data of the message. -/
theorem decodeOpaque_of_at {text : ResponseText} {rest : Bytes} (h : text.At bytes rest)
    (hlen : 8 + text.record.length + 32 + 2 ≤ bytes.length) :
    SpdmGetMeasurementsResponse.decodeOpaque overflowChecks bytes
        (8 + text.record.length + 32 + 2) text.opaqueData.length =
      OpaqueData.decode overflowChecks text.opaqueData := by
  unfold SpdmGetMeasurementsResponse.decodeOpaque
  by_cases hempty : 0 < text.opaqueData.length
  · rw [if_pos hempty, getRange_of_drop hlen h.opaqueData rfl]
    rfl
  · rw [if_neg hempty, OpaqueData.decode, if_pos (by omega)]

/-- **A text is decoded to its response**, as far as the opaque data and the end of the signature
can be. -/
theorem decode_encode (text : ResponseText) (rest : Bytes) (signatureLength : ℕ) :
    SpdmGetMeasurementsResponse.decode overflowChecks (text.encode ++ rest) signatureLength =
      OpaqueData.decode overflowChecks text.opaqueData >>= fun opaqueData =>
        addUsize overflowChecks text.encode.length signatureLength >>= fun stop =>
          Outcome.okOr (getRange (text.encode ++ rest) text.encode.length stop)
              "Signature overflow" >>= fun signature =>
            .ok (text.response opaqueData signature, stop) := by
  have h := text.at_encode rest
  have hlength : (text.encode ++ rest).length =
      42 + text.record.length + text.opaqueData.length + rest.length := by
    rw [List.length_append, text.length_encode]
  have hencode := text.length_encode
  have hend : 8 + text.record.length + 32 + 2 + text.opaqueData.length = text.encode.length := by
    omega
  generalize text.encode ++ rest = bytes at h hlength
  rw [SpdmGetMeasurementsResponse.decode, ensure_of (by omega), Outcome.ok_bind,
    byteAt_of_drop h.version, Outcome.ok_bind, ensure_of rfl, Outcome.ok_bind,
    byteAt_of_drop h.requestResponseCode, Outcome.ok_bind, byteAt_of_drop h.param1,
    Outcome.ok_bind, byteAt_of_drop h.param2, Outcome.ok_bind, byteAt_of_drop h.numberOfBlocks,
    Outcome.ok_bind,
    slice_of_drop (n := 3) (by omega) h.recordLength (length_toLe 3 _), Outcome.ok_bind,
    text.leValue_recordLength]
  dsimp only
  rw [decodeRecord_of_at h (by omega), Outcome.ok_bind,
    getRange_of_drop (by omega) h.nonce text.length_nonce, Outcome.okOr, Outcome.ok_bind,
    getRange_of_drop (by omega) h.opaqueDataLength (length_toLe 2 _), Outcome.okOr,
    Outcome.ok_bind, leValue_toLe text.length_opaqueData_lt, decodeOpaque_of_at h (by omega), hend]
  rfl

end ResponseText

namespace SpdmGetMeasurementsResponse

theorem returns_decodeRecord (bytes : Bytes) (numberOfBlocks offset length : ℕ) :
    (decodeRecord bytes numberOfBlocks offset length).Returns := by
  unfold decodeRecord
  split
  · apply (Outcome.returns_okOr _ _).bind
    intro measurementsBytes _
    unfold MeasurementRecord.decode
    split
    · exact Outcome.returns_ok _
    · exact returns_decodeBlocks (Nat.zero_le _)
  · exact Outcome.returns_ok _

/-- The blocks of a record are written in it. -/
theorem exists_of_decodeRecord {numberOfBlocks offset length : ℕ} {blocks : List MeasurementBlock}
    (hoffset : offset ≤ bytes.length)
    (h : decodeRecord bytes numberOfBlocks offset length = .ok blocks) :
    ∃ (texts : List BlockText) (recordTail : Bytes),
      (texts.length = numberOfBlocks ∨ texts = [] ∧ recordTail = []) ∧
        (encodeBlocks texts ++ recordTail).length = length ∧
          bytes.drop offset =
            (encodeBlocks texts ++ recordTail) ++ bytes.drop (offset + length) := by
  unfold decodeRecord at h
  by_cases hempty : 0 < length
  · rw [if_pos hempty] at h
    obtain ⟨record, hrecord, hblocks⟩ := Outcome.bind_eq_ok.1 h
    rw [Outcome.okOr_eq_ok] at hrecord
    obtain ⟨hlength, hdrop⟩ := (getRange_eq_some_iff hoffset).1 hrecord
    obtain ⟨texts, hcount, -, recordTail, rfl⟩ := MeasurementRecord.decode_eq_ok_iff.1 hblocks
    exact ⟨texts, recordTail, .inl hcount, hlength, hdrop⟩
  · obtain rfl : length = 0 := by omega
    exact ⟨[], [], .inr ⟨rfl, rfl⟩, rfl, rfl⟩

/-- The opaque data are all there, where they are not refused. -/
theorem exists_of_decodeOpaque {offset length : ℕ} (hoffset : offset ≤ bytes.length)
    (h : ∀ e, decodeOpaque overflowChecks bytes offset length ≠ .err e) :
    ∃ opaqueData : Bytes, opaqueData.length = length ∧
      bytes.drop offset = opaqueData ++ bytes.drop (offset + length) := by
  unfold decodeOpaque at h
  by_cases hempty : 0 < length
  · rw [if_pos hempty] at h
    obtain ⟨opaqueData, hdata, -⟩ := (Outcome.returns_okOr _ _).exists_eq_ok h
    rw [Outcome.okOr_eq_ok] at hdata
    exact ⟨opaqueData, (getRange_eq_some_iff hoffset).1 hdata⟩
  · obtain rfl : length = 0 := by omega
    exact ⟨[], rfl, rfl⟩

variable {signatureLength : ℕ}

/-- **A message that is not refused with an error is a text**, and what follows it. -/
theorem exists_responseText
    (h : ∀ e, decode overflowChecks bytes signatureLength ≠ .err e) :
    ∃ (text : ResponseText) (rest : Bytes), bytes = text.encode ++ rest := by
  obtain ⟨_, hlen, h⟩ := (Outcome.returns_ensure _ _).exists_eq_ok h
  have hlen : 8 ≤ bytes.length := of_decide_eq_true (Outcome.ensure_eq_ok.1 hlen)
  obtain ⟨version, hversion, h⟩ := (returns_byteAt_iff.2 (by omega)).exists_eq_ok h
  obtain ⟨_, hsupported, h⟩ := (Outcome.returns_ensure _ _).exists_eq_ok h
  obtain rfl : version = SPDM_VERSION_SUPPORTED :=
    of_decide_eq_true (Outcome.ensure_eq_ok.1 hsupported)
  obtain ⟨code, hcode, h⟩ := (returns_byteAt_iff.2 (by omega)).exists_eq_ok h
  obtain ⟨param1, hparam1, h⟩ := (returns_byteAt_iff.2 (by omega)).exists_eq_ok h
  obtain ⟨param2, hparam2, h⟩ := (returns_byteAt_iff.2 (by omega)).exists_eq_ok h
  obtain ⟨numberOfBlocks, hnumber, h⟩ := (returns_byteAt_iff.2 (by omega)).exists_eq_ok h
  obtain ⟨array, harray, h⟩ := (returns_slice_iff.2 ⟨by omega, hlen⟩).exists_eq_ok h
  obtain ⟨blocks, hblocks, h⟩ := (returns_decodeRecord _ _ _ _).exists_eq_ok h
  obtain ⟨nonce, hnonce, h⟩ := (Outcome.returns_okOr _ _).exists_eq_ok h
  obtain ⟨array', harray', h⟩ := (Outcome.returns_okOr _ _).exists_eq_ok h
  have harray : slice bytes 5 (5 + 3) = .ok array := harray
  obtain ⟨hlt, hlengthAt⟩ := (slice_toLe_iff (by omega)).1 ⟨array, harray, rfl⟩
  obtain ⟨texts, recordTail, hcount, hlength, hrecordAt⟩ := exists_of_decodeRecord hlen hblocks
  rw [← hlength] at hlt hlengthAt hrecordAt hnonce harray'
  have hinside := length_of_drop hrecordAt hlen
  rw [Outcome.okOr_eq_ok] at hnonce harray'
  obtain ⟨hnonceLength, hnonceAt⟩ := (getRange_eq_some_iff (by omega)).1 hnonce
  have hinside' := length_of_drop hnonceAt (by omega)
  obtain ⟨hlength', hopaqueLengthAt⟩ := (getRange_eq_some_iff (by omega)).1 harray'
  have hinside'' := length_of_drop hopaqueLengthAt (by omega)
  have hdecode (e : Error) : decodeOpaque overflowChecks bytes
      (8 + (encodeBlocks texts ++ recordTail).length + 32 + 2) (leValue array') ≠ .err e := by
    intro he
    rw [hlength] at he
    dsimp only at h
    rw [he] at h
    exact h e rfl
  obtain ⟨opaqueData, hopaqueLength, hopaqueAt⟩ := exists_of_decodeOpaque (by omega) hdecode
  have hopaqueLt : opaqueData.length < 256 ^ 2 := by
    rw [hopaqueLength, ← hlength']
    exact leValue_lt array'
  rw [← toLe_leValue array', hlength', ← hopaqueLength] at hopaqueLengthAt
  let text : ResponseText := ⟨code, param1, param2, numberOfBlocks, texts, recordTail, nonce,
    opaqueData, hcount, hlt, hnonceLength, hopaqueLt⟩
  have hat : text.At bytes
      (bytes.drop (8 + (encodeBlocks texts ++ recordTail).length + 32 + 2 + leValue array')) := {
    version := byteAt_eq_ok_iff.1 hversion
    requestResponseCode := byteAt_eq_ok_iff.1 hcode
    param1 := byteAt_eq_ok_iff.1 hparam1
    param2 := byteAt_eq_ok_iff.1 hparam2
    numberOfBlocks := byteAt_eq_ok_iff.1 hnumber
    recordLength := hlengthAt
    record := hrecordAt
    nonce := hnonceAt
    opaqueDataLength := hopaqueLengthAt
    opaqueData := hopaqueAt }
  exact ⟨text, _, hat.eq⟩

/-- A build without overflow checks decodes as one with them, where that one returns. -/
theorem unchecks_decode (bytes : Bytes) (signatureLength : ℕ) :
    (decode true bytes signatureLength).Unchecks (decode false bytes signatureLength) := by
  have hdata (offset length : ℕ) : (decodeOpaque true bytes offset length).Unchecks
      (decodeOpaque false bytes offset length) := by
    unfold decodeOpaque
    split
    · exact .bind (.refl _) fun _ => OpaqueData.unchecks_decode _
    · exact .refl _
  unfold decode
  iterate 11 refine .bind (.refl _) fun _ => ?_
  exact .bind (hdata _ _) fun _ => .bind (unchecks_addUsize _ _) fun _ => .refl _

end SpdmGetMeasurementsResponse

end Trustmee.Nvidia
