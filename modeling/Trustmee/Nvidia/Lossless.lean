import Trustmee.Foundations.Numbering
import Trustmee.Nvidia.SpdmMessage

/-!
# Decoding without loss

A message is decoded without loss where its response has every block of the record and every item of
the opaque data, and the claims a measurement for each block. The decoder loses what stands behind
the blocks that it counts, what pads them, and what is left of the opaque data in the last four
bytes. `lossless_iff` says of which messages none of these is true.
-/

namespace Trustmee.Nvidia

variable {bytes : Bytes} {signatureLength n : ℕ}

/-! ## The fields of a message -/

def recordLength (bytes : Bytes) : ℕ := leValue ((bytes.drop 5).take 3)

def recordField (bytes : Bytes) : Bytes := (bytes.drop 8).take (recordLength bytes)

def opaqueLength (bytes : Bytes) : ℕ := leValue ((bytes.drop (40 + recordLength bytes)).take 2)

def opaqueField (bytes : Bytes) : Bytes :=
  (bytes.drop (42 + recordLength bytes)).take (opaqueLength bytes)

section

variable (text : ResponseText) (rest : Bytes)

theorem recordLength_encode : recordLength (text.encode ++ rest) = text.record.length := by
  rw [recordLength, (text.at_encode rest).recordLength, List.take_left' (length_toLe 3 _),
    text.leValue_recordLength]

theorem recordField_encode : recordField (text.encode ++ rest) = text.record := by
  rw [recordField, recordLength_encode, (text.at_encode rest).record, List.take_left]

theorem opaqueLength_encode : opaqueLength (text.encode ++ rest) = text.opaqueData.length := by
  have hoffset : 40 + text.record.length = 8 + text.record.length + 32 := by omega
  rw [opaqueLength, recordLength_encode, hoffset, (text.at_encode rest).opaqueDataLength,
    List.take_left' (length_toLe 2 _), leValue_toLe text.length_opaqueData_lt]

theorem opaqueField_encode : opaqueField (text.encode ++ rest) = text.opaqueData := by
  have hoffset : 42 + text.record.length = 8 + text.record.length + 32 + 2 := by omega
  rw [opaqueField, recordLength_encode, opaqueLength_encode, hoffset,
    (text.at_encode rest).opaqueData, List.take_left]

end

/-! ## Without loss -/

/-- What the claims are made of. -/
def SpdmGetMeasurementsResponse.report (response : SpdmGetMeasurementsResponse) :
    NvidiaAttestationReport where
  measurementRecord := response.measurementRecord.map fun block =>
    (block.index, block.measurement.value)
  opaqueData := response.opaqueData

/-- A map has each item under the name of its type, and no other member. -/
structure KeepsItems (opaqueData : Json.Map) (items : List ItemText) : Prop where
  nodup : (items.map ItemText.type).Nodup
  value : ∀ item ∈ items, ∃ v, OpaqueData.itemData true item.type item.data = .ok v ∧
    opaqueData.get item.type.name = some v
  item : ∀ k, opaqueData.get k ≠ none → ∃ item ∈ items, item.type.name = k
  counts : ∀ item ∈ items, item.type = .MsrsCnt → ∃ counts : Json.Map,
    opaqueData.get OpaqueDataType.MsrsCnt.name = some (.object counts) ∧
      counts.length = item.data.length / 4 ∧ ∀ i < item.data.length / 4,
        counts.get (toString (i + 1)) =
          some (.number (.int (leValue ((item.data.drop (4 * i)).take 4))))

/-- A response has all that is in the message, up to its end. -/
structure Keeps (bytes : Bytes) (signatureLength : ℕ) (response : SpdmGetMeasurementsResponse)
    (n : ℕ) : Prop where
  length_eq : n = 42 + recordLength bytes + opaqueLength bytes + signatureLength
  length_le : n ≤ bytes.length
  numberOfBlocks : response.measurementRecord.length = response.numberOfBlocks
  record : response.measurementRecord.flatMap MeasurementBlock.encode = recordField bytes
  items : ∃ items, encodeItems items = opaqueField bytes ∧ KeepsItems response.opaqueData items
  measurements : ∀ device, ∃ measurements : Json.Map,
    (deviceClaims device response.report).get "measurements" = some (.object measurements) ∧
      measurements.length = response.measurementRecord.length ∧
        ∀ block ∈ response.measurementRecord, measurements.get (toString block.index.toNat) =
          some (.string (hexEncode block.measurement.value))

/-- Decoding neither panics nor wraps around, and nothing is lost. -/
def Lossless (bytes : Bytes) (signatureLength : ℕ) : Prop :=
  ∀ overflowChecks,
    (SpdmGetMeasurementsResponse.decode overflowChecks bytes signatureLength).Returns ∧
      ∀ response n, SpdmGetMeasurementsResponse.decode overflowChecks bytes signatureLength =
        .ok (response, n) → Keeps bytes signatureLength response n

/-- The record has its blocks and nothing else, no two with the same index. -/
structure ResponseText.Exact (text : ResponseText) : Prop where
  blocks : text.blocks.length = text.numberOfBlocks.toNat
  recordTail : text.recordTail = []
  padding : ∀ block ∈ text.blocks, block.padding = []
  indices : (text.blocks.map BlockText.index).Nodup

/-- Opaque data that are accepted, as items and what follows the last that is read. -/
structure Accepted (opaqueData : Bytes) (items : List ItemText) (tail : Bytes) : Prop where
  eq : opaqueData = encodeItems items ++ tail
  tiles : Tiles items tail
  readable : Readable items
  versions : opaqueData = [] ∨ HasVersions items

/-- The messages that nothing is lost of: the counts of an item can be numbered; and where the
opaque data are accepted and the signature is there, the record is exact and the items go up to the
end. -/
def Complete (bytes : Bytes) (signatureLength : ℕ) : Prop :=
  ∀ (text : ResponseText) (rest : Bytes), bytes = text.encode ++ rest →
    ¬ HasCountOverflow text.opaqueData ∧
      ∀ items tail, Accepted text.opaqueData items tail →
        text.encode.length + signatureLength < 2 ^ 64 ∧
          (signatureLength ≤ rest.length → text.Exact ∧ tail = [])

/-! ## Blocks -/

/-- The bytes of blocks are those of their measurements where nothing pads them. -/
theorem length_encodeBlocks (texts : List BlockText) : (encodeBlocks texts).length =
    ((texts.map BlockText.block).flatMap MeasurementBlock.encode).length +
      (texts.map fun text => text.padding.length).sum := by
  induction texts with
  | nil => rfl
  | cons text texts ih =>
    rw [encodeBlocks_cons, BlockText.encode, List.length_append, List.length_append, ih,
      List.map_cons, List.flatMap_cons, List.length_append, List.map_cons, List.sum_cons]
    omega

theorem flatMap_block_of_padding {texts : List BlockText} (h : ∀ text ∈ texts, text.padding = []) :
    (texts.map BlockText.block).flatMap MeasurementBlock.encode = encodeBlocks texts := by
  induction texts with
  | nil => rfl
  | cons text texts ih =>
    rw [List.forall_mem_cons] at h
    rw [List.map_cons, List.flatMap_cons, ih h.2, encodeBlocks_cons, BlockText.encode, h.1,
      List.append_nil]

/-- A record is written by its blocks exactly where nothing pads or follows them. -/
theorem flatMap_block_eq_record_iff (text : ResponseText) :
    (text.blocks.map BlockText.block).flatMap MeasurementBlock.encode = text.record ↔
      text.recordTail = [] ∧ ∀ block ∈ text.blocks, block.padding = [] := by
  constructor
  · intro h
    have hlengths := congrArg List.length h
    rw [ResponseText.record, List.length_append, length_encodeBlocks] at hlengths
    refine ⟨List.length_eq_zero_iff.1 (by omega), ?_⟩
    intro block hblock
    have hsum : (text.blocks.map fun text => text.padding.length).sum = 0 := by omega
    exact List.length_eq_zero_iff.1
      (List.sum_eq_zero_iff_forall_eq_nat.1 hsum _ (List.mem_map.2 ⟨block, hblock, rfl⟩))
  · rintro ⟨htail, hpadding⟩
    rw [ResponseText.record, htail, List.append_nil, flatMap_block_of_padding hpadding]

/-- The members of the measurements in the claims. -/
def measurementMembers (blocks : List MeasurementBlock) : List (String × Json) :=
  blocks.map fun block =>
    (toString block.index.toNat, .string (hexEncode block.measurement.value))

theorem get_measurements (device : NvDeviceReportAndCert) (response : SpdmGetMeasurementsResponse) :
    (deviceClaims device response.report).get "measurements" =
      some (.object (Json.Map.ofList (measurementMembers response.measurementRecord))) := by
  have hmembers : measurementMembers response.measurementRecord =
      response.report.measurementRecord.map fun block =>
        (toString block.1.toNat, .string (hexEncode block.2)) := by
    rw [SpdmGetMeasurementsResponse.report, List.map_map]
    rfl
  rw [hmembers]
  refine (Json.Map.get_extend_eq_some ?_).2 (.inl ?_)
  · simp only [List.map_cons, List.map_nil]
    decide
  · exact List.mem_cons_of_mem _ (List.mem_cons_of_mem _ List.mem_cons_self)

/-- The keys of measurements are told apart by the indices. -/
theorem nodup_measurementMembers_iff (blocks : List MeasurementBlock) :
    ((measurementMembers blocks).map Prod.fst).Nodup ↔
      (blocks.map MeasurementBlock.index).Nodup := by
  have hkeys : (measurementMembers blocks).map Prod.fst =
      (blocks.map MeasurementBlock.index).map fun index : UInt8 => toString index.toNat := by
    simp only [measurementMembers, List.map_map]
    rfl
  rw [hkeys, List.nodup_map_iff]
  intro index index' h
  exact UInt8.toNat_inj.1 (toString_injective h)

/-! ## Items -/

theorem ItemText.encode_append_inj {item item' : ItemText} {rest rest' : Bytes}
    (h : item.encode ++ rest = item'.encode ++ rest') : item = item' ∧ rest = rest' := by
  simp only [ItemText.encode, List.append_assoc] at h
  obtain ⟨hcode, h⟩ := List.append_inj h (by rw [length_toLe, length_toLe])
  obtain ⟨hlength, h⟩ := List.append_inj h (by rw [length_toLe, length_toLe])
  have hcode := congrArg leValue hcode
  rw [leValue_toLe item.type.code_lt, leValue_toLe item'.type.code_lt] at hcode
  have hlength := congrArg leValue hlength
  rw [leValue_toLe item.length_lt, leValue_toLe item'.length_lt] at hlength
  obtain ⟨hdata, hrest⟩ := List.append_inj h hlength
  have htype := OpaqueDataType.fromU16_eq_some_iff.2 ⟨item.type_ne, rfl⟩
  rw [hcode, OpaqueDataType.fromU16_eq_some_iff.2 ⟨item'.type_ne, rfl⟩] at htype
  cases item
  cases item'
  cases hdata
  cases htype
  exact ⟨rfl, hrest⟩

/-- Items that are written in the front of others are the first of these. -/
theorem exists_encodeItems_eq {items items' : List ItemText} {tail : Bytes}
    (h : encodeItems items' = encodeItems items ++ tail) :
    ∃ more, items' = items ++ more ∧ encodeItems more = tail := by
  induction items generalizing items' with
  | nil => exact ⟨items', rfl, h⟩
  | cons item items ih =>
    cases items' with
    | nil =>
      have hlengths := congrArg List.length h
      rw [encodeItems_cons, List.append_assoc, List.length_append, item.length_encode] at hlengths
      change 0 = _ at hlengths
      omega
    | cons item' items' =>
      rw [encodeItems_cons, encodeItems_cons, List.append_assoc] at h
      obtain ⟨rfl, hrest⟩ := ItemText.encode_append_inj h
      obtain ⟨more, rfl, htail⟩ := ih hrest
      exact ⟨more, rfl, htail⟩

/-- The counts of an item are all among the values. -/
theorem decodeMeasurementCount_eq_ok {data : Bytes} {v : Json}
    (h : OpaqueData.decodeMeasurementCount true data = .ok v) : ∃ counts : Json.Map,
      v = .object counts ∧ counts.length = data.length / 4 ∧ ∀ i < data.length / 4,
        counts.get (toString (i + 1)) =
          some (.number (.int (leValue ((data.drop (4 * i)).take 4)))) := by
  obtain ⟨hmod, hlt⟩ := exists_decodeMeasurementCount_iff.1 ⟨v, h⟩
  have hlength := OpaqueData.length_chunks (by decide) hmod
  unfold OpaqueData.decodeMeasurementCount at h
  rw [ensure_of hmod, Outcome.ok_bind, OpaqueData.insertCounts_of_le (by
    rw [hlength]
    change 1 + data.length / 4 ≤ 255
    omega)] at h
  have hkeys : (OpaqueData.countMembers 1 (OpaqueData.chunks 4 data)).map Prod.fst =
      (List.range' 1 (data.length / 4)).map fun i : ℕ => toString i := by
    rw [OpaqueData.countMembers, List.map_map, ← hlength, ← List.zipIdx_map_snd, List.map_map]
    rfl
  have hnodup : ((OpaqueData.countMembers 1 (OpaqueData.chunks 4 data)).map Prod.fst).Nodup := by
    rw [hkeys, List.nodup_map_iff fun _ _ => toString_injective]
    exact List.nodup_range'
  refine ⟨_, (Outcome.ok.inj h).symm, ?_, ?_⟩
  · change (Json.Map.ofList (OpaqueData.countMembers 1 _)).length = _
    rw [(Json.Map.length_ofList_iff _).2 hnodup, OpaqueData.countMembers, List.length_map,
      List.length_zipIdx, hlength]
  · intro i hi
    have hcount : (OpaqueData.chunks 4 data).length =
        (data.length + 4 - 1) / 4 := by rw [OpaqueData.chunks, List.length_map, List.length_range]
    refine (Json.Map.get_extend_eq_some hnodup).2 (.inl (List.mem_map.2 ⟨(_, i + 1), ?_, rfl⟩))
    rw [List.mem_zipIdx_iff_le_and_getElem?_sub]
    refine ⟨Nat.le_add_left 1 i, ?_⟩
    rw [Nat.add_sub_cancel, OpaqueData.chunks, List.getElem?_map,
      List.getElem?_range (by omega)]
    rfl

variable {items : List ItemText} {opaqueData : Json.Map}

/-- The items that are read are kept. -/
theorem ReadAll.keepsItems (h : ReadAll true [] items opaqueData) :
    KeepsItems opaqueData items where
  nodup := h.nodup.1
  value _ := h.get_of_mem
  item k hk := by
    by_contra hnot
    rw [h.get_of_ne fun item hitem hname => hnot ⟨item, hitem, hname⟩] at hk
    exact hk (Json.Map.get_nil k)
  counts item hitem htype := by
    obtain ⟨v, hv, hget⟩ := h.get_of_mem hitem
    rw [htype] at hv hget
    obtain ⟨counts, rfl, hcounts⟩ := decodeMeasurementCount_eq_ok hv
    exact ⟨counts, hget, hcounts⟩

/-- Where the map keeps items that are written with more behind them, there is nothing behind
them. -/
theorem ReadAll.eq_nil_of_keepsItems {items' : List ItemText} {tail : Bytes}
    (h : ReadAll true [] items opaqueData) (hkeeps : KeepsItems opaqueData items')
    (hencode : encodeItems items' = encodeItems items ++ tail) : tail = [] := by
  obtain ⟨more, rfl, rfl⟩ := exists_encodeItems_eq hencode
  cases more with
  | nil => rfl
  | cons item more =>
    have hmem : item ∈ items ++ item :: more :=
      List.mem_append_right items List.mem_cons_self
    obtain ⟨v, -, hget⟩ := hkeeps.value item hmem
    obtain ⟨item', hitem', htype⟩ := (h.isSome_get_iff item.type).1 (by rw [hget]; rfl)
    have hnodup := hkeeps.nodup
    rw [List.map_append, List.nodup_append] at hnodup
    exact absurd htype (hnodup.2.2 _ (List.mem_map.2 ⟨item', hitem', rfl⟩) _
      (List.mem_map.2 ⟨item, List.mem_cons_self, rfl⟩))

/-- The items of accepted opaque data are read. -/
theorem Accepted.exists_readAll {data tail : Bytes} (h : Accepted data items tail) :
    ∃ opaqueData, OpaqueData.decode true data = .ok opaqueData ∧
      ReadAll true [] items opaqueData := by
  obtain ⟨opaqueData, hread⟩ :=
    exists_readAll_iff.2 ⟨h.readable, fun item _ => Json.Map.get_nil item.type.name⟩
  exact ⟨opaqueData,
    OpaqueData.decode_eq_ok_iff.2 ⟨items, tail, h.eq, h.tiles, hread, h.versions⟩, hread⟩

theorem exists_accepted {data : Bytes} (h : OpaqueData.decode true data = .ok opaqueData) :
    ∃ items tail, Accepted data items tail ∧ ReadAll true [] items opaqueData := by
  obtain ⟨items, tail, heq, htiles, hread, hversions⟩ := OpaqueData.decode_eq_ok_iff.1 h
  exact ⟨items, tail,
    ⟨heq, htiles, (exists_readAll_iff.1 ⟨opaqueData, hread⟩).1, hversions⟩, hread⟩

/-! ## Messages -/

/-- What a response keeps of the text it is decoded from. -/
theorem keeps_response_iff {text : ResponseText} {rest signature tail : Bytes}
    (hread : ReadAll true [] items opaqueData) (heq : text.opaqueData = encodeItems items ++ tail)
    (hle : signatureLength ≤ rest.length) :
    Keeps (text.encode ++ rest) signatureLength (text.response opaqueData signature)
        (text.encode.length + signatureLength) ↔ text.Exact ∧ tail = [] := by
  have hindices : ((text.blocks.map BlockText.block).map MeasurementBlock.index) =
      text.blocks.map BlockText.index := by
    rw [List.map_map]
    rfl
  have hmembers : (measurementMembers (text.blocks.map BlockText.block)).length =
      (text.blocks.map BlockText.block).length := List.length_map _
  constructor
  · intro h
    have hblocks := h.numberOfBlocks
    have hrecord := h.record
    rw [recordField_encode] at hrecord
    obtain ⟨htail, hpadding⟩ := (flatMap_block_eq_record_iff text).1 hrecord
    obtain ⟨items', hencode, hkeeps⟩ := h.items
    rw [opaqueField_encode, heq] at hencode
    obtain ⟨measurements, hget, hlength, -⟩ := h.measurements ⟨.Hopper, "", "", ""⟩
    rw [get_measurements, Option.some.injEq, Json.object.injEq] at hget
    subst hget
    refine ⟨⟨?_, htail, hpadding, ?_⟩, hread.eq_nil_of_keepsItems hkeeps hencode⟩
    · exact (List.length_map _).symm.trans hblocks
    · rw [← hindices, ← nodup_measurementMembers_iff, ← Json.Map.length_ofList_iff, hmembers]
      exact hlength
  · rintro ⟨hexact, rfl⟩
    have hnodup : ((measurementMembers (text.blocks.map BlockText.block)).map Prod.fst).Nodup := by
      rw [nodup_measurementMembers_iff, hindices]
      exact hexact.indices
    refine {
      length_eq := ?_
      length_le := ?_
      numberOfBlocks := (List.length_map _).trans hexact.blocks
      record := ?_
      items := ⟨items, ?_, hread.keepsItems⟩
      measurements := fun device => ⟨_, get_measurements device _, ?_, ?_⟩ }
    · rw [recordLength_encode, opaqueLength_encode, text.length_encode]
    · rw [List.length_append]
      omega
    · rw [recordField_encode]
      exact (flatMap_block_eq_record_iff text).2 ⟨hexact.recordTail, hexact.padding⟩
    · rw [opaqueField_encode, heq, List.append_nil]
    · exact ((Json.Map.length_ofList_iff _).2 hnodup).trans hmembers
    · intro block hblock
      exact (Json.Map.get_extend_eq_some hnodup).2 (.inl (List.mem_map.2 ⟨block, hblock, rfl⟩))

/-- A text with accepted opaque data is decoded where its signature ends inside. -/
theorem decode_of_readAll {text : ResponseText} {rest : Bytes}
    (hdecode : OpaqueData.decode true text.opaqueData = .ok opaqueData)
    (hlt : text.encode.length + signatureLength < 2 ^ 64) :
    SpdmGetMeasurementsResponse.decode true (text.encode ++ rest) signatureLength =
      (Outcome.okOr (getRange (text.encode ++ rest) text.encode.length
          (text.encode.length + signatureLength)) "Signature overflow" >>= fun signature =>
        .ok (text.response opaqueData signature, text.encode.length + signatureLength)) := by
  rw [text.decode_encode, hdecode, Outcome.ok_bind, addUsize_of_lt hlt, Outcome.ok_bind]

/-- The decoder of a text returns where the counts of its items can be numbered, and where the end
of the signature can be computed. -/
theorem ResponseText.returns_decode_iff (text : ResponseText) (rest : Bytes)
    (signatureLength : ℕ) :
    (SpdmGetMeasurementsResponse.decode true (text.encode ++ rest) signatureLength).Returns ↔
      ¬ HasCountOverflow text.opaqueData ∧ ∀ items tail, Accepted text.opaqueData items tail →
        text.encode.length + signatureLength < 2 ^ 64 := by
  rw [text.decode_encode, Outcome.returns_bind_iff]
  have hopaqueData : (OpaqueData.decode true text.opaqueData).Returns ↔
      ¬ HasCountOverflow text.opaqueData := by
    rw [← not_iff_not, not_not, OpaqueData.not_returns_decode_iff, and_iff_right rfl]
  refine and_congr hopaqueData ⟨?_, ?_⟩
  · intro h items tail haccepted
    obtain ⟨opaqueData, hdecode, -⟩ := haccepted.exists_readAll
    have hrest := (Outcome.returns_bind_iff.1 (h opaqueData hdecode)).1
    exact (returns_addUsize_iff.1 hrest).resolve_right (by simp)
  · intro h opaqueData hdecode
    obtain ⟨items, tail, haccepted, -⟩ := exists_accepted hdecode
    apply (returns_addUsize_iff.2 (.inl (h items tail haccepted))).bind
    intro stop _
    exact (Outcome.returns_okOr _ _).bind fun _ _ => Outcome.returns_ok _

/-- Of a message that is decoded without loss, nothing is lost. -/
theorem Lossless.complete (h : Lossless bytes signatureLength) :
    Complete bytes signatureLength := by
  intro text rest hbytes
  subst hbytes
  obtain ⟨hreturns, hkeeps⟩ := h true
  obtain ⟨hcounts, hstop⟩ := (text.returns_decode_iff rest signatureLength).1 hreturns
  refine ⟨hcounts, ?_⟩
  intro items tail haccepted
  have hlt := hstop items tail haccepted
  refine ⟨hlt, fun hle => ?_⟩
  obtain ⟨opaqueData, hdecode, hread⟩ := haccepted.exists_readAll
  have hinside : text.encode.length + signatureLength ≤ (text.encode ++ rest).length := by
    rw [List.length_append]
    omega
  obtain ⟨signature, hsignature⟩ : ∃ signature, getRange (text.encode ++ rest)
      text.encode.length (text.encode.length + signatureLength) = some signature :=
    ⟨_, getRange_eq_some.2 ⟨Nat.le_add_right _ _, hinside, rfl⟩⟩
  have hok : SpdmGetMeasurementsResponse.decode true (text.encode ++ rest) signatureLength =
      .ok (text.response opaqueData signature, text.encode.length + signatureLength) := by
    rw [decode_of_readAll hdecode hlt, hsignature]
    rfl
  exact (keeps_response_iff hread haccepted.eq hle).1 (hkeeps _ _ hok)

/-- Nothing is lost of a message that is complete. -/
theorem Complete.lossless (h : Complete bytes signatureLength) :
    Lossless bytes signatureLength := by
  intro overflowChecks
  have hchecked :
      (SpdmGetMeasurementsResponse.decode true bytes signatureLength).Returns ∧
        ∀ response n, SpdmGetMeasurementsResponse.decode true bytes signatureLength =
          .ok (response, n) → Keeps bytes signatureLength response n := by
    by_cases herr : ∃ e, SpdmGetMeasurementsResponse.decode true bytes signatureLength = .err e
    · obtain ⟨e, he⟩ := herr
      rw [he]
      exact ⟨fun _ => Outcome.err_ne_panic, nofun⟩
    · obtain ⟨text, rest, rfl⟩ := SpdmGetMeasurementsResponse.exists_responseText fun e he =>
        herr ⟨e, he⟩
      obtain ⟨hcounts, hexact⟩ := h text rest rfl
      have hreturns := (text.returns_decode_iff rest signatureLength).2
        ⟨hcounts, fun items tail haccepted => (hexact items tail haccepted).1⟩
      refine ⟨hreturns, ?_⟩
      intro response n hok
      rw [text.decode_encode] at hok
      obtain ⟨opaqueData, hdecode, -⟩ := Outcome.bind_eq_ok.1 hok
      obtain ⟨items, tail, haccepted, hread⟩ := exists_accepted hdecode
      obtain ⟨hlt, hexact⟩ := hexact items tail haccepted
      rw [← text.decode_encode, decode_of_readAll hdecode hlt] at hok
      simp only [Outcome.bind_eq_ok, Outcome.okOr_eq_ok, Outcome.ok.injEq, Prod.mk.injEq] at hok
      obtain ⟨signature, hsignature, rfl, rfl⟩ := hok
      obtain ⟨-, hstop, -⟩ := getRange_eq_some.1 hsignature
      rw [List.length_append] at hstop
      have hle : signatureLength ≤ rest.length := by omega
      exact (keeps_response_iff hread haccepted.eq hle).2 (hexact hle)
  cases overflowChecks with
  | true => exact hchecked
  | false =>
    rw [SpdmGetMeasurementsResponse.unchecks_decode bytes signatureLength hchecked.1]
    exact hchecked

/-- **Messages are decoded without loss exactly where they are complete.** -/
theorem lossless_iff (bytes : Bytes) (signatureLength : ℕ) :
    Lossless bytes signatureLength ↔ Complete bytes signatureLength :=
  ⟨Lossless.complete, Complete.lossless⟩

/-- A message whose last item has no data. -/
def emptyLastItem : ResponseText where
  requestResponseCode := 0x60
  param1 := 0
  param2 := 0
  numberOfBlocks := 0
  blocks := []
  recordTail := []
  nonce := List.replicate 32 0
  opaqueData := [6, 0, 1, 0, 0x96, 3, 0, 1, 0, 0x35, 4, 0, 0, 0]
  length_blocks := .inl rfl
  length_record_lt := by decide
  length_nonce := rfl
  length_opaqueData_lt := by decide

/-- Its last item is lost. -/
theorem not_lossless_emptyLastItem :
    ¬ Lossless (emptyLastItem.encode ++ List.replicate 96 0) 96 := by
  intro h
  obtain ⟨-, hexact⟩ := h.complete emptyLastItem _ rfl
  let vbios : ItemText := ⟨.VbiosVersion, [0x96], by decide, by decide⟩
  let driver : ItemText := ⟨.DriverVersion, [0x35], by decide, by decide⟩
  have haccepted : Accepted emptyLastItem.opaqueData [vbios, driver] [4, 0, 0, 0] := {
    eq := by decide
    tiles := ⟨by decide, by decide, Nat.le_refl 4⟩
    readable := ⟨by decide, by simp [vbios, driver, ItemText.WellSized], by
      simp [vbios, driver, OpaqueData.TooManyCounts]⟩
    versions := .inr ⟨⟨vbios, by simp, rfl⟩, driver, by simp, rfl⟩ }
  obtain ⟨-, htail⟩ := hexact _ _ haccepted
  exact absurd (htail (Nat.le_of_eq (List.length_replicate ..).symm)).2 (by decide)

end Trustmee.Nvidia
