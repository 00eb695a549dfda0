import Trustmee.Nvidia.SpdmResponse

/-!
# What SPDM responses are read from

The texts that the decoder of responses accepts, part by part, and what it makes of them. A block
may have padding behind its measurement, a record may go on behind its blocks, and up to four bytes
of the opaque data may follow the last item that is read: the decoder looks at none of these.
-/

namespace Trustmee.Nvidia

/-! ## Blocks -/

/-- A measurement block as it is written: a measurement, and what pads it. -/
structure BlockText where
  index : UInt8
  type : UInt8
  value : Bytes
  padding : Bytes
  length_lt : 3 + value.length + padding.length < 256 ^ 2

/-- The bytes of a measurement. -/
def DmtfMeasurement.encode (measurement : DmtfMeasurement) : Bytes :=
  measurement.type :: (toLe 2 measurement.size ++ measurement.value)

/-- The bytes of a block. -/
def MeasurementBlock.encode (block : MeasurementBlock) : Bytes :=
  block.index :: block.measurementSpecification ::
    (toLe 2 block.measurementSize ++ block.measurement.encode)

namespace BlockText

def measurement (text : BlockText) : DmtfMeasurement := ⟨text.type, text.value.length, text.value⟩

def size (text : BlockText) : ℕ := 3 + text.value.length + text.padding.length

/-- The block that is decoded. -/
def block (text : BlockText) : MeasurementBlock :=
  ⟨text.index, DMTF_MEASUREMENT_SPECIFICATION_VALUE, text.size, text.measurement⟩

def encode (text : BlockText) : Bytes := text.block.encode ++ text.padding

end BlockText

/-- The bytes of blocks. -/
def encodeBlocks (texts : List BlockText) : Bytes := texts.flatMap BlockText.encode

variable {bytes : Bytes} {offset n : ℕ}

/-- A measurement is the start of its bytes. -/
theorem DmtfMeasurement.decode_eq_ok_iff {m : DmtfMeasurement} :
    DmtfMeasurement.decode bytes = .ok m ↔
      m.size = m.value.length ∧ m.size < 256 ^ 2 ∧ ∃ padding, bytes = m.encode ++ padding := by
  simp only [DmtfMeasurement.decode, Outcome.bind_eq_ok, Outcome.ensure_eq_ok, decide_eq_true_eq,
    Outcome.okOr_eq_ok, Outcome.pure_eq, Outcome.ok.injEq]
  constructor
  · rintro ⟨_, hlen, type, htype, array, harray, value, hvalue, rfl⟩
    have htypeAt : bytes = type :: bytes.drop 1 := byteAt_eq_ok_iff.1 htype
    have harray : slice bytes 1 (1 + 2) = .ok array := harray
    obtain ⟨hsize, hsizeAt⟩ := (slice_toLe_iff (by omega)).1 ⟨array, harray, rfl⟩
    obtain ⟨hlength, hvalueAt⟩ := (getRange_eq_some_iff hlen).1 hvalue
    refine ⟨hlength.symm, hsize, bytes.drop (3 + leValue array), ?_⟩
    rw [hsizeAt, hvalueAt] at htypeAt
    rw [DmtfMeasurement.encode, List.cons_append, List.append_assoc]
    exact htypeAt
  · rintro ⟨hsize, hlt, padding, rfl⟩
    have hlen : 3 ≤ (m.encode ++ padding).length := by
      rw [DmtfMeasurement.encode, List.length_append, List.length_cons, List.length_append,
        length_toLe]
      omega
    have hsizeAt : (m.encode ++ padding).drop 1 = toLe 2 m.size ++ (m.value ++ padding) := by
      rw [DmtfMeasurement.encode, List.cons_append, List.drop_one, List.tail_cons,
        List.append_assoc]
    have hvalueAt := drop_of_append hsizeAt (length_toLe 2 _)
    rw [← hvalueAt] at hsizeAt
    obtain ⟨array, harray, hvalue⟩ := (slice_toLe_iff (by omega)).2 ⟨hlt, hsizeAt⟩
    have hpaddingAt := drop_of_append hvalueAt rfl
    refine ⟨(), hlen, m.type, byteAt_eq_ok_iff.2 rfl, array, harray, m.value, ?_, ?_⟩
    · rw [hvalue, hsize]
      exact (getRange_eq_some_iff hlen).2 ⟨rfl, by rw [hpaddingAt, hvalueAt]⟩
    · rw [hvalue]

theorem DmtfMeasurement.returns_decode (bytes : Bytes) :
    (DmtfMeasurement.decode bytes).Returns := by
  apply returns_ensure_bind
  intro hlen
  apply returns_byteAt_bind (by omega)
  intro type
  apply returns_slice_bind (by omega) hlen
  intro array _
  apply (Outcome.returns_okOr _ _).bind
  intro value _
  exact Outcome.returns_ok _

theorem BlockText.encode_eq (text : BlockText) : text.encode =
    text.index :: DMTF_MEASUREMENT_SPECIFICATION_VALUE ::
      (toLe 2 text.size ++ (text.measurement.encode ++ text.padding)) := by
  rw [BlockText.encode, BlockText.block, MeasurementBlock.encode, List.cons_append,
    List.cons_append, List.append_assoc]

theorem BlockText.length_data (text : BlockText) :
    (text.measurement.encode ++ text.padding).length = text.size := by
  rw [DmtfMeasurement.encode, List.length_append, List.length_cons, List.length_append,
    length_toLe, BlockText.size]
  dsimp only [BlockText.measurement]
  omega

theorem BlockText.leValue_size (text : BlockText) : leValue (toLe 2 text.size) = text.size :=
  leValue_toLe text.length_lt

theorem encodeBlocks_cons (text : BlockText) (texts : List BlockText) :
    encodeBlocks (text :: texts) = text.encode ++ encodeBlocks texts := List.flatMap_cons

theorem encodeBlocks_eq_nil_iff {texts : List BlockText} :
    encodeBlocks texts = [] ↔ texts = [] := by
  cases texts with
  | nil => exact iff_of_true rfl rfl
  | cons text texts =>
    rw [encodeBlocks_cons, BlockText.encode_eq]
    exact iff_of_false (by simp) (by simp)

/-- A block that stands at an offset, and what stands behind it. -/
theorem exists_blockText (index : UInt8) {data : Bytes} {measurement : DmtfMeasurement}
    (hlt : data.length < 256 ^ 2) (h : DmtfMeasurement.decode data = .ok measurement) :
    ∃ text : BlockText, text.block =
        ⟨index, DMTF_MEASUREMENT_SPECIFICATION_VALUE, data.length, measurement⟩ ∧
      text.encode =
        index :: DMTF_MEASUREMENT_SPECIFICATION_VALUE :: (toLe 2 data.length ++ data) := by
  obtain ⟨hsize, -, padding, rfl⟩ := DmtfMeasurement.decode_eq_ok_iff.1 h
  obtain ⟨type, size, value⟩ := measurement
  obtain rfl : size = value.length := hsize
  have hlength : (DmtfMeasurement.encode ⟨type, value.length, value⟩ ++ padding).length =
      3 + value.length + padding.length := by
    rw [DmtfMeasurement.encode, List.length_append, List.length_cons, List.length_append,
      length_toLe]
    dsimp only
    omega
  have hlt' : 3 + value.length + padding.length < 256 ^ 2 := by
    rw [← hlength]
    exact hlt
  refine ⟨⟨index, type, value, padding, hlt'⟩, ?_, ?_⟩
  · rw [hlength]
    rfl
  · rw [BlockText.encode_eq, hlength]
    rfl

theorem BlockText.decode_measurement (text : BlockText) :
    DmtfMeasurement.decode (text.measurement.encode ++ text.padding) = .ok text.measurement := by
  have hlt := text.length_lt
  refine DmtfMeasurement.decode_eq_ok_iff.2 ⟨rfl, ?_, text.padding, rfl⟩
  exact lt_of_le_of_lt (by dsimp only [BlockText.measurement]; omega) hlt

/-- **The blocks that are decoded are the ones that are written**, as many as are asked for. -/
theorem decodeBlocks_eq_ok_iff {blocks : List MeasurementBlock} (h : offset ≤ bytes.length) :
    MeasurementRecord.decodeBlocks bytes n offset = .ok blocks ↔
      ∃ texts : List BlockText, texts.length = n ∧ blocks = texts.map BlockText.block ∧
        ∃ rest, bytes.drop offset = encodeBlocks texts ++ rest := by
  induction n generalizing offset blocks with
  | zero =>
    rw [MeasurementRecord.decodeBlocks, Outcome.ok.injEq]
    constructor
    · rintro rfl
      exact ⟨[], rfl, rfl, _, rfl⟩
    · rintro ⟨texts, hlength, rfl, -⟩
      rw [List.length_eq_zero_iff.1 hlength]
      rfl
  | succ n ih =>
    simp only [MeasurementRecord.decodeBlocks, Outcome.bind_eq_ok, Outcome.ensure_eq_ok,
      decide_eq_true_eq, Outcome.okOr_eq_ok, Outcome.pure_eq, Outcome.ok.injEq]
    constructor
    · rintro ⟨_, hlen, index, hindex, _, hspec, _, rfl, array, harray, data, hdata, measurement,
        hmeasurement, blocks', hblocks', rfl⟩
      have hindexAt := byteAt_eq_ok_iff.1 hindex
      rw [byteAt_eq_ok_iff.1 hspec] at hindexAt
      obtain ⟨hlt, hsizeAt⟩ := (slice_toLe_iff (by omega)).1 ⟨array, harray, rfl⟩
      obtain ⟨hlength, hdataAt⟩ := (getRange_eq_some_iff (by omega)).1 hdata
      have hinside := length_of_drop hdataAt (by omega)
      obtain ⟨texts, rfl, rfl, rest, hrest⟩ := (ih (by omega)).1 hblocks'
      rw [← hlength] at hlt
      obtain ⟨text, hblock, htext⟩ := exists_blockText index hlt hmeasurement
      refine ⟨text :: texts, rfl, ?_, rest, ?_⟩
      · rw [List.map_cons, hblock, hlength]
      · rw [hindexAt, encodeBlocks_cons, htext, hsizeAt, hdataAt, hrest, hlength]
        simp only [List.cons_append, List.append_assoc]
    · rintro ⟨texts, hlength, rfl, rest, hdrop⟩
      obtain ⟨text, texts, rfl⟩ := List.exists_cons_of_length_eq_add_one hlength
      have hindexAt := hdrop
      rw [encodeBlocks_cons, List.append_assoc, BlockText.encode_eq, List.cons_append,
        List.cons_append, List.append_assoc] at hindexAt
      have hspecAt := drop_succ_of_drop hindexAt
      have hsizeAt := drop_succ_of_drop hspecAt
      have hdataAt := drop_of_append hsizeAt (length_toLe 2 _)
      have hrestAt := drop_of_append hdataAt text.length_data
      have hlen : offset + 4 ≤ bytes.length := by
        have hlengths := congrArg List.length hindexAt
        rw [List.length_drop, List.length_cons, List.length_cons, List.length_append,
          length_toLe] at hlengths
        omega
      have hinside := length_of_drop hdataAt hlen
      rw [text.length_data] at hinside
      refine ⟨(), hlen, text.index, byteAt_of_drop hindexAt, _, byteAt_of_drop hspecAt, (), rfl,
        toLe 2 text.size, slice_of_drop (by omega) hsizeAt (length_toLe 2 _), _, ?_,
        text.measurement, text.decode_measurement, texts.map BlockText.block, ?_, ?_⟩
      · rw [text.leValue_size]
        exact getRange_of_drop hlen hdataAt text.length_data
      · rw [text.leValue_size]
        exact (ih (by omega)).2 ⟨texts, by simpa using hlength, rfl, rest, hrestAt⟩
      · rw [text.leValue_size]
        rfl

theorem MeasurementRecord.decode_eq_ok_iff {blocks : List MeasurementBlock} :
    MeasurementRecord.decode n bytes = .ok blocks ↔
      ∃ texts : List BlockText, texts.length = n ∧ blocks = texts.map BlockText.block ∧
        ∃ rest, bytes = encodeBlocks texts ++ rest := by
  have hiff : MeasurementRecord.decodeBlocks bytes n 0 = .ok blocks ↔
      ∃ texts : List BlockText, texts.length = n ∧ blocks = texts.map BlockText.block ∧
        ∃ rest, bytes.drop 0 = encodeBlocks texts ++ rest := decodeBlocks_eq_ok_iff (Nat.zero_le _)
  rw [List.drop_zero] at hiff
  rw [← hiff, MeasurementRecord.decode]
  split
  · next hzero =>
    subst hzero
    rfl
  · rfl

theorem returns_decodeBlocks (h : offset ≤ bytes.length) :
    (MeasurementRecord.decodeBlocks bytes n offset).Returns := by
  induction n generalizing offset with
  | zero => exact Outcome.returns_ok _
  | succ n ih =>
    apply returns_ensure_bind
    intro hlen
    apply returns_byteAt_bind (by omega)
    intro index
    apply returns_byteAt_bind (by omega)
    intro specification
    apply returns_ensure_bind
    intro _
    apply returns_slice_bind (by omega) (by omega)
    intro array _
    apply (Outcome.returns_okOr _ _).bind
    intro data hdata
    rw [Outcome.okOr_eq_ok] at hdata
    obtain ⟨-, hinside, -⟩ := getRange_eq_some.1 hdata
    apply (DmtfMeasurement.returns_decode data).bind
    intro measurement _
    apply (ih hinside).bind
    intro blocks _
    exact Outcome.returns_ok _

/-! ## Items -/

namespace OpaqueDataType

/-- The number of a type. -/
def code : OpaqueDataType → ℕ
  | CertIssuerName => 1
  | CertAuthorityKeyIdentifier => 2
  | DriverVersion => 3
  | GpuInfo => 4
  | IdSku => 5
  | VbiosVersion => 6
  | ManufacturerId => 7
  | TamperDetection => 8
  | Smc => 9
  | Vpr => 10
  | Nvdec0Status => 11
  | MsrsCnt => 12
  | CprInfo => 13
  | BoardId => 14
  | ChipSku => 15
  | ChipSkuMod => 16
  | Project => 17
  | ProjectSku => 18
  | ProjectSkuMod => 19
  | Fwid => 20
  | ProtectedPcieStatus => 21
  | SwitchPdi => 22
  | FloorsweptPorts => 23
  | PositionId => 24
  | LockSwitchStatus => 25
  | GpuLinkConn => 32
  | Invalid => 255

theorem code_lt (type : OpaqueDataType) : type.code < 256 ^ 2 := by
  cases type <;> decide

/-- Every type but the invalid one is read from its number. -/
theorem fromU16_eq_some_iff {code : ℕ} {type : OpaqueDataType} :
    fromU16 code = some type ↔ type ≠ Invalid ∧ code = type.code := by
  constructor
  · intro h
    unfold fromU16 at h
    split at h <;> cases h <;> exact ⟨by decide, rfl⟩
  · rintro ⟨hvalid, rfl⟩
    cases type with
    | Invalid => exact absurd rfl hvalid
    | _ => rfl

/-- Types are told apart by their names. -/
theorem name_injective {type type' : OpaqueDataType} (h : type.name = type'.name) :
    type = type' := by
  cases type <;> cases type' <;> first | rfl | exact absurd h (by decide)

end OpaqueDataType

/-- An item of the opaque data as it is written. -/
structure ItemText where
  type : OpaqueDataType
  data : Bytes
  type_ne : type ≠ .Invalid
  length_lt : data.length < 256 ^ 2

def ItemText.encode (item : ItemText) : Bytes :=
  toLe 2 item.type.code ++ (toLe 2 item.data.length ++ item.data)

/-- The bytes of items. -/
def encodeItems (items : List ItemText) : Bytes := items.flatMap ItemText.encode

theorem ItemText.length_encode (item : ItemText) : item.encode.length = 4 + item.data.length := by
  rw [ItemText.encode, List.length_append, List.length_append, length_toLe, length_toLe]
  omega

theorem encodeItems_cons (item : ItemText) (items : List ItemText) :
    encodeItems (item :: items) = item.encode ++ encodeItems items := List.flatMap_cons

/-- The items in front of a rest that the loop reads: more than four bytes are left in front of each,
and no more behind the last. -/
def Tiles : List ItemText → Bytes → Prop
  | [], rest => rest.length ≤ 4
  | item :: items, rest => 0 < item.data.length + (encodeItems items ++ rest).length ∧
      Tiles items rest

/-- The values of items are added to a map one after the other, none under a name that is there. -/
def ReadAll (overflowChecks : Bool) : Json.Map → List ItemText → Json.Map → Prop
  | m, [], m' => m' = m
  | m, item :: items, m' => ∃ v, OpaqueData.itemData overflowChecks item.type item.data = .ok v ∧
      m.get item.type.name = none ∧ ReadAll overflowChecks (m.insert item.type.name v) items m'

variable {overflowChecks : Bool} {m m' : Json.Map} {fuel : ℕ}

/-- The loop of `OpaqueData::decode` at an item. -/
theorem decodeItems_of_drop (item : ItemText) {rest : Bytes}
    (h : bytes.drop offset = item.encode ++ rest) (hrest : 0 < item.data.length + rest.length) :
    OpaqueData.decodeItems overflowChecks bytes (fuel + 1) offset m =
      OpaqueData.itemData overflowChecks item.type item.data >>= fun data =>
        Outcome.ensure (m.get item.type.name = none)
          ("Duplicated OpaqueDataType: " ++ item.type.name) >>= fun _ =>
            OpaqueData.decodeItems overflowChecks bytes fuel (offset + item.encode.length)
              (m.insert item.type.name data) := by
  have hlen : offset + 4 < bytes.length := by
    have hlengths := congrArg List.length h
    rw [List.length_drop, List.length_append, item.length_encode] at hlengths
    omega
  rw [ItemText.encode, List.append_assoc, List.append_assoc] at h
  have hsizeAt := drop_of_append h (length_toLe 2 _)
  have hdataAt := drop_of_append hsizeAt (length_toLe 2 _)
  have hnext : offset + item.encode.length = offset + 2 + 2 + item.data.length := by
    rw [item.length_encode]
    omega
  rw [OpaqueData.decodeItems, if_pos hlen, slice_of_drop (by omega) h (length_toLe 2 _),
    Outcome.ok_bind, leValue_toLe item.type.code_lt]
  dsimp only
  rw [OpaqueDataType.fromU16_eq_some_iff.2 ⟨item.type_ne, rfl⟩, Outcome.okOr, Outcome.ok_bind,
    slice_of_drop (by omega) hsizeAt (length_toLe 2 _), Outcome.ok_bind,
    leValue_toLe item.length_lt, getRange_of_drop (by omega) hdataAt rfl, Outcome.okOr,
    Outcome.ok_bind, hnext]

/-- Where the loop goes on, an item stands there, or it ends with an error. -/
theorem exists_item_or_bail (hlen : offset + 4 < bytes.length) :
    (∃ (item : ItemText) (rest : Bytes), bytes.drop offset = item.encode ++ rest ∧
      0 < item.data.length + rest.length) ∨
    ∃ e, OpaqueData.decodeItems overflowChecks bytes (fuel + 1) offset m = .err e := by
  obtain ⟨array, harray⟩ : ∃ array, slice bytes offset (offset + 2) = .ok array :=
    ⟨_, slice_of_le (by omega) (by omega)⟩
  obtain ⟨array', harray'⟩ : ∃ array, slice bytes (offset + 2) (offset + 2 + 2) = .ok array :=
    ⟨_, slice_of_le (by omega) (by omega)⟩
  obtain ⟨-, hcodeAt⟩ := (slice_toLe_iff (by omega)).1 ⟨array, harray, rfl⟩
  obtain ⟨hsize, hsizeAt⟩ := (slice_toLe_iff (by omega)).1 ⟨array', harray', rfl⟩
  rw [OpaqueData.decodeItems, if_pos hlen, harray, Outcome.ok_bind]
  dsimp only
  cases htype : OpaqueDataType.fromU16 (leValue array) with
  | none => exact .inr ⟨_, rfl⟩
  | some type =>
    rw [Outcome.okOr, Outcome.ok_bind, harray', Outcome.ok_bind]
    cases hdata : getRange bytes (offset + 2 + 2) (offset + 2 + 2 + leValue array') with
    | none => exact .inr ⟨_, rfl⟩
    | some data =>
      obtain ⟨hvalid, hcode⟩ := OpaqueDataType.fromU16_eq_some_iff.1 htype
      obtain ⟨hlength, hdataAt⟩ := (getRange_eq_some_iff (by omega)).1 hdata
      have hinside := length_of_drop hdataAt (by omega)
      rw [← hlength] at hsize hsizeAt hdataAt
      rw [hsizeAt, hdataAt, hcode] at hcodeAt
      refine .inl ⟨⟨type, data, hvalid, hsize⟩, bytes.drop (offset + 2 + 2 + data.length), ?_, ?_⟩
      · rw [hcodeAt, ItemText.encode, List.append_assoc, List.append_assoc]
      · rw [List.length_drop]
        dsimp only
        omega

theorem decodeItems_of_not_lt (hlen : ¬ offset + 4 < bytes.length) :
    OpaqueData.decodeItems overflowChecks bytes fuel offset m = .ok m := by
  cases fuel with
  | zero => rfl
  | succ fuel => rw [OpaqueData.decodeItems, if_neg hlen]

/-- The length of what stands at an offset, in items and a rest. -/
theorem length_items {item : ItemText} {items : List ItemText} {rest : Bytes}
    (h : bytes.drop offset = encodeItems (item :: items) ++ rest) :
    bytes.length - offset = 4 + item.data.length + (encodeItems items ++ rest).length := by
  have hlengths := congrArg List.length h
  rw [encodeItems_cons, List.append_assoc, List.length_append, item.length_encode,
    List.length_drop] at hlengths
  exact hlengths

/-- **The items that are decoded are the ones that are written**, up to four bytes. -/
theorem decodeItems_eq_ok_iff (h : offset ≤ bytes.length) (hfuel : bytes.length ≤ offset + fuel) :
    OpaqueData.decodeItems overflowChecks bytes fuel offset m = .ok m' ↔
      ∃ items rest, bytes.drop offset = encodeItems items ++ rest ∧ Tiles items rest ∧
        ReadAll overflowChecks m items m' := by
  induction fuel generalizing offset m with
  | zero =>
    have hnil : bytes.drop offset = [] := List.drop_eq_nil_of_le (by omega)
    rw [decodeItems_of_not_lt (by omega), Outcome.ok.injEq]
    constructor
    · rintro rfl
      exact ⟨[], [], hnil, Nat.zero_le 4, rfl⟩
    · rintro ⟨items, rest, hdrop, -, hread⟩
      cases items with
      | nil => exact hread.symm
      | cons item items =>
        have hlength := length_items hdrop
        omega
  | succ fuel ih =>
    by_cases hlen : offset + 4 < bytes.length
    · constructor
      · intro hok
        rcases exists_item_or_bail hlen with ⟨item, rest, hdrop, hpos⟩ | ⟨e, he⟩
        · have hinside := length_of_drop hdrop h
          have hrestAt := drop_of_append hdrop rfl
          rw [decodeItems_of_drop item hdrop hpos] at hok
          simp only [Outcome.bind_eq_ok, Outcome.ensure_eq_ok, decide_eq_true_eq] at hok
          obtain ⟨v, hv, _, hnone, hok⟩ := hok
          have hencode := item.length_encode
          obtain ⟨items, rest', hdrop', htiles, hread⟩ := (ih (by omega) (by omega)).1 hok
          rw [hrestAt] at hdrop'
          subst hdrop'
          refine ⟨item :: items, rest', ?_, ⟨hpos, htiles⟩, v, hv, hnone, hread⟩
          rw [hdrop, encodeItems_cons, List.append_assoc]
        · rw [he] at hok
          cases hok
      · rintro ⟨items, rest, hdrop, htiles, hread⟩
        cases items with
        | nil =>
          have hlengths := congrArg List.length hdrop
          have hshort : rest.length ≤ 4 := htiles
          rw [List.length_drop] at hlengths
          change bytes.length - offset = rest.length at hlengths
          omega
        | cons item items =>
          rw [encodeItems_cons, List.append_assoc] at hdrop
          have hinside := length_of_drop hdrop h
          have hrestAt := drop_of_append hdrop rfl
          have hencode := item.length_encode
          obtain ⟨v, hv, hnone, hread⟩ := hread
          rw [decodeItems_of_drop item hdrop htiles.1, hv, Outcome.ok_bind, ensure_of hnone,
            Outcome.ok_bind]
          exact (ih (by omega) (by omega)).2 ⟨items, rest, hrestAt, htiles.2, hread⟩
    · rw [decodeItems_of_not_lt hlen, Outcome.ok.injEq]
      constructor
      · rintro rfl
        refine ⟨[], _, rfl, ?_, rfl⟩
        rw [Tiles, List.length_drop]
        omega
      · rintro ⟨items, rest, hdrop, htiles, hread⟩
        cases items with
        | nil => exact hread.symm
        | cons item items =>
          have hlength := length_items hdrop
          have hpos := htiles.1
          omega

/-! ## Counts -/

namespace OpaqueData

/-- The members of counts, under numbers from the first on. -/
def countMembers (first : ℕ) (counts : List Bytes) : List (String × Json) :=
  (counts.zipIdx first).map fun p => (toString p.2, .number (.int (leValue p.1)))

theorem countMembers_cons (first : ℕ) (chunk : Bytes) (counts : List Bytes) :
    countMembers first (chunk :: counts) =
      (toString first, .number (.int (leValue chunk))) :: countMembers (first + 1) counts := rfl

theorem length_chunks {k : ℕ} (hk : 0 < k) (h : bytes.length % k = 0) :
    (chunks k bytes).length = bytes.length / k := by
  obtain ⟨j, hj⟩ := Nat.dvd_of_mod_eq_zero h
  rw [chunks, List.length_map, List.length_range, hj, Nat.mul_div_cancel_left _ hk,
    Nat.add_sub_assoc hk, Nat.mul_add_div hk, Nat.div_eq_of_lt (Nat.sub_lt hk Nat.one_pos),
    Nat.add_zero]

theorem nextIndex_of_lt (overflowChecks : Bool) {index : UInt8} (h : index.toNat < 255) :
    ∃ next : UInt8, nextIndex overflowChecks index = .ok next ∧ next.toNat = index.toNat + 1 := by
  refine ⟨index + 1, if_neg ?_, ?_⟩
  · rintro ⟨-, rfl⟩
    exact absurd h (by decide)
  · rw [UInt8.toNat_add]
    change (index.toNat + 1) % 256 = index.toNat + 1
    omega

/-- Up to 254 counts are numbered. -/
theorem insertCounts_of_le {index : UInt8} {values : Json.Map} {counts : List Bytes}
    (h : index.toNat + counts.length ≤ 255) : insertCounts overflowChecks index values counts =
      .ok (values.extend (countMembers index.toNat counts)) := by
  induction counts generalizing index values with
  | nil => rfl
  | cons chunk counts ih =>
    rw [List.length_cons] at h
    obtain ⟨next, hnext, htoNat⟩ := nextIndex_of_lt overflowChecks
      (show index.toNat < 255 by omega)
    rw [insertCounts, hnext, Outcome.ok_bind, ih (by omega), htoNat, countMembers_cons,
      Json.Map.extend_cons]

/-- The index of a count overflows behind the 255th. -/
theorem returns_insertCounts_iff {index : UInt8} {values : Json.Map} {counts : List Bytes} :
    (insertCounts overflowChecks index values counts).Returns ↔
      overflowChecks = false ∨ index.toNat + counts.length ≤ 255 := by
  have hindex : index.toNat < 256 := index.toNat_lt
  induction counts generalizing index values with
  | nil => exact iff_of_true (Outcome.returns_ok _) (.inr (by rw [List.length_nil]; omega))
  | cons chunk counts ih =>
    rw [insertCounts, List.length_cons]
    cases overflowChecks with
    | false =>
      rw [nextIndex, if_neg (by simp), Outcome.ok_bind]
      exact iff_of_true ((ih (UInt8.toNat_lt _)).2 (.inl rfl)) (.inl rfl)
    | true =>
      by_cases hlast : index.toNat < 255
      · obtain ⟨next, hnext, htoNat⟩ := nextIndex_of_lt true hlast
        rw [hnext, Outcome.ok_bind]
        refine (ih next.toNat_lt).trans ?_
        rw [htoNat]
        simp only [Bool.true_eq_false, false_or]
        omega
      · obtain rfl : index = 255 := UInt8.toNat_inj.1 (by change index.toNat = 255; omega)
        rw [nextIndex, if_pos ⟨rfl, rfl⟩]
        refine iff_of_false (fun h => h _ rfl) ?_
        simp

/-- As many counts as their index cannot number. -/
def TooManyCounts (type : OpaqueDataType) (data : Bytes) : Prop :=
  type = .MsrsCnt ∧ data.length % 4 = 0 ∧ 255 * 4 ≤ data.length

theorem returns_decodeMeasurementCount_iff {data : Bytes} :
    (decodeMeasurementCount overflowChecks data).Returns ↔
      overflowChecks = false ∨ ¬ (data.length % 4 = 0 ∧ 255 * 4 ≤ data.length) := by
  unfold decodeMeasurementCount
  by_cases hmod : data.length % 4 = 0
  · have hlength := length_chunks (by decide) hmod
    rw [ensure_of hmod, Outcome.ok_bind]
    refine Iff.trans ⟨fun h => (Outcome.returns_bind_iff.1 h).1,
      fun h => h.bind fun _ _ => Outcome.returns_ok _⟩ ?_
    rw [returns_insertCounts_iff, hlength, and_iff_right hmod]
    refine or_congr Iff.rfl ?_
    change 1 + data.length / 4 ≤ 255 ↔ _
    omega
  · rw [ensure_of_not hmod]
    exact iff_of_true (Outcome.returns_bail _) (.inr fun h => hmod h.1)

/-- The value of an item is found without a panic, but for too many counts. -/
theorem returns_itemData_iff {type : OpaqueDataType} {data : Bytes} :
    (itemData overflowChecks type data).Returns ↔
      overflowChecks = false ∨ ¬ TooManyCounts type data := by
  cases type with
  | MsrsCnt =>
    rw [itemData, returns_decodeMeasurementCount_iff, TooManyCounts]
    simp only [true_and]
  | VbiosVersion =>
    refine iff_of_true ?_ (.inr fun h => OpaqueDataType.noConfusion h.1)
    exact (Outcome.returns_okOr _ _).bind fun _ _ => Outcome.returns_ok _
  | SwitchPdi =>
    refine iff_of_true ?_ (.inr fun h => OpaqueDataType.noConfusion h.1)
    exact (Outcome.returns_ensure _ _).bind fun _ _ => Outcome.returns_ok _
  | Invalid =>
    exact iff_of_true (Outcome.returns_bail _) (.inr fun h => OpaqueDataType.noConfusion h.1)
  | _ => exact iff_of_true (Outcome.returns_ok _) (.inr fun h => OpaqueDataType.noConfusion h.1)

end OpaqueData

theorem not_tooManyCounts {items : List ItemText} {item : ItemText} {rest : Bytes}
    (hlen : ¬ offset + 4 < bytes.length)
    (hdrop : bytes.drop offset = encodeItems items ++ (item.encode ++ rest)) :
    ¬ OpaqueData.TooManyCounts item.type item.data := by
  rintro ⟨-, -, hmany⟩
  have hlengths := congrArg List.length hdrop
  rw [List.length_append, List.length_append, item.length_encode, List.length_drop] at hlengths
  omega

/-- The loop over items panics exactly at an item with too many counts. -/
theorem not_returns_decodeItems_iff (h : offset ≤ bytes.length)
    (hfuel : bytes.length ≤ offset + fuel) :
    ¬ (OpaqueData.decodeItems overflowChecks bytes fuel offset m).Returns ↔
      overflowChecks = true ∧ ∃ items m₁ item rest,
        bytes.drop offset = encodeItems items ++ (ItemText.encode item ++ rest) ∧
          ReadAll overflowChecks m items m₁ ∧ OpaqueData.TooManyCounts item.type item.data := by
  induction fuel generalizing offset m with
  | zero =>
    have hlen : ¬ offset + 4 < bytes.length := by omega
    refine iff_of_false (not_not.2 (Outcome.returns_ok _)) ?_
    rintro ⟨-, items, _, item, rest, hdrop, -, hmany⟩
    exact not_tooManyCounts hlen hdrop hmany
  | succ fuel ih =>
    by_cases hlen : offset + 4 < bytes.length
    · constructor
      · intro hpanic
        rcases exists_item_or_bail hlen with ⟨item, rest, hdrop, hpos⟩ | ⟨e, he⟩
        · have hinside := length_of_drop hdrop h
          have hrestAt := drop_of_append hdrop rfl
          have hencode := item.length_encode
          rw [decodeItems_of_drop item hdrop hpos] at hpanic
          by_cases hitem : (OpaqueData.itemData overflowChecks item.type item.data).Returns
          · obtain ⟨v, hv, hpanic⟩ := hitem.not_returns_bind_iff.1 hpanic
            obtain ⟨_, hnone, hpanic⟩ := (Outcome.returns_ensure _ _).not_returns_bind_iff.1 hpanic
            rw [Outcome.ensure_eq_ok, decide_eq_true_eq] at hnone
            obtain ⟨hchecks, items, m₁, item', rest', hdrop', hread, hmany⟩ :=
              (ih (by omega) (by omega)).1 hpanic
            rw [hrestAt] at hdrop'
            refine ⟨hchecks, item :: items, m₁, item', rest', ?_, ⟨v, hv, hnone, hread⟩, hmany⟩
            rw [hdrop, hdrop', encodeItems_cons, List.append_assoc]
          · rw [OpaqueData.returns_itemData_iff, not_or, not_not, Bool.not_eq_false] at hitem
            exact ⟨hitem.1, [], m, item, rest, hdrop, rfl, hitem.2⟩
        · rw [he] at hpanic
          exact absurd (fun _ => Outcome.err_ne_panic) hpanic
      · rintro ⟨rfl, items, m₁, item, rest, hdrop, hread, hmany⟩
        cases items with
        | nil =>
          have hpos := hmany.2.2
          rw [decodeItems_of_drop item hdrop (by omega)]
          intro hreturns
          have hitem := (Outcome.returns_bind_iff.1 hreturns).1
          rw [OpaqueData.returns_itemData_iff] at hitem
          exact hitem.resolve_left (by decide) hmany
        | cons first items =>
          rw [encodeItems_cons, List.append_assoc] at hdrop
          have hinside := length_of_drop hdrop h
          have hrestAt := drop_of_append hdrop rfl
          have hencode := first.length_encode
          obtain ⟨v, hv, hnone, hread⟩ := hread
          rw [decodeItems_of_drop first hdrop (by
              rw [List.length_append, List.length_append, item.length_encode]
              omega),
            hv, Outcome.ok_bind, ensure_of hnone, Outcome.ok_bind]
          exact (ih (by omega) (by omega)).2 ⟨rfl, items, m₁, item, rest, hrestAt, hread, hmany⟩
    · rw [decodeItems_of_not_lt hlen]
      refine iff_of_false (not_not.2 (Outcome.returns_ok _)) ?_
      rintro ⟨-, items, _, item, rest, hdrop, -, hmany⟩
      exact not_tooManyCounts hlen hdrop hmany

/-! ## Opaque data -/

/-- The data of an item have a length that its type can have. -/
def ItemText.WellSized (item : ItemText) : Prop :=
  match item.type with
  | .VbiosVersion => item.data ≠ []
  | .MsrsCnt => item.data.length % 4 = 0
  | .SwitchPdi => item.data.length % 8 = 0
  | _ => True

/-- Items that are read in a build with overflow checks: no type is there twice, and the data of each
have a length of its type. -/
structure Readable (items : List ItemText) : Prop where
  nodup : (items.map ItemText.type).Nodup
  wellSized : ∀ item ∈ items, item.WellSized
  counts : ∀ item ∈ items, ¬ OpaqueData.TooManyCounts item.type item.data

/-- The versions that a report has to have. -/
def HasVersions (items : List ItemText) : Prop :=
  (∃ item ∈ items, item.type = .VbiosVersion) ∧ ∃ item ∈ items, item.type = .DriverVersion

theorem formatVbiosVersion_isSome {data : Bytes} :
    (∃ version, OpaqueData.formatVbiosVersion data = some version) ↔ data ≠ [] := by
  have hhalf : getRange data 0 (data.length / 2) = some ((data.take (data.length / 2)).drop 0) :=
    getRange_eq_some.2 ⟨Nat.zero_le _, Nat.div_le_self _ _, rfl⟩
  rw [← List.length_pos_iff, OpaqueData.formatVbiosVersion, hhalf]
  constructor
  · rintro ⟨version, h⟩
    by_contra hempty
    have hnone : data[data.length / 2]? = none := List.getElem?_eq_none (by omega)
    rw [hnone] at h
    cases h
  · intro hpos
    rw [List.getElem?_eq_getElem (Nat.div_lt_self hpos (by decide))]
    exact ⟨_, rfl⟩

/-- The counts of an item are read where they are whole, and where their index can number them. -/
theorem exists_decodeMeasurementCount_iff {data : Bytes} :
    (∃ v, OpaqueData.decodeMeasurementCount true data = .ok v) ↔
      data.length % 4 = 0 ∧ data.length < 255 * 4 := by
  unfold OpaqueData.decodeMeasurementCount
  by_cases hmod : data.length % 4 = 0
  · have hlength := OpaqueData.length_chunks (by decide) hmod
    rw [ensure_of hmod, Outcome.ok_bind, and_iff_right hmod]
    constructor
    · rintro ⟨v, hv⟩
      obtain ⟨values, hvalues, -⟩ := Outcome.bind_eq_ok.1 hv
      have hreturns : (OpaqueData.insertCounts true 1 [] (OpaqueData.chunks 4 data)).Returns := by
        rw [hvalues]
        exact Outcome.returns_ok _
      have hle := (OpaqueData.returns_insertCounts_iff.1 hreturns).resolve_left (by decide)
      rw [hlength] at hle
      change 1 + data.length / 4 ≤ 255 at hle
      omega
    · intro hlt
      rw [OpaqueData.insertCounts_of_le (by
        rw [hlength]
        change 1 + data.length / 4 ≤ 255
        omega)]
      exact ⟨_, rfl⟩
  · rw [ensure_of_not hmod]
    refine iff_of_false ?_ (fun h => hmod h.1)
    rintro ⟨v, hv⟩
    cases hv

/-- The value of an item is found exactly where its data have a length of its type. -/
theorem exists_itemData_iff {item : ItemText} :
    (∃ v, OpaqueData.itemData true item.type item.data = .ok v) ↔
      item.WellSized ∧ ¬ OpaqueData.TooManyCounts item.type item.data := by
  obtain ⟨type, data, hvalid, hlt⟩ := item
  dsimp only [ItemText.WellSized]
  cases type with
  | MsrsCnt =>
    refine exists_decodeMeasurementCount_iff.trans ?_
    simp only [OpaqueData.TooManyCounts, true_and]
    omega
  | VbiosVersion =>
    have hcounts : ¬ OpaqueData.TooManyCounts .VbiosVersion data := by
      rintro ⟨htype, -⟩
      cases htype
    rw [and_iff_left hcounts]
    refine Iff.trans ?_ formatVbiosVersion_isSome
    simp only [OpaqueData.itemData, Outcome.bind_eq_ok, Outcome.okOr_eq_ok, Outcome.pure_eq,
      Outcome.ok.injEq]
    constructor
    · rintro ⟨_, version, hversion, -⟩
      exact ⟨version, hversion⟩
    · rintro ⟨version, hversion⟩
      exact ⟨_, version, hversion, rfl⟩
  | SwitchPdi =>
    have hcounts : ¬ OpaqueData.TooManyCounts .SwitchPdi data := by
      rintro ⟨htype, -⟩
      cases htype
    rw [and_iff_left hcounts]
    simp only [OpaqueData.itemData, OpaqueData.decodeSwitchPdi, Outcome.bind_eq_ok,
      Outcome.ensure_eq_ok, decide_eq_true_eq, Outcome.pure_eq, Outcome.ok.injEq]
    constructor
    · rintro ⟨_, _, hmod, -⟩
      exact hmod
    · intro hmod
      exact ⟨_, (), hmod, rfl⟩
  | Invalid => exact absurd rfl hvalid
  | _ => exact iff_of_true ⟨_, rfl⟩ ⟨trivial, fun h => OpaqueDataType.noConfusion h.1⟩

/-! ## What is read -/

/-- Items are added under the names of their types, each once. -/
theorem ReadAll.nodup {items : List ItemText} (h : ReadAll overflowChecks m items m') :
    (items.map ItemText.type).Nodup ∧ ∀ item ∈ items, m.get item.type.name = none := by
  induction items generalizing m with
  | nil => exact ⟨List.nodup_nil, fun _ h => absurd h List.not_mem_nil⟩
  | cons item items ih =>
    obtain ⟨v, hv, hnone, hread⟩ := h
    obtain ⟨hnodup, hnones⟩ := ih hread
    have hfresh : ∀ item' ∈ items, item'.type ≠ item.type := by
      intro item' hitem' htype
      have hget := hnones item' hitem'
      rw [htype, Json.Map.get_insert_self] at hget
      cases hget
    refine ⟨List.nodup_cons.2 ⟨?_, hnodup⟩, ?_⟩
    · rw [List.mem_map]
      rintro ⟨item', hitem', htype⟩
      exact hfresh item' hitem' htype
    · intro item' hitem'
      rcases List.mem_cons.1 hitem' with rfl | hmem
      · exact hnone
      · rw [← hnones item' hmem, Json.Map.get_insert_of_ne]
        intro hname
        exact hfresh item' hmem (OpaqueDataType.name_injective hname)

/-- A name that none of the items has is not touched. -/
theorem ReadAll.get_of_ne {items : List ItemText} (h : ReadAll overflowChecks m items m')
    {k : String} (hk : ∀ item ∈ items, item.type.name ≠ k) : m'.get k = m.get k := by
  induction items generalizing m with
  | nil => rw [show m' = m from h]
  | cons item items ih =>
    obtain ⟨v, hv, hnone, hread⟩ := h
    rw [ih hread fun item' h' => hk item' (List.mem_cons_of_mem _ h'),
      Json.Map.get_insert_of_ne _ _ (hk item List.mem_cons_self).symm]

/-- Each item is there under the name of its type. -/
theorem ReadAll.get_of_mem {items : List ItemText} (h : ReadAll overflowChecks m items m')
    {item : ItemText} (hitem : item ∈ items) : ∃ v,
      OpaqueData.itemData overflowChecks item.type item.data = .ok v ∧
        m'.get item.type.name = some v := by
  induction items generalizing m with
  | nil => exact absurd hitem List.not_mem_nil
  | cons item' items ih =>
    have hnodup := (ReadAll.nodup h).1
    obtain ⟨v, hv, hnone, hread⟩ := h
    rcases List.mem_cons.1 hitem with rfl | hmem
    · refine ⟨v, hv, ?_⟩
      rw [hread.get_of_ne, Json.Map.get_insert_self]
      intro item'' h'' hname
      rw [List.map_cons, List.nodup_cons] at hnodup
      exact hnodup.1 (List.mem_map.2 ⟨item'', h'', OpaqueDataType.name_injective hname⟩)
    · exact ih hread hmem

theorem exists_readAll_iff {items : List ItemText} :
    (∃ m', ReadAll true m items m') ↔ Readable items ∧
      ∀ item ∈ items, m.get item.type.name = none := by
  constructor
  · rintro ⟨m', h⟩
    obtain ⟨hnodup, hnone⟩ := h.nodup
    have hsized (item : ItemText) (hitem : item ∈ items) :
        item.WellSized ∧ ¬ OpaqueData.TooManyCounts item.type item.data := by
      obtain ⟨v, hv, -⟩ := h.get_of_mem hitem
      exact exists_itemData_iff.1 ⟨v, hv⟩
    exact ⟨⟨hnodup, fun item h => (hsized item h).1, fun item h => (hsized item h).2⟩, hnone⟩
  · rintro ⟨hreadable, hnone⟩
    induction items generalizing m with
    | nil => exact ⟨m, rfl⟩
    | cons item items ih =>
      obtain ⟨hnodup, hsized, hcounts⟩ := hreadable
      rw [List.map_cons, List.nodup_cons] at hnodup
      obtain ⟨v, hv⟩ := exists_itemData_iff.2
        ⟨hsized item List.mem_cons_self, hcounts item List.mem_cons_self⟩
      have hreadable' : Readable items := ⟨hnodup.2,
        fun item' h => hsized item' (List.mem_cons_of_mem _ h),
        fun item' h => hcounts item' (List.mem_cons_of_mem _ h)⟩
      obtain ⟨m', hread⟩ := ih hreadable' (m := m.insert item.type.name v) (by
        intro item' hitem'
        rw [Json.Map.get_insert_of_ne]
        · exact hnone item' (List.mem_cons_of_mem _ hitem')
        · intro hname
          exact hnodup.1 (List.mem_map.2 ⟨item', hitem', OpaqueDataType.name_injective hname⟩))
      exact ⟨m', v, hv, hnone item List.mem_cons_self, hread⟩

/-- A type is among the items exactly where its name is there. -/
theorem ReadAll.isSome_get_iff {items : List ItemText} (h : ReadAll overflowChecks [] items m')
    (type : OpaqueDataType) :
    (m'.get type.name).isSome = true ↔ ∃ item ∈ items, item.type = type := by
  constructor
  · intro hsome
    by_contra hnot
    rw [h.get_of_ne fun item hitem hname =>
      hnot ⟨item, hitem, OpaqueDataType.name_injective hname⟩] at hsome
    cases hsome
  · rintro ⟨item, hitem, rfl⟩
    obtain ⟨v, -, hget⟩ := h.get_of_mem hitem
    rw [hget]
    rfl

/-- **The opaque data that are decoded**: items that tile them up to four bytes, with both
versions. -/
theorem OpaqueData.decode_eq_ok_iff : OpaqueData.decode overflowChecks bytes = .ok m' ↔
    ∃ items rest, bytes = encodeItems items ++ rest ∧ Tiles items rest ∧
      ReadAll overflowChecks [] items m' ∧ (bytes = [] ∨ HasVersions items) := by
  unfold OpaqueData.decode
  by_cases hempty : bytes.length = 0
  · obtain rfl := List.length_eq_zero_iff.1 hempty
    rw [if_pos hempty, Outcome.ok.injEq]
    constructor
    · rintro rfl
      exact ⟨[], [], rfl, Nat.zero_le 4, rfl, .inl rfl⟩
    · rintro ⟨items, rest, hbytes, -, hread, -⟩
      cases items with
      | nil => exact hread.symm
      | cons item items =>
        have hlengths := congrArg List.length hbytes
        rw [encodeItems_cons, List.append_assoc, List.length_append, item.length_encode,
          List.length_nil] at hlengths
        omega
  · have hne : bytes ≠ [] := fun h => hempty (List.length_eq_zero_iff.2 h)
    have hloop (m' : Json.Map) : decodeItems overflowChecks bytes bytes.length 0 [] = .ok m' ↔
        ∃ items rest, bytes.drop 0 = encodeItems items ++ rest ∧ Tiles items rest ∧
          ReadAll overflowChecks [] items m' :=
      decodeItems_eq_ok_iff (Nat.zero_le _) (Nat.zero_add _).ge
    rw [if_neg hempty]
    simp only [Outcome.bind_eq_ok, Outcome.ensure_eq_ok, Outcome.pure_eq, Outcome.ok.injEq,
      hloop, List.drop_zero, Bool.and_eq_true]
    constructor
    · rintro ⟨m', ⟨items, rest, hbytes, htiles, hread⟩, _, ⟨hvbios, hdriver⟩, rfl⟩
      exact ⟨items, rest, hbytes, htiles, hread,
        .inr ⟨(hread.isSome_get_iff _).1 hvbios, (hread.isSome_get_iff _).1 hdriver⟩⟩
    · rintro ⟨items, rest, hbytes, htiles, hread, hversions⟩
      obtain ⟨hvbios, hdriver⟩ := hversions.resolve_left hne
      exact ⟨m', ⟨items, rest, hbytes, htiles, hread⟩, (),
        ⟨(hread.isSome_get_iff _).2 hvbios, (hread.isSome_get_iff _).2 hdriver⟩, rfl⟩

/-- An item with more counts than their index can number, behind items that are read. -/
def HasCountOverflow (bytes : Bytes) : Prop :=
  ∃ items item rest, bytes = encodeItems items ++ (ItemText.encode item ++ rest) ∧
    Readable items ∧ OpaqueData.TooManyCounts item.type item.data

/-- **Decoding opaque data panics exactly at too many counts**, in a build that checks overflows. -/
theorem OpaqueData.not_returns_decode_iff :
    ¬ (OpaqueData.decode overflowChecks bytes).Returns ↔
      overflowChecks = true ∧ HasCountOverflow bytes := by
  unfold OpaqueData.decode
  by_cases hempty : bytes.length = 0
  · rw [if_pos hempty]
    refine iff_of_false (not_not.2 (Outcome.returns_ok _)) ?_
    rintro ⟨-, items, item, rest, rfl, -⟩
    rw [List.length_append, List.length_append, item.length_encode] at hempty
    omega
  · rw [if_neg hempty]
    have hloop : ¬ (decodeItems overflowChecks bytes bytes.length 0 []).Returns ↔
        overflowChecks = true ∧ ∃ items m₁ item rest,
          bytes.drop 0 = encodeItems items ++ (ItemText.encode item ++ rest) ∧
            ReadAll overflowChecks [] items m₁ ∧ TooManyCounts item.type item.data :=
      not_returns_decodeItems_iff (Nat.zero_le _) (Nat.zero_add _).ge
    refine Iff.trans (not_congr ⟨fun h => (Outcome.returns_bind_iff.1 h).1, fun h =>
      h.bind fun _ _ => (Outcome.returns_ensure _ _).bind fun _ _ => Outcome.returns_ok _⟩) ?_
    rw [hloop, List.drop_zero]
    refine and_congr_right fun hchecks => ?_
    subst hchecks
    constructor
    · rintro ⟨items, m₁, item, rest, hbytes, hread, hmany⟩
      exact ⟨items, item, rest, hbytes, (exists_readAll_iff.1 ⟨m₁, hread⟩).1, hmany⟩
    · rintro ⟨items, item, rest, hbytes, hreadable, hmany⟩
      obtain ⟨m₁, hread⟩ := exists_readAll_iff.2 ⟨hreadable, fun _ _ => Json.Map.get_nil _⟩
      exact ⟨items, m₁, item, rest, hbytes, hread, hmany⟩

/-! ## Builds -/

namespace OpaqueData

theorem unchecks_insertCounts (index : UInt8) (values : Json.Map) (counts : List Bytes) :
    (insertCounts true index values counts).Unchecks (insertCounts false index values counts) := by
  induction counts generalizing index values with
  | nil => exact .refl _
  | cons chunk counts ih =>
    refine .bind ?_ fun next => ih next _
    intro h
    by_cases hlast : index = 255
    · rw [nextIndex, if_pos ⟨rfl, hlast⟩] at h
      exact absurd rfl (h _)
    · rw [nextIndex, nextIndex, if_neg (by simp), if_neg fun hand => hlast hand.2]

theorem unchecks_itemData (type : OpaqueDataType) (data : Bytes) :
    (itemData true type data).Unchecks (itemData false type data) := by
  cases type with
  | MsrsCnt =>
    refine .bind (.refl _) fun _ => ?_
    exact .bind (unchecks_insertCounts _ _ _) fun _ => .refl _
  | _ => exact .refl _

theorem unchecks_decodeItems (bytes : Bytes) (fuel offset : ℕ) (m : Json.Map) :
    (decodeItems true bytes fuel offset m).Unchecks (decodeItems false bytes fuel offset m) := by
  induction fuel generalizing offset m with
  | zero => exact .refl _
  | succ fuel ih =>
    unfold decodeItems
    by_cases hlen : offset + 4 < bytes.length
    · rw [if_pos hlen, if_pos hlen]
      refine .bind (.refl _) fun _ => .bind (.refl _) fun type => .bind (.refl _) fun _ =>
        .bind (.refl _) fun data => ?_
      exact .bind (unchecks_itemData type data) fun _ => .bind (.refl _) fun _ => ih _ _
    · rw [if_neg hlen, if_neg hlen]
      exact .refl _

theorem unchecks_decode (bytes : Bytes) :
    (decode true bytes).Unchecks (decode false bytes) := by
  unfold decode
  by_cases hempty : bytes.length = 0
  · rw [if_pos hempty, if_pos hempty]
    exact .refl _
  · rw [if_neg hempty, if_neg hempty]
    exact .bind (unchecks_decodeItems bytes _ _ _) fun _ => .refl _

end OpaqueData

end Trustmee.Nvidia
