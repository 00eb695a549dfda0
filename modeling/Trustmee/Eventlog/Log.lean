import Trustmee.Eventlog.TcgEnum
import Trustmee.Foundations.Encoding
import Trustmee.Foundations.Json
import Trustmee.Foundations.LittleEndian
import Trustmee.Foundations.Table

/-!
# The event log of a confidential guest

What the firmware and the boot loader write down of the boot: a header that says how long the
digests of each algorithm are, and then one event after the other, each with the register that it
was measured into, its digests and its data. `CcEventLog.tryFrom` reads a log, `toValue` publishes
it, and `replayAndMatch` compares it with the registers of a quote. The parsers of the data of
events, and the hash functions, are parameters.
-/

namespace Trustmee.Eventlog

/-- `ElDigest`. -/
structure ElDigest where
  alg : TcgAlgorithm
  digest : Bytes
  deriving DecidableEq

/-- `EventDetails`. -/
structure EventDetails where
  string : Option String
  unicodeName : Option String
  unicodeNameLength : Option ℕ
  variableData : Option String
  variableDataLength : Option ℕ
  variableName : Option String
  devicePaths : Option (List String)
  data : Option Json

/-- `EventDetails::empty`. -/
def EventDetails.empty : EventDetails := ⟨none, none, none, none, none, none, none, none⟩

/-- `EventlogEntry`. -/
structure EventlogEntry where
  details : EventDetails
  digestMatchesEvent : Bool
  digests : List ElDigest
  event : String
  index : ℕ
  eventType : TcgEventType

/-- `CcEventLog`. -/
structure CcEventLog where
  log : List EventlogEntry

/-- The hash functions of other crates, of which SHA-384 gives 48 bytes. -/
structure Hashes where
  sha256 : Bytes → Bytes
  sha384 : Bytes → Bytes
  sha512 : Bytes → Bytes
  sm3 : Bytes → Bytes
  length_sha384 : ∀ b, (sha384 b).length = 48

/-- The function of an algorithm, where there is one. -/
def Hashes.of (H : Hashes) : TcgAlgorithm → Option (Bytes → Bytes)
  | .Sha256 => some H.sha256
  | .Sha384 => some H.sha384
  | .Sha512 => some H.sha512
  | .Sm3 => some H.sm3
  | _ => none

/-- `get_parser`, and `parse` of the parser that it gives. -/
abbrev Parsers := TcgEventType → Bytes → Outcome EventDetails

/-! ## Reading a log -/

/-- The lengths of digests. -/
abbrev DigestSizes := Table TcgAlgorithm ℕ

/-- How `{:x}` prints a number. -/
def lowerHex (n : ℕ) : String := String.ofList (Nat.toDigits 16 n)

/-- A read of `scroll`, with the message of its failure, and the index after it. -/
def gread (data : Bytes) (index n : ℕ) (msg : String) : Outcome (ℕ × ℕ) :=
  match readLe data index n with
  | some v => .ok (v, index + n)
  | none => .bail msg

/-- The slice `data[index..index + size]`, of what may be too short. -/
def sliceFrom (data : Bytes) (index size : ℕ) : Outcome Bytes :=
  if index + size ≤ data.length then .ok ((data.drop index).take size)
  else .panic ("range end index " ++ toString (index + size) ++
    " out of range for slice of length " ++ toString data.length)

/-- The loop of `parse_digest_sizes`. -/
def readDigestSizes (data : Bytes) : ℕ → ℕ → DigestSizes → Outcome (ℕ × DigestSizes)
  | 0, index, sizes => .ok (index, sizes)
  | n + 1, index, sizes => do
    let (algoId, index) ← gread data index 2 "Cannot read algorithm id"
    let (size, index) ← gread data index 2 "Cannot read algorithm size"
    let algorithm ← Outcome.okOr (TcgAlgorithm.tryFrom algoId)
      ("Unknown algorithm type detected: " ++ lowerHex algoId)
    readDigestSizes data n index (sizes.insert algorithm size)

/-- `parse_digest_sizes`. The byte after the sizes is taken without a check. -/
def parseDigestSizes (data : Bytes) (sizes : DigestSizes) : Outcome (ℕ × DigestSizes) := do
  let (algoSize, index) ← gread data 24 4 "Cannot read algorithm array size"
  let (index, sizes) ← readDigestSizes data algoSize index sizes
  match data[index]? with
  | some vendorSize => return (index + (vendorSize.toNat + 1), sizes)
  | none => .panic ("index out of bounds: the len is " ++ toString data.length ++
      " but the index is " ++ toString index)

/-- `parse_initial_entry`. -/
def parseInitialEntry (data : Bytes) : Outcome (ℕ × DigestSizes) := do
  let (_, index) ← gread data 0 4 "Cannot read PCR index"
  let (eventTypeNum, index) ← gread data index 4 "Cannot read event type number"
  let eventType ← Outcome.okOr (TcgEventType.tryFrom eventTypeNum)
    ("Unknown event type detected: 0x" ++ lowerHex eventTypeNum)
  let (eventDataSize, index) ← gread data (index + 20) 4 "Cannot read event data size"
  if eventType = .EvNoAction then
    if index + eventDataSize ≤ data.length then
      let (actualSize, sizes) ← parseDigestSizes ((data.drop index).take eventDataSize) .empty
      Outcome.ensure (actualSize == eventDataSize)
        "Unexpected data size consumed for detecting digests"
      return (index + eventDataSize, sizes)
    else .bail "Out of bounds while reading digest_data"
  else return (index, .empty)

/-- The loop of `parse_digests`. -/
def readDigests (data : Bytes) (sizes : DigestSizes) : ℕ → ℕ → Outcome (List ElDigest × ℕ)
  | 0, index => .ok ([], index)
  | n + 1, index => do
    let (algoId, index) ← gread data index 2 "Cannot read algorithm id"
    let algorithm ← Outcome.okOr (TcgAlgorithm.tryFrom algoId)
      ("Unknown algorithm type detected: " ++ lowerHex algoId)
    let size ← Outcome.okOr (sizes algorithm)
      ("Missing digest size for algorithm: " ++ lowerHex algoId)
    let digest ← sliceFrom data index size
    let (digests, index) ← readDigests data sizes n (index + size)
    return (⟨algorithm, digest⟩ :: digests, index)

/-- `parse_digests`. -/
def parseDigests (data : Bytes) (index : ℕ) (sizes : DigestSizes) : Outcome (List ElDigest × ℕ) := do
  let (digestCount, index) ← gread data index 4 "Cannot read digest count"
  readDigests data sizes digestCount index

/-- `compare_digests`: the first digest that does not match decides. -/
def compareDigests (H : Hashes) (data : Bytes) : List ElDigest → Outcome Bool
  | [] => .ok true
  | digest :: digests =>
    match H.of digest.alg with
    | some hash => if hash data = digest.digest then compareDigests H data digests else .ok false
    | none => .bail ("Digest comparison failed: Digest hash algorithm not supported - " ++
        digest.alg.debug)

/-- `parse_eventlog_entry`: nothing where the log stops. -/
def parseEventlogEntry (H : Hashes) (P : Parsers) (data : Bytes) (index : ℕ) (sizes : DigestSizes) :
    Outcome (Option EventlogEntry × ℕ) := do
  let (stopFlag, _) ← gread data index 8 ("Failed to read potential stop flag: TooBig \x7b " ++
    "size: 8, len: " ++ toString (data.length - index) ++ " \x7d")
  if stopFlag = 0xFFFFFFFFFFFFFFFF ∨ stopFlag = 0 then return (none, 0)
  else
    let (targetMeasurementRegistry, index) ← gread data index 4
      "Cannot read target measurement registry"
    let (eventTypeNum, index) ← gread data index 4 "Cannot read event type number"
    let eventType ← Outcome.okOr (TcgEventType.tryFrom eventTypeNum)
      ("Unknown event type detected: 0x" ++ lowerHex eventTypeNum)
    let (digests, index) ← parseDigests data index sizes
    let (eventDataSize, index) ← gread data index 4 "Cannot read event data size"
    Outcome.ensure (eventDataSize ≤ data.length)
      ("Data is too short: expected at least " ++ toString eventDataSize ++ " bytes")
    let eventDataRaw ← sliceFrom data index eventDataSize
    let digestMatchesEvent ← compareDigests H eventDataRaw digests
    let details ← P eventType eventDataRaw
    return (some {
      index := targetMeasurementRegistry
      eventType
      digestMatchesEvent
      digests
      event := Base64.encode eventDataRaw
      details }, index + eventDataSize)

/-- The loop of `CcEventLog::try_from`. An entry is longer than nothing, so that as many rounds as
there are bytes are enough. -/
def readEntries (H : Hashes) (P : Parsers) (data : Bytes) (sizes : DigestSizes) :
    ℕ → ℕ → Outcome (List EventlogEntry)
  | 0, _ => .ok []
  | fuel + 1, index =>
    if index < data.length then do
      match ← parseEventlogEntry H P data index sizes with
      | (some entry, index) =>
        let entries ← readEntries H P data sizes fuel index
        return entry :: entries
      | (none, _) => return []
    else .ok []

/-- `CcEventLog::try_from`. -/
def CcEventLog.tryFrom (H : Hashes) (P : Parsers) (data : Bytes) : Outcome CcEventLog := do
  let (index, sizes) ← parseInitialEntry data
  let log ← readEntries H P data sizes data.length index
  return ⟨log⟩

/-- A read goes forward. -/
theorem gread_eq_ok {data : Bytes} {index n v index' : ℕ} {msg : String} :
    gread data index n msg = .ok (v, index') ↔ readLe data index n = some v ∧ index' = index + n := by
  unfold gread
  split
  · next w hw => simp [hw, eq_comm]
  · next hnone => simp [hnone]

theorem returns_gread (data : Bytes) (index n : ℕ) (msg : String) :
    (gread data index n msg).Returns := by
  unfold gread
  split
  · exact Outcome.returns_ok _
  · exact Outcome.returns_bail _

theorem index_le_of_readDigests {data : Bytes} {sizes : DigestSizes} {n index index' : ℕ}
    {digests : List ElDigest} (h : readDigests data sizes n index = .ok (digests, index')) :
    index ≤ index' := by
  induction n generalizing index digests with
  | zero =>
    cases h
    exact Nat.le_refl _
  | succ n ih =>
    simp only [readDigests, Outcome.bind_eq_ok, Prod.exists, gread_eq_ok, Outcome.pure_eq,
      Outcome.ok.injEq, Prod.mk.injEq] at h
    obtain ⟨_, _, ⟨-, rfl⟩, _, -, size, -, _, -, _, _, hrest, -, rfl⟩ := h
    have := ih hrest
    omega

/-- An entry is longer than nothing. -/
theorem index_lt_of_parseEventlogEntry {H : Hashes} {P : Parsers} {data : Bytes}
    {index index' : ℕ} {sizes : DigestSizes} {entry : EventlogEntry}
    (h : parseEventlogEntry H P data index sizes = .ok (some entry, index')) : index < index' := by
  obtain ⟨⟨stopFlag, _⟩, -, hrest⟩ := Outcome.bind_eq_ok.1 h
  dsimp only at hrest
  split at hrest
  · cases hrest
  · simp only [Outcome.bind_eq_ok, Prod.exists, gread_eq_ok, Outcome.pure_eq, Outcome.ok.injEq,
      Prod.mk.injEq, parseDigests] at hrest
    obtain ⟨_, _, ⟨-, rfl⟩, _, _, ⟨-, rfl⟩, _, -, _, _, ⟨_, _, ⟨-, rfl⟩, hdigests⟩, _, _, ⟨-, rfl⟩,
      _, -, _, -, _, -, _, -, -, rfl⟩ := hrest
    have := index_le_of_readDigests hdigests
    omega

/-- As many rounds as bytes are left are enough: more make no difference. -/
theorem readEntries_of_le {H : Hashes} {P : Parsers} {data : Bytes} {sizes : DigestSizes}
    {fuel fuel' index : ℕ} (h : data.length ≤ index + fuel) (h' : data.length ≤ index + fuel') :
    readEntries H P data sizes fuel index = readEntries H P data sizes fuel' index := by
  induction fuel generalizing fuel' index with
  | zero =>
    cases fuel' with
    | zero => rfl
    | succ fuel' => rw [readEntries, readEntries, if_neg (by omega)]
  | succ fuel ih =>
    cases fuel' with
    | zero => rw [readEntries, readEntries, if_neg (by omega)]
    | succ fuel' =>
      rw [readEntries, readEntries]
      split
      · cases hentry : parseEventlogEntry H P data index sizes with
        | err e => rfl
        | panic m => rfl
        | ok p =>
          obtain ⟨_ | entry, index'⟩ := p
          · rfl
          · have hlt := index_lt_of_parseEventlogEntry hentry
            have hrest : readEntries H P data sizes fuel index' =
                readEntries H P data sizes fuel' index' := ih (by omega) (by omega)
            simp only [Outcome.ok_bind, hrest]
      · rfl

/-! ## The published log -/

/-- The members that are there. -/
def members (l : List (String × Option Json)) : List (String × Json) :=
  l.filterMap fun p => p.2.map fun v => (p.1, v)

def EventDetails.toValue (details : EventDetails) : Json := .object (Json.Map.ofList (members
  [("string", details.string.map .string),
   ("unicode_name", details.unicodeName.map .string),
   ("unicode_name_length", details.unicodeNameLength.map fun n => .number (.int n)),
   ("variable_data", details.variableData.map .string),
   ("variable_data_length", details.variableDataLength.map fun n => .number (.int n)),
   ("variable_name", details.variableName.map .string),
   ("device_paths", details.devicePaths.map fun l => .array (l.map .string)),
   ("data", details.data)]))

def ElDigest.toValue (digest : ElDigest) : Json := .object (Json.Map.ofList
  [("alg", .string digest.alg.name), ("digest", .string (hexEncode digest.digest))])

def EventlogEntry.toValue (entry : EventlogEntry) : Json := .object (Json.Map.ofList
  [("details", entry.details.toValue),
   ("digest_matches_event", .bool entry.digestMatchesEvent),
   ("digests", .array (entry.digests.map ElDigest.toValue)),
   ("event", .string entry.event),
   ("index", .number (.int entry.index)),
   ("type_name", .string entry.eventType.name)])

/-- The entries of a log, as serde serialises them. -/
def CcEventLog.toValue (ccel : CcEventLog) : Json := .array (ccel.log.map EventlogEntry.toValue)

/-! ## The replay -/

/-- `ReferenceMeasurement`. -/
structure ReferenceMeasurement where
  index : ℕ
  algorithm : TcgAlgorithm
  reference : Bytes

/-- `collect_digests_by_index`. -/
def collectDigestsByIndex (ccel : List EventlogEntry) : Table ℕ (List ElDigest) :=
  ccel.foldl (fun result entry =>
    result.insert entry.index ((result entry.index).getD [] ++ entry.digests)) .empty

/-- `accumulate_hash`. -/
def accumulateHash (H : Hashes) (alg : TcgAlgorithm) (materials digest : Bytes) : Outcome Bytes :=
  match H.of alg with
  | some hash => .ok (hash (materials ++ digest))
  | none => .bail ("Unsupported Hash algorithm " ++ alg.debug)

/-- The loop of `replay`. -/
def accumulate (H : Hashes) (alg : TcgAlgorithm) (materials : Bytes) :
    List ElDigest → Outcome Bytes
  | [] => .ok materials
  | digest :: digests => do
    let materials ← accumulateHash H alg materials digest.digest
    accumulate H alg materials digests

/-- `replay`. -/
def replay (H : Hashes) (digestMap : Table ℕ (List ElDigest)) (index : ℕ) (alg : TcgAlgorithm) :
    Outcome Bytes := do
  let digestSize ← alg.getDigestSize
  let materials := List.replicate digestSize 0
  match digestMap index with
  | some digests => accumulate H alg materials (digests.filter fun d => d.alg = alg)
  | none => return materials

/-- The loop of `replay_and_match`. -/
def matchAll (H : Hashes) (digestMap : Table ℕ (List ElDigest)) :
    List ReferenceMeasurement → Outcome Unit
  | [] => .ok ()
  | item :: data => do
    let calculated ← replay H digestMap item.index item.algorithm
    if calculated ≠ item.reference then
      .bail ("Eventlog does not pass measurement replay CC Event Log Measurement Register " ++
        "[index = " ++ toString item.index ++ "]. Calculated value: " ++ hexEncode calculated ++
        ", Given value: " ++ hexEncode item.reference)
    else matchAll H digestMap data

/-- `replay_and_match`. -/
def CcEventLog.replayAndMatch (H : Hashes) (ccel : CcEventLog) (data : List ReferenceMeasurement) :
    Outcome Unit :=
  matchAll H (collectDigestsByIndex ccel.log) data

end Trustmee.Eventlog
