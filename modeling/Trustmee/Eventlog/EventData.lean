import Trustmee.Eventlog.LoadEvent

/-!
# The data of events

`get_parser` gives each type of event the parser of its data. The lengths in the data are not to be
trusted: `DataFault` says on which data a parser panics, or computes a length that no machine word
holds, and on all others it ends with details or an error (`returns_parsers_iff`). A build without
overflow checks does the same where the one with them returns (`unchecks_parsers`).

A `usize` is the one of the native build, of 64 bits; for a component it has 32
(`Trustmee.Eventlog.Usize`).
-/

namespace Trustmee.Eventlog

/-- `EventDetails::from_string`. -/
def EventDetails.fromString (s : String) : EventDetails := { EventDetails.empty with string := some s }

/-! ## The parsers -/

/-- `EvBlankParser::parse`. -/
def EvBlankParser.parse (_ : Bytes) : Outcome EventDetails := .ok .empty

/-- `EvSimpleParser::parse`. -/
def EvSimpleParser.parse (data : Bytes) : Outcome EventDetails := do
  let s ← Outcome.okOr (fromUtf8 data) "invalid utf-8 sequence"
  return .fromString s

/-- `SimpleStringParser::parse`. The size is taken to count itself. -/
def SimpleStringParser.parse (data : Bytes) : Outcome EventDetails := do
  Outcome.ensure (data ≠ []) "Data is too short: expected at least 1 byte"
  let length ← byteAt data 0
  let stop := 1 + length.toNat - 1
  Outcome.ensure (stop ≤ data.length)
    ("Data is too short: expected at least " ++ toString stop ++ " bytes")
  let descriptionBytes ← slice data 1 stop
  let eventDesc ← Outcome.okOr (fromUtf8 descriptionBytes) "invalid utf-8 sequence"
  return .fromString eventDesc

/-- `char::is_control`. -/
def isControl (c : Char) : Bool := c.toNat < 0x20 || (0x7F ≤ c.toNat && c.toNat ≤ 0x9F)

/-- `EvPlatformConfigFlagsParser::parse`. -/
def EvPlatformConfigFlagsParser.parse (data : Bytes) : Outcome EventDetails :=
  let raw := ((fromUtf8 data).getD "").toList.map fun c => if c.toNat = 0x10 then ' ' else c
  .ok (.fromString (String.ofList (raw.filter fun c => !isControl c)))

/-- `EvIplParser::parse`. After the prefix a text is UTF-16, and its last word is left out. -/
def EvIplParser.parse (data : Bytes) : Outcome EventDetails := do
  Outcome.ensure (2 ≤ data.length) "Data is too short: expected at least 2 bytes"
  let start ← slice data 0 2
  if start = [0x2E, 0x00] then
    let lenMinusStop := data.length - 2
    Outcome.ensure (¬ (lenMinusStop = 0 ∨ lenMinusStop % 2 ≠ 0))
      "Data is too short or not UTF-16 string"
    let text ← slice data 2 lenMinusStop
    return .fromString (fromUtf16Lossy (utf16Words text))
  else return .fromString ((fromUtf8 (data.takeWhile (· ≠ 0))).getD (hexEncode data))

/-- `AaelEventEntry`. -/
structure AaelEventEntry where
  domain : String
  operation : String
  content : Json

/-- `AaelEventEntry::from_bytes`: two words, and what follows them. -/
def AaelEventEntry.fromBytes (serde : SerdeJson) (s : String) : Outcome AaelEventEntry :=
  match s.toList.dropWhile (· ≠ ' ') with
  | [] => .bail "No space found in event string"
  | _ :: afterFirst =>
    match afterFirst.dropWhile (· ≠ ' ') with
    | [] => .bail "No second space found in event string"
    | _ :: content => .ok {
        domain := String.ofList (s.toList.takeWhile (· ≠ ' '))
        operation := String.ofList (afterFirst.takeWhile (· ≠ ' '))
        content := match serde.fromStr (fun v => .ok v) (String.ofList content) with
          | .ok v => v
          | .error _ => .string (String.ofList content) }

def AaelEventEntry.toValue (aael : AaelEventEntry) : Json := .object (Json.Map.ofList
  [("domain", .string aael.domain), ("operation", .string aael.operation),
   ("content", aael.content)])

/-- `EvEventTagParser::parse`. -/
def EvEventTagParser.parse (overflowChecks : Bool) (serde : SerdeJson) (data : Bytes) :
    Outcome EventDetails := do
  let (eventId, index) ← greadDebug data 0 4 "Cannot read event id"
  let (dataSize, index) ← greadDebug data index 4 "Cannot read length"
  let stop ← addUsize overflowChecks index dataSize
  let eventData ← Outcome.okOr (getRange data index stop) "Failed to read description"
  let eventDesc := (fromUtf8Lossy eventData).toList.filter fun c => c.toNat ≠ 0
  let details := EventDetails.fromString (String.ofList eventDesc)
  if eventId = 0x4141454C then
    let s ← (Outcome.okOr (fromUtf8 eventData) "invalid utf-8 sequence").context
      "Illegal AAEL event data"
    let aael ← AaelEventEntry.fromBytes serde s
    return { details with data := some aael.toValue, unicodeName := some "AAEL" }
  else return details

/-- `format_guid`. -/
def formatGuid (guid : Bytes) : Outcome String := do
  let timeLow ← slice guid 0 4
  let timeMid ← slice guid 4 6
  let timeHigh ← slice guid 6 8
  let clock ← slice guid 8 10
  let node ← slice guid 10 16
  return hexEncode timeLow ++ "-" ++ hexEncode timeMid ++ "-" ++ hexEncode timeHigh ++ "-" ++
    hexEncode clock ++ "-" ++ hexEncode node

/-- The variable's data of `EvEfiVariableParser::parse`. -/
def EvEfiVariableParser.variableData (overflowChecks : Bool) (data : Bytes)
    (index varDataLength : ℕ) : Outcome String :=
  if 0 < varDataLength then do
    let stop ← addUsize overflowChecks index varDataLength
    let bytes ← Outcome.okOr (getRange data index stop)
      "Out of bounds while reading variable_data"
    return Base64.encode bytes
  else return ""

/-- `EvEfiVariableParser::parse`. -/
def EvEfiVariableParser.parse (overflowChecks : Bool) (data : Bytes) : Outcome EventDetails := do
  let guid ← Outcome.okOr (getRange data 0 16) "Failed to read GUID"
  let (unameLength, index) ← greadDebug data 16 8 "Failed to read unicode name length"
  let (varDataLength, index) ← greadDebug data index 8 "Failed to read variable data length"
  Outcome.ensure (unameLength * 2 < 2 ^ 64) "Out of bounds while reading description length"
  let stop ← addUsize overflowChecks index (unameLength * 2)
  let descriptionBytes ← Outcome.okOr (getRange data index stop)
    "Out of bounds while reading description bytes"
  let unicodeName ← Outcome.okOr (fromUtf16 (utf16Words descriptionBytes))
    "invalid utf-16: lone surrogate found"
  let variableData ← variableData overflowChecks data stop varDataLength
  let variableName ← formatGuid guid
  return { EventDetails.empty with
    unicodeName := some unicodeName
    unicodeNameLength := some unameLength
    variableData := some variableData
    variableDataLength := some varDataLength
    variableName := some variableName }

/-- `get_parser`, and `parse` of the parser that it gives. -/
def parsers (overflowChecks : Bool) (serde : SerdeJson) : Parsers
  | .EvPostCode, data => EvSimpleParser.parse data
  | .EvSeparator, data => EvBlankParser.parse data
  | .EvAction, data => EvSimpleParser.parse data
  | .EvEventTag, data => EvEventTagParser.parse overflowChecks serde data
  | .EvPlatformConfigFlags, data => EvPlatformConfigFlagsParser.parse data
  | .EvCompactHash, data => EvSimpleParser.parse data
  | .EvIpl, data => EvIplParser.parse data
  | .EvOmitBootDeviceEvents, data => EvSimpleParser.parse data
  | .EvEfiVariableDriverConfig, data => EvEfiVariableParser.parse overflowChecks data
  | .EvEfiVariableBoot, data => EvEfiVariableParser.parse overflowChecks data
  | .EvEfiBootServicesApplication, data => EvBootServicesAppParser.parse overflowChecks data
  | .EvEfiAction, data => EvSimpleParser.parse data
  | .EvEfiPlatformFirmwareBlob2, data => SimpleStringParser.parse data
  | .EvEfiHandoffTables2, data => SimpleStringParser.parse data
  | .EvEfiVariableBoot2, data => EvEfiVariableParser.parse overflowChecks data
  | .EvEfiVariableAuthority, data => EvEfiVariableParser.parse overflowChecks data
  | _, data => EvBlankParser.parse data

/-! ## Builds -/

variable (serde : SerdeJson) (data : Bytes)

theorem EvEventTagParser.unchecks_parse :
    (parse true serde data).Unchecks (parse false serde data) := by
  refine (Outcome.Unchecks.refl _).bind fun p => ?_
  refine (Outcome.Unchecks.refl _).bind fun q => ?_
  exact (unchecks_addUsize _ _).bind fun stop => .refl _

theorem EvEfiVariableParser.unchecks_variableData (index varDataLength : ℕ) :
    (variableData true data index varDataLength).Unchecks
      (variableData false data index varDataLength) := by
  unfold variableData
  split
  · exact (unchecks_addUsize _ _).bind fun stop => .refl _
  · exact .refl _

theorem EvEfiVariableParser.unchecks_parse : (parse true data).Unchecks (parse false data) := by
  refine (Outcome.Unchecks.refl _).bind fun guid => ?_
  refine (Outcome.Unchecks.refl _).bind fun p => ?_
  refine (Outcome.Unchecks.refl _).bind fun q => ?_
  refine (Outcome.Unchecks.refl _).bind fun _ => ?_
  refine (unchecks_addUsize _ _).bind fun stop => ?_
  refine (Outcome.Unchecks.refl _).bind fun descriptionBytes => ?_
  refine (Outcome.Unchecks.refl _).bind fun unicodeName => ?_
  exact (unchecks_variableData data _ _).bind fun variableData => .refl _

theorem EvBootServicesAppParser.unchecks_parse :
    (parse true data).Unchecks (parse false data) := by
  refine (Outcome.Unchecks.refl _).bind fun _ => ?_
  refine (Outcome.Unchecks.refl _).bind fun devPathLen => ?_
  split
  · exact .refl _
  · refine (unchecks_subUsize _ _).bind fun withoutEnd => ?_
    exact (unchecks_addUsize _ _).bind fun devPathEnd => .refl _

/-- A parser without overflow checks does what it does with them, where that returns. -/
theorem unchecks_parsers (eventType : TcgEventType) :
    (parsers true serde eventType data).Unchecks (parsers false serde eventType data) := by
  cases eventType with
  | EvEventTag => exact EvEventTagParser.unchecks_parse serde data
  | EvEfiVariableDriverConfig | EvEfiVariableBoot | EvEfiVariableBoot2 | EvEfiVariableAuthority =>
    exact EvEfiVariableParser.unchecks_parse data
  | EvEfiBootServicesApplication => exact EvBootServicesAppParser.unchecks_parse data
  | _ => exact .refl _

/-! ## Parsers that stay inside -/

theorem EvSimpleParser.returns_parse : (EvSimpleParser.parse data).Returns :=
  (Outcome.returns_okOr _ _).bind fun _ _ => Outcome.returns_ok _

theorem EvIplParser.returns_parse : (EvIplParser.parse data).Returns := by
  refine returns_ensure_bind fun hlength => ?_
  refine returns_slice_bind (by omega) (by omega) fun start _ => ?_
  dsimp only
  split
  · refine returns_ensure_bind fun htext => ?_
    refine returns_slice_bind (by omega) (by omega) fun text _ => ?_
    exact Outcome.returns_ok _
  · exact Outcome.returns_ok _

theorem AaelEventEntry.returns_fromBytes (s : String) :
    (AaelEventEntry.fromBytes serde s).Returns := by
  unfold AaelEventEntry.fromBytes
  split
  · exact Outcome.returns_bail _
  · split
    · exact Outcome.returns_bail _
    · exact Outcome.returns_ok _

/-- A size of four bytes passes no word. -/
theorem EvEventTagParser.returns_parse : (EvEventTagParser.parse true serde data).Returns := by
  refine returns_greadDebug_bind (by decide) fun eventId _ => ?_
  apply (returns_gread _ _ _ _).bind
  rintro ⟨dataSize, index⟩ hok
  obtain ⟨hread, hindex⟩ := gread_eq_ok.1 hok
  subst hindex
  have hlt : dataSize < 256 ^ 4 := (readLe_eq_some_iff.1 hread).1
  have hadd : (addUsize true (0 + 4 + 4) dataSize).Returns :=
    returns_addUsize_iff.2 (.inl (by omega))
  refine hadd.bind fun stop _ => ?_
  refine (Outcome.returns_okOr _ _).bind fun eventData _ => ?_
  dsimp only
  split
  · refine ((Outcome.returns_okOr _ _).context _).bind fun s _ => ?_
    exact (AaelEventEntry.returns_fromBytes serde s).bind fun aael _ => Outcome.returns_ok _
  · exact Outcome.returns_ok _

theorem returns_formatGuid {guid : Bytes} (h : guid.length = 16) : (formatGuid guid).Returns := by
  refine returns_slice_bind (by omega) (by omega) fun timeLow _ => ?_
  refine returns_slice_bind (by omega) (by omega) fun timeMid _ => ?_
  refine returns_slice_bind (by omega) (by omega) fun timeHigh _ => ?_
  refine returns_slice_bind (by omega) (by omega) fun clock _ => ?_
  refine returns_slice_bind (by omega) (by omega) fun node _ => ?_
  exact Outcome.returns_ok _

/-! ## Faults -/

/-- A size that does not count itself. -/
theorem SimpleStringParser.returns_parse_iff :
    (SimpleStringParser.parse data).Returns ↔ data.head? ≠ some 0 := by
  unfold SimpleStringParser.parse
  cases data with
  | nil => exact iff_of_true (Outcome.returns_bail _) (by simp)
  | cons x rest =>
    have hne : x :: rest ≠ [] := by simp
    have hbyte : byteAt (x :: rest) 0 = .ok x := rfl
    rw [ensure_of hne, Outcome.ok_bind, hbyte, Outcome.ok_bind]
    dsimp only
    by_cases hzero : x = 0
    · subst hzero
      refine iff_of_false (fun h => ?_) (by simp)
      have hslice := (Outcome.returns_bind_iff.1 h).2 () (ensure_of (by simp))
      have hstop : 1 ≤ 1 + (0 : UInt8).toNat - 1 :=
        (returns_slice_iff.1 (Outcome.returns_bind_iff.1 hslice).1).1
      exact absurd hstop (by decide)
    · have hpos : x.toNat ≠ 0 := fun h => hzero (UInt8.toNat_inj.1 h)
      refine iff_of_true ?_ (by simpa using hzero)
      refine returns_ensure_bind fun hlength => ?_
      refine returns_slice_bind (by omega) hlength fun descriptionBytes _ => ?_
      exact (Outcome.returns_okOr _ _).bind fun eventDesc _ => Outcome.returns_ok _

/-- `UnicodeNameLength` of a variable. -/
def unicodeNameLength (data : Bytes) : ℕ := leValue ((data.drop 16).take 8)

/-- `VariableDataLength` of a variable. -/
def variableDataLength (data : Bytes) : ℕ := leValue ((data.drop 24).take 8)

/-- The end of the name of a variable. -/
def nameStop (data : Bytes) : ℕ := 32 + unicodeNameLength data * 2

/-- The end of the name, or of the data behind a name that is a text, passes every word. -/
def VariableFault (data : Bytes) : Prop :=
  32 ≤ data.length ∧ unicodeNameLength data * 2 < 2 ^ 64 ∧
    (2 ^ 64 ≤ nameStop data ∨ nameStop data ≤ data.length ∧
      (fromUtf16 (utf16Words ((data.take (nameStop data)).drop 32))).isSome = true ∧
        2 ^ 64 ≤ nameStop data + variableDataLength data)

theorem gread_of_le {data : Bytes} {index n : ℕ} (h : index + n ≤ data.length) (msg : String) :
    gread data index n msg = .ok (leValue ((data.drop index).take n), index + n) := by
  have hlength : ((data.drop index).take n).length = n := by
    rw [List.length_take, List.length_drop]
    omega
  refine gread_eq_ok.2 ⟨?_, rfl⟩
  unfold readLe
  exact if_pos hlength

theorem returns_getRange_bind {α : Type} {data : Bytes} {start stop : ℕ} {msg : String}
    {f : Bytes → Outcome α}
    (hf : ∀ b, stop ≤ data.length → b = (data.take stop).drop start → (f b).Returns) :
    (Outcome.okOr (getRange data start stop) msg >>= f).Returns := by
  apply (Outcome.returns_okOr _ _).bind
  intro b hb
  have hrange := Outcome.okOr_eq_ok.1 hb
  unfold getRange at hrange
  split at hrange
  · next h => exact hf b h.2 (Option.some.inj hrange).symm
  · cases hrange

/-- A variable is refused before its name is, when its lengths are not there. -/
theorem EvEfiVariableParser.returns_parse_of_short (h : data.length < 32) :
    (EvEfiVariableParser.parse true data).Returns := by
  refine (Outcome.returns_okOr _ _).bind fun guid _ => ?_
  refine returns_greadDebug_bind (by decide) fun unameLength _ => ?_
  refine returns_greadDebug_bind (by decide) fun varDataLength hlength => ?_
  omega

theorem EvEfiVariableParser.returns_variableData_iff {index varDataLength : ℕ}
    (h : index < 2 ^ 64) : (variableData true data index varDataLength).Returns ↔
      index + varDataLength < 2 ^ 64 := by
  unfold variableData
  by_cases hpos : 0 < varDataLength
  · rw [if_pos hpos, Outcome.returns_bind_iff, returns_addUsize_iff]
    constructor
    · rintro ⟨hadd, -⟩
      exact hadd.resolve_right (by simp)
    · intro hlt
      refine ⟨.inl hlt, fun stop _ => ?_⟩
      exact (Outcome.returns_okOr _ _).bind fun bytes _ => Outcome.returns_ok _
  · rw [if_neg hpos]
    exact iff_of_true (Outcome.returns_ok _) (by omega)

/-- **The parser of variables panics exactly when an end passes every word.** -/
theorem EvEfiVariableParser.returns_parse_iff :
    (EvEfiVariableParser.parse true data).Returns ↔ ¬ VariableFault data := by
  by_cases hshort : data.length < 32
  · exact iff_of_true (returns_parse_of_short data hshort) fun h => absurd h.1 (by omega)
  have hlength : 32 ≤ data.length := not_lt.1 hshort
  have hguid : Outcome.okOr (getRange data 0 16) "Failed to read GUID" =
      .ok ((data.take 16).drop 0) := by
    rw [getRange, if_pos ⟨by decide, by omega⟩]
    rfl
  have hname : ∀ msg, greadDebug data 16 8 msg = .ok (unicodeNameLength data, 24) :=
    fun msg => gread_of_le (by omega) _
  have hdata : ∀ msg, greadDebug data 24 8 msg = .ok (variableDataLength data, 32) :=
    fun msg => gread_of_le hlength _
  rw [EvEfiVariableParser.parse, hguid, Outcome.ok_bind, hname, Outcome.ok_bind]
  dsimp only
  rw [hdata, Outcome.ok_bind]
  dsimp only
  constructor
  · rintro h ⟨-, hmul, hfault⟩
    have h := (Outcome.returns_bind_iff.1 h).2 () (ensure_of hmul)
    have hadd : nameStop data < 2 ^ 64 :=
      (returns_addUsize_iff.1 (Outcome.returns_bind_iff.1 h).1).resolve_right (by simp)
    obtain ⟨hinside, htext, hpast⟩ := hfault.resolve_left (not_le.2 hadd)
    have h := (Outcome.returns_bind_iff.1 h).2 _ (addUsize_of_lt hadd)
    have hrange : getRange data 32 (nameStop data) =
        some ((data.take (nameStop data)).drop 32) := if_pos ⟨by unfold nameStop; omega, hinside⟩
    obtain ⟨text, htext⟩ := Option.isSome_iff_exists.1 htext
    have h := (Outcome.returns_bind_iff.1 h).2 _ (Outcome.okOr_eq_ok.2 hrange)
    have h := (Outcome.returns_bind_iff.1 h).2 _ (Outcome.okOr_eq_ok.2 htext)
    have hvariable := (returns_variableData_iff data hadd).1 (Outcome.returns_bind_iff.1 h).1
    omega
  · intro hfault
    refine returns_ensure_bind fun hmul => ?_
    have hadd : nameStop data < 2 ^ 64 := by
      by_contra hpast
      exact hfault ⟨hlength, hmul, .inl (not_lt.1 hpast)⟩
    rw [addUsize_of_lt hadd, Outcome.ok_bind]
    refine returns_getRange_bind fun descriptionBytes hinside hbytes => ?_
    apply (Outcome.returns_okOr _ _).bind
    intro text htext
    have hsome := congrArg Option.isSome (Outcome.okOr_eq_ok.1 htext)
    rw [hbytes] at hsome
    have hvariable : nameStop data + variableDataLength data < 2 ^ 64 := by
      by_contra hpast
      exact hfault ⟨hlength, hmul, .inr ⟨hinside, hsome, not_lt.1 hpast⟩⟩
    refine ((returns_variableData_iff data hadd).2 hvariable).bind fun variableData _ => ?_
    refine (returns_formatGuid ?_).bind fun variableName _ => Outcome.returns_ok _
    rw [List.drop_zero, List.length_take]
    omega

/-- A length of a path from which the End node cannot be taken away, or that passes every word, or a
path with a fault. -/
def LoadFault (data : Bytes) : Prop :=
  32 ≤ data.length ∧ devPathLen data ≠ 0 ∧
    ((devPathLen data < 4 ∨ 2 ^ 64 ≤ devPathLen data + 28) ∨
      8 ≤ devPathLen data ∧ devPathLen data + 28 ≤ data.length ∧ PathFault (devicePathOf data))

theorem EvBootServicesAppParser.returns_parse_iff (overflowChecks : Bool) :
    (EvBootServicesAppParser.parse overflowChecks data).Returns ↔ ¬ LoadFault data := by
  unfold LoadFault
  by_cases hshort : data.length < 32
  · obtain ⟨e, he⟩ : ∃ e, parse overflowChecks data = .err e := parse_of_short hshort
    rw [he]
    exact iff_of_true (fun m hm => Outcome.err_ne_panic hm) fun h => absurd h.1 (by omega)
  have hlength : 32 ≤ data.length := not_lt.1 hshort
  rw [and_iff_right hlength]
  by_cases hzero : devPathLen data = 0
  · rw [parse_of_zero hlength hzero]
    exact iff_of_true (Outcome.returns_ok _) fun h => h.1 hzero
  rw [and_iff_right hzero]
  by_cases hwrap : devPathLen data < 4 ∨ 2 ^ 64 ≤ devPathLen data + 28
  · obtain ⟨m, hm⟩ : ∃ m, parse overflowChecks data = .panic m :=
      parse_of_wrapping hlength hzero hwrap
    exact iff_of_false (fun h => h m hm) (not_not.2 (.inl hwrap))
  rw [or_iff_right hwrap]
  have hlower : 4 ≤ devPathLen data := by omega
  have hupper : devPathLen data + 28 < 2 ^ 64 := by omega
  by_cases hclaimed : data.length < devPathLen data + 28
  · obtain ⟨e, he⟩ : ∃ e, parse overflowChecks data = .err e :=
      parse_of_claimed hlength hlower hupper hclaimed
    rw [he]
    exact iff_of_true (fun m hm => Outcome.err_ne_panic hm) fun h => absurd h.2.1 (by omega)
  have hinside : devPathLen data + 28 ≤ data.length := not_lt.1 hclaimed
  by_cases hheader : devPathLen data < 8
  · obtain ⟨e, he⟩ : ∃ e, parse overflowChecks data = .err e :=
      parse_of_header hlength hlower hupper hinside hheader
    rw [he]
    exact iff_of_true (fun m hm => Outcome.err_ne_panic hm) fun h => absurd h.1 (by omega)
  have hpath : 8 ≤ devPathLen data := not_lt.1 hheader
  have hne : devicePathOf data ≠ [] := by
    intro hnil
    have := length_devicePathOf hinside
    rw [hnil, List.length_nil] at this
    omega
  rw [parse_of_path hlength hlower hupper hinside hpath, returns_getNestedPaths_iff hne,
    and_iff_right hpath, and_iff_right hinside]

/-! ## The parsers together -/

/-- The data of an event on which its parser panics, or computes a length that no machine word
holds. -/
def DataFault (eventType : TcgEventType) (data : Bytes) : Prop :=
  match eventType with
  | .EvEfiVariableDriverConfig | .EvEfiVariableBoot | .EvEfiVariableBoot2
  | .EvEfiVariableAuthority => VariableFault data
  | .EvEfiBootServicesApplication => LoadFault data
  | .EvEfiPlatformFirmwareBlob2 | .EvEfiHandoffTables2 => data.head? = some 0
  | _ => False

/-- **With overflow checks, the parsers panic exactly on data with a fault.** -/
theorem returns_parsers_iff (eventType : TcgEventType) :
    (parsers true serde eventType data).Returns ↔ ¬ DataFault eventType data := by
  cases eventType with
  | EvEfiVariableDriverConfig | EvEfiVariableBoot | EvEfiVariableBoot2 | EvEfiVariableAuthority =>
    exact EvEfiVariableParser.returns_parse_iff data
  | EvEfiBootServicesApplication => exact EvBootServicesAppParser.returns_parse_iff data true
  | EvEfiPlatformFirmwareBlob2 | EvEfiHandoffTables2 =>
    exact SimpleStringParser.returns_parse_iff data
  | EvPostCode | EvAction | EvCompactHash | EvOmitBootDeviceEvents | EvEfiAction =>
    exact iff_of_true (EvSimpleParser.returns_parse data) not_false
  | EvIpl => exact iff_of_true (EvIplParser.returns_parse data) not_false
  | EvEventTag => exact iff_of_true (EvEventTagParser.returns_parse serde data) not_false
  | _ => exact iff_of_true (Outcome.returns_ok _) not_false

end Trustmee.Eventlog
