import Trustmee.Eventlog.Log
import Trustmee.Foundations.Slices

/-!
# The encoding of event logs

An event log is written as the event of the header, which gives the lengths of digests, and then one
event after the other, to the end or to eight bytes of zeros or of ones. Reading a log inverts the
writing: it finds the events that are written there, and it finds them in no log but one that they
are written in (`tryFrom_eq_ok_iff`).
-/

namespace Trustmee.Eventlog

/-! ## Writing -/

/-- The bytes of a digest: its algorithm and what it is. -/
def ElDigest.encode (digest : ElDigest) : Bytes := toLe 2 digest.alg.code ++ digest.digest

/-- An event, as it is written into a log. No event starts with eight zeros. -/
structure TcgEvent where
  index : ℕ
  eventType : TcgEventType
  digests : List ElDigest
  data : Bytes
  index_lt : index < 256 ^ 4
  digests_lt : digests.length < 256 ^ 4
  data_lt : data.length < 256 ^ 4
  not_stop : ¬ (index = 0 ∧ eventType = .EvPrebootCert)

/-- The bytes of digests. -/
def encodeDigests (digests : List ElDigest) : Bytes := digests.flatMap ElDigest.encode

namespace TcgEvent

/-- The bytes of an event. -/
def encode (event : TcgEvent) : Bytes :=
  toLe 4 event.index ++ (toLe 4 event.eventType.code ++ (toLe 4 event.digests.length ++
    (encodeDigests event.digests ++ (toLe 4 event.data.length ++ event.data))))

/-- The digests of an event are as long as the header says. -/
def Fits (sizes : DigestSizes) (event : TcgEvent) : Prop :=
  ∀ digest ∈ event.digests, sizes digest.alg = some digest.digest.length

/-- The event with what its parser finds in its data. -/
def entry (event : TcgEvent) (digestMatchesEvent : Bool) (details : EventDetails) :
    EventlogEntry where
  details := details
  digestMatchesEvent := digestMatchesEvent
  digests := event.digests
  event := Base64.encode event.data
  index := event.index
  eventType := event.eventType

/-- The entry that an event is read as, by the parser of its type. -/
def Reads (H : Hashes) (P : Parsers) (event : TcgEvent) (e : EventlogEntry) : Prop :=
  ∃ digestMatchesEvent details,
    compareDigests H event.data event.digests = .ok digestMatchesEvent ∧
      P event.eventType event.data = .ok details ∧ e = event.entry digestMatchesEvent details

end TcgEvent

/-- The event of the header, as it is written into a log. -/
structure SpecIdEvent where
  pcrIndex : ℕ
  digest : Bytes
  /-- The signature, the version and the width of integers. -/
  specId : Bytes
  sizes : List (TcgAlgorithm × ℕ)
  vendorInfo : Bytes
  pcrIndex_lt : pcrIndex < 256 ^ 4
  length_digest : digest.length = 20
  length_specId : specId.length = 24
  sizes_lt : ∀ p ∈ sizes, p.2 < 256 ^ 2
  vendorInfo_lt : vendorInfo.length < 256
  /-- The length of the data has four bytes. -/
  length_lt : 29 + 4 * sizes.length + vendorInfo.length < 256 ^ 4

/-- The bytes of the lengths of digests. -/
def encodeSizes (sizes : List (TcgAlgorithm × ℕ)) : Bytes :=
  sizes.flatMap fun p => toLe 2 p.1.code ++ toLe 2 p.2

namespace SpecIdEvent

/-- The bytes of the data of the header. -/
def encodeData (header : SpecIdEvent) : Bytes :=
  header.specId ++ (toLe 4 header.sizes.length ++ (encodeSizes header.sizes ++
    (UInt8.ofNat header.vendorInfo.length :: header.vendorInfo)))

/-- The bytes of the header. -/
def encode (header : SpecIdEvent) : Bytes :=
  toLe 4 header.pcrIndex ++ (toLe 4 TcgEventType.EvNoAction.code ++ (header.digest ++
    (toLe 4 header.encodeData.length ++ header.encodeData)))

/-- The lengths of digests that the header gives. -/
def table (header : SpecIdEvent) : DigestSizes := Table.insertAll .empty header.sizes

end SpecIdEvent

/-- Eight bytes of zeros or of ones, and what pads the log. -/
def IsStop (tail : Bytes) : Prop :=
  ∃ padding, tail = List.replicate 8 0 ++ padding ∨ tail = List.replicate 8 0xFF ++ padding

/-- Where a log ends: at its last byte, or at a stop. -/
def IsEnd (tail : Bytes) : Prop := tail = [] ∨ IsStop tail

/-! ## Reading what is written -/

variable {data : Bytes} {index index' n v : ℕ} {msg : String} {sizes : DigestSizes}

/-- A read finds the integer that is written at the index. -/
theorem gread_eq_ok_iff : gread data index n msg = .ok (v, index') ↔
    index' = index + n ∧ v < 256 ^ n ∧ data.drop index = toLe n v ++ data.drop index' := by
  rw [gread_eq_ok, readLe_eq_some_iff]
  constructor
  · rintro ⟨⟨hlt, hdrop⟩, rfl⟩
    exact ⟨rfl, hlt, hdrop⟩
  · rintro ⟨rfl, hlt, hdrop⟩
    exact ⟨⟨hlt, hdrop⟩, rfl⟩

/-- What is written at an index does not pass the end. -/
theorem le_length_of_drop {b : Bytes} (hb : b ≠ [])
    (h : data.drop index = b ++ data.drop (index + b.length)) : index + b.length ≤ data.length := by
  have hlength := congrArg List.length h
  have hpos := List.length_pos_iff.2 hb
  rw [List.length_append, List.length_drop, List.length_drop] at hlength
  omega

/-- An integer that is written at an index does not pass the end. -/
theorem le_length_of_toLe (hn : 0 < n) (h : data.drop index = toLe n v ++ data.drop (index + n)) :
    index + n ≤ data.length := by
  have hne : toLe n v ≠ [] := by
    rw [← List.length_pos_iff, length_toLe]
    exact hn
  have hle := le_length_of_drop hne (by rw [length_toLe]; exact h)
  rwa [length_toLe] at hle

theorem sliceFrom_eq_ok_iff {size : ℕ} {b : Bytes} (h : index ≤ data.length) :
    sliceFrom data index size = .ok b ↔
      b.length = size ∧ data.drop index = b ++ data.drop (index + size) := by
  unfold sliceFrom
  constructor
  · intro hok
    split at hok
    · cases hok
      refine ⟨?_, ?_⟩
      · rw [List.length_take, List.length_drop]
        omega
      · rw [← List.drop_drop, List.take_append_drop]
    · cases hok
  · rintro ⟨rfl, hdrop⟩
    have hlength := congrArg List.length hdrop
    rw [List.length_append, List.length_drop, List.length_drop] at hlength
    rw [if_pos (by omega), hdrop, List.take_left]

theorem encodeDigests_cons (digest : ElDigest) (digests : List ElDigest) :
    encodeDigests (digest :: digests) = digest.encode ++ encodeDigests digests := List.flatMap_cons

theorem length_encode_digest (digest : ElDigest) :
    digest.encode.length = 2 + digest.digest.length := by
  rw [ElDigest.encode, List.length_append, length_toLe]

/-- **The digests that are read are the ones that are written.** -/
theorem readDigests_eq_ok_iff {digests : List ElDigest} (h : index ≤ data.length) :
    readDigests data sizes n index = .ok (digests, index') ↔
      digests.length = n ∧ (∀ digest ∈ digests, sizes digest.alg = some digest.digest.length) ∧
        index' = index + (encodeDigests digests).length ∧
          data.drop index = encodeDigests digests ++ data.drop index' := by
  induction n generalizing index digests with
  | zero =>
    rw [readDigests]
    constructor
    · intro hok
      cases hok
      exact ⟨rfl, by simp, rfl, rfl⟩
    · rintro ⟨hlength, -, rfl, -⟩
      rw [List.length_eq_zero_iff] at hlength
      subst hlength
      rfl
  | succ n ih =>
    simp only [readDigests, Outcome.bind_eq_ok, Prod.exists, gread_eq_ok_iff, Outcome.okOr_eq_ok,
      TcgAlgorithm.tryFrom_eq_some_iff, Outcome.pure_eq, Outcome.ok.injEq, Prod.mk.injEq]
    constructor
    · rintro ⟨_, _, ⟨rfl, -, hcode⟩, alg, rfl, size, hsize, digest, hdigest, rest, _, hrest, rfl, rfl⟩
      have hheader := le_length_of_toLe (by decide) hcode
      obtain ⟨rfl, hdrop⟩ := (sliceFrom_eq_ok_iff hheader).1 hdigest
      have hinside : index + 2 + digest.length ≤ data.length := by
        have hlength := congrArg List.length hdrop
        rw [List.length_append, List.length_drop, List.length_drop] at hlength
        omega
      obtain ⟨rfl, hfits, rfl, htail⟩ := (ih hinside).1 hrest
      have hlength : (encodeDigests (⟨alg, digest⟩ :: rest)).length =
          2 + digest.length + (encodeDigests rest).length := by
        rw [encodeDigests_cons, List.length_append, length_encode_digest]
      refine ⟨rfl, ?_, ?_, ?_⟩
      · intro d hd
        rcases List.mem_cons.1 hd with rfl | hd
        · exact hsize
        · exact hfits d hd
      · rw [hlength]
        omega
      · rw [hcode, hdrop, htail, encodeDigests_cons, ElDigest.encode]
        simp only [List.append_assoc]
    · rintro ⟨hlength, hfits, rfl, hdrop⟩
      obtain ⟨digest, rest, rfl⟩ := List.exists_cons_of_length_eq_add_one hlength
      have hstep : (encodeDigests (digest :: rest)).length =
          2 + digest.digest.length + (encodeDigests rest).length := by
        rw [encodeDigests_cons, List.length_append, length_encode_digest]
      have hcode : data.drop index = toLe 2 digest.alg.code ++ (digest.digest ++
          (encodeDigests rest ++ data.drop (index + (encodeDigests (digest :: rest)).length))) := by
        rw [hdrop, encodeDigests_cons, ElDigest.encode]
        simp only [List.append_assoc]
      have hdigest := drop_of_append hcode (length_toLe 2 _)
      have hrest := drop_of_append hdigest rfl
      have hheader : index + 2 ≤ data.length :=
        le_length_of_toLe (by decide) (by rw [hdigest, hcode])
      have hslice : sliceFrom data (index + 2) digest.digest.length = .ok digest.digest :=
        (sliceFrom_eq_ok_iff hheader).2 ⟨rfl, by rw [hrest, hdigest]⟩
      have hinside : index + 2 + digest.digest.length ≤ data.length := by
        have hlengths := congrArg List.length hdigest
        rw [List.length_append, List.length_drop] at hlengths
        omega
      refine ⟨digest.alg.code, index + 2, ⟨rfl, digest.alg.code_lt, by rw [hdigest, hcode]⟩,
        digest.alg, rfl, digest.digest.length, hfits digest List.mem_cons_self, digest.digest,
        hslice, rest, _, (ih hinside).2 ⟨by simpa using hlength,
          fun d hd => hfits d (List.mem_cons_of_mem _ hd), ?_, hrest⟩, rfl, rfl⟩
      omega

/-- Digests that are counted at an index. -/
theorem parseDigests_eq_ok_iff {digests : List ElDigest} :
    parseDigests data index sizes = .ok (digests, index') ↔
      digests.length < 256 ^ 4 ∧ (∀ d ∈ digests, sizes d.alg = some d.digest.length) ∧
        index' = index + 4 + (encodeDigests digests).length ∧
          data.drop index = toLe 4 digests.length ++ (encodeDigests digests ++ data.drop index') := by
  simp only [parseDigests, Outcome.bind_eq_ok, Prod.exists, gread_eq_ok_iff]
  constructor
  · rintro ⟨_, _, ⟨rfl, hcount, hcountAt⟩, hdigests⟩
    obtain ⟨rfl, hfits, rfl, hdigestsAt⟩ :=
      (readDigests_eq_ok_iff (le_length_of_toLe (by decide) hcountAt)).1 hdigests
    exact ⟨hcount, hfits, rfl, by rw [hcountAt, hdigestsAt]⟩
  · rintro ⟨hcount, hfits, rfl, hdrop⟩
    have hdigestsAt := drop_of_append hdrop (length_toLe 4 _)
    rw [← hdigestsAt] at hdrop
    have hinside := le_length_of_toLe (by decide) hdrop
    exact ⟨_, _, ⟨rfl, hcount, hdrop⟩, (readDigests_eq_ok_iff hinside).2 ⟨rfl, hfits, rfl,
      hdigestsAt⟩⟩

/-! ## Events -/

variable {H : Hashes} {P : Parsers} {e : EventlogEntry} {event : TcgEvent}

/-- The flag that an event starts with is its register and its type. -/
theorem stopFlag_of_drop {register code : ℕ} {rest : Bytes} (hregister : register < 256 ^ 4)
    (hcode : code < 256 ^ 4) (h : data.drop index = toLe 4 register ++ (toLe 4 code ++ rest)) :
    readLe data index 8 = some (register + 256 ^ 4 * code) := by
  rw [← List.append_assoc] at h
  have hlength : (toLe 4 register ++ toLe 4 code).length = 8 := by
    rw [List.length_append, length_toLe, length_toLe]
  rw [readLe_of_drop h hlength, leValue_append, length_toLe, leValue_toLe hregister,
    leValue_toLe hcode]

/-- An event does not start with a flag that stops. -/
theorem not_stop_iff {register : ℕ} {eventType : TcgEventType} (hregister : register < 256 ^ 4) :
    ¬ (register + 256 ^ 4 * eventType.code = 0xFFFFFFFFFFFFFFFF ∨
      register + 256 ^ 4 * eventType.code = 0) ↔
        ¬ (register = 0 ∧ eventType = .EvPrebootCert) := by
  have hcode := eventType.code_lt
  rw [← TcgEventType.code_eq_zero_iff]
  omega

theorem length_encode_event (event : TcgEvent) : event.encode.length =
    16 + (encodeDigests event.digests).length + event.data.length := by
  simp only [TcgEvent.encode, List.length_append, length_toLe]
  omega

/-- A flag that does not stop is the start of an event. -/
theorem not_stop_of_read {stopFlag register : ℕ} {eventType : TcgEventType} {rest : Bytes}
    (hstop : readLe data index 8 = some stopFlag)
    (hflag : ¬ (stopFlag = 0xFFFFFFFFFFFFFFFF ∨ stopFlag = 0)) (hregister : register < 256 ^ 4)
    (h : data.drop index = toLe 4 register ++ (toLe 4 eventType.code ++ rest)) :
    ¬ (register = 0 ∧ eventType = .EvPrebootCert) := by
  have hcode : eventType.code < 256 ^ 4 := lt_trans eventType.code_lt (by decide)
  rw [stopFlag_of_drop hregister hcode h] at hstop
  rw [← Option.some.inj hstop] at hflag
  exact (not_stop_iff hregister).1 hflag

/-- What `parse_eventlog_entry` does behind the type of an event. -/
def parseBody (H : Hashes) (P : Parsers) (data : Bytes) (sizes : DigestSizes) (register : ℕ)
    (eventType : TcgEventType) (index : ℕ) : Outcome (Option EventlogEntry × ℕ) := do
  let (digests, index) ← parseDigests data index sizes
  let (eventDataSize, index) ← gread data index 4 "Cannot read event data size"
  Outcome.ensure (eventDataSize ≤ data.length)
    ("Data is too short: expected at least " ++ toString eventDataSize ++ " bytes")
  let eventDataRaw ← sliceFrom data index eventDataSize
  let digestMatchesEvent ← compareDigests H eventDataRaw digests
  let details ← P eventType eventDataRaw
  return (some {
    index := register
    eventType
    digestMatchesEvent
    digests
    event := Base64.encode eventDataRaw
    details }, index + eventDataSize)

/-- The reader goes on behind the start of an event. -/
theorem parseEventlogEntry_of_start {register : ℕ} {eventType : TcgEventType} {rest : Bytes}
    (hregister : register < 256 ^ 4) (hstop : ¬ (register = 0 ∧ eventType = .EvPrebootCert))
    (h : data.drop index = toLe 4 register ++ (toLe 4 eventType.code ++ rest)) :
    parseEventlogEntry H P data index sizes =
      parseBody H P data sizes register eventType (index + 4 + 4) := by
  have hcode : eventType.code < 256 ^ 4 := lt_trans eventType.code_lt (by decide)
  have hflag := (not_stop_iff hregister).2 hstop
  have hread : ∀ msg, gread data index 8 msg =
      .ok (register + 256 ^ 4 * eventType.code, index + 8) :=
    fun msg => gread_eq_ok.2 ⟨stopFlag_of_drop hregister hcode h, rfl⟩
  have htypeAt := drop_of_append h (length_toLe 4 _)
  have hrest := drop_of_append htypeAt (length_toLe 4 _)
  rw [← htypeAt] at h
  rw [← hrest] at htypeAt
  rw [parseEventlogEntry, hread, Outcome.ok_bind]
  dsimp only
  rw [if_neg hflag, gread_eq_ok_iff.2 ⟨rfl, hregister, h⟩, Outcome.ok_bind]
  dsimp only
  rw [gread_eq_ok_iff.2 ⟨rfl, hcode, htypeAt⟩, Outcome.ok_bind]
  dsimp only
  rw [Outcome.okOr_eq_ok.2 (TcgEventType.tryFrom_eq_some_iff.2 rfl), Outcome.ok_bind]
  rfl

/-- What is read behind the type of an event is what is written there. -/
theorem parseBody_eq_some_iff {register : ℕ} {eventType : TcgEventType} :
    parseBody H P data sizes register eventType index = .ok (some e, index') ↔
      ∃ (digests : List ElDigest) (raw : Bytes) (digestMatchesEvent : Bool)
        (details : EventDetails), digests.length < 256 ^ 4 ∧ raw.length < 256 ^ 4 ∧
          (∀ digest ∈ digests, sizes digest.alg = some digest.digest.length) ∧
            compareDigests H raw digests = .ok digestMatchesEvent ∧ P eventType raw = .ok details ∧
              e = ⟨details, digestMatchesEvent, digests, Base64.encode raw, register, eventType⟩ ∧
                index' = index + (8 + (encodeDigests digests).length + raw.length) ∧
                  data.drop index = toLe 4 digests.length ++ (encodeDigests digests ++
                    (toLe 4 raw.length ++ (raw ++ data.drop index'))) := by
  simp only [parseBody, Outcome.bind_eq_ok, Prod.exists, parseDigests_eq_ok_iff, gread_eq_ok_iff,
    Outcome.ensure_eq_ok, decide_eq_true_eq, Outcome.pure_eq, Outcome.ok.injEq, Prod.mk.injEq,
    Option.some.injEq]
  constructor
  · rintro ⟨digests, _, ⟨hcount, hfits, rfl, hcountAt⟩, size, _, ⟨rfl, hsize, hsizeAt⟩, _, -, raw,
      hraw, digestMatchesEvent, hcompare, details, hdetails, rfl, rfl⟩
    obtain ⟨rfl, hrawAt⟩ := (sliceFrom_eq_ok_iff (le_length_of_toLe (by decide) hsizeAt)).1 hraw
    have hend : index + (8 + (encodeDigests digests).length + raw.length) =
        index + 4 + (encodeDigests digests).length + 4 + raw.length := by omega
    refine ⟨digests, raw, digestMatchesEvent, details, hcount, hsize, hfits, hcompare, hdetails,
      rfl, hend.symm, ?_⟩
    rw [hcountAt, hsizeAt, hrawAt]
  · rintro ⟨digests, raw, digestMatchesEvent, details, hcount, hsize, hfits, hcompare, hdetails,
      rfl, rfl, hcountAt⟩
    have hdigestsAt := drop_of_append hcountAt (length_toLe 4 _)
    have hsizeAt := drop_of_append hdigestsAt rfl
    have hrawAt := drop_of_append hsizeAt (length_toLe 4 _)
    have hrestAt := drop_of_append hrawAt rfl
    rw [← hsizeAt] at hcountAt
    rw [← hrawAt] at hsizeAt
    rw [← hrestAt] at hrawAt
    have hlength : raw.length ≤ data.length := by
      have hlengths := congrArg List.length hrawAt
      rw [List.length_append, List.length_drop] at hlengths
      omega
    exact ⟨digests, _, ⟨hcount, hfits, rfl, hcountAt⟩, raw.length, _, ⟨rfl, hsize, hsizeAt⟩, (),
      hlength, raw, (sliceFrom_eq_ok_iff (le_length_of_toLe (by decide) hsizeAt)).2 ⟨rfl, hrawAt⟩,
      digestMatchesEvent, hcompare, details, hdetails, rfl, by omega⟩

/-- The flag of a stop. -/
theorem isStop_iff : IsStop (data.drop index) ↔ ∃ stopFlag, readLe data index 8 = some stopFlag ∧
    (stopFlag = 0xFFFFFFFFFFFFFFFF ∨ stopFlag = 0) := by
  constructor
  · rintro ⟨padding, h | h⟩
    · exact ⟨_, readLe_of_drop h rfl, .inr rfl⟩
    · exact ⟨_, readLe_of_drop h rfl, .inl rfl⟩
  · rintro ⟨stopFlag, hread, hflag⟩
    have hdrop := (readLe_eq_some_iff.1 hread).2
    rcases hflag with rfl | rfl
    · exact ⟨_, .inr hdrop⟩
    · exact ⟨_, .inl hdrop⟩

theorem parseEventlogEntry_of_isStop (h : IsStop (data.drop index)) :
    parseEventlogEntry H P data index sizes = .ok (none, 0) := by
  obtain ⟨stopFlag, hread, hflag⟩ := isStop_iff.1 h
  have hstop : ∀ msg, gread data index 8 msg = .ok (stopFlag, index + 8) :=
    fun msg => gread_eq_ok.2 ⟨hread, rfl⟩
  rw [parseEventlogEntry, hstop, Outcome.ok_bind]
  dsimp only
  rw [if_pos hflag]
  rfl

/-- What the reader does not refuse is a stop, or starts as an event does. -/
theorem isStop_or_exists_start
    (h : ∀ error, parseEventlogEntry H P data index sizes ≠ .err error) :
    IsStop (data.drop index) ∨
      ∃ (register : ℕ) (eventType : TcgEventType) (rest : Bytes), register < 256 ^ 4 ∧
        ¬ (register = 0 ∧ eventType = .EvPrebootCert) ∧
          data.drop index = toLe 4 register ++ (toLe 4 eventType.code ++ rest) := by
  rw [isStop_iff]
  obtain ⟨⟨stopFlag, _⟩, hstop, h⟩ := (returns_gread _ _ _ _).exists_eq_ok h
  have hread := (gread_eq_ok.1 hstop).1
  dsimp only at h
  split at h
  · next hflag => exact .inl ⟨stopFlag, hread, hflag⟩
  next hflag =>
  obtain ⟨⟨register, _⟩, hregister, h⟩ := (returns_gread _ _ _ _).exists_eq_ok h
  obtain ⟨⟨code, _⟩, hcode, h⟩ := (returns_gread _ _ _ _).exists_eq_ok h
  obtain ⟨eventType, htry, -⟩ := (Outcome.returns_okOr _ _).exists_eq_ok h
  obtain ⟨rfl, hlt, hregisterAt⟩ := gread_eq_ok_iff.1 hregister
  obtain ⟨rfl, -, htypeAt⟩ := gread_eq_ok_iff.1 hcode
  rw [Outcome.okOr_eq_ok, TcgEventType.tryFrom_eq_some_iff] at htry
  rw [htypeAt, show code = eventType.code from htry] at hregisterAt
  exact .inr ⟨register, eventType, _, hlt, not_stop_of_read hread hflag hlt hregisterAt,
    hregisterAt⟩

/-- **The event that is read is the one that is written.** -/
theorem parseEventlogEntry_eq_some_iff :
    parseEventlogEntry H P data index sizes = .ok (some e, index') ↔
      ∃ event : TcgEvent, event.Fits sizes ∧ event.Reads H P e ∧
        index' = index + event.encode.length ∧
          data.drop index = event.encode ++ data.drop index' := by
  constructor
  · intro h
    rcases isStop_or_exists_start (Outcome.ne_err_of_ok h) with
      hstop | ⟨register, eventType, rest, hregister, hstop, hdrop⟩
    · rw [parseEventlogEntry_of_isStop hstop] at h
      cases h
    rw [parseEventlogEntry_of_start hregister hstop hdrop, parseBody_eq_some_iff,
      drop_of_append (drop_of_append hdrop (length_toLe 4 _)) (length_toLe 4 _)] at h
    obtain ⟨digests, raw, digestMatchesEvent, details, hcount, hsize, hfits, hcompare, hdetails,
      rfl, rfl, hrest⟩ := h
    refine ⟨⟨register, eventType, digests, raw, hregister, hcount, hsize, hstop⟩, hfits,
      ⟨digestMatchesEvent, details, hcompare, hdetails, rfl⟩, ?_, ?_⟩
    · rw [length_encode_event]
      dsimp only
      omega
    · rw [hdrop, hrest, TcgEvent.encode]
      simp only [List.append_assoc]
  · rintro ⟨event, hfits, ⟨digestMatchesEvent, details, hcompare, hdetails, rfl⟩, rfl, hdrop⟩
    have hstart : data.drop index = toLe 4 event.index ++ (toLe 4 event.eventType.code ++
        (toLe 4 event.digests.length ++ (encodeDigests event.digests ++
          (toLe 4 event.data.length ++ (event.data ++
            data.drop (index + event.encode.length)))))) := by
      rw [hdrop, TcgEvent.encode]
      simp only [List.append_assoc]
    have hend : index + event.encode.length =
        index + 4 + 4 + (8 + (encodeDigests event.digests).length + event.data.length) := by
      rw [length_encode_event]
      omega
    rw [parseEventlogEntry_of_start event.index_lt event.not_stop hstart, parseBody_eq_some_iff]
    exact ⟨event.digests, event.data, digestMatchesEvent, details, event.digests_lt, event.data_lt,
      hfits, hcompare, hdetails, rfl, hend,
      drop_of_append (drop_of_append hstart (length_toLe 4 _)) (length_toLe 4 _)⟩

/-- **The reader stops exactly at a stop.** -/
theorem parseEventlogEntry_eq_none_iff :
    parseEventlogEntry H P data index sizes = .ok (none, index') ↔
      index' = 0 ∧ IsStop (data.drop index) := by
  constructor
  · intro h
    rcases isStop_or_exists_start (Outcome.ne_err_of_ok h) with
      hstop | ⟨register, eventType, rest, hregister, hstop, hdrop⟩
    · rw [parseEventlogEntry_of_isStop hstop] at h
      cases h
      exact ⟨rfl, hstop⟩
    · rw [parseEventlogEntry_of_start hregister hstop hdrop] at h
      simp only [parseBody, Outcome.bind_eq_ok, Outcome.pure_eq, Outcome.ok.injEq, Prod.mk.injEq,
        reduceCtorEq, false_and, and_false, exists_false] at h
  · rintro ⟨rfl, hstop⟩
    exact parseEventlogEntry_of_isStop hstop

/-! ## The events of a log -/

/-- The bytes of events. -/
def encodeEvents (events : List TcgEvent) : Bytes := events.flatMap TcgEvent.encode

theorem encodeEvents_cons (event : TcgEvent) (events : List TcgEvent) :
    encodeEvents (event :: events) = event.encode ++ encodeEvents events := List.flatMap_cons

theorem encode_event_ne_nil (event : TcgEvent) (rest : Bytes) : event.encode ++ rest ≠ [] := by
  rw [← List.length_pos_iff, List.length_append, length_encode_event]
  omega

/-- The entries that events are read as. -/
def ReadsAll (H : Hashes) (P : Parsers) (sizes : DigestSizes) (events : List TcgEvent)
    (log : List EventlogEntry) : Prop :=
  List.Forall₂ (fun event e => event.Fits sizes ∧ event.Reads H P e) events log

/-- Where nothing is left, nothing is written. -/
theorem exists_events_nil_iff {log : List EventlogEntry} :
    (∃ events tail, [] = encodeEvents events ++ tail ∧ IsEnd tail ∧ ReadsAll H P sizes events log) ↔
      log = [] := by
  constructor
  · rintro ⟨events, tail, hdrop, -, hreads⟩
    cases hreads with
    | nil => rfl
    | cons _ _ =>
      rw [encodeEvents_cons, List.append_assoc] at hdrop
      exact absurd hdrop.symm (encode_event_ne_nil _ _)
  · rintro rfl
    exact ⟨[], [], rfl, .inl rfl, .nil⟩

/-- **The entries that are read are those of the events that are written, up to an end.** -/
theorem readEntries_eq_ok_iff {fuel : ℕ} {log : List EventlogEntry}
    (h : data.length ≤ index + fuel) : readEntries H P data sizes fuel index = .ok log ↔
      ∃ events tail, data.drop index = encodeEvents events ++ tail ∧ IsEnd tail ∧
        ReadsAll H P sizes events log := by
  induction fuel generalizing index log with
  | zero =>
    have hend : data.length ≤ index := h
    rw [List.drop_eq_nil_of_le hend, exists_events_nil_iff, readEntries, Outcome.ok.injEq, eq_comm]
  | succ fuel ih =>
    rw [readEntries]
    by_cases hindex : index < data.length
    · rw [if_pos hindex, Outcome.bind_eq_ok]
      constructor
      · rintro ⟨⟨_ | e, index'⟩, hentry, hrest⟩
        · cases hrest
          have hstop := (parseEventlogEntry_eq_none_iff.1 hentry).2
          exact ⟨[], data.drop index, rfl, .inr hstop, .nil⟩
        · obtain ⟨event, hfits, hreads, rfl, hdrop⟩ := parseEventlogEntry_eq_some_iff.1 hentry
          obtain ⟨log', hlog, hok⟩ := Outcome.bind_eq_ok.1 hrest
          cases hok
          have hlength := length_encode_event event
          obtain ⟨events, tail, htail, hend, hall⟩ := (ih (by omega)).1 hlog
          refine ⟨event :: events, tail, ?_, hend, .cons ⟨hfits, hreads⟩ hall⟩
          rw [hdrop, htail, encodeEvents_cons, List.append_assoc]
      · rintro ⟨events, tail, hdrop, hend, hall⟩
        cases hall with
        | nil =>
          have hne : data.drop index ≠ [] := by
            rw [← List.length_pos_iff, List.length_drop]
            omega
          have hstop : IsStop (data.drop index) := by
            rw [hdrop] at hne ⊢
            exact hend.resolve_left hne
          exact ⟨(none, 0), parseEventlogEntry_eq_none_iff.2 ⟨rfl, hstop⟩, rfl⟩
        | @cons event e events log hread hall =>
          rw [encodeEvents_cons, List.append_assoc] at hdrop
          have hrest := drop_of_append hdrop rfl
          have hlength := length_encode_event event
          refine ⟨(some e, index + event.encode.length), parseEventlogEntry_eq_some_iff.2
            ⟨event, hread.1, hread.2, rfl, by rw [hrest, hdrop]⟩, ?_⟩
          have hlog := (ih (by omega)).2 ⟨events, tail, hrest, hend, hall⟩
          exact Outcome.bind_eq_ok.2 ⟨log, hlog, rfl⟩
    · rw [if_neg hindex, List.drop_eq_nil_of_le (not_lt.1 hindex), exists_events_nil_iff,
        Outcome.ok.injEq, eq_comm]

/-! ## The header -/

theorem encodeSizes_cons (alg : TcgAlgorithm) (size : ℕ) (l : List (TcgAlgorithm × ℕ)) :
    encodeSizes ((alg, size) :: l) = toLe 2 alg.code ++ (toLe 2 size ++ encodeSizes l) := by
  rw [encodeSizes, List.flatMap_cons, List.append_assoc]
  rfl

theorem length_encodeSizes (l : List (TcgAlgorithm × ℕ)) :
    (encodeSizes l).length = 4 * l.length := by
  induction l with
  | nil => rfl
  | cons p l ih =>
    rw [encodeSizes_cons, List.length_append, List.length_append, length_toLe, length_toLe, ih,
      List.length_cons]
    omega

/-- **The lengths that are read are the ones that are written.** -/
theorem readDigestSizes_eq_ok_iff {sizes' : DigestSizes} :
    readDigestSizes data n index sizes = .ok (index', sizes') ↔
      ∃ l : List (TcgAlgorithm × ℕ), l.length = n ∧ (∀ p ∈ l, p.2 < 256 ^ 2) ∧
        index' = index + 4 * n ∧ data.drop index = encodeSizes l ++ data.drop index' ∧
          sizes' = sizes.insertAll l := by
  induction n generalizing index sizes with
  | zero =>
    rw [readDigestSizes]
    constructor
    · intro hok
      cases hok
      exact ⟨[], rfl, by simp, rfl, rfl, rfl⟩
    · rintro ⟨l, hlength, -, rfl, -, rfl⟩
      rw [List.length_eq_zero_iff] at hlength
      subst hlength
      rfl
  | succ n ih =>
    simp only [readDigestSizes, Outcome.bind_eq_ok, Prod.exists, gread_eq_ok_iff,
      Outcome.okOr_eq_ok, TcgAlgorithm.tryFrom_eq_some_iff, ih]
    constructor
    · rintro ⟨_, _, ⟨rfl, -, hcode⟩, size, _, ⟨rfl, hsize, hsizeAt⟩, alg, rfl, l, rfl, hl, rfl,
        hdrop, rfl⟩
      refine ⟨(alg, size) :: l, rfl, ?_, by omega, ?_, rfl⟩
      · intro p hp
        rcases List.mem_cons.1 hp with rfl | hp
        · exact hsize
        · exact hl p hp
      · rw [hcode, hsizeAt, hdrop, encodeSizes_cons]
        simp only [List.append_assoc]
    · rintro ⟨l, hlength, hl, rfl, hdrop, rfl⟩
      obtain ⟨⟨alg, size⟩, l, rfl⟩ := List.exists_cons_of_length_eq_add_one hlength
      have hcode : data.drop index = toLe 2 alg.code ++ (toLe 2 size ++ (encodeSizes l ++
          data.drop (index + 4 * (n + 1)))) := by
        rw [hdrop, encodeSizes_cons]
        simp only [List.append_assoc]
      have hsizeAt := drop_of_append hcode (length_toLe 2 _)
      have hrest := drop_of_append hsizeAt (length_toLe 2 _)
      refine ⟨alg.code, index + 2, ⟨rfl, alg.code_lt, by rw [hsizeAt, hcode]⟩, size, index + 2 + 2,
        ⟨rfl, hl (alg, size) List.mem_cons_self, by rw [hrest, hsizeAt]⟩, alg, rfl, l,
        by simpa using hlength, fun p hp => hl p (List.mem_cons_of_mem _ hp), by omega, hrest, rfl⟩

/-- The header's data are read as what is written there, up to their end. -/
theorem parseDigestSizes_eq_ok_iff : parseDigestSizes data .empty = .ok (data.length, sizes) ↔
    ∃ (specId : Bytes) (l : List (TcgAlgorithm × ℕ)) (vendorInfo : Bytes), specId.length = 24 ∧
      (∀ p ∈ l, p.2 < 256 ^ 2) ∧ l.length < 256 ^ 4 ∧ vendorInfo.length < 256 ∧
        data = specId ++ (toLe 4 l.length ++ (encodeSizes l ++
          (UInt8.ofNat vendorInfo.length :: vendorInfo))) ∧
            sizes = Table.insertAll .empty l := by
  constructor
  · intro h
    simp only [parseDigestSizes, Outcome.bind_eq_ok, Prod.exists, gread_eq_ok_iff,
      readDigestSizes_eq_ok_iff] at h
    obtain ⟨_, _, ⟨rfl, hcount, hcountAt⟩, _, _, ⟨l, rfl, hl, rfl, hsizesAt, rfl⟩, h⟩ := h
    split at h
    · next vendorSize hvendorSize =>
      simp only [Outcome.pure_eq, Outcome.ok.injEq, Prod.mk.injEq] at h
      obtain ⟨hlength, rfl⟩ := h
      obtain ⟨hlt, hvendorAt⟩ := List.getElem?_eq_some_iff.1 hvendorSize
      have hvendor := List.drop_eq_getElem_cons hlt
      rw [hvendorAt] at hvendor
      have hinfo : (data.drop (24 + 4 + 4 * l.length + 1)).length = vendorSize.toNat := by
        rw [List.length_drop]
        omega
      refine ⟨data.take 24, l, data.drop (24 + 4 + 4 * l.length + 1), ?_, hl, hcount, ?_, ?_, rfl⟩
      · rw [List.length_take]
        omega
      · rw [hinfo]
        exact vendorSize.toNat_lt
      · rw [hinfo, UInt8.ofNat_toNat, ← hvendor, ← hsizesAt, ← hcountAt, List.take_append_drop]
    · cases h
  · rintro ⟨specId, l, vendorInfo, hspecId, hl, hcount, hvendorInfo, hdata, rfl⟩
    have hcountAt : data.drop 24 = toLe 4 l.length ++ (encodeSizes l ++
        (UInt8.ofNat vendorInfo.length :: vendorInfo)) := by
      rw [hdata, List.drop_left' hspecId]
    have hsizesAt := drop_of_append hcountAt (length_toLe 4 _)
    have hvendor := drop_of_append hsizesAt (length_encodeSizes l)
    have hlength : data.length = 24 + 4 + 4 * l.length + (vendorInfo.length + 1) := by
      rw [hdata]
      simp only [List.length_append, List.length_cons, hspecId, length_toLe, length_encodeSizes]
      omega
    have hvendorSize : data[24 + 4 + 4 * l.length]? = some (UInt8.ofNat vendorInfo.length) := by
      have hhead : (data.drop (24 + 4 + 4 * l.length))[0]? =
          some (UInt8.ofNat vendorInfo.length) := by
        rw [hvendor, List.getElem?_cons_zero]
      rwa [List.getElem?_drop] at hhead
    have hbyte : (UInt8.ofNat vendorInfo.length).toNat = vendorInfo.length :=
      UInt8.toNat_ofNat_of_lt' hvendorInfo
    rw [← hsizesAt] at hcountAt
    rw [← hvendor] at hsizesAt
    have hread : readDigestSizes data l.length (24 + 4) .empty =
        .ok (24 + 4 + 4 * l.length, Table.insertAll .empty l) :=
      readDigestSizes_eq_ok_iff.2 ⟨l, rfl, hl, rfl, hsizesAt, rfl⟩
    rw [parseDigestSizes, gread_eq_ok_iff.2 ⟨rfl, hcount, hcountAt⟩, Outcome.ok_bind]
    dsimp only
    rw [hread, Outcome.ok_bind]
    dsimp only
    rw [hvendorSize]
    dsimp only
    rw [hbyte, hlength]
    rfl

theorem length_encodeData (header : SpecIdEvent) : header.encodeData.length =
    29 + 4 * header.sizes.length + header.vendorInfo.length := by
  simp only [SpecIdEvent.encodeData, List.length_append, List.length_cons, header.length_specId,
    length_toLe, length_encodeSizes]
  omega

theorem length_encode_header (header : SpecIdEvent) :
    header.encode.length = 32 + header.encodeData.length := by
  simp only [SpecIdEvent.encode, List.length_append, length_toLe, header.length_digest]
  omega

/-- What `parse_initial_entry` does behind the length of the data. -/
def parseHeaderData (data : Bytes) (eventType : TcgEventType) (eventDataSize : ℕ) :
    Outcome (ℕ × DigestSizes) :=
  if eventType = .EvNoAction then
    if 32 + eventDataSize ≤ data.length then do
      let (actualSize, sizes) ← parseDigestSizes ((data.drop 32).take eventDataSize) .empty
      Outcome.ensure (actualSize == eventDataSize)
        "Unexpected data size consumed for detecting digests"
      return (32 + eventDataSize, sizes)
    else .bail "Out of bounds while reading digest_data"
  else return (32, .empty)

/-- The start of a first event: its register, its type, its digest and the length of its data. -/
theorem exists_start_of_initial (h : ∀ error, parseInitialEntry data ≠ .err error) :
    ∃ (pcrIndex : ℕ) (eventType : TcgEventType) (digest : Bytes) (size : ℕ),
      pcrIndex < 256 ^ 4 ∧ digest.length = 20 ∧ size < 256 ^ 4 ∧
        data = toLe 4 pcrIndex ++ (toLe 4 eventType.code ++ (digest ++ (toLe 4 size ++
          data.drop 32))) := by
  obtain ⟨⟨pcrIndex, _⟩, hpcrIndex, h⟩ := (returns_gread _ _ _ _).exists_eq_ok h
  obtain ⟨⟨code, _⟩, hcode, h⟩ := (returns_gread _ _ _ _).exists_eq_ok h
  obtain ⟨eventType, htry, h⟩ := (Outcome.returns_okOr _ _).exists_eq_ok h
  obtain ⟨⟨size, _⟩, hsize, -⟩ := (returns_gread _ _ _ _).exists_eq_ok h
  obtain ⟨rfl, hpcrLt, hpcrIndexAt⟩ := gread_eq_ok_iff.1 hpcrIndex
  obtain ⟨rfl, -, htypeAt⟩ := gread_eq_ok_iff.1 hcode
  obtain ⟨rfl, hsizeLt, hsizeAt⟩ := gread_eq_ok_iff.1 hsize
  rw [Outcome.okOr_eq_ok, TcgEventType.tryFrom_eq_some_iff] at htry
  have hlength := le_length_of_toLe (by decide) hsizeAt
  have hdigest : (data.drop 8).take 20 ++ data.drop 28 = data.drop 8 := by
    rw [← List.drop_drop (i := 20), List.take_append_drop]
  refine ⟨pcrIndex, eventType, (data.drop 8).take 20, size, hpcrLt, ?_, hsizeLt, ?_⟩
  · rw [List.length_take, List.length_drop]
    omega
  · have hsizeAt : data.drop 28 = toLe 4 size ++ data.drop 32 := hsizeAt
    have htypeAt : data.drop 4 = toLe 4 eventType.code ++ data.drop 8 := by
      rw [← show code = eventType.code from htry]
      exact htypeAt
    rw [← hsizeAt, hdigest, ← htypeAt]
    exact hpcrIndexAt

/-- The reader goes on behind the start of a first event. -/
theorem parseInitialEntry_of_start {pcrIndex size : ℕ} {eventType : TcgEventType}
    {digest rest : Bytes} (hpcrIndex : pcrIndex < 256 ^ 4) (hdigest : digest.length = 20)
    (hsize : size < 256 ^ 4)
    (h : data = toLe 4 pcrIndex ++ (toLe 4 eventType.code ++ (digest ++ (toLe 4 size ++ rest)))) :
    parseInitialEntry data = parseHeaderData data eventType size := by
  have hcode : eventType.code < 256 ^ 4 := lt_trans eventType.code_lt (by decide)
  have hpcrIndexAt : data.drop 0 = toLe 4 pcrIndex ++ (toLe 4 eventType.code ++ (digest ++
      (toLe 4 size ++ rest))) := h
  have htypeAt := drop_of_append hpcrIndexAt (length_toLe 4 _)
  have hdigestAt := drop_of_append htypeAt (length_toLe 4 _)
  have hsizeAt := drop_of_append hdigestAt hdigest
  have hrest := drop_of_append hsizeAt (length_toLe 4 _)
  rw [← htypeAt] at hpcrIndexAt
  rw [← hdigestAt] at htypeAt
  rw [← hrest] at hsizeAt
  rw [parseInitialEntry, gread_eq_ok_iff.2 ⟨rfl, hpcrIndex, hpcrIndexAt⟩, Outcome.ok_bind]
  dsimp only
  rw [gread_eq_ok_iff.2 ⟨rfl, hcode, htypeAt⟩, Outcome.ok_bind]
  dsimp only
  rw [Outcome.okOr_eq_ok.2 (TcgEventType.tryFrom_eq_some_iff.2 rfl), Outcome.ok_bind,
    gread_eq_ok_iff.2 ⟨rfl, hsize, hsizeAt⟩, Outcome.ok_bind]
  rfl

/-- The data of the header, where they are inside. -/
theorem parseHeaderData_eq_ok_iff {size : ℕ} :
    parseHeaderData data .EvNoAction size = .ok (index, sizes) ↔
      32 + size ≤ data.length ∧ index = 32 + size ∧
        parseDigestSizes ((data.drop 32).take size) .empty =
          .ok (((data.drop 32).take size).length, sizes) := by
  rw [parseHeaderData, if_pos rfl]
  by_cases hinside : 32 + size ≤ data.length
  swap
  · rw [if_neg hinside]
    exact iff_of_false Outcome.bail_ne_ok fun h => hinside h.1
  rw [if_pos hinside, and_iff_right hinside]
  have hlength : ((data.drop 32).take size).length = size := by
    rw [List.length_take, List.length_drop]
    omega
  rw [hlength]
  constructor
  · intro h
    obtain ⟨⟨actualSize, table⟩, hparse, h⟩ := Outcome.bind_eq_ok.1 h
    obtain ⟨hsame, h⟩ := Outcome.check_eq_ok.1 h
    have hactual : actualSize = size := beq_iff_eq.1 (Outcome.ensure_eq_ok.1 hsame)
    cases h
    exact ⟨rfl, by rw [hparse, hactual]⟩
  · rintro ⟨rfl, hparse⟩
    rw [hparse, Outcome.ok_bind]
    dsimp only
    rw [beq_self_eq_true]
    rfl

/-- **The header that is read is the one that is written.** -/
theorem parseInitialEntry_eq_ok_iff :
    (parseInitialEntry data = .ok (index, sizes) ∧ readLe data 4 4 = some 3) ↔
      ∃ header : SpecIdEvent, data = header.encode ++ data.drop index ∧
        index = header.encode.length ∧ sizes = header.table := by
  constructor
  · rintro ⟨h, hnoAction⟩
    obtain ⟨pcrIndex, eventType, digest, size, hpcrIndex, hdigest, hsize, hdata⟩ :=
      exists_start_of_initial (Outcome.ne_err_of_ok h)
    have heventType : eventType = .EvNoAction := by
      have hcode : eventType.code < 256 ^ 4 := lt_trans eventType.code_lt (by decide)
      have hpcrIndexAt : data.drop 0 = toLe 4 pcrIndex ++ _ := hdata
      have htypeAt := drop_of_append hpcrIndexAt (length_toLe 4 _)
      rw [readLe_of_drop htypeAt (length_toLe 4 _), leValue_toLe hcode] at hnoAction
      have htry := TcgEventType.tryFrom_eq_some_iff.2 (Option.some.inj hnoAction).symm
      exact (Option.some.inj htry).symm
    subst heventType
    rw [parseInitialEntry_of_start hpcrIndex hdigest hsize hdata, parseHeaderData_eq_ok_iff,
      parseDigestSizes_eq_ok_iff] at h
    obtain ⟨hinside, rfl, specId, l, vendorInfo, hspecId, hl, -, hvendorInfo, hparsed, rfl⟩ := h
    have htotal : size = 29 + 4 * l.length + vendorInfo.length := by
      have hlengths := congrArg List.length hparsed
      simp only [List.length_append, List.length_cons, List.length_take, List.length_drop, hspecId,
        length_toLe, length_encodeSizes] at hlengths
      omega
    refine ⟨⟨pcrIndex, digest, specId, l, vendorInfo, hpcrIndex, hdigest, hspecId, hl, hvendorInfo,
      by omega⟩, ?_, ?_, rfl⟩
    · rw [SpecIdEvent.encode, SpecIdEvent.encodeData]
      dsimp only
      rw [← hparsed, List.length_take, List.length_drop, min_eq_left (by omega)]
      simp only [List.append_assoc]
      rw [← List.drop_drop (i := size), List.take_append_drop]
      exact hdata
    · rw [length_encode_header, length_encodeData]
      dsimp only
      omega
  · rintro ⟨header, hdata, rfl, rfl⟩
    have hstart : data = toLe 4 header.pcrIndex ++ (toLe 4 TcgEventType.EvNoAction.code ++
        (header.digest ++ (toLe 4 header.encodeData.length ++ (header.encodeData ++
          data.drop header.encode.length)))) := by
      refine hdata.trans ?_
      simp only [SpecIdEvent.encode, List.append_assoc]
    have hpcrIndexAt : data.drop 0 = toLe 4 header.pcrIndex ++ _ := hstart
    have htypeAt := drop_of_append hpcrIndexAt (length_toLe 4 _)
    have hdigestAt := drop_of_append htypeAt (length_toLe 4 _)
    have hdataAt := drop_of_append (drop_of_append hdigestAt header.length_digest) (length_toLe 4 _)
    have hdataAt : data.drop 32 = header.encodeData ++ data.drop header.encode.length := hdataAt
    have hsize : header.encodeData.length < 256 ^ 4 := by
      rw [length_encodeData]
      exact header.length_lt
    have hinside : 32 + header.encodeData.length ≤ data.length := by
      have hlengths := congrArg List.length hdataAt
      have hpos := length_encodeData header
      rw [List.length_append, List.length_drop] at hlengths
      omega
    refine ⟨?_, readLe_of_drop htypeAt (length_toLe 4 _)⟩
    rw [parseInitialEntry_of_start header.pcrIndex_lt header.length_digest hsize hstart,
      parseHeaderData_eq_ok_iff, hdataAt, List.take_left, parseDigestSizes_eq_ok_iff]
    exact ⟨hinside, length_encode_header header, header.specId, header.sizes, header.vendorInfo,
      header.length_specId, header.sizes_lt, by have := header.length_lt; omega,
      header.vendorInfo_lt, rfl, rfl⟩

/-! ## The log -/

/-- **Reading a log inverts writing it.** What is read of a log whose first event has the type of the
header are the entries of the events that are written there, after the header and up to an end. -/
theorem tryFrom_eq_ok_iff (H : Hashes) (P : Parsers) (data : Bytes) (ccel : CcEventLog) :
    (CcEventLog.tryFrom H P data = .ok ccel ∧ readLe data 4 4 = some 3) ↔
      ∃ (header : SpecIdEvent) (events : List TcgEvent) (tail : Bytes),
        data = header.encode ++ (encodeEvents events ++ tail) ∧ IsEnd tail ∧
          ReadsAll H P header.table events ccel.log := by
  constructor
  · rintro ⟨h, hnoAction⟩
    obtain ⟨⟨index, sizes⟩, hheader, h⟩ := Outcome.bind_eq_ok.1 h
    obtain ⟨log, hlog, h⟩ := Outcome.bind_eq_ok.1 h
    cases h
    obtain ⟨header, hdata, rfl, rfl⟩ := parseInitialEntry_eq_ok_iff.1 ⟨hheader, hnoAction⟩
    obtain ⟨events, tail, hdrop, hend, hall⟩ := (readEntries_eq_ok_iff (Nat.le_add_left _ _)).1 hlog
    exact ⟨header, events, tail, by rw [← hdrop, ← hdata], hend, hall⟩
  · rintro ⟨header, events, tail, hdata, hend, hall⟩
    have hdrop : data.drop header.encode.length = encodeEvents events ++ tail := by
      rw [hdata, List.drop_left]
    obtain ⟨hheader, hnoAction⟩ := parseInitialEntry_eq_ok_iff.2
      ⟨header, by rw [hdrop, ← hdata], rfl, rfl⟩
    refine ⟨?_, hnoAction⟩
    have hlog := (readEntries_eq_ok_iff (Nat.le_add_left _ _)).2
      ⟨events, tail, hdrop, hend, hall⟩
    exact Outcome.bind_eq_ok.2 ⟨_, hheader, Outcome.bind_eq_ok.2 ⟨_, hlog, rfl⟩⟩

/-- Parsers that find nothing. -/
def noDetails : Parsers := fun _ _ => .ok .empty

/-- Hash functions that give zeros. -/
def zeroHashes : Hashes := ⟨fun _ => [], fun _ => List.replicate 48 0, fun _ => [], fun _ => [],
  fun _ => rfl⟩

/-- A header that has SHA-1 digests in it. -/
def sha1Header : SpecIdEvent where
  pcrIndex := 0
  digest := List.replicate 20 0
  specId := List.replicate 24 0
  sizes := [(.Sha1, 20)]
  vendorInfo := []
  pcrIndex_lt := by decide
  length_digest := rfl
  length_specId := rfl
  sizes_lt := by decide
  vendorInfo_lt := by decide
  length_lt := by decide

/-- A separator with a SHA-1 digest. -/
def sha1Separator : TcgEvent where
  index := 1
  eventType := .EvSeparator
  digests := [⟨.Sha1, List.replicate 20 0⟩]
  data := [0, 0, 0, 0]
  index_lt := by decide
  digests_lt := by decide
  data_lt := by decide
  not_stop := by decide

/-- A first event of another type than the header's, whose data are not there. -/
def postCode : Bytes := toLe 4 0 ++ toLe 4 1 ++ List.replicate 20 0 ++ toLe 4 9

/-- A log with SHA-1 digests is refused, and a log that starts with another event than the header
is accepted. -/
theorem tryFrom_sha1_and_postCode :
    (¬ ∀ (H : Hashes) (P : Parsers) (header : SpecIdEvent) (events : List TcgEvent) (tail : Bytes),
      IsEnd tail → (∀ event ∈ events, event.Fits header.table ∧
        ∃ details, P event.eventType event.data = .ok details) →
          ∃ ccel, CcEventLog.tryFrom H P (header.encode ++ (encodeEvents events ++ tail)) =
            .ok ccel) ∧
    ¬ ∀ (H : Hashes) (P : Parsers) (data : Bytes) (ccel : CcEventLog),
      CcEventLog.tryFrom H P data = .ok ccel →
        ∃ (header : SpecIdEvent) (events : List TcgEvent) (tail : Bytes),
          data = header.encode ++ (encodeEvents events ++ tail) ∧ IsEnd tail ∧
            ReadsAll H P header.table events ccel.log := by
  constructor
  · intro h
    have hfits : ∀ event ∈ [sha1Separator], event.Fits sha1Header.table ∧
        ∃ details, noDetails event.eventType event.data = .ok details := by
      intro event hevent
      rw [List.mem_singleton.1 hevent]
      refine ⟨?_, _, rfl⟩
      intro digest hdigest
      rw [List.mem_singleton.1 hdigest]
      rfl
    obtain ⟨ccel, hok⟩ := h zeroHashes noDetails sha1Header [sha1Separator] [] (.inl rfl) hfits
    have herr : CcEventLog.tryFrom zeroHashes noDetails
        (sha1Header.encode ++ (encodeEvents [sha1Separator] ++ [])) =
          .bail "Digest comparison failed: Digest hash algorithm not supported - Sha1" := rfl
    rw [herr] at hok
    cases hok
  · intro h
    obtain ⟨header, events, tail, hdata, -⟩ := h zeroHashes noDetails postCode ⟨[]⟩ rfl
    have hdrop : postCode.drop header.encode.length = encodeEvents events ++ tail := by
      rw [hdata, List.drop_left]
    have hnoAction := (parseInitialEntry_eq_ok_iff.2
      ⟨header, by rw [hdrop, ← hdata], rfl, rfl⟩).2
    exact absurd hnoAction (by decide)

end Trustmee.Eventlog
