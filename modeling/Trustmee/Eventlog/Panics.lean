import Trustmee.Eventlog.Encoding
import Trustmee.Eventlog.EventData

/-!
# Logs that the parser panics on

The parser takes lengths from a log and checks some of them against the whole log, and some not at
all. `LogFault` says where it goes out of bounds, or computes a length that no machine word holds:
in the header, when the lengths of digests end the header's data; in an event after events that are
read, when a digest or the data break off; and in the data of an event (`DataFault`). On every other
log it ends with entries or an error (`forall_returns_tryFrom_iff`). The machine word is the one of
the native build, of 64 bits.
-/

namespace Trustmee.Eventlog

variable {data : Bytes} {index index' n v : ℕ} {msg : String} {sizes : DigestSizes} {H : Hashes}
  {P : Parsers}

/-! ## Digests -/

/-- A digest that is shorter than the header says ends the bytes, after fewer digests than are
counted. -/
def CutDigest (sizes : DigestSizes) (count : ℕ) (rest : Bytes) : Prop :=
  ∃ (digests : List ElDigest) (alg : TcgAlgorithm) (size : ℕ) (digest : Bytes),
    digests.length < count ∧ (∀ d ∈ digests, sizes d.alg = some d.digest.length) ∧
      sizes alg = some size ∧ digest.length < size ∧
        rest = encodeDigests digests ++ (toLe 2 alg.code ++ digest)

theorem not_returns_sliceFrom_iff {size : ℕ} :
    ¬ (sliceFrom data index size).Returns ↔ data.length < index + size := by
  unfold sliceFrom
  split
  · next h => exact iff_of_false (not_not.2 (Outcome.returns_ok _)) (by omega)
  · next h => exact iff_of_true (fun hreturns => hreturns _ rfl) (by omega)

theorem not_returns_readDigests_iff (h : index ≤ data.length) :
    ¬ (readDigests data sizes n index).Returns ↔ CutDigest sizes n (data.drop index) := by
  induction n generalizing index with
  | zero =>
    refine iff_of_false (not_not.2 (Outcome.returns_ok _)) ?_
    rintro ⟨digests, -, -, -, hcount, -⟩
    exact absurd hcount (by omega)
  | succ n ih =>
    rw [readDigests, (returns_gread _ _ _ _).not_returns_bind_iff]
    simp only [Prod.exists, gread_eq_ok_iff]
    constructor
    · rintro ⟨algoId, _, ⟨rfl, -, hcode⟩, hpanic⟩
      obtain ⟨alg, halg, hpanic⟩ := (Outcome.returns_okOr _ _).not_returns_bind_iff.1 hpanic
      obtain ⟨size, hsize, hslicePanic⟩ := (Outcome.returns_okOr _ _).not_returns_bind_iff.1 hpanic
      have hheader := le_length_of_toLe (by decide) hcode
      rw [Outcome.okOr_eq_ok, TcgAlgorithm.tryFrom_eq_some_iff] at halg
      rw [Outcome.okOr_eq_ok] at hsize
      subst halg
      by_cases hcut : data.length < index + 2 + size
      · refine ⟨[], alg, size, data.drop (index + 2), Nat.succ_pos n, by simp, hsize, ?_, hcode⟩
        rw [List.length_drop]
        omega
      · have hslice : (sliceFrom data (index + 2) size).Returns :=
          not_not.1 (mt not_returns_sliceFrom_iff.1 hcut)
        obtain ⟨digest, hdigest, hrestPanic⟩ := hslice.not_returns_bind_iff.1 hslicePanic
        obtain ⟨rfl, hdigestAt⟩ := (sliceFrom_eq_ok_iff hheader).1 hdigest
        have hrest : ¬ (readDigests data sizes n (index + 2 + digest.length)).Returns :=
          fun hreturns => hrestPanic (hreturns.bind fun _ _ => Outcome.returns_ok _)
        obtain ⟨digests, alg', size', digest', hcount, hfits, hsize', hshort, hdrop⟩ :=
          (ih (not_lt.1 hcut)).1 hrest
        refine ⟨⟨alg, digest⟩ :: digests, alg', size', digest', Nat.succ_lt_succ hcount, ?_, hsize',
          hshort, ?_⟩
        · intro d hd
          rcases List.mem_cons.1 hd with rfl | hd
          · exact hsize
          · exact hfits d hd
        · rw [hcode, hdigestAt, hdrop, encodeDigests_cons, ElDigest.encode]
          simp only [List.append_assoc]
    · rintro ⟨_ | ⟨d, digests⟩, alg, size, digest, hcount, hfits, hsize, hshort, hdrop⟩
      · have hcode : data.drop index = toLe 2 alg.code ++ digest := hdrop
        have hdigestAt := drop_of_append hcode (length_toLe 2 _)
        refine ⟨alg.code, index + 2, ⟨rfl, alg.code_lt, by rw [hdigestAt, hcode]⟩, ?_⟩
        rw [Outcome.okOr_eq_ok.2 (TcgAlgorithm.tryFrom_eq_some_iff.2 rfl), Outcome.ok_bind,
          Outcome.okOr_eq_ok.2 hsize, Outcome.ok_bind]
        have hcut : data.length < index + 2 + size := by
          have hlength := congrArg List.length hdigestAt
          rw [List.length_drop] at hlength
          omega
        exact fun h => not_returns_sliceFrom_iff.2 hcut (Outcome.returns_bind_iff.1 h).1
      · have hcode : data.drop index = toLe 2 d.alg.code ++ (d.digest ++ (encodeDigests digests ++
            (toLe 2 alg.code ++ digest))) := by
          rw [hdrop, encodeDigests_cons, ElDigest.encode]
          simp only [List.append_assoc]
        have hdigestAt := drop_of_append hcode (length_toLe 2 _)
        have hrest := drop_of_append hdigestAt rfl
        rw [← hdigestAt] at hcode
        rw [← hrest] at hdigestAt
        have hheader := le_length_of_toLe (by decide) hcode
        have hinside : index + 2 + d.digest.length ≤ data.length := by
          have hlength := congrArg List.length hdigestAt
          rw [List.length_append, List.length_drop, List.length_drop] at hlength
          omega
        refine ⟨d.alg.code, index + 2, ⟨rfl, d.alg.code_lt, hcode⟩, ?_⟩
        rw [Outcome.okOr_eq_ok.2 (TcgAlgorithm.tryFrom_eq_some_iff.2 rfl), Outcome.ok_bind,
          Outcome.okOr_eq_ok.2 (hfits d List.mem_cons_self), Outcome.ok_bind,
          (sliceFrom_eq_ok_iff hheader).2 ⟨rfl, hdigestAt⟩, Outcome.ok_bind]
        intro h
        refine (ih hinside).2 ⟨digests, alg, size, digest, Nat.lt_of_succ_lt_succ hcount,
          fun d hd => hfits d (List.mem_cons_of_mem _ hd), hsize, hshort, hrest⟩ ?_
        exact (Outcome.returns_bind_iff.1 h).1

/-! ## Events -/

theorem returns_compareDigests (b : Bytes) (digests : List ElDigest) :
    (compareDigests H b digests).Returns := by
  induction digests with
  | nil => exact Outcome.returns_ok _
  | cons digest digests ih =>
    unfold compareDigests
    split
    · split
      · exact ih
      · exact Outcome.returns_ok _
    · exact Outcome.returns_bail _

/-- What breaks behind the type of an event: a digest, the data, which are no longer than the whole
log and longer than what is left of it, or the parser of the data. -/
inductive BodyFault (H : Hashes) (length : ℕ) (sizes : DigestSizes) (eventType : TcgEventType) :
    Bytes → Prop
  | digest {count : ℕ} {after : Bytes} (hcount : count < 256 ^ 4)
      (hcut : CutDigest sizes count after) :
      BodyFault H length sizes eventType (toLe 4 count ++ after)
  | data {digests : List ElDigest} {size : ℕ} {raw : Bytes} (hdigests : digests.length < 256 ^ 4)
      (hfits : ∀ d ∈ digests, sizes d.alg = some d.digest.length) (hsize : size < 256 ^ 4)
      (hlength : size ≤ length) (hshort : raw.length < size) :
      BodyFault H length sizes eventType
        (toLe 4 digests.length ++ (encodeDigests digests ++ (toLe 4 size ++ raw)))
  | details {digests : List ElDigest} {raw after : Bytes} {digestMatchesEvent : Bool}
      (hdigests : digests.length < 256 ^ 4)
      (hfits : ∀ d ∈ digests, sizes d.alg = some d.digest.length) (hsize : raw.length < 256 ^ 4)
      (hcompare : compareDigests H raw digests = .ok digestMatchesEvent)
      (hfault : DataFault eventType raw) :
      BodyFault H length sizes eventType
        (toLe 4 digests.length ++ (encodeDigests digests ++ (toLe 4 raw.length ++ (raw ++ after))))

/-- An event that the parser panics on. -/
def EventFault (H : Hashes) (length : ℕ) (sizes : DigestSizes) (rest : Bytes) : Prop :=
  ∃ (register : ℕ) (eventType : TcgEventType) (body : Bytes), register < 256 ^ 4 ∧
    ¬ (register = 0 ∧ eventType = .EvPrebootCert) ∧
      rest = toLe 4 register ++ (toLe 4 eventType.code ++ body) ∧
        BodyFault H length sizes eventType body

theorem not_returns_parseDigests_iff :
    ¬ (parseDigests data index sizes).Returns ↔ ∃ (count : ℕ) (after : Bytes), count < 256 ^ 4 ∧
      data.drop index = toLe 4 count ++ after ∧ CutDigest sizes count after := by
  rw [parseDigests, (returns_gread _ _ _ _).not_returns_bind_iff]
  simp only [Prod.exists, gread_eq_ok_iff]
  constructor
  · rintro ⟨count, _, ⟨rfl, hcount, hcountAt⟩, hpanic⟩
    have hinside := le_length_of_toLe (by decide) hcountAt
    exact ⟨count, _, hcount, hcountAt, (not_returns_readDigests_iff hinside).1 hpanic⟩
  · rintro ⟨count, after, hcount, hdrop, hcut⟩
    have hafter := drop_of_append hdrop (length_toLe 4 _)
    rw [← hafter] at hdrop hcut
    have hinside := le_length_of_toLe (by decide) hdrop
    exact ⟨count, _, ⟨rfl, hcount, hdrop⟩, (not_returns_readDigests_iff hinside).2 hcut⟩

/-- **Behind the type of an event, the parser panics exactly on a fault.** -/
theorem not_returns_parseBody_iff {register : ℕ} {eventType : TcgEventType}
    (hP : ∀ b, (P eventType b).Returns ↔ ¬ DataFault eventType b) :
    ¬ (parseBody H P data sizes register eventType index).Returns ↔
      BodyFault H data.length sizes eventType (data.drop index) := by
  constructor
  · intro h
    by_cases hdigests : (parseDigests data index sizes).Returns
    swap
    · obtain ⟨count, after, hcount, hdrop, hcut⟩ := not_returns_parseDigests_iff.1 hdigests
      rw [hdrop]
      exact .digest hcount hcut
    obtain ⟨⟨digests, _⟩, hok, hrest⟩ := hdigests.not_returns_bind_iff.1 h
    obtain ⟨hcount, hfits, rfl, hdrop⟩ := parseDigests_eq_ok_iff.1 hok
    obtain ⟨⟨size, _⟩, hread, hrest⟩ := (returns_gread _ _ _ _).not_returns_bind_iff.1 hrest
    obtain ⟨rfl, hsize, hsizeAt⟩ := gread_eq_ok_iff.1 hread
    obtain ⟨_, hensure, hrest⟩ := (Outcome.returns_ensure _ _).not_returns_bind_iff.1 hrest
    have hlength : size ≤ data.length := of_decide_eq_true (Outcome.ensure_eq_ok.1 hensure)
    have hinside := le_length_of_toLe (by decide) hsizeAt
    rw [hdrop, hsizeAt]
    by_cases hraw : (sliceFrom data (index + 4 + (encodeDigests digests).length + 4) size).Returns
    swap
    · refine .data hcount hfits hsize hlength ?_
      have hcut := not_returns_sliceFrom_iff.1 hraw
      rw [List.length_drop]
      omega
    obtain ⟨raw, hraw, hrest⟩ := hraw.not_returns_bind_iff.1 hrest
    obtain ⟨rfl, hrawAt⟩ := (sliceFrom_eq_ok_iff hinside).1 hraw
    obtain ⟨digestMatchesEvent, hcompare, hrest⟩ :=
      (returns_compareDigests raw digests).not_returns_bind_iff.1 hrest
    rw [hrawAt]
    refine .details hcount hfits hsize hcompare ?_
    by_contra hfault
    exact hrest (((hP raw).2 hfault).bind fun _ _ => Outcome.returns_ok _)
  · intro hfault h
    have hdigests := (Outcome.returns_bind_iff.1 h).1
    generalize hrest : data.drop index = rest at hfault
    cases hfault with
    | digest hcount hcut =>
      exact not_returns_parseDigests_iff.2 ⟨_, _, hcount, hrest, hcut⟩ hdigests
    | @data digests size raw hcount hfits hsize hlength hshort =>
      have hdigestsAt := drop_of_append hrest (length_toLe 4 _)
      have hsizeAt := drop_of_append hdigestsAt rfl
      have hrawAt := drop_of_append hsizeAt (length_toLe 4 _)
      rw [← hsizeAt] at hrest
      rw [← hrawAt] at hsizeAt
      have h := (Outcome.returns_bind_iff.1 h).2 _
        (parseDigests_eq_ok_iff.2 ⟨hcount, hfits, rfl, hrest⟩)
      have h := (Outcome.returns_bind_iff.1 h).2 _ (gread_eq_ok_iff.2 ⟨rfl, hsize, hsizeAt⟩)
      have h := (Outcome.returns_bind_iff.1 h).2 _ (ensure_of hlength)
      refine not_returns_sliceFrom_iff.2 ?_ (Outcome.returns_bind_iff.1 h).1
      have hlengths := congrArg List.length hrawAt
      rw [List.length_drop] at hlengths
      omega
    | @details digests raw after digestMatchesEvent hcount hfits hsize hcompare hfault =>
      have hdigestsAt := drop_of_append hrest (length_toLe 4 _)
      have hsizeAt := drop_of_append hdigestsAt rfl
      have hrawAt := drop_of_append hsizeAt (length_toLe 4 _)
      have hafter := drop_of_append hrawAt rfl
      rw [← hsizeAt] at hrest
      rw [← hrawAt] at hsizeAt
      rw [← hafter] at hrawAt
      have hinside := le_length_of_toLe (by decide) hsizeAt
      have hlength : raw.length ≤ data.length := by
        have hlengths := congrArg List.length hrawAt
        rw [List.length_append, List.length_drop] at hlengths
        omega
      have h := (Outcome.returns_bind_iff.1 h).2 _
        (parseDigests_eq_ok_iff.2 ⟨hcount, hfits, rfl, hrest⟩)
      have h := (Outcome.returns_bind_iff.1 h).2 _ (gread_eq_ok_iff.2 ⟨rfl, hsize, hsizeAt⟩)
      have h := (Outcome.returns_bind_iff.1 h).2 _ (ensure_of hlength)
      have h := (Outcome.returns_bind_iff.1 h).2 _ ((sliceFrom_eq_ok_iff hinside).2 ⟨rfl, hrawAt⟩)
      have h := (Outcome.returns_bind_iff.1 h).2 _ hcompare
      exact (hP raw).1 (Outcome.returns_bind_iff.1 h).1 hfault

/-- **An event is panicked on exactly when it has a fault.** -/
theorem not_returns_parseEventlogEntry_iff
    (hP : ∀ eventType b, (P eventType b).Returns ↔ ¬ DataFault eventType b) :
    ¬ (parseEventlogEntry H P data index sizes).Returns ↔
      EventFault H data.length sizes (data.drop index) := by
  constructor
  · intro h
    rcases isStop_or_exists_start (Outcome.ne_err_of_not_returns h) with
      hstop | ⟨register, eventType, rest, hregister, hstop, hdrop⟩
    · rw [parseEventlogEntry_of_isStop hstop] at h
      exact absurd (Outcome.returns_ok _) h
    · have hbody := drop_of_append (drop_of_append hdrop (length_toLe 4 _)) (length_toLe 4 _)
      rw [parseEventlogEntry_of_start hregister hstop hdrop,
        not_returns_parseBody_iff (hP eventType), hbody] at h
      exact ⟨register, eventType, rest, hregister, hstop, hdrop, h⟩
  · rintro ⟨register, eventType, body, hregister, hstop, hdrop, hfault⟩
    have hbody := drop_of_append (drop_of_append hdrop (length_toLe 4 _)) (length_toLe 4 _)
    rw [parseEventlogEntry_of_start hregister hstop hdrop,
      not_returns_parseBody_iff (hP eventType), hbody]
    exact hfault

/-- An event with a fault, after events that are read. -/
def EventsFault (H : Hashes) (P : Parsers) (length : ℕ) (sizes : DigestSizes) (rest : Bytes) :
    Prop :=
  ∃ (events : List TcgEvent) (log : List EventlogEntry) (broken : Bytes),
    rest = encodeEvents events ++ broken ∧ ReadsAll H P sizes events log ∧
      EventFault H length sizes broken

theorem not_eventsFault_nil {length : ℕ} : ¬ EventsFault H P length sizes [] := by
  rintro ⟨events, log, broken, hrest, hall, register, eventType, body, -, -, hbroken, -⟩
  have hlength := congrArg List.length hrest
  rw [hbroken] at hlength
  simp only [List.length_append, length_toLe, List.length_nil] at hlength
  omega

/-- **The loop panics exactly on an event with a fault, after events that are read.** -/
theorem not_returns_readEntries_iff {fuel : ℕ}
    (hP : ∀ eventType b, (P eventType b).Returns ↔ ¬ DataFault eventType b)
    (h : data.length ≤ index + fuel) : ¬ (readEntries H P data sizes fuel index).Returns ↔
      EventsFault H P data.length sizes (data.drop index) := by
  induction fuel generalizing index with
  | zero =>
    have hend : data.length ≤ index := h
    rw [List.drop_eq_nil_of_le hend]
    exact iff_of_false (not_not.2 (Outcome.returns_ok _)) not_eventsFault_nil
  | succ fuel ih =>
    rw [readEntries]
    by_cases hindex : index < data.length
    swap
    · rw [if_neg hindex, List.drop_eq_nil_of_le (not_lt.1 hindex)]
      exact iff_of_false (not_not.2 (Outcome.returns_ok _)) not_eventsFault_nil
    rw [if_pos hindex]
    constructor
    · intro hpanic
      by_cases hentry : (parseEventlogEntry H P data index sizes).Returns
      swap
      · exact ⟨[], [], data.drop index, rfl, .nil, (not_returns_parseEventlogEntry_iff hP).1 hentry⟩
      obtain ⟨⟨_ | e, index'⟩, hok, hpanic⟩ := hentry.not_returns_bind_iff.1 hpanic
      · exact absurd (Outcome.returns_ok _) hpanic
      · obtain ⟨event, hfits, hreads, rfl, hdrop⟩ := parseEventlogEntry_eq_some_iff.1 hok
        have hlength := length_encode_event event
        have hrest : ¬ (readEntries H P data sizes fuel (index + event.encode.length)).Returns :=
          fun hreturns => hpanic (hreturns.bind fun _ _ => Outcome.returns_ok _)
        obtain ⟨events, log, broken, hbroken, hall, hfault⟩ := (ih (by omega)).1 hrest
        refine ⟨event :: events, e :: log, broken, ?_, .cons ⟨hfits, hreads⟩ hall, hfault⟩
        rw [hdrop, hbroken, encodeEvents_cons, List.append_assoc]
    · rintro ⟨events, log, broken, hdrop, hall, hfault⟩ hreturns
      obtain ⟨hentry, hrest⟩ := Outcome.returns_bind_iff.1 hreturns
      cases hall with
      | nil =>
        have hbroken : data.drop index = broken := hdrop
        rw [← hbroken] at hfault
        exact (not_returns_parseEventlogEntry_iff hP).2 hfault hentry
      | @cons event e events log hread hall =>
        rw [encodeEvents_cons, List.append_assoc] at hdrop
        have htail := drop_of_append hdrop rfl
        have hlength := length_encode_event event
        have hloop := hrest (some e, index + event.encode.length) (parseEventlogEntry_eq_some_iff.2
          ⟨event, hread.1, hread.2, rfl, by rw [htail, hdrop]⟩)
        exact (ih (by omega)).2 ⟨events, log, broken, htail, hall, hfault⟩
          (Outcome.returns_bind_iff.1 hloop).1

/-! ## The header -/

theorem returns_readDigestSizes : (readDigestSizes data n index sizes).Returns := by
  induction n generalizing index sizes with
  | zero => exact Outcome.returns_ok _
  | succ n ih =>
    refine (returns_gread _ _ _ _).bind fun algoId _ => ?_
    refine (returns_gread _ _ _ _).bind fun size _ => ?_
    exact (Outcome.returns_okOr _ _).bind fun algorithm _ => ih

/-- The byte behind the lengths of digests is not there. -/
theorem not_returns_parseDigestSizes_iff : ¬ (parseDigestSizes data .empty).Returns ↔
    ∃ (specId : Bytes) (l : List (TcgAlgorithm × ℕ)), specId.length = 24 ∧
      (∀ p ∈ l, p.2 < 256 ^ 2) ∧ l.length < 256 ^ 4 ∧
        data = specId ++ (toLe 4 l.length ++ encodeSizes l) := by
  rw [parseDigestSizes, (returns_gread _ _ _ _).not_returns_bind_iff]
  simp only [Prod.exists, gread_eq_ok_iff, returns_readDigestSizes.not_returns_bind_iff,
    readDigestSizes_eq_ok_iff]
  constructor
  · rintro ⟨_, _, ⟨rfl, hcount, hcountAt⟩, _, sizes, ⟨l, rfl, hl, rfl, hsizesAt, rfl⟩, hpanic⟩
    have hend : data.drop (24 + 4 + 4 * l.length) = [] := by
      split at hpanic
      · exact absurd (Outcome.returns_ok _) hpanic
      · next hnone => exact List.drop_eq_nil_of_le (List.getElem?_eq_none_iff.1 hnone)
    have hinside := le_length_of_toLe (by decide) hcountAt
    refine ⟨data.take 24, l, ?_, hl, hcount, ?_⟩
    · rw [List.length_take]
      omega
    · rw [hend, List.append_nil] at hsizesAt
      rw [← hsizesAt, ← hcountAt, List.take_append_drop]
  · rintro ⟨specId, l, hspecId, hl, hcount, hdata⟩
    have hcountAt : data.drop 24 = toLe 4 l.length ++ encodeSizes l := by
      rw [hdata, List.drop_left' hspecId]
    have hsizesAt := drop_of_append hcountAt (length_toLe 4 _)
    have hnone : data[24 + 4 + 4 * l.length]? = none := by
      rw [List.getElem?_eq_none_iff, hdata]
      simp only [List.length_append, hspecId, length_toLe, length_encodeSizes]
      omega
    rw [← hsizesAt] at hcountAt
    have hend : data.drop (24 + 4 + 4 * l.length) = [] :=
      List.drop_eq_nil_of_le (List.getElem?_eq_none_iff.1 hnone)
    refine ⟨l.length, 24 + 4, ⟨rfl, hcount, hcountAt⟩, 24 + 4 + 4 * l.length,
      Table.insertAll .empty l, ⟨l, rfl, hl, rfl, ?_, rfl⟩, ?_⟩
    · rw [hsizesAt, hend, List.append_nil]
    · rw [hnone]
      exact fun hreturns => hreturns _ rfl

/-- A header whose data end with the lengths of digests. -/
def HeaderFault (data : Bytes) : Prop :=
  ∃ (pcrIndex : ℕ) (digest specId : Bytes) (l : List (TcgAlgorithm × ℕ)) (rest : Bytes),
    pcrIndex < 256 ^ 4 ∧ digest.length = 20 ∧ specId.length = 24 ∧ (∀ p ∈ l, p.2 < 256 ^ 2) ∧
      28 + 4 * l.length < 256 ^ 4 ∧
        data = toLe 4 pcrIndex ++ (toLe 4 TcgEventType.EvNoAction.code ++ (digest ++
          (toLe 4 (28 + 4 * l.length) ++ (specId ++ (toLe 4 l.length ++ encodeSizes l) ++ rest))))

/-- The header's data, where the parser panics on them. -/
theorem not_returns_parseHeaderData_iff {eventType : TcgEventType} {size : ℕ} :
    ¬ (parseHeaderData data eventType size).Returns ↔ eventType = .EvNoAction ∧
      32 + size ≤ data.length ∧
        ¬ (parseDigestSizes ((data.drop 32).take size) .empty).Returns := by
  unfold parseHeaderData
  split
  · next htype =>
    rw [and_iff_right htype]
    split
    · next hinside =>
      rw [and_iff_right hinside, not_iff_not]
      constructor
      · exact fun h => (Outcome.returns_bind_iff.1 h).1
      · intro h
        refine h.bind fun p _ => ?_
        exact (Outcome.returns_ensure _ _).bind fun _ _ => Outcome.returns_ok _
    · next hinside => exact iff_of_false (not_not.2 (Outcome.returns_bail _)) fun h => hinside h.1
  · next htype => exact iff_of_false (not_not.2 (Outcome.returns_ok _)) fun h => htype h.1

/-- **The header is panicked on exactly when its data end with the lengths of digests.** -/
theorem not_returns_parseInitialEntry_iff :
    ¬ (parseInitialEntry data).Returns ↔ HeaderFault data := by
  constructor
  · intro h
    obtain ⟨pcrIndex, eventType, digest, size, hpcrIndex, hdigest, hsize, hdata⟩ :=
      exists_start_of_initial (Outcome.ne_err_of_not_returns h)
    rw [parseInitialEntry_of_start hpcrIndex hdigest hsize hdata, not_returns_parseHeaderData_iff,
      not_returns_parseDigestSizes_iff] at h
    obtain ⟨rfl, hinside, specId, l, hspecId, hl, -, hparsed⟩ := h
    have htotal : size = 28 + 4 * l.length := by
      have hlengths := congrArg List.length hparsed
      simp only [List.length_append, List.length_take, List.length_drop, hspecId, length_toLe,
        length_encodeSizes] at hlengths
      omega
    subst htotal
    refine ⟨pcrIndex, digest, specId, l, (data.drop 32).drop (28 + 4 * l.length), hpcrIndex,
      hdigest, hspecId, hl, hsize, ?_⟩
    rw [← hparsed, List.take_append_drop]
    exact hdata
  · rintro ⟨pcrIndex, digest, specId, l, rest, hpcrIndex, hdigest, hspecId, hl, hsize, hdata⟩
    have hlength : (specId ++ (toLe 4 l.length ++ encodeSizes l)).length = 28 + 4 * l.length := by
      simp only [List.length_append, hspecId, length_toLe, length_encodeSizes]
      omega
    have hdrop : data.drop 32 = specId ++ (toLe 4 l.length ++ encodeSizes l) ++ rest := by
      have hpcrIndexAt : data.drop 0 = toLe 4 pcrIndex ++ _ := hdata
      have hdigestAt := drop_of_append (drop_of_append hpcrIndexAt (length_toLe 4 _))
        (length_toLe 4 _)
      exact drop_of_append (drop_of_append hdigestAt hdigest) (length_toLe 4 _)
    have hinside : 32 + (28 + 4 * l.length) ≤ data.length := by
      have hlengths := congrArg List.length hdrop
      rw [List.length_append, List.length_drop, hlength] at hlengths
      omega
    rw [parseInitialEntry_of_start hpcrIndex hdigest hsize hdata, not_returns_parseHeaderData_iff,
      not_returns_parseDigestSizes_iff, hdrop, List.take_left' hlength]
    exact ⟨rfl, hinside, specId, l, hspecId, hl, by omega, rfl⟩

/-- What follows the first event, with the lengths of digests that it gives. A first event of
another type than the header's gives none, and its data follow it. -/
inductive Starts : Bytes → DigestSizes → Bytes → Prop
  | header (header : SpecIdEvent) (rest : Bytes) : Starts (header.encode ++ rest) header.table rest
  | other {pcrIndex size : ℕ} {eventType : TcgEventType} {digest rest : Bytes}
      (hpcrIndex : pcrIndex < 256 ^ 4) (heventType : eventType ≠ .EvNoAction)
      (hdigest : digest.length = 20) (hsize : size < 256 ^ 4) :
      Starts (toLe 4 pcrIndex ++ (toLe 4 eventType.code ++ (digest ++ (toLe 4 size ++ rest))))
        .empty rest

theorem starts_of_parse (h : parseInitialEntry data = .ok (index, sizes)) :
    Starts data sizes (data.drop index) := by
  by_cases hnoAction : readLe data 4 4 = some 3
  · obtain ⟨header, hdata, -, rfl⟩ := parseInitialEntry_eq_ok_iff.1 ⟨h, hnoAction⟩
    have hstarts := Starts.header header (data.drop index)
    rwa [← hdata] at hstarts
  · obtain ⟨pcrIndex, eventType, digest, size, hpcrIndex, hdigest, hsize, hdata⟩ :=
      exists_start_of_initial (Outcome.ne_err_of_ok h)
    have heventType : eventType ≠ .EvNoAction := by
      rintro rfl
      have hpcrIndexAt : data.drop 0 = toLe 4 pcrIndex ++ _ := hdata
      have htypeAt := drop_of_append hpcrIndexAt (length_toLe 4 _)
      exact hnoAction (readLe_of_drop htypeAt (length_toLe 4 _))
    rw [parseInitialEntry_of_start hpcrIndex hdigest hsize hdata, parseHeaderData,
      if_neg heventType] at h
    cases h
    have hstarts : Starts _ .empty (data.drop 32) := .other hpcrIndex heventType hdigest hsize
    rwa [← hdata] at hstarts

theorem exists_parse_of_starts {rest : Bytes} (h : Starts data sizes rest) :
    ∃ index, parseInitialEntry data = .ok (index, sizes) ∧ data.drop index = rest := by
  cases h with
  | header header rest =>
    have hdrop : (header.encode ++ rest).drop header.encode.length = rest := List.drop_left
    exact ⟨_, (parseInitialEntry_eq_ok_iff.2 ⟨header, by rw [hdrop], rfl, rfl⟩).1, hdrop⟩
  | @other pcrIndex size eventType digest rest hpcrIndex heventType hdigest hsize =>
    refine ⟨32, ?_, ?_⟩
    · rw [parseInitialEntry_of_start hpcrIndex hdigest hsize rfl, parseHeaderData,
        if_neg heventType]
      rfl
    · have hlength : (toLe 4 pcrIndex ++ (toLe 4 eventType.code ++ (digest ++
          toLe 4 size))).length = 32 := by
        simp only [List.length_append, length_toLe, hdigest]
      have happend : (toLe 4 pcrIndex ++ (toLe 4 eventType.code ++ (digest ++ toLe 4 size)) ++
          rest).drop 32 = rest := List.drop_left' hlength
      simpa only [List.append_assoc] using happend

/-! ## The log -/

/-- A log that the parser goes out of bounds on. -/
def LogFault (H : Hashes) (serde : SerdeJson) (data : Bytes) : Prop :=
  HeaderFault data ∨ ∃ sizes rest, Starts data sizes rest ∧
    EventsFault H (parsers true serde) data.length sizes rest

variable {serde : SerdeJson}

theorem not_returns_tryFrom_iff :
    ¬ (CcEventLog.tryFrom H (parsers true serde) data).Returns ↔ LogFault H serde data := by
  have hP := fun eventType b => returns_parsers_iff serde b eventType
  constructor
  · intro h
    by_cases hheader : (parseInitialEntry data).Returns
    swap
    · exact .inl (not_returns_parseInitialEntry_iff.1 hheader)
    obtain ⟨⟨index, sizes⟩, hok, hpanic⟩ := hheader.not_returns_bind_iff.1 h
    have hentries : ¬ (readEntries H (parsers true serde) data sizes data.length index).Returns :=
      fun hreturns => hpanic (hreturns.bind fun _ _ => Outcome.returns_ok _)
    exact .inr ⟨sizes, data.drop index, starts_of_parse hok,
      (not_returns_readEntries_iff hP (Nat.le_add_left _ _)).1 hentries⟩
  · rintro (hheader | ⟨sizes, rest, hstarts, hfault⟩) hreturns
    · exact not_returns_parseInitialEntry_iff.2 hheader (Outcome.returns_bind_iff.1 hreturns).1
    · obtain ⟨index, hok, rfl⟩ := exists_parse_of_starts hstarts
      have hentries := (Outcome.returns_bind_iff.1 hreturns).2 _ hok
      exact (not_returns_readEntries_iff hP (Nat.le_add_left _ _)).2 hfault
        (Outcome.returns_bind_iff.1 hentries).1

/-! ## Builds -/

variable {P' : Parsers}

/-- A build without overflow checks reads an event as the one with them does, where that returns. -/
theorem unchecks_parseEventlogEntry
    (hP : ∀ eventType b, (P eventType b).Unchecks (P' eventType b)) :
    (parseEventlogEntry H P data index sizes).Unchecks
      (parseEventlogEntry H P' data index sizes) := by
  refine (Outcome.Unchecks.refl _).bind fun stopFlag => ?_
  dsimp only
  split
  · exact .refl _
  · refine (Outcome.Unchecks.refl _).bind fun register => ?_
    refine (Outcome.Unchecks.refl _).bind fun code => ?_
    refine (Outcome.Unchecks.refl _).bind fun eventType => ?_
    refine (Outcome.Unchecks.refl _).bind fun digests => ?_
    refine (Outcome.Unchecks.refl _).bind fun size => ?_
    refine (Outcome.Unchecks.refl _).bind fun _ => ?_
    refine (Outcome.Unchecks.refl _).bind fun raw => ?_
    refine (Outcome.Unchecks.refl _).bind fun digestMatchesEvent => ?_
    exact (hP eventType raw).bind fun details => .refl _

theorem unchecks_readEntries (hP : ∀ eventType b, (P eventType b).Unchecks (P' eventType b))
    (fuel : ℕ) : (readEntries H P data sizes fuel index).Unchecks
      (readEntries H P' data sizes fuel index) := by
  induction fuel generalizing index with
  | zero => exact .refl _
  | succ fuel ih =>
    unfold readEntries
    split
    · apply (unchecks_parseEventlogEntry hP).bind
      rintro ⟨_ | entry, index'⟩
      · exact .refl _
      · exact ih.bind fun entries => .refl _
    · exact .refl _

theorem unchecks_tryFrom (hP : ∀ eventType b, (P eventType b).Unchecks (P' eventType b)) :
    (CcEventLog.tryFrom H P data).Unchecks (CcEventLog.tryFrom H P' data) := by
  refine (Outcome.Unchecks.refl _).bind fun p => ?_
  exact (unchecks_readEntries hP _).bind fun log => .refl _

/-- **The parser ends with entries or an error, in both builds, exactly on the logs without a
fault.** -/
theorem forall_returns_tryFrom_iff (H : Hashes) (serde : SerdeJson) (data : Bytes) :
    (∀ overflowChecks, (CcEventLog.tryFrom H (parsers overflowChecks serde) data).Returns) ↔
      ¬ LogFault H serde data := by
  rw [← not_returns_tryFrom_iff, not_not]
  constructor
  · intro h
    exact h true
  · rintro h (_ | _)
    · rw [unchecks_tryFrom (fun eventType b => unchecks_parsers serde b eventType) h]
      exact h
    · exact h

/-- A header whose data end with the number of digests, which is zero. -/
def noVendorSize : Bytes :=
  toLe 4 0 ++ toLe 4 3 ++ List.replicate 20 0 ++ toLe 4 28 ++ List.replicate 24 0 ++ toLe 4 0

/-- The parser panics on a log that no byte of a vendor's size is in, in both builds. -/
theorem not_returns_noVendorSize :
    ¬ (CcEventLog.tryFrom zeroHashes (parsers true ⟨fun _ _ => .error "EOF"⟩)
      noVendorSize).Returns ∧
    ¬ (CcEventLog.tryFrom zeroHashes (parsers false ⟨fun _ _ => .error "EOF"⟩)
      noVendorSize).Returns := by
  refine ⟨fun h => ?_, fun h => ?_⟩
  · exact h _ rfl
  · exact h _ rfl

end Trustmee.Eventlog
