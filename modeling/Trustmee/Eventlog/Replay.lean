import Trustmee.Eventlog.Log
import Trustmee.Foundations.HashChain
import Mathlib.Data.List.TakeDrop
import Mathlib.Logic.Relation

/-!
# What the replay of an event log tells

A register holds the measurements that the log gives for it, of one algorithm and in the order of
the log: the replay computes it as their hash chain (`replay_eq`). Nothing else of the log is in the
registers. An event that is not measured into one of them, or that carries a digest of another
algorithm, can be changed without any effect on the replay, and only such an event can
(`everyEventMeasured_iff`). The same holds of the registers of every algorithm that has them, and of
a list of references with one algorithm or several (`replayAndMatch_iff`).
-/

namespace Trustmee.Eventlog

/-! ## Measurements -/

/-- The measurements that an event makes into a register. -/
def EventlogEntry.measurements (entry : EventlogEntry) (alg : TcgAlgorithm) (register : ℕ) :
    List Bytes :=
  if entry.index = register then
    (entry.digests.filter fun d => d.alg = alg).map ElDigest.digest
  else []

/-- The measurements of a register, in the order of the log. -/
def measurements (log : List EventlogEntry) (alg : TcgAlgorithm) (register : ℕ) : List Bytes :=
  log.flatMap fun entry => entry.measurements alg register

variable {alg : TcgAlgorithm} {register : ℕ} {log : List EventlogEntry}

theorem measurements_cons (entry : EventlogEntry) (log : List EventlogEntry) :
    measurements (entry :: log) alg register =
      entry.measurements alg register ++ measurements log alg register := by
  simp [measurements]

theorem measurements_append (log log' : List EventlogEntry) :
    measurements (log ++ log') alg register =
      measurements log alg register ++ measurements log' alg register := by
  simp [measurements]

theorem measurements_concat (log : List EventlogEntry) (entry : EventlogEntry) :
    measurements (log ++ [entry]) alg register =
      measurements log alg register ++ entry.measurements alg register := by
  simp [measurements]

/-- Collecting the digests of an algorithm by register gives its measurements. -/
theorem collectDigestsByIndex_getD (log : List EventlogEntry) (register : ℕ) :
    (((collectDigestsByIndex log register).getD []).filter fun d => d.alg = alg).map
      ElDigest.digest = measurements log alg register := by
  induction log using List.reverseRecOn with
  | nil => rfl
  | append_singleton log entry ih =>
    have hcollect : collectDigestsByIndex (log ++ [entry]) = (collectDigestsByIndex log).insert
        entry.index ((collectDigestsByIndex log entry.index).getD [] ++ entry.digests) := by
      simp [collectDigestsByIndex, List.foldl_append]
    rw [measurements_concat, hcollect, Table.insert_apply, ← ih, EventlogEntry.measurements]
    by_cases hindex : entry.index = register
    · subst hindex
      simp
    · simp [hindex, Ne.symm hindex]

/-! ## The replay -/

variable {H : Hashes} {hash : Bytes → Bytes}

theorem accumulate_eq (hhash : H.of alg = some hash) (materials : Bytes) (digests : List ElDigest) :
    accumulate H alg materials digests =
      .ok (HashChain.value hash materials (digests.map ElDigest.digest)) := by
  induction digests generalizing materials with
  | nil => rfl
  | cons digest digests ih =>
    rw [accumulate, accumulateHash, hhash]
    exact ih (hash (materials ++ digest.digest))

/-- The replay of a register is the hash chain of its measurements, from zeros. -/
theorem replay_eq {size : ℕ} (hsize : alg.getDigestSize = .ok size) (hhash : H.of alg = some hash)
    (log : List EventlogEntry) (register : ℕ) :
    replay H (collectDigestsByIndex log) register alg =
      .ok (HashChain.value hash (List.replicate size 0) (measurements log alg register)) := by
  rw [replay, hsize, Outcome.ok_bind, ← collectDigestsByIndex_getD log register]
  cases collectDigestsByIndex log register with
  | none => rfl
  | some digests => exact accumulate_eq hhash _ _

theorem matchAll_eq_ok {digestMap : Table ℕ (List ElDigest)} {data : List ReferenceMeasurement} :
    matchAll H digestMap data = .ok () ↔
      ∀ item ∈ data, replay H digestMap item.index item.algorithm = .ok item.reference := by
  induction data with
  | nil => simp [matchAll]
  | cons item data ih =>
    rw [matchAll, Outcome.bind_eq_ok, List.forall_mem_cons, ← ih]
    constructor
    · intro h
      obtain ⟨calculated, hreplay, h⟩ := h
      split at h
      · exact absurd h Outcome.bail_ne_ok
      · next hequal =>
        rw [not_not] at hequal
        exact ⟨hequal ▸ hreplay, h⟩
    · intro h
      exact ⟨_, h.1, by rw [if_neg (not_not.2 rfl), h.2]⟩

/-- A log passes the replay against SHA-384 registers exactly when their values are the hash chains
of its measurements. -/
theorem replayAndMatch_sha384 {ccel : CcEventLog} {data : List (ℕ × Bytes)} :
    ccel.replayAndMatch H (data.map fun r => ⟨r.1, .Sha384, r.2⟩) = .ok () ↔
      ∀ r ∈ data, HashChain.value H.sha384 (List.replicate 48 0)
        (measurements ccel.log .Sha384 r.1) = r.2 := by
  have hreplay : ∀ register, replay H (collectDigestsByIndex ccel.log) register .Sha384 =
      .ok (HashChain.value H.sha384 (List.replicate 48 0)
        (measurements ccel.log .Sha384 register)) := replay_eq rfl rfl ccel.log
  rw [CcEventLog.replayAndMatch, matchAll_eq_ok, List.forall_mem_map]
  simp only [hreplay, Outcome.ok.injEq]

/-! ## Registers of every algorithm -/

/-- How long a register of an algorithm is, and the hash function that extends it. -/
def Hashes.bank (H : Hashes) : TcgAlgorithm → Option (ℕ × (Bytes → Bytes))
  | .Sha256 => some (32, H.sha256)
  | .Sha384 => some (48, H.sha384)
  | .Sha512 => some (64, H.sha512)
  | .Sm3 => some (32, H.sm3)
  | _ => none

/-- What a register of an algorithm holds after a log: from zeros, it is extended with its
measurements. -/
def registerValue (H : Hashes) (log : List EventlogEntry) (alg : TcgAlgorithm) (register : ℕ) :
    Option Bytes :=
  (H.bank alg).map fun bank =>
    HashChain.value bank.2 (List.replicate bank.1 0) (measurements log alg register)

/-- The algorithms that have registers. -/
def bankAlgorithms : List TcgAlgorithm := [.Sha256, .Sha384, .Sha512, .Sm3]

/-- The replay computes the registers. -/
theorem exists_replay_eq (halg : alg ∈ bankAlgorithms) (log : List EventlogEntry) (register : ℕ) :
    ∃ value, registerValue H log alg register = some value ∧
      replay H (collectDigestsByIndex log) register alg = .ok value := by
  simp only [bankAlgorithms, List.mem_cons, List.not_mem_nil, or_false] at halg
  rcases halg with rfl | rfl | rfl | rfl
  · exact ⟨_, rfl, replay_eq rfl rfl log register⟩
  · exact ⟨_, rfl, replay_eq rfl rfl log register⟩
  · exact ⟨_, rfl, replay_eq rfl rfl log register⟩
  · exact ⟨_, rfl, replay_eq rfl rfl log register⟩

variable {data : List ReferenceMeasurement}

theorem replayAndMatch_eq_ok {ccel : CcEventLog}
    (hdata : ∀ item ∈ data, item.algorithm ∈ bankAlgorithms) :
    ccel.replayAndMatch H data = .ok () ↔
      ∀ item ∈ data,
        registerValue H ccel.log item.algorithm item.index = some item.reference := by
  rw [CcEventLog.replayAndMatch, matchAll_eq_ok]
  apply forall₂_congr
  intro item hitem
  obtain ⟨value, hvalue, hreplay⟩ := exists_replay_eq (H := H) (hdata item hitem) ccel.log item.index
  rw [hvalue, hreplay, Outcome.ok.injEq, Option.some.injEq]

/-- The comparison sees nothing of a log but what the references are replayed from. -/
theorem matchAll_congr {digestMap digestMap' : Table ℕ (List ElDigest)}
    (h : ∀ item ∈ data, replay H digestMap item.index item.algorithm =
      replay H digestMap' item.index item.algorithm) :
    matchAll H digestMap data = matchAll H digestMap' data := by
  induction data with
  | nil => rfl
  | cons item data ih =>
    rw [List.forall_mem_cons] at h
    rw [matchAll, matchAll, h.1, ih h.2]

theorem replayAndMatch_congr {log log' : List EventlogEntry}
    (hdata : ∀ item ∈ data, item.algorithm ∈ bankAlgorithms)
    (h : ∀ item ∈ data, measurements log item.algorithm item.index =
      measurements log' item.algorithm item.index) :
    CcEventLog.replayAndMatch H ⟨log⟩ data = CcEventLog.replayAndMatch H ⟨log'⟩ data := by
  apply matchAll_congr
  intro item hitem
  obtain ⟨value, hvalue, hreplay⟩ := exists_replay_eq (H := H) (hdata item hitem) log item.index
  obtain ⟨value', hvalue', hreplay'⟩ :=
    exists_replay_eq (H := H) (hdata item hitem) log' item.index
  rw [registerValue, h item hitem] at hvalue
  have hequal : some value = some value' := hvalue.symm.trans hvalue'
  rw [hreplay, hreplay', Option.some.inj hequal]

theorem matchAll_returns {log : List EventlogEntry}
    (hdata : ∀ item ∈ data, item.algorithm ∈ bankAlgorithms) :
    (matchAll H (collectDigestsByIndex log) data).Returns := by
  induction data with
  | nil => exact Outcome.returns_ok ()
  | cons item data ih =>
    rw [List.forall_mem_cons] at hdata
    obtain ⟨value, -, hreplay⟩ := exists_replay_eq (H := H) hdata.1 log item.index
    rw [matchAll, hreplay, Outcome.ok_bind]
    split
    · exact Outcome.returns_bail _
    · exact ih hdata.2

/-- A change of a log that the references do not see: an entry of a register of none of them, a
digest of an algorithm that no reference of its register has, two entries of different registers in
the other order, or two digests of different algorithms. -/
inductive UnseenChange (data : List ReferenceMeasurement) :
    List EventlogEntry → List EventlogEntry → Prop
  | entry (before after : List EventlogEntry) (entry : EventlogEntry)
      (hindex : ∀ item ∈ data, item.index ≠ entry.index) :
      UnseenChange data (before ++ after) (before ++ entry :: after)
  | digest (before after : List EventlogEntry) (entry : EventlogEntry)
      (first rest : List ElDigest) (d : ElDigest)
      (halg : ∀ item ∈ data, item.index = entry.index → item.algorithm ≠ d.alg) :
      UnseenChange data (before ++ { entry with digests := first ++ rest } :: after)
        (before ++ { entry with digests := first ++ d :: rest } :: after)
  | swapEntries (before after : List EventlogEntry) (entry entry' : EventlogEntry)
      (hindex : entry.index ≠ entry'.index) :
      UnseenChange data (before ++ entry :: entry' :: after) (before ++ entry' :: entry :: after)
  | swapDigests (before after : List EventlogEntry) (entry : EventlogEntry)
      (first rest : List ElDigest) (d d' : ElDigest) (halg : d.alg ≠ d'.alg) :
      UnseenChange data (before ++ { entry with digests := first ++ d :: d' :: rest } :: after)
        (before ++ { entry with digests := first ++ d' :: d :: rest } :: after)

theorem UnseenChange.measurements_eq {log log' : List EventlogEntry}
    (h : UnseenChange data log log') {item : ReferenceMeasurement} (hitem : item ∈ data) :
    measurements log item.algorithm item.index = measurements log' item.algorithm item.index := by
  cases h with
  | entry before after entry hindex =>
    have hnil : entry.measurements item.algorithm item.index = [] :=
      if_neg (Ne.symm (hindex item hitem))
    rw [measurements_append, measurements_append, measurements_cons, hnil, List.nil_append]
  | digest before after entry first rest d halg =>
    have hsame : ({ entry with digests := first ++ rest } : EventlogEntry).measurements
        item.algorithm item.index = ({ entry with digests := first ++ d :: rest } :
          EventlogEntry).measurements item.algorithm item.index := by
      unfold EventlogEntry.measurements
      split_ifs with hindex
      · have hne : d.alg ≠ item.algorithm := Ne.symm (halg item hitem hindex.symm)
        simp [hne]
      · rfl
    simp only [measurements_append, measurements_cons, hsame]
  | swapEntries before after entry entry' hindex =>
    have hone : entry.measurements item.algorithm item.index = [] ∨
        entry'.measurements item.algorithm item.index = [] := by
      by_cases h : entry.index = item.index
      · exact .inr (if_neg fun h' => hindex (h.trans h'.symm))
      · exact .inl (if_neg h)
    simp only [measurements_append, measurements_cons]
    rcases hone with hnil | hnil
    · simp [hnil]
    · simp [hnil]
  | swapDigests before after entry first rest d d' halg =>
    have hsame : ({ entry with digests := first ++ d :: d' :: rest } : EventlogEntry).measurements
        item.algorithm item.index = ({ entry with digests := first ++ d' :: d :: rest } :
          EventlogEntry).measurements item.algorithm item.index := by
      unfold EventlogEntry.measurements
      split_ifs with hindex
      · by_cases h : d.alg = item.algorithm
        · have hne : d'.alg ≠ item.algorithm := fun h' => halg (h.trans h'.symm)
          simp [h, hne]
        · simp [h, List.filter_cons]
      · rfl
    simp only [measurements_append, measurements_cons, hsame]

/-- **The replay computes the registers**: a log passes it exactly when every reference is what its
register holds after the log, and otherwise there is an error. So the changes that the references do
not see make no difference to it, and neither does the order of the references. -/
theorem replayAndMatch_iff (H : Hashes) (log : List EventlogEntry)
    (data : List ReferenceMeasurement)
    (hdata : ∀ item ∈ data, item.algorithm ∈ [.Sha256, .Sha384, .Sha512, .Sm3]) :
    (CcEventLog.replayAndMatch H ⟨log⟩ data = .ok () ↔
      ∀ item ∈ data, registerValue H log item.algorithm item.index = some item.reference) ∧
    (CcEventLog.replayAndMatch H ⟨log⟩ data).Returns ∧
    (∀ log', Relation.EqvGen (UnseenChange data) log log' →
      CcEventLog.replayAndMatch H ⟨log'⟩ data = CcEventLog.replayAndMatch H ⟨log⟩ data) ∧
    (∀ data', data'.Perm data → (CcEventLog.replayAndMatch H ⟨log⟩ data' = .ok () ↔
      CcEventLog.replayAndMatch H ⟨log⟩ data = .ok ())) := by
  refine ⟨replayAndMatch_eq_ok hdata, ?_, ?_, ?_⟩
  · exact matchAll_returns hdata
  · intro log' h
    have hmeasurements : ∀ item ∈ data, measurements log' item.algorithm item.index =
        measurements log item.algorithm item.index := by
      intro item hitem
      induction h with
      | rel log log' h => exact (h.measurements_eq hitem).symm
      | refl log => rfl
      | symm log log' _ ih => exact ih.symm
      | trans log log' log'' _ _ ih ih' => exact ih'.trans ih
    exact replayAndMatch_congr hdata hmeasurements
  · intro data' hperm
    have hdata' : ∀ item ∈ data', item.algorithm ∈ bankAlgorithms :=
      fun item hitem => hdata item (hperm.subset hitem)
    rw [replayAndMatch_eq_ok hdata', replayAndMatch_eq_ok hdata]
    exact ⟨fun h item hitem => h item (hperm.symm.subset hitem),
      fun h item hitem => h item (hperm.subset hitem)⟩

/-- Hash functions that give back the text from a place on, for runs on fixed logs. -/
def Hashes.shifted : Hashes where
  sha256 b := (b.drop 32).takeD 32 0
  sha384 b := (b.drop 48).takeD 48 0
  sha512 b := (b.drop 64).takeD 64 0
  sm3 b := (b.drop 32).takeD 32 0
  length_sha384 _ := List.takeD_length _ _ _

/-- An event of register 1 after one of register 0, and the value that it leaves there. -/
theorem replayAndMatch_two_events : CcEventLog.replayAndMatch .shifted
    ⟨[⟨.empty, true, [⟨.Sha384, [1, 2]⟩], "", 0, .EvSeparator⟩,
      ⟨.empty, true, [⟨.Sha384, [7]⟩], "", 1, .EvSeparator⟩]⟩
    [⟨1, .Sha384, 7 :: List.replicate 47 0⟩] = .ok () := by
  apply (replayAndMatch_iff .shifted _ _ (by decide)).1.2
  decide

/-! ## Events that are measured -/

/-- The two logs look the same to the replay of the registers. -/
def SameReplay (alg : TcgAlgorithm) (registers : List ℕ) (log log' : List EventlogEntry) : Prop :=
  ∀ register ∈ registers, measurements log alg register = measurements log' alg register

/-- Every digest of the log takes part in the replay of the registers, and the log looks different
to it when an event is left out, or is given another register or another digest. -/
structure EveryEventMeasured (alg : TcgAlgorithm) (registers : List ℕ) (log : List EventlogEntry) :
    Prop where
  takesPart : ∀ entry ∈ log, ∀ d ∈ entry.digests,
    ∃ register ∈ registers, d.digest ∈ entry.measurements alg register
  event : ∀ before entry after, log = before ++ entry :: after →
    ¬ SameReplay alg registers (before ++ after) log
  register : ∀ before entry after, log = before ++ entry :: after → ∀ other ≠ entry.index,
    ¬ SameReplay alg registers (before ++ { entry with index := other } :: after) log
  digest : ∀ before entry after, log = before ++ entry :: after →
    ∀ first d rest other, entry.digests = first ++ d :: rest → other ≠ d.digest →
      ¬ SameReplay alg registers
        (before ++ { entry with digests := first ++ ⟨d.alg, other⟩ :: rest } :: after) log

variable {registers : List ℕ}

theorem sameReplay_around {before after : List EventlogEntry} {entry entry' : EventlogEntry} :
    SameReplay alg registers (before ++ entry :: after) (before ++ entry' :: after) ↔
      ∀ register ∈ registers,
        entry.measurements alg register = entry'.measurements alg register := by
  simp [SameReplay, measurements_append, measurements_cons]

theorem sameReplay_erase {before after : List EventlogEntry} {entry : EventlogEntry} :
    SameReplay alg registers (before ++ after) (before ++ entry :: after) ↔
      ∀ register ∈ registers, entry.measurements alg register = [] := by
  simp [SameReplay, measurements_append, measurements_cons]

/-- An event makes a measurement when it is of a register and has a digest of the algorithm. -/
theorem measurements_eq_nil {entry : EventlogEntry} :
    entry.measurements alg register = [] ↔
      (entry.index = register → ∀ d ∈ entry.digests, d.alg ≠ alg) := by
  unfold EventlogEntry.measurements
  split_ifs with hindex
  · simp [hindex]
  · simp [hindex]

theorem mem_measurements {entry : EventlogEntry} {d : ElDigest} (hd : d ∈ entry.digests)
    (halg : d.alg = alg) : d.digest ∈ entry.measurements alg entry.index := by
  rw [EventlogEntry.measurements, if_pos rfl]
  exact List.mem_map_of_mem (List.mem_filter.2 ⟨hd, decide_eq_true halg⟩)

/-- Another digest at one place is another measurement, when it is of the algorithm and the event of
the register. -/
theorem measurements_replace {entry : EventlogEntry} {first rest : List ElDigest} {d : ElDigest}
    {other : Bytes} (hdigests : entry.digests = first ++ d :: rest) (hother : other ≠ d.digest) :
    EventlogEntry.measurements { entry with digests := first ++ ⟨d.alg, other⟩ :: rest } alg
        register = entry.measurements alg register ↔ (entry.index = register → d.alg ≠ alg) := by
  unfold EventlogEntry.measurements
  rw [hdigests]
  by_cases hindex : entry.index = register
  · by_cases halg : d.alg = alg
    · simp [hindex, halg, hother]
    · simp [hindex, halg]
  · simp [hindex]

/-- **Every event is measured** exactly when each is of one of the registers, has a digest, and has
digests of the algorithm alone. -/
theorem everyEventMeasured_iff : EveryEventMeasured alg registers log ↔
    ∀ entry ∈ log, entry.index ∈ registers ∧ entry.digests ≠ [] ∧
      ∀ d ∈ entry.digests, d.alg = alg := by
  constructor
  · intro h entry hentry
    obtain ⟨before, after, hlog⟩ := List.append_of_mem hentry
    have hevent := h.event before entry after hlog
    rw [hlog, sameReplay_erase] at hevent
    simp only [measurements_eq_nil, not_forall, not_not] at hevent
    obtain ⟨register, hregister, hindex, d, hd, -⟩ := hevent
    subst hindex
    refine ⟨hregister, List.ne_nil_of_mem hd, ?_⟩
    intro d' hd'
    obtain ⟨first, rest, hdigests⟩ := List.append_of_mem hd'
    have hother : d'.digest ++ [0] ≠ d'.digest := by simp
    have hdigest := h.digest before entry after hlog first d' rest _ hdigests hother
    rw [hlog, sameReplay_around] at hdigest
    simp only [measurements_replace hdigests hother, not_forall, not_not] at hdigest
    obtain ⟨-, -, -, halg⟩ := hdigest
    exact halg
  · intro h
    constructor
    · intro entry hentry d hd
      obtain ⟨hregister, -, halg⟩ := h entry hentry
      exact ⟨entry.index, hregister, mem_measurements hd (halg d hd)⟩
    · intro before entry after hlog
      obtain ⟨hregister, hne, halg⟩ := h entry (by simp [hlog])
      rw [hlog, sameReplay_erase]
      intro hnil
      obtain ⟨d, hd⟩ := List.exists_mem_of_ne_nil _ hne
      exact measurements_eq_nil.1 (hnil entry.index hregister) rfl d hd (halg d hd)
    · intro before entry after hlog other hother
      obtain ⟨hregister, hne, halg⟩ := h entry (by simp [hlog])
      rw [hlog, sameReplay_around]
      intro hsame
      obtain ⟨d, hd⟩ := List.exists_mem_of_ne_nil _ hne
      have hmem : d.digest ∈ entry.measurements alg entry.index := mem_measurements hd (halg d hd)
      rw [← hsame entry.index hregister, EventlogEntry.measurements, if_neg hother] at hmem
      exact absurd hmem List.not_mem_nil
    · intro before entry after hlog first d rest other hdigests hother
      obtain ⟨hregister, -, halg⟩ := h entry (by simp [hlog])
      rw [hlog, sameReplay_around]
      intro hsame
      have hne := (measurements_replace hdigests hother).1 (hsame entry.index hregister) rfl
      exact hne (halg d (by simp [hdigests]))

end Trustmee.Eventlog
