import Trustmee.Policy.Input
import Trustmee.Tdx.Measured

/-!
# The default policy on published event logs

The default policy looks for the measured kernel and its parameters in the published event log: for
an event with a digest that is the reference value (`helper_eq_true_iff`). The log is published as
it was parsed, and the registers of the quote say nothing of an event of another register, or of a
digest of another algorithm. `uefiEvents_measured_iff` says when there is none, and so when the
policy takes no digest for a measured one that is not. Where there may be some, every log can be
made one that the policy takes for the log of an expected kernel (`exists_forged_event`).
-/

namespace Trustmee.Policy

open Rego Tdx Eventlog

/-! ## The rules on events -/

/-- A rule that looks for an event with a reference digest: what else it asks of the event. -/
def eventBody (tests : List Test) (id : String) : List Literal :=
  .each "event" (.input ["tdx", "uefi_event_logs"]) :: (tests.map .test ++
    [.each "digest" (.var "event" ["digests"]),
     .test (.eq (.var "digest" ["digest"]) (queryReferenceValue id))])

def kernelTests : List Test :=
  [.eq (.var "event" ["type_name"]) (.value (.string "EV_EFI_BOOT_SERVICES_APPLICATION")),
   .mem (.value (.string "File(kernel)")) (.var "event" ["details", "device_paths"])]

def kernelparamsTests : List Test :=
  [.eq (.var "event" ["type_name"]) (.value (.string "EV_EVENT_TAG")),
   .eq (.var "event" ["details", "string"]) (.value (.string "LOADED_IMAGE::LoadOptions"))]

/-- The rules on events: their names, what they ask of an event, and the reference value that they
ask for. -/
def eventRules : List (String × List Test × String) :=
  [("tdx_uefi_event_tdvfkernel_ok", kernelTests, "tdvfkernel"),
   ("tdx_uefi_event_tdvfkernelparams_ok", kernelparamsTests, "tdvfkernelparams")]

/-- The published log is what the policy reads. -/
def ReadsLog (input : Json) (log : List EventlogEntry) : Prop :=
  follow input ["tdx", "uefi_event_logs"] = some (.array (log.map EventlogEntry.toValue))

/-- The digest is the reference value. -/
def IsReference (compare : Json → Json → Ordering) (rvps : String → Option Json) (id : String)
    (digest : Bytes) : Prop :=
  compare (.string (hexEncode digest)) ((rvps id).getD .null) = .eq

variable {compare : Json → Json → Ordering} {rvps : String → Option Json} {input : Json}
  {named : String → Bool} {log : List EventlogEntry} {tests : List Test} {id : String}

theorem get_digests (entry : EventlogEntry) :
    entry.toValue.get "digests" = some (.array (entry.digests.map ElDigest.toValue)) := by
  simp [EventlogEntry.toValue, Json.Map.ofList, Json.Map.extend_cons, Json.Map.get_insert]

theorem get_digest (d : ElDigest) :
    d.toValue.get "digest" = some (.string (hexEncode d.digest)) := by
  simp [ElDigest.toValue, Json.Map.ofList, Json.Map.extend_cons]

/-- The part of the body behind the tests. -/
theorem holds_digest_iff (entry : EventlogEntry) :
    holds (policyContext compare rvps input) named [("event", entry.toValue)]
      [.each "digest" (.var "event" ["digests"]),
       .test (.eq (.var "digest" ["digest"]) (queryReferenceValue id))] = true ↔
      ∃ d ∈ entry.digests, IsReference compare rvps id d.digest := by
  have hdigests : Term.eval (policyContext compare rvps input) [("event", entry.toValue)]
      (.var "event" ["digests"]) = some (.array (entry.digests.map ElDigest.toValue)) := by
    simp [Term.eval, Json.Map.get_cons, follow, get_digests]
  rw [holds_each_cons, hdigests, Option.elim_some, elements, List.any_map, List.any_eq_true]
  refine exists_congr fun d => and_congr_right fun _ => ?_
  have hdigest : Term.eval (policyContext compare rvps input)
      (Json.Map.insert [("event", entry.toValue)] "digest" d.toValue) (.var "digest" ["digest"]) =
        some (.string (hexEncode d.digest)) := by
    simp [Term.eval, follow, get_digest]
  rw [Function.comp_apply, holds_test_cons, holds_nil, Bool.and_true, Test.eval, compareTerms,
    hdigest, Option.any_some, queryReferenceValue, Term.eval, Option.any_some, beq_iff_eq]
  exact Iff.rfl

/-- A rule on events holds of a log with such an event. -/
theorem holds_eventBody_iff (hlog : ReadsLog input log) :
    holds (policyContext compare rvps input) named [] (eventBody tests id) = true ↔
      ∃ entry ∈ log, (∀ t ∈ tests,
        t.eval (policyContext compare rvps input) named [("event", entry.toValue)] = true) ∧
          ∃ d ∈ entry.digests, IsReference compare rvps id d.digest := by
  have hevents : Term.eval (policyContext compare rvps input) []
      (.input ["tdx", "uefi_event_logs"]) = some (.array (log.map EventlogEntry.toValue)) := hlog
  rw [eventBody, holds_each_cons, hevents, Option.elim_some, elements, List.any_map,
    List.any_eq_true]
  refine exists_congr fun entry => and_congr_right fun _ => ?_
  rw [Function.comp_apply, Json.Map.insert, holds_tests_append, Bool.and_eq_true, List.all_eq_true,
    holds_digest_iff]

/-- The helper of an event rule is this rule. -/
theorem helper_eq_holds {name : String} (hrule : (name, tests, id) ∈ eventRules) :
    cpuPolicy.helper (policyContext compare rvps input) name =
      holds (policyContext compare rvps input) (fun _ => false) [] (eventBody tests id) := by
  have hhelper : ∀ ctx : Context, cpuPolicy.helper ctx name =
      ((tdxUefiEventTdvfkernelOk.head == name &&
        (tdxUefiEventTdvfkernelOk.eval ctx fun _ => false).any truthy) ||
        (tdxUefiEventTdvfkernelparamsOk.head == name &&
          (tdxUefiEventTdvfkernelparamsOk.eval ctx fun _ => false).any truthy)) := by
    intro ctx
    rw [Policy.helper, cpuPolicy, List.any_cons, List.any_cons, List.any_nil, Bool.or_false]
  have heval : ∀ (ctx : Context) (body : List Literal),
      (firstValue ctx (fun _ => false) [(.bool true, body)]).any truthy =
        holds ctx (fun _ => false) [] body := by
    intro ctx body
    rw [firstValue, firstValue]
    cases holds ctx (fun _ => false) [] body <;> rfl
  simp only [eventRules, List.mem_cons, Prod.mk.injEq, List.not_mem_nil, or_false] at hrule
  rw [hhelper]
  rcases hrule with ⟨rfl, rfl, rfl⟩ | ⟨rfl, rfl, rfl⟩
  · have hother : (tdxUefiEventTdvfkernelparamsOk.head == "tdx_uefi_event_tdvfkernel_ok") = false :=
      rfl
    rw [hother, Bool.false_and, Bool.or_false]
    exact heval _ _
  · have hother : (tdxUefiEventTdvfkernelOk.head == "tdx_uefi_event_tdvfkernelparams_ok") = false :=
      rfl
    rw [hother, Bool.false_and, Bool.false_or]
    exact heval _ _

/-- **What a rule on events says of a published log.** -/
theorem helper_eq_true_iff {name : String} (hrule : (name, tests, id) ∈ eventRules)
    (hlog : ReadsLog input log) :
    cpuPolicy.helper (policyContext compare rvps input) name = true ↔
      ∃ entry ∈ log, (∀ t ∈ tests, t.eval (policyContext compare rvps input) (fun _ => false)
        [("event", entry.toValue)] = true) ∧
          ∃ d ∈ entry.digests, IsReference compare rvps id d.digest := by
  rw [helper_eq_holds hrule, holds_eventBody_iff hlog]

/-! ## Measured digests -/

/-- The policy takes only measured digests of a published log for reference values. -/
def MatchesMeasured (log : List EventlogEntry) : Prop :=
  ∀ compare rvps input, ReadsLog input log → ∀ name tests id, (name, tests, id) ∈ eventRules →
    cpuPolicy.helper (policyContext compare rvps input) name = true →
      ∃ register ∈ registers, ∃ digest ∈ measurements log .Sha384 register,
        IsReference compare rvps id digest

/-- It does so where every digest takes part in the replay. -/
theorem matchesMeasured_of_everyEventMeasured (h : EveryEventMeasured .Sha384 registers log) :
    MatchesMeasured log := by
  intro compare rvps input hlog name tests id hrule hhelper
  obtain ⟨entry, hentry, -, d, hd, hreference⟩ := (helper_eq_true_iff hrule hlog).1 hhelper
  obtain ⟨register, hregister, hmem⟩ := h.takesPart entry hentry d hd
  exact ⟨register, hregister, d.digest, List.mem_flatMap.2 ⟨entry, hentry, hmem⟩, hreference⟩

/-- An event of register 0, which no quote has. -/
def forgedEvent (eventType : TcgEventType) (details : EventDetails) (digest : Bytes) :
    EventlogEntry where
  details
  digestMatchesEvent := false
  digests := [⟨.Sha384, digest⟩]
  event := ""
  index := 0
  eventType

theorem measurements_forgedEvent {eventType : TcgEventType} {details : EventDetails}
    {digest : Bytes} {register : ℕ} (h : register ≠ 0) :
    measurements (log ++ [forgedEvent eventType details digest]) .Sha384 register =
      measurements log .Sha384 register := by
  have hindex : (forgedEvent eventType details digest).index ≠ register := Ne.symm h
  rw [measurements_concat, EventlogEntry.measurements, if_neg hindex, List.append_nil]

/-- The details of an event that the rule on kernels, or on their parameters, asks for. -/
def kernelDetails : EventDetails := { EventDetails.empty with devicePaths := some ["File(kernel)"] }

def kernelparamsDetails : EventDetails :=
  { EventDetails.empty with string := some "LOADED_IMAGE::LoadOptions" }

theorem follow_typeName (entry : EventlogEntry) :
    follow entry.toValue ["type_name"] = some (.string entry.eventType.name) := by
  simp [follow, EventlogEntry.toValue, Json.Map.ofList, Json.Map.extend_cons]

theorem follow_details (entry : EventlogEntry) (path : List String) :
    follow entry.toValue ("details" :: path) = follow entry.details.toValue path := by
  simp [follow, EventlogEntry.toValue, Json.Map.ofList, Json.Map.extend_cons, Json.Map.get_insert]

/-- A text of the event is the one that is asked for. -/
theorem eval_eq_event (hcompare : ∀ s t, compare (.string s) (.string t) = .eq ↔ s = t)
    {entry : Json} {path : List String} {s : String} (h : follow entry path = some (.string s)) :
    Test.eval (policyContext compare rvps input) named [("event", entry)]
      (.eq (.var "event" path) (.value (.string s))) = true := by
  have hvar : Term.eval (policyContext compare rvps input) [("event", entry)] (.var "event" path) =
      some (.string s) := by
    rw [Term.eval, Json.Map.get_cons, if_pos rfl, Option.bind_some, h]
  rw [Test.eval, compareTerms, hvar, Option.any_some, Term.eval, Option.any_some, beq_iff_eq]
  exact (hcompare s s).2 rfl

theorem tests_forgedEvent {name : String} (hrule : (name, tests, id) ∈ eventRules)
    (digest : Bytes) :
    ∃ eventType details, ∀ compare rvps input named,
      (∀ s t, compare (.string s) (.string t) = .eq ↔ s = t) → ∀ t ∈ tests,
        t.eval (policyContext compare rvps input) named
          [("event", (forgedEvent eventType details digest).toValue)] = true := by
  simp only [eventRules, List.mem_cons, Prod.mk.injEq, List.not_mem_nil, or_false] at hrule
  rcases hrule with ⟨-, rfl, -⟩ | ⟨-, rfl, -⟩
  · refine ⟨.EvEfiBootServicesApplication, kernelDetails, ?_⟩
    intro compare rvps input named hcompare t ht
    simp only [kernelTests, List.mem_cons, List.not_mem_nil, or_false] at ht
    rcases ht with rfl | rfl
    · apply eval_eq_event hcompare
      rw [follow_typeName]
      rfl
    · have hpaths : follow (forgedEvent .EvEfiBootServicesApplication kernelDetails digest).toValue
          ["details", "device_paths"] = some (.array [.string "File(kernel)"]) := by
        rw [follow_details]
        rfl
      have hvar : Term.eval (policyContext compare rvps input) [("event",
          (forgedEvent .EvEfiBootServicesApplication kernelDetails digest).toValue)]
          (.var "event" ["details", "device_paths"]) = some (.array [.string "File(kernel)"]) := by
        rw [Term.eval, Json.Map.get_cons, if_pos rfl, Option.bind_some, hpaths]
      rw [Test.eval, compareTerms, Term.eval, Option.any_some, hvar, Option.any_some, contains,
        elements, List.any_cons]
      simp [policyContext, hcompare]
  · refine ⟨.EvEventTag, kernelparamsDetails, ?_⟩
    intro compare rvps input named hcompare t ht
    simp only [kernelparamsTests, List.mem_cons, List.not_mem_nil, or_false] at ht
    rcases ht with rfl | rfl
    · apply eval_eq_event hcompare
      rw [follow_typeName]
      rfl
    · apply eval_eq_event hcompare
      rw [follow_details]
      rfl

/-- **Every log can be made one that the policy takes for the log of an expected kernel**: an event
that is appended with the reference digest leaves all registers as they are. -/
theorem exists_forged_event {name : String} (hrule : (name, tests, id) ∈ eventRules)
    (digest : Bytes) :
    ∃ event : EventlogEntry, event.index ∉ registers ∧ ∀ log,
      SameReplay .Sha384 registers (log ++ [event]) log ∧
        ∀ compare rvps input, (∀ s t, compare (.string s) (.string t) = .eq ↔ s = t) →
          rvps id = some (.string (hexEncode digest)) → ReadsLog input (log ++ [event]) →
            cpuPolicy.helper (policyContext compare rvps input) name = true := by
  obtain ⟨eventType, details, htests⟩ := tests_forgedEvent hrule digest
  have hindex : (0 : ℕ) ∉ registers := by decide
  refine ⟨forgedEvent eventType details digest, hindex, ?_⟩
  intro log
  constructor
  · intro register hregister
    apply measurements_forgedEvent
    rintro rfl
    exact hindex hregister
  · intro compare rvps input hcompare hrvps hlog
    rw [helper_eq_true_iff hrule hlog]
    refine ⟨_, List.mem_append_right _ List.mem_cons_self, htests _ _ _ _ hcompare,
      ⟨.Sha384, digest⟩, List.mem_cons_self, ?_⟩
    rw [IsReference, hrvps, Option.getD_some, hcompare]

/-! ## When every published event is measured -/

/-- **Every published event is measured, and the policy takes only measured digests for reference
values, exactly when the log keeps to the quote's registers and to SHA-384.** The registers fix what
the replay sees: another log that they hold for looks the same to it, or SHA-384 is broken. -/
theorem uefiEvents_measured_iff {H : Hashes} {P : Parsers} {B : NativeBackends} {rd : ReportData}
    {initData : InitDataHash} {ev : Native.TdxEvidence} {v : Json}
    (h : Native.verifyEvidence (measuredEnv H P B) rd initData ev = .ok v) :
    ∃ quoteBin offset, Base64.decode ev.quote = some quoteBin ∧ BodyAt quoteBin offset ∧
      (v.get "uefi_event_logs" = none ∨
        ∃ el ccelData ccel, ev.ccEventlog = some el ∧ Base64.decode el = some ccelData ∧
          CcEventLog.tryFrom H P ccelData = .ok ccel ∧
          v.get "uefi_event_logs" = some (.array (ccel.log.map EventlogEntry.toValue)) ∧
          (EveryEventMeasured .Sha384 registers ccel.log ∧ MatchesMeasured ccel.log ↔
            InRegisters ccel.log) ∧
          ∀ log', RegistersHold H quoteBin offset log' →
            SameReplay .Sha384 registers ccel.log log' ∨
              ∃ register ∈ registers, HashChain.Broken H.sha384 (List.replicate 48 0)
                (measurements ccel.log .Sha384 register)
                (measurements log' .Sha384 register)) := by
  obtain ⟨quoteBin, custom, quote, ccel, claims, haccepts, rfl⟩ := Native.verifyEvidence_eq_ok.1 h
  obtain ⟨offset, hat, -, hbody⟩ := body_of_parseTdxQuote haccepts.parse
  have hget := get_uefiEventLogs_extend haccepts
  refine ⟨quoteBin, offset, haccepts.decode, hat, ?_⟩
  by_cases hsupplied : ∃ el, ev.ccEventlog = some el ∧ el ≠ ""
  · obtain ⟨el, hel, hne⟩ := hsupplied
    obtain ⟨ccelData, log, rfl, hdecode, hparse, hhold⟩ :=
      exists_log_of_accepts haccepts hbody hel hne
    refine .inr ⟨el, ccelData, log, hel, hdecode, hparse, hget, ?_,
      fun log' hold' => sameReplay_or_broken hhold hold'⟩
    rw [and_iff_left_of_imp matchesMeasured_of_everyEventMeasured, everyEventMeasured_iff]
    exact Iff.rfl
  · left
    have hnone : ev.ccEventlog = none ∨ ev.ccEventlog = some "" := by
      cases hel : ev.ccEventlog with
      | none => exact .inl rfl
      | some el =>
        right
        by_contra hne
        exact hsupplied ⟨el, hel, fun hempty => hne (by rw [hempty])⟩
    rw [eq_none_of_accepts haccepts hnone] at hget
    exact hget

/-- The theorem at the quote of zeros and its log, where no event is measured. -/
theorem uefiEvents_measured_iff_example :
    ∃ v, ∃ ccel : CcEventLog,
      Native.verifyEvidence (measuredEnv constantHashes blankParsers qvlBackends)
        (.value (zeros 64)) (.value (zeros 48))
        (measuredEvidence (some (Base64.encode unmeasuredLog))) = .ok v ∧
      v.get "uefi_event_logs" = some (.array (ccel.log.map EventlogEntry.toValue)) ∧
      (EveryEventMeasured .Sha384 registers ccel.log ∧ MatchesMeasured ccel.log ↔
        InRegisters ccel.log) := by
  obtain ⟨v, hv, hget⟩ := verifyEvidence_measuredEvidence checkEventlog_unmeasuredLog
  obtain ⟨_, _, -, -, hlog⟩ := uefiEvents_measured_iff hv
  rcases hlog with hnone | ⟨_, _, ccel, -, -, -, hpublished, hiff, -⟩
  · rw [hget] at hnone
    cases hnone
  · exact ⟨v, ccel, hv, hpublished, hiff⟩

/-- The event of register 5 is published, and no register of the quote has its digest: the log
without it would be accepted as well. -/
theorem unmeasured_event_published :
    ∃ v, Native.verifyEvidence (measuredEnv constantHashes blankParsers qvlBackends)
        (.value (zeros 64)) (.value (zeros 48))
        (measuredEvidence (some (Base64.encode unmeasuredLog))) = .ok v ∧
      v.get "uefi_event_logs" = some (.array [unmeasuredEvent.toValue]) ∧
      unmeasuredEvent.digests = [⟨.Sha384, List.replicate 48 7⟩] ∧
      unmeasuredEvent.index ∉ registers ∧
      SameReplay .Sha384 registers [] [unmeasuredEvent] := by
  obtain ⟨v, hv, hget⟩ := verifyEvidence_measuredEvidence checkEventlog_unmeasuredLog
  refine ⟨v, hv, hget, rfl, by decide, ?_⟩
  intro register hregister
  have hindex : unmeasuredEvent.index ≠ register := by
    rintro rfl
    exact absurd hregister (by decide)
  simp [measurements, EventlogEntry.measurements, hindex]

end Trustmee.Policy
