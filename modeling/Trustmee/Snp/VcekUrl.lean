import Trustmee.Foundations.Numbering
import Trustmee.Snp.Component

/-!
# The URL of a VCEK

The URL names the generation of the processor, the hardware id and the components of the TCB. It
names each of them: two reports with one URL have the same (`vcekId_eq_of_vcekUrl`). Each part ends
at a separator that it does not contain.
-/

namespace Trustmee.Snp.Component

/-! ## Two digits -/

theorem toList_twoDigits (n : UInt8) :
    (twoDigits n).toList = List.replicate (if n.toNat < 10 then 1 else 0) '0' ++
      Nat.toDigits 10 n.toNat := by
  rw [twoDigits]
  split_ifs with h
  · rw [String.toList_append, Nat.toString_eq_ofList_toDigits, String.toList_ofList]
    simp
  · rw [Nat.toString_eq_ofList_toDigits, String.toList_ofList]
    rfl

theorem ofDigitChars_twoDigits (n : UInt8) :
    Nat.ofDigitChars 10 (twoDigits n).toList 0 = n.toNat := by
  rw [toList_twoDigits, Nat.ofDigitChars_append, Nat.ofDigitChars_replicate_zero, Nat.mul_zero,
    Nat.ofDigitChars_ten_toDigits]

theorem twoDigits_injective {m n : UInt8} (h : twoDigits m = twoDigits n) : m = n := by
  have hvalue := ofDigitChars_twoDigits m
  rw [h, ofDigitChars_twoDigits] at hvalue
  exact (UInt8.toNat_inj.1 hvalue).symm

theorem isDigit_of_mem_twoDigits {n : UInt8} {c : Char} (h : c ∈ (twoDigits n).toList) :
    c.isDigit = true := by
  rw [toList_twoDigits] at h
  rcases List.mem_append.1 h with h | h
  · rw [List.eq_of_mem_replicate h]
    rfl
  · exact Nat.isDigit_of_mem_toDigits (by omega) (by omega) h

theorem ampersand_notMem_twoDigits (n : UInt8) : '&' ∉ (twoDigits n).toList := fun h => by
  cases isDigit_of_mem_twoDigits h

/-- The number before a separator. -/
theorem twoDigits_append_inj {m n : UInt8} {r r' : List Char}
    (h : (twoDigits m).toList ++ '&' :: r = (twoDigits n).toList ++ '&' :: r') : m = n ∧ r = r' := by
  obtain ⟨hdigits, hrest⟩ :=
    append_cons_inj (ampersand_notMem_twoDigits m) (ampersand_notMem_twoDigits n) h
  exact ⟨twoDigits_injective (String.toList_injective hdigits), hrest⟩

/-! ## What a URL names -/

/-- What the key server tells VCEKs apart by. -/
structure VcekId where
  procGen : ProcessorGeneration
  hwId : Bytes
  tcb : TcbVersion

/-- The key of a report: 8 bytes of the chip id on Turin and all of them elsewhere, and the FMC on
Turin only. -/
def vcekId (attReport : AttestationReport) : ProcessorGeneration → VcekId
  | .Turin => ⟨.Turin, attReport.chipId.toList.take 8, attReport.reportedTcb⟩
  | procGen => ⟨procGen, attReport.chipId.toList, { attReport.reportedTcb with fmc := none }⟩

/-- The components of the TCB that every generation has, as a query. -/
def tcbQuery (tcb : TcbVersion) : List Char :=
  "blSPL=".toList ++ ((twoDigits tcb.bootloader).toList ++ '&' ::
    ("teeSPL=".toList ++ ((twoDigits tcb.tee).toList ++ '&' ::
      ("snpSPL=".toList ++ ((twoDigits tcb.snp).toList ++ '&' ::
        ("ucodeSPL=".toList ++ (twoDigits tcb.microcode).toList))))))

/-- The query of a URL. -/
def query (tcb : TcbVersion) : List Char :=
  match tcb.fmc with
  | some fmc => "fmcSPL=".toList ++ ((twoDigits fmc).toList ++ '&' :: tcbQuery tcb)
  | none => tcbQuery tcb

/-- The characters of a URL, up to the separators. -/
def VcekId.url (id : VcekId) : List Char :=
  (KDS_CERT_SITE ++ KDS_VCEK ++ "/").toList ++ (id.procGen.name.toList ++ '/' ::
    ((hexEncode id.hwId).toList ++ '?' :: query id.tcb))

variable {attReport attReport' : AttestationReport} {procGen procGen' : ProcessorGeneration}
  {url : String}

theorem toList_of_vcekUrl (h : vcekUrl attReport procGen = .ok url) :
    url.toList = (vcekId attReport procGen).url := by
  unfold vcekUrl at h
  obtain ⟨-, -, h⟩ := Outcome.bind_eq_ok.1 h
  cases procGen with
  | Milan | Genoa =>
    cases h
    simp [VcekId.url, vcekId, query, tcbQuery, ProcessorGeneration.name]
  | Turin =>
    obtain ⟨fmc, hfmc, h⟩ := Outcome.bind_eq_ok.1 h
    rw [Outcome.okOr_eq_ok] at hfmc
    cases h
    simp [VcekId.url, vcekId, query, tcbQuery, ProcessorGeneration.name, hfmc]

/-! ## The parts of a URL -/

theorem tcbQuery_inj {tcb tcb' : TcbVersion} (h : tcbQuery tcb = tcbQuery tcb') :
    tcb.bootloader = tcb'.bootloader ∧ tcb.tee = tcb'.tee ∧ tcb.snp = tcb'.snp ∧
      tcb.microcode = tcb'.microcode := by
  obtain ⟨hbootloader, h⟩ := twoDigits_append_inj (List.append_cancel_left h)
  obtain ⟨htee, h⟩ := twoDigits_append_inj (List.append_cancel_left h)
  obtain ⟨hsnp, h⟩ := twoDigits_append_inj (List.append_cancel_left h)
  have hmicrocode := twoDigits_injective (String.toList_injective (List.append_cancel_left h))
  exact ⟨hbootloader, htee, hsnp, hmicrocode⟩

theorem query_inj {tcb tcb' : TcbVersion} (h : query tcb = query tcb') : tcb = tcb' := by
  obtain ⟨fmc, bootloader, tee, snp, microcode⟩ := tcb
  obtain ⟨fmc', bootloader', tee', snp', microcode'⟩ := tcb'
  -- The first letter tells whether there is an FMC.
  cases fmc with
  | some n =>
    cases fmc' with
    | some n' =>
      obtain ⟨rfl, h⟩ := twoDigits_append_inj (List.append_cancel_left h)
      obtain ⟨rfl, rfl, rfl, rfl⟩ := tcbQuery_inj h
      rfl
    | none => cases List.head_eq_of_cons_eq h
  | none =>
    cases fmc' with
    | some n' => cases List.head_eq_of_cons_eq h
    | none =>
      obtain ⟨rfl, rfl, rfl, rfl⟩ := tcbQuery_inj h
      rfl

theorem name_injective (h : procGen.name = procGen'.name) : procGen = procGen' := by
  cases procGen <;> cases procGen' <;> first | rfl | exact absurd h (by decide)

theorem slash_notMem_name (procGen : ProcessorGeneration) : '/' ∉ procGen.name.toList := by
  cases procGen <;> decide

theorem question_notMem_hexEncode (b : Bytes) : '?' ∉ (hexEncode b).toList := fun h => by
  cases isSome_hexValue_of_mem h

/-- **A URL names one key.** -/
theorem VcekId.url_inj {id id' : VcekId} (h : id.url = id'.url) : id = id' := by
  obtain ⟨procGen, hwId, tcb⟩ := id
  obtain ⟨procGen', hwId', tcb'⟩ := id'
  obtain ⟨hname, h⟩ := append_cons_inj (slash_notMem_name procGen) (slash_notMem_name procGen')
    (List.append_cancel_left h)
  obtain ⟨hhwId, htcb⟩ := append_cons_inj (question_notMem_hexEncode hwId)
    (question_notMem_hexEncode hwId') h
  obtain rfl := name_injective (String.toList_injective hname)
  obtain rfl := hexEncode_injective (String.toList_injective hhwId)
  obtain rfl := query_inj htcb
  rfl

/-- Reports with one URL are of one key. -/
theorem vcekId_eq_of_vcekUrl (h : vcekUrl attReport procGen = .ok url)
    (h' : vcekUrl attReport' procGen' = .ok url) :
    vcekId attReport procGen = vcekId attReport' procGen' :=
  VcekId.url_inj ((toList_of_vcekUrl h).symm.trans (toList_of_vcekUrl h'))

end Trustmee.Snp.Component
