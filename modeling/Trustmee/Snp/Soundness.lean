import Trustmee.Snp.Native
import Mathlib.Tactic.SplitIfs

/-!
# What an accepted SNP report is worth

If the native verifier accepts evidence, the report is signed by an endorsement key with a chain up
to an ARK that the provisioned ARK of the report's generation signs, and the report says of the TCB,
the chip, the VMPL and the bound data what the key and the caller say (`Sound`). The chain is that
of the certificate table, read entry by entry with "the last wins" for the ARK and the ASK, and "the
first wins" for the endorsement key; `TableChain` says which chain this is.

The verifier returns on all evidence but one kind (`FmcMissing`): a report of a Turin processor
without an FMC, whose table and signature are good and whose TCB agrees up to there, is a panic.
-/

namespace Trustmee.Snp.Native

variable {V : Env}

/-! ## The chain of a table -/

/-- The last entry of a type. -/
def lastOf (t : CertType) (table : List CertTableEntry) : Option CertTableEntry :=
  (table.filter fun e => e.certType = t).getLast?

def isVek (e : CertTableEntry) : Bool := e.certType = .VCEK ∨ e.certType = .VLEK

/-- The first VCEK or VLEK. -/
def firstVek (table : List CertTableEntry) : Option CertTableEntry := table.find? isVek

/-- The certificate of an entry, or the default where there is no entry. -/
def Given (V : Env) (entry : Option CertTableEntry) (default c : V.Certificate) : Prop :=
  match entry with
  | some e => V.fromBytes e.data = .ok c
  | none => c = default

/-- The certificates in an entry that is read whatever else the table has. -/
def EntryOk (vendorCerts : VendorCertificates V.Certificate) (e : CertTableEntry) : Prop :=
  (e.certType = .ARK → ∃ c, V.fromBytes e.data = .ok c ∧ V.verify vendorCerts.ark c = .ok ()) ∧
    (e.certType = .ASK → ∃ c, V.fromBytes e.data = .ok c)

/-- The chain that a table gives. -/
structure TableChain (vendorCerts : VendorCertificates V.Certificate) (table : List CertTableEntry)
    (chain : Chain V) : Prop where
  entries : ∀ e ∈ table, EntryOk vendorCerts e
  ark : Given V (lastOf .ARK table) vendorCerts.ark chain.ark
  vek : ∃ e, firstVek table = some e ∧ V.fromBytes e.data = .ok chain.vek ∧
    Given V (lastOf .ASK table)
      (if e.certType = .VLEK then vendorCerts.asvk else vendorCerts.ask) chain.ask

/-! ## The loop over the table -/

section Table

variable {vendorCerts : VendorCertificates V.Certificate} {certs certs' mid : Certs V}
  {t : CertType} {e : CertTableEntry} {table : List CertTableEntry}

theorem lastOf_cons (t : CertType) (e : CertTableEntry) (table : List CertTableEntry) :
    lastOf t (e :: table) =
      if e.certType = t then some ((lastOf t table).getD e) else lastOf t table := by
  unfold lastOf
  by_cases h : e.certType = t
  · rw [if_pos h, List.filter_cons_of_pos (by simpa using h), List.getLast?_cons]
  · rw [if_neg h, List.filter_cons_of_neg (by simpa using h)]

theorem firstVek_cons (e : CertTableEntry) (table : List CertTableEntry) :
    firstVek (e :: table) = if isVek e then some e else firstVek table := by
  unfold firstVek
  by_cases h : isVek e = true
  · rw [if_pos h, List.find?_cons_of_pos h]
  · rw [if_neg h, List.find?_cons_of_neg h]

/-- A certificate that the entry replaces, where there is one. -/
def Replaces (V : Env) (entry : Option CertTableEntry) (old new : Option V.Certificate) : Prop :=
  match entry with
  | some e => ∃ c, V.fromBytes e.data = .ok c ∧ new = some c
  | none => new = old

/-- An endorsement key that the entry fills in, where there is none yet. -/
def FillsVek (entry : Option CertTableEntry) (old new : Certs V) : Prop :=
  match old.vek, entry with
  | none, some e => ∃ c, V.fromBytes e.data = .ok c ∧ new.vek = some c ∧
      new.vekType = if e.certType = .VLEK then .Vlek else old.vekType
  | _, _ => new.vek = old.vek ∧ new.vekType = old.vekType

/-- What the loop finds in a table. -/
structure Found (vendorCerts : VendorCertificates V.Certificate) (certs : Certs V)
    (table : List CertTableEntry) (certs' : Certs V) : Prop where
  entries : ∀ e ∈ table, EntryOk vendorCerts e
  ark : Replaces V (lastOf .ARK table) certs.ark certs'.ark
  ask : Replaces V (lastOf .ASK table) certs.ask certs'.ask
  vek : FillsVek (firstVek table) certs certs'

theorem Replaces.cons {old mid new : Option V.Certificate}
    (h₁ : Replaces V (lastOf t [e]) old mid) (h₂ : Replaces V (lastOf t table) mid new) :
    Replaces V (lastOf t (e :: table)) old new := by
  rw [lastOf_cons] at h₁ ⊢
  cases hlast : lastOf t table with
  | some e' =>
    rw [hlast] at h₂
    split_ifs <;> exact h₂
  | none =>
    rw [hlast] at h₂
    obtain rfl : new = mid := h₂
    exact h₁

theorem FillsVek.cons (h₁ : FillsVek (firstVek [e]) certs mid)
    (h₂ : FillsVek (firstVek table) mid certs') :
    FillsVek (firstVek (e :: table)) certs certs' := by
  rw [firstVek_cons] at h₁ ⊢
  unfold FillsVek at *
  split_ifs at h₁ ⊢ with he
  · cases hvek : certs.vek with
    | some c =>
      simp only [hvek] at h₁
      simp only [h₁.1] at h₂
      exact ⟨h₂.1.trans rfl, h₂.2.trans h₁.2⟩
    | none =>
      simp only [hvek] at h₁
      obtain ⟨c, hc, hmid, htype⟩ := h₁
      simp only [hmid] at h₂
      exact ⟨c, hc, h₂.1, h₂.2.trans htype⟩
  · have hmid : mid.vek = certs.vek ∧ mid.vekType = certs.vekType := by
      cases hvek : certs.vek <;> simpa [hvek, firstVek] using h₁
    rw [hmid.1, hmid.2] at h₂
    exact h₂

theorem Found.nil (vendorCerts : VendorCertificates V.Certificate) (certs : Certs V) :
    Found vendorCerts certs [] certs where
  entries := nofun
  ark := rfl
  ask := rfl
  vek := by
    unfold FillsVek
    cases certs.vek <;> exact ⟨rfl, rfl⟩

theorem Found.cons (h₁ : Found vendorCerts certs [e] mid)
    (h₂ : Found vendorCerts mid table certs') :
    Found vendorCerts certs (e :: table) certs' where
  entries e' he' := by
    rcases List.mem_cons.1 he' with rfl | he'
    · exact h₁.entries _ (List.mem_singleton.2 rfl)
    · exact h₂.entries e' he'
  ark := h₁.ark.cons h₂.ark
  ask := h₁.ask.cons h₂.ask
  vek := h₁.vek.cons h₂.vek

theorem fillsVek_none (certs : Certs V) : FillsVek none certs certs := by
  unfold FillsVek
  cases certs.vek <;> exact ⟨rfl, rfl⟩

/-- The key of an entry is read unless there is one. -/
theorem fillsVek_of_read {c : V.Certificate} (hnone : certs.vek = none)
    (hc : V.fromBytes e.data = .ok c) (hvek : certs'.vek = some c)
    (htype : certs'.vekType = if e.certType = .VLEK then .Vlek else certs.vekType) :
    FillsVek (some e) certs certs' := by
  simp only [FillsVek, hnone]
  exact ⟨c, hc, hvek, htype⟩

theorem fillsVek_of_some {c : V.Certificate} (hsome : certs.vek = some c) :
    FillsVek (some e) certs certs := by
  simp only [FillsVek, hsome]
  exact ⟨trivial, trivial⟩

/-- What one entry does. -/
theorem found_of_readEntry (h : readEntry vendorCerts certs e = .ok certs') :
    Found vendorCerts certs [e] certs' := by
  obtain ⟨certType, data⟩ := e
  cases certType with
  | ARK =>
    obtain ⟨ark, hark, hrest⟩ := Outcome.bind_eq_ok.1 h
    obtain ⟨hverify, hret⟩ := Outcome.check_eq_ok.1 hrest
    cases hret
    simp only [Outcome.ofExcept_eq_ok, Outcome.context_eq_ok] at hark hverify
    refine ⟨?_, ⟨ark, hark, rfl⟩, rfl, fillsVek_none certs⟩
    simpa [EntryOk] using ⟨ark, hark, hverify⟩
  | ASK =>
    obtain ⟨ask, hask, hret⟩ := Outcome.bind_eq_ok.1 h
    cases hret
    rw [Outcome.ofExcept_eq_ok] at hask
    refine ⟨?_, rfl, ⟨ask, hask, rfl⟩, fillsVek_none certs⟩
    simpa [EntryOk] using ⟨ask, hask⟩
  | VCEK =>
    simp only [readEntry] at h
    split_ifs at h with hnone
    · obtain ⟨vek, hvek, hret⟩ := Outcome.bind_eq_ok.1 h
      cases hret
      rw [Outcome.ofExcept_eq_ok] at hvek
      refine ⟨by simp [EntryOk], rfl, rfl, ?_⟩
      exact fillsVek_of_read (by simpa using hnone) hvek rfl rfl
    · cases h
      obtain ⟨c, hc⟩ := Option.ne_none_iff_exists'.1 (by simpa using hnone)
      exact ⟨by simp [EntryOk], rfl, rfl, fillsVek_of_some hc⟩
  | VLEK =>
    simp only [readEntry] at h
    split_ifs at h with hnone
    · obtain ⟨vek, hvek, hret⟩ := Outcome.bind_eq_ok.1 h
      cases hret
      rw [Outcome.ofExcept_eq_ok] at hvek
      refine ⟨by simp [EntryOk], rfl, rfl, ?_⟩
      exact fillsVek_of_read (by simpa using hnone) hvek rfl rfl
    · cases h
      obtain ⟨c, hc⟩ := Option.ne_none_iff_exists'.1 (by simpa using hnone)
      exact ⟨by simp [EntryOk], rfl, rfl, fillsVek_of_some hc⟩
  | Empty =>
    cases h
    exact ⟨by simp [EntryOk], rfl, rfl, fillsVek_none certs⟩
  | CRL =>
    cases h
    exact ⟨by simp [EntryOk], rfl, rfl, fillsVek_none certs⟩
  | OTHER guid =>
    cases h
    exact ⟨by simp [EntryOk], rfl, rfl, fillsVek_none certs⟩

/-- What the loop does, by induction on the table. -/
theorem found_of_readTable (h : readTable vendorCerts certs table = .ok certs') :
    Found vendorCerts certs table certs' := by
  induction table generalizing certs with
  | nil =>
    cases h
    exact .nil _ _
  | cons e table ih =>
    obtain ⟨mid, hentry, htable⟩ := Outcome.bind_eq_ok.1 h
    exact (found_of_readEntry hentry).cons (ih htable)

/-- An entry is read when its certificate is good, as far as it is looked at. -/
theorem exists_readEntry (certs : Certs V) (he : EntryOk vendorCerts e)
    (hvek : certs.vek = none → isVek e = true → ∃ c, V.fromBytes e.data = .ok c) :
    ∃ certs', readEntry vendorCerts certs e = .ok certs' := by
  obtain ⟨certType, data⟩ := e
  cases certType with
  | ARK =>
    obtain ⟨c, hc, hverify⟩ := he.1 rfl
    refine ⟨{ certs with ark := some c }, ?_⟩
    simp [readEntry, hc, hverify, Outcome.ofExcept, Outcome.context]
  | ASK =>
    obtain ⟨c, hc⟩ := he.2 rfl
    exact ⟨_, by simp only [readEntry, hc]; rfl⟩
  | VCEK | VLEK =>
    by_cases hnone : certs.vek = none
    · obtain ⟨c, hc⟩ := hvek hnone rfl
      simp only [readEntry, hnone, Option.isNone_none, if_true, hc]
      exact ⟨_, rfl⟩
    · simp only [readEntry, Option.isNone_iff_eq_none, hnone, if_false]
      exact ⟨_, rfl⟩
  | Empty | CRL | OTHER => exact ⟨certs, rfl⟩

/-- After an entry there is no key yet only if there was none and the entry has none. -/
theorem FillsVek.of_none (h : FillsVek (firstVek [e]) certs mid) (hnone : mid.vek = none) :
    certs.vek = none ∧ isVek e = false := by
  rw [firstVek_cons] at h
  cases hvek : certs.vek with
  | some c =>
    simp only [FillsVek, hvek] at h
    simp [h.1] at hnone
  | none =>
    refine ⟨rfl, ?_⟩
    by_contra he
    simp only [FillsVek, hvek, if_pos (Bool.not_eq_false _ ▸ he : isVek e = true)] at h
    obtain ⟨c, -, hmid, -⟩ := h
    simp [hmid] at hnone

/-- A table is read when its certificates are good, as far as they are looked at. -/
theorem exists_readTable (certs : Certs V) (hentries : ∀ e ∈ table, EntryOk vendorCerts e)
    (hvek : certs.vek = none → ∀ e, firstVek table = some e → ∃ c, V.fromBytes e.data = .ok c) :
    ∃ certs', readTable vendorCerts certs table = .ok certs' := by
  induction table generalizing certs with
  | nil => exact ⟨certs, rfl⟩
  | cons e table ih =>
    obtain ⟨mid, hmid⟩ := exists_readEntry certs (hentries e List.mem_cons_self)
      fun hnone he => hvek hnone e (by rw [firstVek_cons, if_pos he])
    have hfound := found_of_readEntry hmid
    obtain ⟨certs', hcerts'⟩ := ih mid
      (fun e' he' => hentries e' (List.mem_cons_of_mem _ he')) fun hnone e' he' => by
        obtain ⟨hnone', hne⟩ := hfound.vek.of_none hnone
        exact hvek hnone' e' (by rw [firstVek_cons, hne]; exact he')
    exact ⟨certs', Outcome.bind_eq_ok.2 ⟨mid, hmid, hcerts'⟩⟩

end Table

/-! ## The endorsement key of a table -/

section Vek

variable {vendorCerts : VendorCertificates V.Certificate} {table : List CertTableEntry}

theorem Replaces.given {entry : Option CertTableEntry} {new : Option V.Certificate}
    (h : Replaces V entry none new) (default : V.Certificate) :
    Given V entry default (new.getD default) := by
  cases entry with
  | none =>
    obtain rfl : new = none := h
    rfl
  | some e =>
    obtain ⟨c, hc, rfl⟩ := h
    exact hc

theorem Given.unique {entry : Option CertTableEntry} {default c c' : V.Certificate}
    (h : Given V entry default c) (h' : Given V entry default c') : c = c' := by
  cases entry with
  | none => exact h.trans h'.symm
  | some e => exact Except.ok.inj (h.symm.trans h')

/-- A table gives one chain at most. -/
theorem TableChain.unique {chain chain' : Chain V} (h : TableChain vendorCerts table chain)
    (h' : TableChain vendorCerts table chain') : chain = chain' := by
  obtain ⟨e, he, hvek, hask⟩ := h.vek
  obtain ⟨e', he', hvek', hask'⟩ := h'.vek
  cases he.symm.trans he'
  obtain ⟨ark, ask, vek⟩ := chain
  obtain ⟨ark', ask', vek'⟩ := chain'
  obtain rfl : ark = ark' := h.ark.unique h'.ark
  obtain rfl : ask = ask' := hask.unique hask'
  obtain rfl : vek = vek' := Except.ok.inj (hvek.symm.trans hvek')
  rfl

/-- The chain made of what the loop finds. -/
def chainOf (vendorCerts : VendorCertificates V.Certificate) (certs : Certs V)
    (vek : V.Certificate) : Chain V where
  ark := certs.ark.getD vendorCerts.ark
  ask := certs.ask.getD (match certs.vekType with
    | .Vlek => vendorCerts.asvk
    | .Vcek => vendorCerts.ask)
  vek := vek

theorem vekFromTable_eq (vendorCerts : VendorCertificates V.Certificate)
    (table : List CertTableEntry) :
    vekFromTable vendorCerts table = (do
      let certs ← readTable vendorCerts ⟨none, none, none, .Vcek⟩ table
      let vek ← .okOr certs.vek "If a cert chain is provided, it must include a VCEK/VLEK"
      (chainOf vendorCerts certs vek).verify.context
        "Certificate chain provided by user failed to verify"
      return vek) := rfl

/-- The chain made of what the loop finds is that of the table. -/
theorem tableChain_of_found {certs : Certs V} {vek : V.Certificate}
    (h : Found vendorCerts ⟨none, none, none, .Vcek⟩ table certs) (hvek : certs.vek = some vek) :
    TableChain vendorCerts table (chainOf vendorCerts certs vek) := by
  refine ⟨h.entries, h.ark.given _, ?_⟩
  have hfills := h.vek
  cases hfirst : firstVek table with
  | none =>
    rw [hfirst] at hfills
    cases hfills.1.symm.trans hvek
  | some e =>
    rw [hfirst] at hfills
    obtain ⟨c, hc, hc', htype⟩ := hfills
    cases hc'.symm.trans hvek
    refine ⟨e, rfl, hc, ?_⟩
    have hask := h.ask.given (if e.certType = .VLEK then vendorCerts.asvk else vendorCerts.ask)
    rw [chainOf, htype]
    split_ifs at hask ⊢ <;> exact hask

/-- **The key of a table is the key of its chain**, when this verifies. -/
theorem vekFromTable_eq_ok {vek : V.Certificate} :
    vekFromTable vendorCerts table = .ok vek ↔
      ∃ chain, TableChain vendorCerts table chain ∧ chain.verify = .ok () ∧ chain.vek = vek := by
  simp only [vekFromTable_eq, Outcome.bind_eq_ok, Outcome.okOr_eq_ok, Outcome.context_eq_ok,
    Outcome.pure_eq, Outcome.ok.injEq]
  constructor
  · rintro ⟨certs, hcerts, vek', hvek, _, hverify, rfl⟩
    exact ⟨_, tableChain_of_found (found_of_readTable hcerts) hvek, hverify, rfl⟩
  · rintro ⟨chain, hchain, hverify, rfl⟩
    obtain ⟨e, he, hvek, -⟩ := hchain.vek
    obtain ⟨certs, hcerts⟩ := exists_readTable ⟨none, none, none, .Vcek⟩ hchain.entries
      fun _ e' he' => by cases he.symm.trans he'; exact ⟨_, hvek⟩
    have hfound := found_of_readTable hcerts
    have hfills := hfound.vek
    rw [he] at hfills
    obtain ⟨c, hc, hc', -⟩ := hfills
    obtain rfl : c = chain.vek := Except.ok.inj (hc.symm.trans hvek)
    have heq := (tableChain_of_found hfound hc').unique hchain
    exact ⟨certs, hcerts, _, hc', (), by rw [heq]; exact hverify, rfl⟩

/-- The ARK of a table is signed by the provisioned one. -/
theorem TableChain.verify_ark {chain : Chain V} (h : TableChain vendorCerts table chain)
    (hverify : chain.verify = .ok ()) : V.verify vendorCerts.ark chain.ark = .ok () := by
  have hark := h.ark
  cases hlast : lastOf .ARK table with
  | none =>
    rw [hlast] at hark
    have hroot : chain.ark = vendorCerts.ark := hark
    rw [← hroot]
    exact (Chain.verify_eq_ok.1 hverify).1
  | some e =>
    rw [hlast] at hark
    have hmem := List.mem_filter.1 (List.mem_of_getLast? hlast)
    obtain ⟨c, hc, hsigned⟩ := (h.entries e hmem.1).1 (by simpa using hmem.2)
    obtain rfl : c = chain.ark := Except.ok.inj (hc.symm.trans hark)
    exact hsigned

end Vek

/-! ## The endorsement key of the evidence -/

/-- The chain that the key server gives. -/
def KdsChain (V : Env) (report : AttestationReport) (procGen : ProcessorGeneration)
    (chain : Chain V) : Prop :=
  chain.ark = (V.vendorCerts procGen).ark ∧ chain.ask = (V.vendorCerts procGen).ask ∧
    ∃ url body, vcekUrl report procGen = .ok url ∧ V.kds url = .ok ⟨200, .ok body⟩ ∧
      V.fromBytes body = .ok chain.vek

/-- The chain of the evidence: that of its table, or else of the key server. -/
def EvidenceChain (V : Env) (evidence : SnpEvidence) (procGen : ProcessorGeneration)
    (chain : Chain V) : Prop :=
  match evidence.certChain with
  | some table => TableChain (V.vendorCerts procGen) table chain
  | none => KdsChain V evidence.attestationReport procGen chain

section Evidence

variable {report : AttestationReport} {procGen : ProcessorGeneration} {evidence : SnpEvidence}

theorem vekFromKds_eq_ok {vek : V.Certificate} :
    vekFromKds (V.vendorCerts procGen) report procGen = .ok vek ↔
      ∃ chain, KdsChain V report procGen chain ∧ chain.verify = .ok () ∧ chain.vek = vek := by
  simp only [vekFromKds, Outcome.bind_eq_ok, Outcome.context_eq_ok, Outcome.ofExcept_eq_ok,
    fetchVcekFromKds_eq_ok, Outcome.pure_eq, Outcome.ok.injEq]
  constructor
  · rintro ⟨body, ⟨url, hurl, hrsp⟩, vcek, hvcek, _, hverify, rfl⟩
    exact ⟨_, ⟨rfl, rfl, url, body, hurl, hrsp, hvcek⟩, hverify, rfl⟩
  · rintro ⟨⟨ark, ask, vcek⟩, ⟨rfl, rfl, url, body, hurl, hrsp, hvcek⟩, hverify, rfl⟩
    exact ⟨body, ⟨url, hurl, hrsp⟩, vcek, hvcek, (), hverify, rfl⟩

theorem selectVek_eq_ok {vek : V.Certificate} :
    selectVek evidence.attestationReport procGen evidence.certChain = .ok vek ↔
      ∃ chain, EvidenceChain V evidence procGen chain ∧ chain.verify = .ok () ∧ chain.vek = vek := by
  unfold selectVek EvidenceChain
  cases evidence.certChain with
  | some table => exact vekFromTable_eq_ok
  | none => exact vekFromKds_eq_ok

/-- The ARK of the evidence is signed by the provisioned one. -/
theorem EvidenceChain.verify_ark {chain : Chain V} (h : EvidenceChain V evidence procGen chain)
    (hverify : chain.verify = .ok ()) :
    V.verify (V.vendorCerts procGen).ark chain.ark = .ok () := by
  unfold EvidenceChain at h
  cases hchain : evidence.certChain with
  | some table =>
    rw [hchain] at h
    exact TableChain.verify_ark h hverify
  | none =>
    rw [hchain] at h
    have hroot : chain.ark = (V.vendorCerts procGen).ark := h.1
    rw [← hroot]
    exact (Chain.verify_eq_ok.1 hverify).1

end Evidence

/-! ## The report against the key -/

/-- The key says of the report's chip and TCB what the report says, but for the FMC. -/
structure Endorses (report : AttestationReport) (vek : V.Certificate) (key : V.TbsCertificate) :
    Prop where
  parsed : ∃ der, V.toDer vek = .ok der ∧ V.parseX509 der = .ok key
  commonName : ∃ name, V.commonNames vek = [.ok name]
  chipId : V.commonNames vek = [.ok "VCEK"] → getOidOctets 64 key HW_ID_OID = .ok report.chipId
  microcode : getOidInt key UCODE_SPL_OID = .ok report.reportedTcb.microcode
  snp : getOidInt key SNP_SPL_OID = .ok report.reportedTcb.snp
  tee : getOidInt key TEE_SPL_OID = .ok report.reportedTcb.tee
  bootloader : getOidInt key LOADER_SPL_OID = .ok report.reportedTcb.bootloader

/-- `verify_report_tcb` up to the FMC. -/
def checkKey (report : AttestationReport) (vek : V.Certificate) : Outcome V.TbsCertificate := do
  let der ← Outcome.ofExcept (V.toDer vek)
  let key ← Outcome.ofExcept (V.parseX509 der)
  let commonName ← (getCommonName vek).context "No common name found in certificate"
  checkChipId report key commonName
  checkSpl key UCODE_SPL_OID report.reportedTcb.microcode "Microcode version mismatch"
  checkSpl key SNP_SPL_OID report.reportedTcb.snp "SNP version mismatch"
  checkSpl key TEE_SPL_OID report.reportedTcb.tee "TEE version mismatch"
  checkSpl key LOADER_SPL_OID report.reportedTcb.bootloader "Boot loader version mismatch"
  return key

section Key

variable {report : AttestationReport} {procGen : ProcessorGeneration} {vek : V.Certificate}
  {key : V.TbsCertificate}

theorem verifyReportTcb_eq (report : AttestationReport) (vek : V.Certificate)
    (procGen : ProcessorGeneration) :
    verifyReportTcb report vek procGen =
      (checkKey report vek >>= fun key => checkFmc report key procGen) := by
  simp only [verifyReportTcb, checkKey, Outcome.bind_assoc, Outcome.pure_eq, Outcome.ok_bind]

theorem getCommonName_eq_ok {name : String} :
    getCommonName vek = .ok name ↔ V.commonNames vek = [.ok name] := by
  unfold getCommonName
  split <;> simp_all

theorem checkChipId_eq_ok {name : String} :
    checkChipId report key name = .ok () ↔
      (name = "VCEK" → getOidOctets 64 key HW_ID_OID = .ok report.chipId) := by
  unfold checkChipId
  split_ifs with h
  · simp [h, Outcome.bind_eq_ok]
  · simp [h]

theorem checkSpl_eq_ok {oid : Oid} {reported : UInt8} {msg : String} :
    checkSpl key oid reported msg = .ok () ↔ getOidInt key oid = .ok reported := by
  simp [checkSpl, Outcome.bind_eq_ok]

theorem checkKey_eq_ok : checkKey report vek = .ok key ↔ Endorses report vek key := by
  simp only [checkKey, Outcome.bind_eq_ok, Outcome.context_eq_ok, Outcome.ofExcept_eq_ok,
    getCommonName_eq_ok, Outcome.pure_eq, Outcome.ok.injEq]
  constructor
  · rintro ⟨der, hder, key', hkey, name, hname, _, hchip, _, h₁, _, h₂, _, h₃, _, h₄, rfl⟩
    refine ⟨⟨der, hder, hkey⟩, ⟨name, hname⟩, ?_, checkSpl_eq_ok.1 h₁, checkSpl_eq_ok.1 h₂,
      checkSpl_eq_ok.1 h₃, checkSpl_eq_ok.1 h₄⟩
    intro hvcek
    apply checkChipId_eq_ok.1 hchip
    simpa using hname.symm.trans hvcek
  · intro h
    obtain ⟨der, hder, hkey⟩ := h.parsed
    obtain ⟨name, hname⟩ := h.commonName
    have hchip : checkChipId report key name = .ok () := by
      rw [checkChipId_eq_ok]
      rintro rfl
      exact h.chipId hname
    exact ⟨der, hder, key, hkey, name, hname, (), hchip, (), checkSpl_eq_ok.2 h.microcode, (),
      checkSpl_eq_ok.2 h.snp, (), checkSpl_eq_ok.2 h.tee, (), checkSpl_eq_ok.2 h.bootloader, rfl⟩

theorem checkFmc_eq_ok :
    checkFmc report key procGen = .ok () ↔ (procGen = .Turin →
      ∃ fmc, report.reportedTcb.fmc = some fmc ∧ getOidInt key FMC_SPL_OID = .ok fmc) := by
  unfold checkFmc
  split_ifs with h
  · simp only [Outcome.bind_eq_ok, Outcome.unwrap_eq_ok, Outcome.ensure_eq_ok, decide_eq_true_eq]
    constructor
    · rintro ⟨spl, hspl, fmc, hfmc, rfl⟩ -
      exact ⟨spl, hfmc, hspl⟩
    · intro hturin
      obtain ⟨fmc, hfmc, hspl⟩ := hturin h
      exact ⟨fmc, hspl, fmc, hfmc, rfl⟩
  · simp [h]

end Key

/-! ## Panics -/

section Returns

variable {report : AttestationReport} {procGen : ProcessorGeneration} {vek : V.Certificate}
  {key : V.TbsCertificate} {vendorCerts : VendorCertificates V.Certificate}

theorem returns_checkVersion (report : AttestationReport) : (checkVersion report).Returns := by
  unfold checkVersion
  split_ifs
  · exact Outcome.returns_bail _
  · exact Outcome.returns_bail _
  · exact Outcome.returns_ok _

theorem returns_getProcessorGeneration (report : AttestationReport) :
    (getProcessorGeneration report).Returns := by
  refine (Outcome.returns_okOr _ _).bind fun cpuFam _ => ?_
  refine (Outcome.returns_okOr _ _).bind fun cpuMod _ => ?_
  split_ifs
  all_goals first | exact Outcome.returns_ok _ | exact Outcome.returns_bail _

theorem returns_readEntry (certs : Certs V) (e : CertTableEntry) :
    (readEntry vendorCerts certs e).Returns := by
  unfold readEntry
  split
  · refine (Outcome.returns_ofExcept _).bind fun ark _ => ?_
    exact ((Outcome.returns_ofExcept _).context _).bind fun _ _ => Outcome.returns_ok _
  · exact (Outcome.returns_ofExcept _).bind fun _ _ => Outcome.returns_ok _
  · split_ifs
    · exact (Outcome.returns_ofExcept _).bind fun _ _ => Outcome.returns_ok _
    · exact Outcome.returns_ok _
  · split_ifs
    · exact (Outcome.returns_ofExcept _).bind fun _ _ => Outcome.returns_ok _
    · exact Outcome.returns_ok _
  · exact Outcome.returns_ok _

theorem returns_readTable (certs : Certs V) (table : List CertTableEntry) :
    (readTable vendorCerts certs table).Returns := by
  induction table generalizing certs with
  | nil => exact Outcome.returns_ok _
  | cons e table ih => exact (returns_readEntry certs e).bind fun mid _ => ih mid

theorem returns_verify (chain : Chain V) : chain.verify.Returns := by
  refine (Outcome.returns_ofExcept _).bind fun _ _ => ?_
  exact (Outcome.returns_ofExcept _).bind fun _ _ => Outcome.returns_ofExcept _

theorem returns_vekFromTable (table : List CertTableEntry) :
    (vekFromTable vendorCerts table).Returns := by
  refine (returns_readTable _ table).bind fun certs _ => ?_
  refine (Outcome.returns_okOr _ _).bind fun vek _ => ?_
  exact ((returns_verify _).context _).bind fun _ _ => Outcome.returns_ok _

theorem returns_vcekUrl (report : AttestationReport) (procGen : ProcessorGeneration) :
    (vcekUrl report procGen).Returns := by
  refine (Outcome.returns_ensure _ _).bind fun _ _ => ?_
  cases procGen with
  | Turin => exact (Outcome.returns_okOr _ _).bind fun _ _ => Outcome.returns_ok _
  | Milan => exact Outcome.returns_ok _
  | Genoa => exact Outcome.returns_ok _

theorem returns_fetchVcekFromKds (V : Env) (report : AttestationReport)
    (procGen : ProcessorGeneration) : (fetchVcekFromKds V report procGen).Returns := by
  refine (returns_vcekUrl report procGen).bind fun url _ => ?_
  refine ((Outcome.returns_ofExcept _).context _).bind fun rsp _ => ?_
  split_ifs
  · exact (Outcome.returns_ofExcept _).context _
  · exact Outcome.returns_bail _

theorem returns_selectVek (report : AttestationReport) (procGen : ProcessorGeneration)
    (certChain : Option (List CertTableEntry)) :
    (selectVek (V := V) report procGen certChain).Returns := by
  unfold selectVek
  split
  · exact returns_vekFromTable _
  · refine ((returns_fetchVcekFromKds V report procGen).context _).bind fun body _ => ?_
    refine ((Outcome.returns_ofExcept _).context _).bind fun vcek _ => ?_
    exact ((returns_verify _).context _).bind fun _ _ => Outcome.returns_ok _

theorem returns_extension (key : V.TbsCertificate) (oid : Oid) : (extension key oid).Returns :=
  (Outcome.returns_ofExcept _).bind fun _ _ => Outcome.returns_okOr _ _

theorem returns_getOidInt (key : V.TbsCertificate) (oid : Oid) : (getOidInt key oid).Returns := by
  refine (returns_extension key oid).bind fun val _ => ?_
  exact (Outcome.returns_ofExcept _).bind fun _ _ => (Outcome.returns_ofExcept _).context _

theorem returns_getOidOctets (n : ℕ) (key : V.TbsCertificate) (oid : Oid) :
    (getOidOctets n key oid).Returns := by
  refine (returns_extension key oid).bind fun val _ => ?_
  cases toArray n val with
  | some octets => exact Outcome.returns_ok _
  | none => exact (Outcome.returns_ofExcept _).bind fun _ _ => (Outcome.returns_okOr _ _).context _

theorem returns_checkSpl (key : V.TbsCertificate) (oid : Oid) (reported : UInt8) (msg : String) :
    (checkSpl key oid reported msg).Returns :=
  (returns_getOidInt key oid).bind fun _ _ => Outcome.returns_ensure _ _

theorem returns_checkKey (report : AttestationReport) (vek : V.Certificate) :
    (checkKey report vek).Returns := by
  have hname : (getCommonName vek).Returns := by
    unfold getCommonName
    split
    · exact Outcome.returns_bail _
    · exact Outcome.returns_ofExcept _
    · exact Outcome.returns_bail _
  have hchip : ∀ key name, (checkChipId (V := V) report key name).Returns := by
    intro key name
    unfold checkChipId
    split_ifs
    · exact (returns_getOidOctets 64 key _).bind fun _ _ => Outcome.returns_ensure _ _
    · exact Outcome.returns_ok _
  refine (Outcome.returns_ofExcept _).bind fun der _ => ?_
  refine (Outcome.returns_ofExcept _).bind fun key _ => ?_
  refine (hname.context _).bind fun name _ => (hchip key name).bind fun _ _ => ?_
  refine (returns_checkSpl _ _ _ _).bind fun _ _ => (returns_checkSpl _ _ _ _).bind fun _ _ => ?_
  refine (returns_checkSpl _ _ _ _).bind fun _ _ => (returns_checkSpl _ _ _ _).bind fun _ _ => ?_
  exact Outcome.returns_ok _

/-- The FMC is the one place for a panic. -/
theorem checkFmc_eq_panic :
    (∃ m, checkFmc report key procGen = .panic m) ↔
      procGen = .Turin ∧ report.reportedTcb.fmc = none ∧ ∃ n, getOidInt key FMC_SPL_OID = .ok n := by
  unfold checkFmc
  split_ifs with h
  · simp only [(returns_getOidInt key FMC_SPL_OID).bind_eq_panic]
    cases hfmc : report.reportedTcb.fmc with
    | some fmc => simp [Outcome.unwrap]
    | none =>
      constructor
      · rintro ⟨m, n, hn, -⟩
        exact ⟨h, rfl, n, hn⟩
      · rintro ⟨-, -, n, hn⟩
        exact ⟨_, n, hn, rfl⟩
  · simp [h]

end Returns

/-! ## The verdict -/

/-- The data padded with zeros, or truncated, to the length. -/
def padOrTruncate (b : Bytes) (len : ℕ) : Bytes := (b ++ List.replicate len 0).take len

theorem regularizeData_eq (b : Bytes) (len : ℕ) : regularizeData b len = padOrTruncate b len := by
  unfold regularizeData padOrTruncate
  split
  · next heq =>
    have hlt : b.length < len := Nat.compare_eq_lt.1 heq
    rw [List.take_append, List.take_of_length_le (by omega), List.take_replicate]
    congr 2
    omega
  · next heq =>
    have hlen : b.length = len := Nat.compare_eq_eq.1 heq
    rw [List.take_append_of_le_length (by omega), List.take_of_length_le (by omega)]
  · next heq =>
    have hlt : len < b.length := Nat.compare_eq_gt.1 heq
    rw [List.take_append_of_le_length (by omega)]

/-- What acceptance of evidence should mean, with the generation, the chain and the parsed key that
make it true. -/
structure Vouched (V : Env) (evidence : SnpEvidence) (expectedReportData : ReportData)
    (expectedInitDataHash : InitDataHash) (procGen : ProcessorGeneration) (chain : Chain V)
    (key : V.TbsCertificate) : Prop where
  version : 3 ≤ evidence.attestationReport.version ∧ evidence.attestationReport.version ≤ 5
  generation : getProcessorGeneration evidence.attestationReport = .ok procGen
  source : EvidenceChain V evidence procGen chain
  ark : V.verify (V.vendorCerts procGen).ark chain.ark = .ok ()
  verifies : chain.verify = .ok ()
  signature : V.verifyReport chain.vek evidence.attestationReport = .ok ()
  endorses : Endorses evidence.attestationReport chain.vek key
  fmc : procGen = .Turin → ∃ fmc, evidence.attestationReport.reportedTcb.fmc = some fmc ∧
    getOidInt key FMC_SPL_OID = .ok fmc
  vmpl : evidence.attestationReport.vmpl = 0
  reportData : ∀ b, expectedReportData = .value b →
    evidence.attestationReport.reportData.toList = padOrTruncate b 64
  hostData : ∀ b, expectedInitDataHash = .value b →
    evidence.attestationReport.hostData.toList = padOrTruncate b 32

/-- What acceptance of evidence should mean. -/
def Sound (V : Env) (evidence : SnpEvidence) (expectedReportData : ReportData)
    (expectedInitDataHash : InitDataHash) : Prop :=
  ∃ procGen chain key,
    Vouched V evidence expectedReportData expectedInitDataHash procGen chain key

/-- A report of a Turin processor without an FMC that passes everything up to the FMC, with a
certificate table and an endorsement key that has an FMC. -/
def FmcMissing (V : Env) (evidence : SnpEvidence) : Prop :=
  evidence.attestationReport.reportedTcb.fmc = none ∧
    (3 ≤ evidence.attestationReport.version ∧ evidence.attestationReport.version ≤ 5) ∧
    getProcessorGeneration evidence.attestationReport = .ok .Turin ∧
    ∃ table, evidence.certChain = some table ∧
      ∃ (chain : Chain V) (key : V.TbsCertificate),
        TableChain (V.vendorCerts .Turin) table chain ∧ chain.verify = .ok () ∧
        V.verifyReport chain.vek evidence.attestationReport = .ok () ∧
        Endorses evidence.attestationReport chain.vek key ∧
        ∃ n, getOidInt key FMC_SPL_OID = .ok n

section Verdict

variable {evidence : SnpEvidence} {rd : ReportData} {id : InitDataHash}

theorem checkVersion_eq_ok {report : AttestationReport} :
    checkVersion report = .ok () ↔ 3 ≤ report.version ∧ report.version ≤ 5 := by
  have hlt : report.version < REPORT_VERSION_MIN ↔ ¬ 3 ≤ report.version := UInt32.not_le.symm
  have hgt : report.version > REPORT_VERSION_MAX ↔ ¬ report.version ≤ 5 := UInt32.not_le.symm
  unfold checkVersion
  split_ifs with h₁ h₂
  · simp [hlt.1 h₁]
  · simp [hgt.1 h₂]
  · rw [hlt, not_not] at h₁
    rw [hgt, not_not] at h₂
    simp [h₁, h₂]

theorem checkReportData_eq_ok {report : AttestationReport} :
    checkReportData report rd = .ok () ↔
      ∀ b, rd = .value b → report.reportData.toList = padOrTruncate b 64 := by
  cases rd with
  | notProvided => simp [checkReportData]
  | value b =>
    rw [checkReportData, Outcome.ensure_eq_ok, decide_eq_true_eq, regularizeData_eq]
    constructor
    · rintro h _ ⟨⟩
      exact h.symm
    · intro h
      exact (h b rfl).symm

theorem checkHostData_eq_ok {report : AttestationReport} :
    checkHostData report id = .ok () ↔
      ∀ b, id = .value b → report.hostData.toList = padOrTruncate b 32 := by
  cases id with
  | notProvided => simp [checkHostData]
  | value b =>
    rw [checkHostData, Outcome.ensure_eq_ok, decide_eq_true_eq, regularizeData_eq]
    constructor
    · rintro h _ ⟨⟩
      exact h.symm
    · intro h
      exact (h b rfl).symm

/-- **Evidence is accepted exactly when it should be**, with the claims of its report. -/
theorem verifyEvidence_eq_ok {claims : Json} :
    verifyEvidence V evidence rd id = .ok claims ↔
      Sound V evidence rd id ∧ claims = parseTeeEvidence evidence.attestationReport := by
  simp only [verifyEvidence, verifyReportTcb_eq, Outcome.bind_eq_ok, Outcome.context_eq_ok,
    Outcome.ofExcept_eq_ok, Outcome.ensure_eq_ok, decide_eq_true_eq, selectVek_eq_ok,
    checkKey_eq_ok, Outcome.pure_eq, Outcome.ok.injEq]
  constructor
  · rintro ⟨_, hversion, procGen, hgen, vek, ⟨chain, hchain, hverify, rfl⟩, _, hsig, _,
      ⟨key, hkey, hfmc⟩, _, hvmpl, _, hrd, _, hid, rfl⟩
    refine ⟨⟨procGen, chain, key, ?_⟩, rfl⟩
    exact {
      version := checkVersion_eq_ok.1 hversion
      generation := hgen
      source := hchain
      ark := hchain.verify_ark hverify
      verifies := hverify
      signature := hsig
      endorses := hkey
      fmc := checkFmc_eq_ok.1 hfmc
      vmpl := hvmpl
      reportData := checkReportData_eq_ok.1 hrd
      hostData := checkHostData_eq_ok.1 hid }
  · rintro ⟨⟨procGen, chain, key, h⟩, rfl⟩
    exact ⟨(), checkVersion_eq_ok.2 h.version, procGen, h.generation, _,
      ⟨chain, h.source, h.verifies, rfl⟩, (), h.signature, (), ⟨key, h.endorses,
      checkFmc_eq_ok.2 h.fmc⟩, (), h.vmpl, (), checkReportData_eq_ok.2 h.reportData, (),
      checkHostData_eq_ok.2 h.hostData, rfl⟩

theorem returns_checkReportData (report : AttestationReport) (rd : ReportData) :
    (checkReportData report rd).Returns := by
  cases rd with
  | value b => exact Outcome.returns_ensure _ _
  | notProvided => exact Outcome.returns_ok _

theorem returns_checkHostData (report : AttestationReport) (id : InitDataHash) :
    (checkHostData report id).Returns := by
  cases id with
  | value b => exact Outcome.returns_ensure _ _
  | notProvided => exact Outcome.returns_ok _

/-- Where what follows the TCB does not panic, the FMC alone does. -/
theorem verifyReportTcb_bind_eq_panic {report : AttestationReport} {vek : V.Certificate}
    {procGen : ProcessorGeneration} {message m : String} {rest : Unit → Outcome Json}
    (hrest : ∀ u, (rest u).Returns) :
    (verifyReportTcb report vek procGen).context message >>= rest = .panic m ↔
      ∃ key, Endorses report vek key ∧ checkFmc report key procGen = .panic m := by
  rw [Outcome.bind_eq_panic, or_iff_left fun ⟨_, _, h⟩ => hrest _ m h, Outcome.context_eq_panic,
    verifyReportTcb_eq, (returns_checkKey _ vek).bind_eq_panic]
  simp only [checkKey_eq_ok]

/-- The verification panics where the FMC is missing, and nowhere else. -/
theorem verifyEvidence_eq_panic :
    (∃ m, verifyEvidence V evidence rd id = .panic m) ↔ FmcMissing V evidence := by
  have hsignature : ∀ vek : V.Certificate,
      ((Outcome.ofExcept (V.verifyReport vek evidence.attestationReport)).context
        "Report signature verification against VEK signature failed").Returns :=
    fun _ => (Outcome.returns_ofExcept _).context _
  have hafter : ∀ _ : Unit, ((do
      Outcome.ensure (evidence.attestationReport.vmpl = 0) "VMPL Check Failed"
      checkReportData evidence.attestationReport rd
      checkHostData evidence.attestationReport id
      return parseTeeEvidence evidence.attestationReport) : Outcome Json).Returns := by
    intro _
    refine (Outcome.returns_ensure _ _).bind fun _ _ => ?_
    refine (returns_checkReportData _ rd).bind fun _ _ => ?_
    exact (returns_checkHostData _ id).bind fun _ _ => Outcome.returns_ok _
  simp only [verifyEvidence, (returns_checkVersion _).bind_eq_panic,
    (returns_getProcessorGeneration _).bind_eq_panic, (returns_selectVek _ _ _).bind_eq_panic,
    (hsignature _).bind_eq_panic, verifyReportTcb_bind_eq_panic hafter, selectVek_eq_ok,
    Outcome.context_eq_ok, Outcome.ofExcept_eq_ok]
  constructor
  · rintro ⟨m, _, hversion, procGen, hgen, vek, ⟨chain, hchain, hverify, rfl⟩, _, hsig, key, hkey,
      hpanic⟩
    obtain ⟨rfl, hfmc, hn⟩ := checkFmc_eq_panic.1 ⟨m, hpanic⟩
    refine ⟨hfmc, checkVersion_eq_ok.1 hversion, hgen, ?_⟩
    unfold EvidenceChain at hchain
    cases htable : evidence.certChain with
    | some table =>
      rw [htable] at hchain
      exact ⟨table, rfl, chain, key, hchain, hverify, hsig, hkey, hn⟩
    | none =>
      -- The key server is not asked about a Turin processor without an FMC.
      rw [htable] at hchain
      obtain ⟨-, -, url, body, hurl, -⟩ := hchain
      simp [vcekUrl, Outcome.bind_eq_ok, hfmc] at hurl
  · rintro ⟨hfmc, hversion, hgen, table, htable, chain, key, hchain, hverify, hsig, hkey, hn⟩
    obtain ⟨m, hpanic⟩ := checkFmc_eq_panic.2 ⟨rfl, hfmc, hn⟩
    have hsource : EvidenceChain V evidence .Turin chain := by
      unfold EvidenceChain
      rw [htable]
      exact hchain
    exact ⟨m, (), checkVersion_eq_ok.2 hversion, .Turin, hgen, _, ⟨chain, hsource, hverify, rfl⟩, (),
      hsig, key, hkey, hpanic⟩

end Verdict

/-- **Acceptance is sound and the verifier returns, unless a Turin report has no FMC.** -/
theorem evaluate_sound_iff (V : Env) (evidence : Json) (rd : ReportData) (id : InitDataHash) :
    ((∀ claims, evaluate V evidence rd id = .ok claims →
        ∃ ev, SnpEvidence.fromValue V evidence = .ok ev ∧ Sound V ev rd id) ∧
      (evaluate V evidence rd id).Returns) ↔
      ¬ ∃ ev, SnpEvidence.fromValue V evidence = .ok ev ∧ FmcMissing V ev := by
  have hfrom : ((Outcome.ofExcept (SnpEvidence.fromValue V evidence)).context
      "Deserialize SNP Evidence failed").Returns := (Outcome.returns_ofExcept _).context _
  have hpanic : (∃ m, evaluate V evidence rd id = .panic m) ↔
      ∃ ev, SnpEvidence.fromValue V evidence = .ok ev ∧ FmcMissing V ev := by
    simp only [evaluate, hfrom.bind_eq_panic, Outcome.bind_eq_panic, Outcome.pure_eq,
      Outcome.ok_ne_panic, and_false, exists_false, or_false, Outcome.context_eq_ok,
      Outcome.ofExcept_eq_ok]
    constructor
    · rintro ⟨m, ev, hev, hm⟩
      exact ⟨ev, hev, verifyEvidence_eq_panic.1 ⟨m, hm⟩⟩
    · rintro ⟨ev, hev, hmissing⟩
      obtain ⟨m, hm⟩ := verifyEvidence_eq_panic.2 hmissing
      exact ⟨m, ev, hev, hm⟩
  rw [← hpanic]
  constructor
  · rintro ⟨-, hreturns⟩ ⟨m, hm⟩
    exact hreturns m hm
  · intro hno
    refine ⟨?_, fun m hm => hno ⟨m, hm⟩⟩
    intro claims h
    obtain ⟨ev, v, hev, hv, -⟩ := evaluate_eq_ok.1 h
    exact ⟨ev, hev, (verifyEvidence_eq_ok.1 hv).1⟩

/-! ## A report without an FMC -/

/-- A report of a Turin processor, as evidence has it: the members that matter below. -/
def turinReportJson : Json := .object
  [("chip_id", .array (List.replicate 64 (.number (.int 0)))),
   ("cpuid_fam_id", .number (.int 0x1A)),
   ("cpuid_mod_id", .number (.int 0x2)),
   ("reported_tcb", .object
     [("bootloader", .number (.int 0)), ("fmc", .null), ("microcode", .number (.int 0)),
      ("snp", .number (.int 0)), ("tee", .number (.int 0))]),
   ("version", .number (.int 3)),
   ("vmpl", .number (.int 0))]

def turinReport : AttestationReport where
  version := 3
  policy := ⟨0⟩
  vmpl := 0
  platInfo := ⟨0⟩
  reportData := Vector.replicate 64 0
  measurement := Vector.replicate 48 0
  hostData := Vector.replicate 32 0
  reportedTcb := ⟨none, 0, 0, 0, 0⟩
  cpuidFamId := some 0x1A
  cpuidModId := some 0x2
  chipId := Vector.replicate 64 0
  other := []

/-- Three provisioned certificates and a VCEK of one byte, that sign each other as they should. -/
def turinEnv : Env where
  Certificate := Bytes
  fromBytes b := .ok b
  verify signer signee :=
    if (signer, signee) ∈ [([1], [1]), ([1], [2]), ([2], [4])] then .ok ()
    else .error "invalid signature"
  verifyReport vek _ := if vek = [4] then .ok () else .error "invalid signature"
  toDer c := .ok c
  TbsCertificate := Unit
  parseX509 _ := .ok ()
  getExtensionUnique _ oid :=
    if oid = HW_ID_OID then .ok (some (List.replicate 64 0)) else .ok (some [2, 1, 0])
  octetString _ := .error "unexpected tag"
  integer b := if b = [2, 1, 0] then .ok 0 else .error "unexpected tag"
  commonNames _ := [.ok "VCEK"]
  vendorCerts _ := ⟨[2], [1], [3]⟩
  kds _ := .error "no route to host"
  reportFromValue v :=
    match (v.get "reported_tcb").bind (Json.get · "fmc") with
    | some .null => .ok turinReport
    | _ => .error "missing field"
  certTableFromValue _ := .ok [⟨.VCEK, [4]⟩]
  reportFromBytes _ := .error "unexpected length"

def turinEvidence : Json := .object
  [("attestation_report", turinReportJson),
   ("cert_chain", .array
     [.object [("cert_type", .string "VCEK"), ("data", .array [.number (.int 4)])]])]

set_option maxRecDepth 4000 in
theorem verifyEvidence_turinEvidence :
    verifyEvidence turinEnv ⟨turinReport, some [⟨.VCEK, [4]⟩]⟩ .notProvided .notProvided =
      .panic "called `Option::unwrap()` on a `None` value" := rfl

set_option maxRecDepth 4000 in
theorem evaluate_turinEvidence :
    evaluate turinEnv turinEvidence .notProvided .notProvided =
      .panic "called `Option::unwrap()` on a `None` value" := rfl

/-- Everything but the FMC agrees, and the verifier does not return. -/
theorem turin_without_fmc_panics :
    FmcMissing turinEnv ⟨turinReport, some [⟨.VCEK, [4]⟩]⟩ ∧
      ¬ (evaluate turinEnv turinEvidence .notProvided .notProvided).Returns := by
  exact ⟨verifyEvidence_eq_panic.1 ⟨_, verifyEvidence_turinEvidence⟩,
    fun h => h _ evaluate_turinEvidence⟩

end Trustmee.Snp.Native
