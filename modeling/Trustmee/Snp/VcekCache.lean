import Trustmee.Foundations.Table
import Trustmee.Foundations.Transition
import Trustmee.Snp.Agreement
import Trustmee.Snp.VcekUrl
import Mathlib.Data.Set.Operations

/-!
# The cache of VCEKs

A body that the key server sends with status 200 is stored under a hash of its URL before it is
parsed, and returned later without a check. Evaluations in a row are a transition system over the
files of the cache. What is served was an answer to an earlier evaluation for the same key
(`vcekId_of_serves`), whatever the key server did. The cache is transparent after every run in which
each answer with status 200 that was stored was the right VCEK
(`transparent_of_answersRight`); one other answer, and it is not (`not_transparent`).
-/

namespace Trustmee.Snp.Component

open Transition

/-! ## The files -/

/-- The files in `snp-vcek`, by name. -/
abbrev Files := Table String Bytes

section Files

variable (sha256 : Bytes → Bytes) (files : Files)

/-- `cache_path`, the name of the file. -/
def cachePath (vcekUrl : String) : String := hexEncode (sha256 (toUtf8 vcekUrl)) ++ ".der"

/-- `read_cache`. -/
def readCache (vcekUrl : String) : Option Bytes := files (cachePath sha256 vcekUrl)

/-- `write_cache`. -/
def writeCache (vcekUrl : String) (data : Bytes) : Files :=
  files.insert (cachePath sha256 vcekUrl) data

/-- `fetch_vcek_from_kds`, with the files that it leaves. -/
def fetchAndStore (V : Env) (attReport : AttestationReport) (procGen : ProcessorGeneration) :
    Outcome Bytes × Files :=
  match vcekUrl attReport procGen with
  | .ok vcekUrl =>
    match readCache sha256 files vcekUrl with
    | some bytes => (.ok bytes, files)
    | none =>
      match requestVcek V vcekUrl with
      | .ok body => (.ok body, writeCache sha256 files vcekUrl body)
      | .err e => (.err e, files)
      | .panic msg => (.panic msg, files)
  | .err e => (.err e, files)
  | .panic msg => (.panic msg, files)

end Files

/-! ## The evaluations -/

/-- An evaluation of evidence without a certificate table, and what the key server would answer
while it runs. -/
structure Evaluation where
  report : AttestationReport
  expectedReportData : Option Bytes
  expectedInitDataHash : Option Bytes
  kds : String → Except String Response

namespace Evaluation

variable (V : Env) (sha256 : Bytes → Bytes) (e : Evaluation) (files : Files)

/-- The verifier and the key server of the evaluation. -/
def env : Env := { V with kds := e.kds }

/-- What `evaluate` returns. -/
def result (cache : String → Option Bytes) : Outcome Json :=
  evaluate (e.env V) cache ⟨e.report, none⟩ e.expectedReportData e.expectedInitDataHash

/-- The generation, when the evaluation gets to the endorsement key. -/
def procGen : Outcome ProcessorGeneration := do
  checkVersion e.report
  getProcessorGeneration e.report

/-- The files after `evaluate`. -/
def filesAfter : Files :=
  match e.procGen with
  | .ok procGen => (fetchAndStore sha256 files (e.env V) e.report procGen).2
  | _ => files

/-- The evaluation needs the VCEK of a URL, for a processor of a generation. -/
def Asks (procGen : ProcessorGeneration) (url : String) : Prop :=
  e.procGen = .ok procGen ∧ vcekUrl e.report procGen = .ok url

/-- The key server would send a body with status 200. -/
def Answers (url : String) (body : Bytes) : Prop := e.kds url = .ok ⟨200, .ok body⟩

end Evaluation

/-- Evaluations, one after another. -/
def vcekCache (V : Env) (sha256 : Bytes → Bytes) : System Files Evaluation where
  Init files := files = Table.empty
  Step files e files' := files' = e.filesAfter V sha256 files

variable {V : Env} {sha256 : Bytes → Bytes} {files files' : Files} {e : Evaluation}
  {procGen : ProcessorGeneration} {url : String} {body : Bytes}

/-! ## One evaluation -/

/-- An evaluation asks for one URL. -/
theorem Evaluation.Asks.eq {procGen' : ProcessorGeneration} {url' : String}
    (h : e.Asks procGen url) (h' : e.Asks procGen' url') : procGen = procGen' ∧ url = url' := by
  obtain rfl : procGen = procGen' := Outcome.ok.inj (h.1.symm.trans h'.1)
  exact ⟨rfl, Outcome.ok.inj (h.2.symm.trans h'.2)⟩

/-- A file that an evaluation adds is the body of an answer with status 200, and nothing was stored
for its URL. -/
theorem filesAfter_cases (hstep : (vcekCache V sha256).Step files e files') :
    files' = files ∨ ∃ procGen url body, e.Asks procGen url ∧ readCache sha256 files url = none ∧
      e.Answers url body ∧ files' = writeCache sha256 files url body := by
  obtain rfl : files' = e.filesAfter V sha256 files := hstep
  rw [Evaluation.filesAfter]
  cases hgen : e.procGen with
  | err e => exact .inl rfl
  | panic msg => exact .inl rfl
  | ok procGen =>
    dsimp only
    rw [fetchAndStore]
    cases hurl : vcekUrl e.report procGen with
    | err e => exact .inl rfl
    | panic msg => exact .inl rfl
    | ok url =>
      dsimp only
      cases hmiss : readCache sha256 files url with
      | some bytes => exact .inl rfl
      | none =>
        dsimp only
        cases hrequest : requestVcek (e.env V) url with
        | err e => exact .inl rfl
        | panic msg => exact .inl rfl
        | ok body =>
          exact .inr ⟨procGen, url, body, ⟨hgen, hurl⟩, hmiss, requestVcek_eq_ok.1 hrequest, rfl⟩

/-- The result depends on the cache through the VCEK that is fetched. -/
theorem result_congr {cache cache' : String → Option Bytes}
    (h : ∀ procGen, e.procGen = .ok procGen →
      fetchVcekFromKds (e.env V) cache e.report procGen =
        fetchVcekFromKds (e.env V) cache' e.report procGen) :
    e.result V cache = e.result V cache' := by
  rw [Evaluation.result, Evaluation.result, evaluate, evaluate]
  dsimp only
  cases hversion : checkVersion e.report with
  | err e => rfl
  | panic msg => rfl
  | ok _ =>
    cases hgen : getProcessorGeneration e.report with
    | err e => rfl
    | panic msg => rfl
    | ok procGen =>
      have hprocGen : e.procGen = .ok procGen := by
        rw [Evaluation.procGen, hversion]
        exact hgen
      have hselect : selectVek (V := e.env V) cache e.report procGen none =
          selectVek cache' e.report procGen none := by
        rw [selectVek, selectVek, vekFromKds, vekFromKds, h procGen hprocGen]
      change (selectVek (V := e.env V) cache e.report procGen none >>= _) =
        (selectVek (V := e.env V) cache' e.report procGen none >>= _)
      rw [hselect]

theorem fetchVcekFromKds_of_hit {cache : String → Option Bytes} (hasks : e.Asks procGen url)
    (hhit : cache url = some body) :
    fetchVcekFromKds (e.env V) cache e.report procGen = .ok body := by
  rw [fetchVcekFromKds, hasks.2]
  change (match cache url with
    | some bytes => Outcome.ok bytes
    | none => requestVcek (e.env V) url) = _
  rw [hhit]

theorem fetchVcekFromKds_of_miss {cache : String → Option Bytes} (hasks : e.Asks procGen url)
    (hmiss : cache url = none) :
    fetchVcekFromKds (e.env V) cache e.report procGen = requestVcek (e.env V) url := by
  rw [fetchVcekFromKds, hasks.2]
  change (match cache url with
    | some bytes => Outcome.ok bytes
    | none => requestVcek (e.env V) url) = _
  rw [hmiss]

/-- An evaluation that finds the body in the cache ends as one that asks and gets the same body. -/
theorem result_of_hit {cache : String → Option Bytes} (hasks : e.Asks procGen url)
    (hhit : cache url = some body) :
    e.result V cache = e.result V fun _ => some body := by
  refine result_congr fun procGen' hgen => ?_
  obtain rfl : procGen = procGen' := Outcome.ok.inj (hasks.1.symm.trans hgen)
  rw [fetchVcekFromKds_of_hit hasks hhit, fetchVcekFromKds_of_hit hasks rfl]

/-! ## A run -/

/-- A file of the cache comes from a step of the run, in which nothing was stored for its URL. -/
theorem exists_of_file {C : Files → Evaluation → Prop} {tr : List Evaluation}
    (hrun : AllSteps (vcekCache V sha256) C Table.empty tr files) {name : String}
    (hfile : files name = some body) :
    ∃ e ∈ tr, ∃ before procGen url, C before e ∧ e.Asks procGen url ∧
      readCache sha256 before url = none ∧ e.Answers url body ∧ name = cachePath sha256 url := by
  induction hrun with
  | nil => cases hfile
  | snoc _ hc hstep ih =>
    rcases filesAfter_cases hstep with rfl | ⟨procGen, url, data, hasks, hmiss, hanswers, rfl⟩
    · obtain ⟨e, he, hcame⟩ := ih hfile
      exact ⟨e, List.mem_append_left _ he, hcame⟩
    · rcases Table.insert_eq_some hfile with ⟨rfl, rfl⟩ | ⟨-, hfile⟩
      · exact ⟨_, by simp, _, procGen, url, hc, hasks, hmiss, hanswers, rfl⟩
      · obtain ⟨e, he, hcame⟩ := ih hfile
        exact ⟨e, List.mem_append_left _ he, hcame⟩

/-- The texts that SHA-256 is applied to. -/
def hashed (evaluations : List Evaluation) : Set Bytes :=
  {text | ∃ e ∈ evaluations, ∃ procGen url, e.Asks procGen url ∧ text = toUtf8 url}

theorem cachePath_inj {evaluations : List Evaluation} (hsha : Set.InjOn sha256 (hashed evaluations))
    {url' : String} (hurl : toUtf8 url ∈ hashed evaluations)
    (hurl' : toUtf8 url' ∈ hashed evaluations) (h : cachePath sha256 url = cachePath sha256 url') :
    url = url' :=
  toUtf8_injective (hsha hurl hurl' (hexEncode_injective (String.append_left_inj _ |>.1 h)))

/-- **What is served comes from an earlier evaluation that asked for the same URL.** -/
theorem exists_of_serves {C : Files → Evaluation → Prop} {tr : List Evaluation}
    (hrun : AllSteps (vcekCache V sha256) C Table.empty tr files)
    (hsha : Set.InjOn sha256 (hashed (e :: tr))) (hasks : e.Asks procGen url)
    (hserves : readCache sha256 files url = some body) :
    ∃ e' ∈ tr, ∃ before procGen', C before e' ∧ e'.Asks procGen' url ∧
      readCache sha256 before url = none ∧ e'.Answers url body := by
  obtain ⟨e', he', before, procGen', url', hc, hasks', hmiss, hanswers, hname⟩ :=
    exists_of_file hrun hserves
  have hurl : toUtf8 url ∈ hashed (e :: tr) :=
    ⟨e, List.mem_cons_self, procGen, url, hasks, rfl⟩
  have hurl' : toUtf8 url' ∈ hashed (e :: tr) :=
    ⟨e', List.mem_cons_of_mem _ he', procGen', url', hasks', rfl⟩
  obtain rfl := cachePath_inj hsha hurl hurl' hname
  exact ⟨e', he', before, procGen', hc, hasks', hmiss, hanswers⟩

/-! ## The right VCEKs -/

/-- A body is a certificate that the vendor's chain of a generation signs. -/
def Verifies (V : Env) (procGen : ProcessorGeneration) (body : Bytes) : Prop :=
  ∃ vcek, V.fromBytes body = .ok vcek ∧
    (Chain.verify ⟨(V.vendorCerts procGen).ark, (V.vendorCerts procGen).ask, vcek⟩) = .ok ()

/-- The VCEK of each URL that has one. -/
structure Vceks (V : Env) where
  vcek : String → Option Bytes
  verifies : ∀ report procGen url body, vcekUrl report procGen = .ok url → vcek url = some body →
    Verifies V procGen body

variable {K : Vceks V}

/-- An answer with status 200 that the evaluation would store is the right VCEK. -/
def AnswersRight (K : Vceks V) (sha256 : Bytes → Bytes) (files : Files) (e : Evaluation) : Prop :=
  ∀ procGen url body, e.Asks procGen url → readCache sha256 files url = none →
    e.Answers url body → K.vcek url = some body

/-- When the key server would answer with the right VCEK, the cache makes no difference. -/
def Transparent (K : Vceks V) (sha256 : Bytes → Bytes) (files : Files) (e : Evaluation) : Prop :=
  ∀ procGen url body, e.Asks procGen url → K.vcek url = some body → e.Answers url body →
    e.result V (readCache sha256 files) = e.result V fun _ => none

/-- What is served is a certificate that the chain signs. -/
def ServesVerified (V : Env) (sha256 : Bytes → Bytes) (files : Files) (e : Evaluation) : Prop :=
  ∀ procGen url body, e.Asks procGen url → readCache sha256 files url = some body →
    Verifies V procGen body

/-- What is served was an answer with status 200 to an earlier evaluation, for the same key. -/
def ServesSameKey (sha256 : Bytes → Bytes) (files : Files) (e : Evaluation)
    (earlier : List Evaluation) : Prop :=
  ∀ procGen url body, e.Asks procGen url → readCache sha256 files url = some body →
    ∃ e' ∈ earlier, ∃ procGen', e'.Asks procGen' url ∧ e'.Answers url body ∧
      vcekId e'.report procGen' = vcekId e.report procGen

section Runs

variable {tr : List Evaluation} (hsha : Set.InjOn sha256 (hashed (e :: tr)))
include hsha

/-- The key server has no say in which report a body is used for. -/
theorem servesSameKey (hrun : Run (vcekCache V sha256) Table.empty tr files) :
    ServesSameKey sha256 files e tr := by
  intro procGen url body hasks hserves
  obtain ⟨e', he', _, procGen', -, hasks', -, hanswers⟩ :=
    exists_of_serves (.of_run hrun) hsha hasks hserves
  exact ⟨e', he', procGen', hasks', hanswers, vcekId_eq_of_vcekUrl hasks'.2 hasks.2⟩

/-- Right answers leave right files. -/
theorem vcek_of_serves
    (hrun : AllSteps (vcekCache V sha256) (AnswersRight K sha256) Table.empty tr files)
    (hasks : e.Asks procGen url) (hserves : readCache sha256 files url = some body) :
    K.vcek url = some body := by
  obtain ⟨e', -, before, procGen', hright, hasks', hmiss, hanswers⟩ :=
    exists_of_serves hrun hsha hasks hserves
  exact hright procGen' url body hasks' hmiss hanswers

theorem servesVerified
    (hrun : AllSteps (vcekCache V sha256) (AnswersRight K sha256) Table.empty tr files) :
    ServesVerified V sha256 files e := fun procGen url body hasks hserves =>
  K.verifies _ procGen url body hasks.2 (vcek_of_serves hsha hrun hasks hserves)

theorem transparent
    (hrun : AllSteps (vcekCache V sha256) (AnswersRight K sha256) Table.empty tr files) :
    Transparent K sha256 files e := by
  intro procGen url body hasks hright hanswers
  refine result_congr fun procGen' hgen => ?_
  obtain rfl : procGen = procGen' := Outcome.ok.inj (hasks.1.symm.trans hgen)
  have hrequest : requestVcek (e.env V) url = .ok body := requestVcek_eq_ok.2 hanswers
  have huncached : fetchVcekFromKds (e.env V) (fun _ => none) e.report procGen = .ok body := by
    rw [fetchVcekFromKds_of_miss hasks rfl, hrequest]
  rw [huncached]
  cases hserves : readCache sha256 files url with
  | none => rw [fetchVcekFromKds_of_miss hasks hserves, hrequest]
  | some bytes =>
    obtain rfl : bytes = body :=
      Option.some.inj ((vcek_of_serves hsha hrun hasks hserves).symm.trans hright)
    exact fetchVcekFromKds_of_hit hasks hserves

end Runs

/-- **The cache is transparent as long as the answers that are stored are right.** The answers to
evaluations that find their VCEK, transport failures and other statuses may be anything. -/
theorem transparent_of_answersRight (K : Vceks V) (sha256 : Bytes → Bytes) {tr : List Evaluation}
    {files : Files} (e : Evaluation) (hrun : Run (vcekCache V sha256) Table.empty tr files)
    (hsha : Set.InjOn sha256 (hashed (e :: tr))) :
    ServesSameKey sha256 files e tr ∧
      (AllSteps (vcekCache V sha256) (AnswersRight K sha256) Table.empty tr files →
        Transparent K sha256 files e ∧ ServesVerified V sha256 files e) :=
  ⟨servesSameKey hsha hrun, fun hright => ⟨transparent hsha hright, servesVerified hsha hright⟩⟩

/-! ## A key server that answers wrong once -/

/-- An evaluation of the report while the key server answers a body. -/
def milanEvaluation (body : Bytes) : Evaluation :=
  ⟨milanReport, some [], none, fun _ => .ok ⟨200, .ok body⟩⟩

def milanVceks : Vceks milanEnv where
  vcek _ := some [4]
  verifies _ _ _ body _ h := by
    cases h
    exact ⟨[4], rfl, rfl⟩

theorem exists_asks : ∃ url, ∀ body, (milanEvaluation body).Asks .Milan url := by
  obtain ⟨url, hurl⟩ : ∃ url, vcekUrl milanReport .Milan = .ok url := ⟨_, rfl⟩
  exact ⟨url, fun _ => ⟨rfl, hurl⟩⟩

theorem injOn_id (texts : Set Bytes) : Set.InjOn id texts := fun _ _ _ _ h => h

/-- The files after one evaluation. -/
def milanFiles (url : String) (body : Bytes) : Files := writeCache id Table.empty url body

theorem step_milanEvaluation {url : String} (body : Bytes)
    (hasks : (milanEvaluation body).Asks .Milan url) :
    (vcekCache milanEnv id).Step Table.empty (milanEvaluation body) (milanFiles url body) := by
  have hmiss : readCache id Table.empty url = none := rfl
  have hrequest : requestVcek ((milanEvaluation body).env milanEnv) url = .ok body :=
    requestVcek_eq_ok.2 rfl
  change _ = Evaluation.filesAfter _ _ _ _
  rw [Evaluation.filesAfter, hasks.1]
  dsimp only
  have hurl : vcekUrl (milanEvaluation body).report .Milan = .ok url := hasks.2
  rw [fetchAndStore, hurl]
  dsimp only
  rw [hmiss, hrequest]
  rfl

/-- A run of one right answer, and the report again. -/
theorem transparent_milan : ∃ url, ServesSameKey id (milanFiles url [4]) (milanEvaluation [4])
      [milanEvaluation [4]] ∧
    Transparent milanVceks id (milanFiles url [4]) (milanEvaluation [4]) ∧
    ServesVerified milanEnv id (milanFiles url [4]) (milanEvaluation [4]) := by
  obtain ⟨url, hasks⟩ := exists_asks
  have hstep := step_milanEvaluation [4] (hasks [4])
  obtain ⟨hkey, htransparent⟩ := transparent_of_answersRight milanVceks id (milanEvaluation [4])
    (.one hstep) (injOn_id _)
  refine ⟨url, hkey, htransparent (.cons ?_ hstep .nil)⟩
  intro procGen url' body _ _ hanswers
  cases hanswers
  rfl

/-- **A wrong answer stays.** A body that the chain does not sign is served to the next evaluation,
which fails although the key server would answer right. -/
theorem not_transparent : ∃ files, Run (vcekCache milanEnv id) Table.empty [milanEvaluation [5]]
      files ∧ Set.InjOn (id : Bytes → Bytes) (hashed [milanEvaluation [4], milanEvaluation [5]]) ∧
    ¬ Transparent milanVceks id files (milanEvaluation [4]) ∧
    ¬ ServesVerified milanEnv id files (milanEvaluation [4]) := by
  obtain ⟨url, hasks⟩ := exists_asks
  have hserves : readCache id (milanFiles url [5]) url = some [5] := Table.insert_self _ _ _
  refine ⟨milanFiles url [5], .one (step_milanEvaluation [5] (hasks [5])),
    injOn_id _, fun htransparent => ?_, fun hverified => ?_⟩
  · have hsame := htransparent .Milan url [4] (hasks [4]) rfl rfl
    rw [result_of_hit (hasks [4]) hserves] at hsame
    cases hsame
  · obtain ⟨vcek, hvcek, hchain⟩ := hverified .Milan url [5] (hasks [4]) hserves
    cases hvcek
    cases hchain

end Trustmee.Snp.Component
