import Trustmee.Foundations.Transition
import Trustmee.Kbs.SecretStore

/-!
# Requests in a row

A server takes requests, one after the other, and between them whatever happens leaves its files
alone. Requests that overlap are not in the model, and neither is a write that fails half way: a
file is written as a whole, or it stays. What the clients see is then a store: a request that is
accepted makes the change that it asks for, and one that is not makes none (`requests_refine`);
every decision is one of the policy that was set last, and every secret that a plugin gives is the
one that was put last (`calls_truthful`). So a secret goes to those whom the policy set last lets
in, and to no others (`released_iff`). The changes are those of administrators.
-/

namespace Trustmee.Kbs

open ResourceDesc (Accepted tryFrom tryFrom_eq_ok)
open Transition

/-! ## Exchanges -/

/-- A request, and what became of it. -/
structure Exchange (J : Jwt) where
  request : HttpRequest
  body : Bytes
  path : String
  query : Query
  /-- The time of the request. -/
  now : Time
  calls : List (Call J)
  response : Option HttpResponse

/-- The change that a request asks for. -/
def requested (opa : Opa) (plugin : String) (rest : List String) (method : String) (body : Bytes) :
    Option Change :=
  if method = "POST" ∧ plugin = "resource" then
    match tryFrom (joinPath rest) with
    | .ok desc => some (.put desc body)
    | _ => none
  else if method = "POST" ∧ plugin = "resource-policy" then
    match opa.policyOf body with
    | .ok policy => some (.setPolicy policy)
    | .error _ => none
  else none

namespace Exchange

variable {J : Jwt}

def accepted (e : Exchange J) : Bool := e.response.any fun response => response.status == 200

/-- The change that an exchange makes. -/
def change (opa : Opa) (e : Exchange J) : Option Change :=
  match split e.path '/' with
  | [] => none
  | plugin :: rest =>
    if e.accepted then requested opa plugin rest e.request.method e.body else none

end Exchange

/-- What happens at a server. -/
inductive ServerEvent (J : Jwt)
  /-- Something that is no request: time passes, other files change. -/
  | meanwhile
  | exchange (e : Exchange J)

namespace ServerEvent

variable {J : Jwt}

def change (opa : Opa) : ServerEvent J → Option Change
  | .meanwhile => none
  | .exchange e => e.change opa

end ServerEvent

/-- The changes of a run, in their order. -/
def changes {J : Jwt} (opa : Opa) (events : List (ServerEvent J)) : List Change :=
  events.filterMap (ServerEvent.change opa)

section

variable {ρ : Type} {A : JwtSimple} {J : Jwt} {K : Jwe.Crypto}

/-- A server and its requests, each of which ends before the next one starts. -/
def requests (parts : Parts ρ A J K) (layout : Layout) : System (ServerState ρ) (ServerEvent J) where
  Init _ := True
  Step s event t :=
    match event with
    | .meanwhile => layout.KeepsFiles s t
    | .exchange e => e.now = parts.attestationService.now s ∧ ∃ result,
        ((parts.server e.now).api e.request e.body e.path e.query).run s = ⟨result, e.calls, t⟩ ∧
          e.response = respond result

/-- What the server has beside its storage and its policy leaves their files alone. -/
structure OthersKeepFiles (parts : Parts ρ A J K) (layout : Layout) : Prop where
  auth : ∀ body s, layout.KeepsFiles s (parts.attestationService.auth body s).2
  attest : ∀ body request s,
    layout.KeepsFiles s (parts.attestationService.attest body request s).2
  setPolicy : ∀ body s, layout.KeepsFiles s (parts.attestationService.setPolicy body s).2
  queryReferenceValue : ∀ id s,
    layout.KeepsFiles s (parts.attestationService.queryReferenceValue id s).2
  registerReferenceValue : ∀ message s,
    layout.KeepsFiles s (parts.attestationService.registerReferenceValue message s).2
  draw : ∀ s, layout.KeepsFiles s (parts.draw s).2
  plugin : ∀ name plugin, parts.otherPlugins name = some plugin → ∀ args s,
    layout.KeepsFiles s (plugin.validateAuth args s).2 ∧
      layout.KeepsFiles s (plugin.handle args s).2 ∧ layout.KeepsFiles s (plugin.encrypted args s).2

/-- The answer of a call is what the store says. -/
def Truthful (opa : Opa) (store : SecretStore) : Call J → Prop
  | .evaluate data inputClaims answer =>
    answer = halting (ofEngine (opa.decideBytes store.policy data inputClaims)) .PolicyEngine
  | .handle plugin args answer => plugin = "resource" → args.method = "GET" → ∀ data,
      answer = .ok data ↔
        ∃ desc, tryFrom (joinPath args.path) = .ok desc ∧ store.secrets desc = some data
  | _ => True

/-- The calls of an exchange are answered as the store says. -/
def Exchange.AnsweredBy (opa : Opa) (store : SecretStore) (e : Exchange J) : Prop :=
  ∀ c ∈ e.calls, Truthful opa store c

/-! ## What changes nothing -/

variable {parts : Parts ρ A J K} {layout : Layout} {store : SecretStore} {now : Time}
  {request : HttpRequest} {name : String} {plugin : ClientPlugin (ServerState ρ)}
  {args : PluginRequest}

/-- The computation leaves the store as it is, and its calls are answered by it. -/
abbrev KeepsStore {α : Type} (parts : Parts ρ A J K) (layout : Layout) (store : SecretStore)
    (x : Handling (ServerState ρ) J α) : Prop :=
  x.Meets (Holds parts layout store) (Truthful parts.opa store)

theorem keepsStore_calling {α : Type} {f : ServerState ρ → Outcome α × ServerState ρ}
    {toError : Error → ApiError} {record : Except Halt α → Call J}
    (hkeeps : ∀ s, layout.KeepsFiles s (f s).2)
    (htrue : ∀ s, Holds parts layout store s →
      Truthful parts.opa store (record (halting (f s).1 toError))) :
    KeepsStore parts layout store (ApiServer.calling f toError record) :=
  Traced.meets_call fun s hs => ⟨hs.keepsFiles (hkeeps s), htrue s hs⟩

theorem keepsStore_validateAdmin :
    KeepsStore parts layout store ((parts.server now).validateAdmin request) :=
  keepsStore_calling (fun _ => .refl _) fun _ _ => trivial

/-- The checks read the policy of the store. -/
theorem keepsStore_admission
    (hauth : ∀ s, layout.KeepsFiles s (plugin.validateAuth args s).2) :
    KeepsStore parts layout store ((parts.server now).admission request name plugin args) := by
  refine Traced.Meets.bind (keepsStore_calling hauth fun _ _ => trivial) fun admin => ?_
  cases admin with
  | true => exact keepsStore_validateAdmin.bind fun _ => Traced.meets_pure _
  | false =>
    refine Traced.Meets.bind (keepsStore_calling (fun _ => .refl _) fun _ _ => trivial)
      fun token => ?_
    refine Traced.Meets.bind (keepsStore_calling (fun _ => .refl _) fun _ _ => trivial)
      fun claims => ?_
    refine Traced.Meets.bind (keepsStore_calling (fun _ => .refl _) fun s hs => ?_)
      fun allowed => ?_
    · change halting (ofEngine (parts.opa.evaluate _ _ s.fs)) _ = _
      rw [hs.evaluate]
    · cases allowed with
      | true => exact Traced.meets_pure _
      | false => exact Traced.meets_lift _

/-- The reply keeps what the plugin and the generator of random numbers keep, and none of its calls
is about the store. -/
theorem meets_reply {I : ServerState ρ → Prop}
    (hencrypted : ∀ s, I s → I (plugin.encrypted args s).2) (hdraw : ∀ s, I s → I (parts.draw s).2)
    (claims : Option Json) (response : Bytes) :
    ((parts.server now).reply name plugin args claims response).Meets I
      (Truthful parts.opa store) := by
  cases claims with
  | none => exact Traced.meets_pure _
  | some claims =>
    refine Traced.Meets.bind (Traced.meets_call fun s hs => ⟨hencrypted s hs, trivial⟩)
      fun encrypted => ?_
    cases encrypted with
    | false => exact Traced.meets_pure _
    | true =>
      refine Traced.Meets.bind (Traced.meets_call fun _ hs => ⟨hs, trivial⟩) fun publicKey => ?_
      refine Traced.Meets.bind (Traced.meets_call fun s hs => ⟨hdraw s hs, trivial⟩) fun jwe => ?_
      exact (Traced.meets_lift _).bind fun _ => Traced.meets_pure _

/-- The release, where `handle` keeps the files and answers as the store says. -/
theorem keepsStore_release (hothers : OthersKeepFiles parts layout)
    (hencrypted : ∀ s, layout.KeepsFiles s (plugin.encrypted args s).2)
    (hhandle : ∀ s, layout.KeepsFiles s (plugin.handle args s).2)
    (htrue : ∀ s, Holds parts layout store s → Truthful (J := J) parts.opa store
      (.handle name args (halting (plugin.handle args s).1 .PluginInternalError)))
    (claims : Option Json) :
    KeepsStore parts layout store ((parts.server now).release name plugin args claims) :=
  Traced.Meets.bind (keepsStore_calling hhandle htrue) fun response =>
    meets_reply (fun s hs => hs.keepsFiles (hencrypted s))
      (fun s hs => hs.keepsFiles (hothers.draw s)) claims response

theorem keepsStore_serving {α : Type} {r : Route}
    {f : ServerState ρ → Outcome α × ServerState ρ} {toError : Error → ApiError}
    (hkeeps : ∀ s, layout.KeepsFiles s (f s).2) :
    KeepsStore parts layout store (ApiServer.serving r f toError) :=
  keepsStore_calling hkeeps fun _ _ => trivial

/-- The arms of `api` of its own, but for the one that sets the policy. -/
theorem keepsStore_builtInReply (hothers : OthersKeepFiles parts layout) {body : Bytes}
    {rest : List String} {r : Route} (hr : r ≠ .postResourcePolicy) :
    KeepsStore parts layout store ((parts.server now).builtInReply request body rest r) := by
  cases r with
  | auth => exact keepsStore_serving (hothers.auth body)
  | attest => exact keepsStore_serving (hothers.attest body request)
  | attestationPolicy =>
    exact keepsStore_validateAdmin.bind fun _ =>
      (keepsStore_serving (hothers.setPolicy body)).bind fun _ => Traced.meets_pure _
  | getReferenceValue =>
    exact keepsStore_validateAdmin.bind fun _ =>
      (keepsStore_serving (hothers.queryReferenceValue _)).bind fun _ => Traced.meets_pure _
  | postReferenceValue =>
    exact keepsStore_validateAdmin.bind fun _ => (Traced.meets_lift _).bind fun message =>
      (keepsStore_serving (hothers.registerReferenceValue message)).bind fun _ =>
        Traced.meets_pure _
  | postResourcePolicy => exact absurd rfl hr
  | getResourcePolicy =>
    exact keepsStore_validateAdmin.bind fun _ =>
      (keepsStore_serving fun _ => .refl _).bind fun _ => Traced.meets_pure _

/-! ## What changes the store -/

/-- How a request ends: the change that was asked for is made for an administrator, or the request
fails and nothing is changed. -/
inductive Ends (parts : Parts ρ A J K) (layout : Layout) (store : SecretStore) (now : Time)
    (request : HttpRequest) (asked : Option Change) :
    Ending (ServerState ρ) (Call J) Halt HttpResponse → Prop
  | failed {h : Halt} {calls : List (Call J)} {t : ServerState ρ}
      (hstore : Holds parts layout store t) :
      Ends parts layout store now request asked ⟨.error h, calls, t⟩
  | kept {result : Except Halt HttpResponse} {calls : List (Call J)} {t : ServerState ρ}
      (hasked : asked = none) (hstore : Holds parts layout store t) :
      Ends parts layout store now request asked ⟨result, calls, t⟩
  | made {response : HttpResponse} {change : Change} {calls : List (Call J)} {t : ServerState ρ}
      (hasked : asked = some change) (hadmin : parts.admin.validateAdminToken now request = .ok ())
      (hstatus : response.status = 200) (hstore : Holds parts layout (store.apply change) t) :
      Ends parts layout store now request asked ⟨.ok response, calls, t⟩

theorem mapError_eq_ok {ε δ α : Type} {x : Except ε α} {f : ε → δ} {a : α} :
    x.mapError f = .ok a ↔ x = .ok a := by
  cases x <;> simp [Except.mapError]

theorem validateAdmin_run {s t : ServerState ρ} {calls : List (Call J)}
    (h : ((parts.server now).validateAdmin request).run s = ⟨.ok (), calls, t⟩) :
    parts.admin.validateAdminToken now request = .ok () ∧ t = s := by
  obtain ⟨hanswer, -⟩ := ApiServer.run_calling.1 h
  obtain ⟨hadmin, rfl⟩ := Prod.ext_iff.1 hanswer
  exact ⟨mapError_eq_ok.1 (Outcome.ofExcept_eq_ok.1 hadmin), rfl⟩

/-- No call that sets the policy is about the store. -/
theorem truthful_setPolicy {body : Bytes} {rest : List String} :
    ((parts.server now).builtInReply request body rest .postResourcePolicy).Meets (fun _ => True)
      (Truthful parts.opa store) :=
  Traced.Meets.bind (Traced.meets_call fun _ _ => ⟨trivial, trivial⟩) fun _ =>
    Traced.Meets.bind (Traced.meets_call fun _ _ => ⟨trivial, trivial⟩) fun _ =>
      Traced.meets_pure _

/-- The policy is set for an administrator. -/
theorem ends_setPolicy {body : Bytes} {rest : List String} {s : ServerState ρ}
    (hs : Holds parts layout store s) :
    Ends parts layout store now request (requested parts.opa "resource-policy" rest "POST" body)
      (((parts.server now).builtInReply request body rest .postResourcePolicy).run s) := by
  unfold ApiServer.builtInReply
  rcases Traced.run_bind_cases ((parts.server now).validateAdmin request) _ s with
    ⟨e, calls, t, hrun, hbind⟩ | ⟨_, calls, t, hrun, hbind⟩
  · rw [hbind]
    exact .failed (keepsStore_validateAdmin.state hs hrun)
  · obtain ⟨hadmin, rfl⟩ := validateAdmin_run hrun
    rw [hbind]
    cases hset : parts.opa.setPolicy body t.fs with
    | mk result fs =>
      have hserving : (ApiServer.serving .postResourcePolicy
          ((parts.server now).policyEngine.setPolicy body) .PolicyEngine :
            Handling (ServerState ρ) J Unit).run t =
          ⟨halting (ofEngine result) .PolicyEngine, [.service .postResourcePolicy],
            { t with fs := fs }⟩ := by
        have hset' : (parts.server now).policyEngine.setPolicy body t =
            (ofEngine result, { t with fs := fs }) := by
          change (ofEngine (parts.opa.setPolicy body t.fs).1, _) = _
          rw [hset]
        simp only [ApiServer.serving, ApiServer.calling, Traced.run_call, hset']
      rcases hs.setPolicy hset with ⟨⟨e, rfl⟩, hstore⟩ | ⟨rfl, policy, hpolicy, hstore⟩
      · rw [Traced.run_bind_of_error hserving]
        exact .failed hstore
      · rw [Traced.run_bind_of_ok hserving]
        refine .made ?_ hadmin rfl hstore
        simp [requested, hpolicy]

/-- The plugin of the server for secrets. -/
abbrev resourcePlugin (parts : Parts ρ A J K) : ClientPlugin (ServerState ρ) :=
  ResourceStorage.clientPlugin parts.storage

theorem keepsFiles_validateAuth (s : ServerState ρ) :
    layout.KeepsFiles s ((resourcePlugin parts).validateAuth args s).2 :=
  .refl _

/-- The checks for a secret change nothing at all. -/
theorem state_of_admitted {s t : ServerState ρ} {calls : List (Call J)} {claims : Option Json}
    (h : ApiServer.Admitted (parts.server now) request name (resourcePlugin parts) args s calls t
      claims) : t = s := by
  cases h with
  | admin hauth _ => exact (congrArg Prod.snd hauth).symm
  | token hauth _ _ hallow =>
    exact (congrArg Prod.snd hallow).symm.trans (congrArg Prod.snd hauth).symm

theorem run_calling_of_eq {α : Type} {f : ServerState ρ → Outcome α × ServerState ρ}
    {toError : Error → ApiError} {record : Except Halt α → Call J} {s t : ServerState ρ}
    {r : Outcome α} (h : f s = (r, t)) :
    (ApiServer.calling f toError record).run s =
      ⟨halting r toError, [record (halting r toError)], t⟩ := by
  simp only [ApiServer.calling, Traced.run_call, h]

/-- A secret is put for an administrator. -/
theorem ends_put (args : PluginRequest) (hmethod : args.method = "POST") {s : ServerState ρ}
    (hs : Holds parts layout store s) :
    Ends parts layout store now request (requested parts.opa "resource" args.path "POST" args.body)
      (((parts.server now).pluginReply request "resource" (resourcePlugin parts) args).run s) := by
  rw [ApiServer.pluginReply_eq]
  rcases Traced.run_bind_cases ((parts.server now).admission request "resource"
    (resourcePlugin parts) args) _ s with ⟨e, calls, t, hrun, hbind⟩ | ⟨claims, calls, t, hrun, hbind⟩
  · rw [hbind]
    exact .failed ((keepsStore_admission keepsFiles_validateAuth).state hs hrun)
  · have hadmitted := ApiServer.admission_run.1 hrun
    obtain rfl := state_of_admitted hadmitted
    obtain rfl := (ApiServer.admitted_resource hadmitted).2 hmethod
    have hadmin : parts.admin.validateAdminToken now request = .ok () := by
      cases hadmitted with
      | admin _ hadmin => exact mapError_eq_ok.1 hadmin
    rw [hbind, ApiServer.release]
    have hhandle : (resourcePlugin parts).handle args t =
        ResourceStorage.handle parts.storage args t := rfl
    rw [ResourceStorage.handle, if_pos hmethod] at hhandle
    cases htry : tryFrom (joinPath args.path) with
    | err e =>
      rw [htry] at hhandle
      rw [Traced.run_bind_of_error (run_calling_of_eq hhandle)]
      exact .failed hs
    | panic m =>
      rw [htry] at hhandle
      rw [Traced.run_bind_of_error (run_calling_of_eq hhandle)]
      exact .failed hs
    | ok desc =>
      have haccepted := (tryFrom_eq_ok.1 htry).1
      cases hwrite : parts.repository.writeSecretResource desc args.body t.fs with
      | mk result fs =>
        have hstorage : parts.storage.writeSecretResource desc args.body t =
            (result, { t with fs := fs }) := by
          change ((parts.repository.writeSecretResource desc args.body t.fs).1, _) = _
          rw [hwrite]
        simp only [htry, hstorage] at hhandle
        rcases hs.put haccepted hwrite with ⟨hfailed, hstore⟩ | ⟨rfl, hstore⟩
        · cases result with
          | ok u => exact absurd rfl hfailed
          | err e =>
            rw [Traced.run_bind_of_error (run_calling_of_eq hhandle)]
            exact .failed hstore
          | panic m =>
            rw [Traced.run_bind_of_error (run_calling_of_eq hhandle)]
            exact .failed hstore
        · rw [Traced.run_bind_of_ok (run_calling_of_eq hhandle)]
          refine .made ?_ hadmin rfl hstore
          simp [requested, htry]

/-! ## One request -/

/-- A secret is given as the store has it. -/
theorem truthful_handle_resource {s : ServerState ρ} (hs : Holds parts layout store s) :
    Truthful (J := J) parts.opa store (.handle name args
      (halting ((resourcePlugin parts).handle args s).1 .PluginInternalError)) := by
  intro _ hmethod data
  rw [ApiServer.halting_eq_ok]
  have hhandle : (resourcePlugin parts).handle args s = ResourceStorage.handle parts.storage args s :=
    rfl
  rw [hhandle, ResourceStorage.handle, if_neg (by simp [hmethod]), if_pos hmethod]
  cases htry : tryFrom (joinPath args.path) with
  | err e => simp
  | panic m => simp
  | ok desc =>
    simp only [Outcome.ok.injEq, exists_eq_left']
    exact hs.read (tryFrom_eq_ok.1 htry).1

/-- Every call of a plugin that puts nothing is answered by the store. -/
theorem keepsStore_pluginReply (hothers : OthersKeepFiles parts layout)
    (hplugin : (parts.server now).pluginManager name = some plugin)
    (hmethod : name = "resource" → args.method ≠ "POST") :
    KeepsStore parts layout store ((parts.server now).pluginReply request name plugin args) := by
  rw [ApiServer.pluginReply_eq]
  by_cases hname : name = "resource"
  · subst hname
    obtain rfl : resourcePlugin parts = plugin := by
      rw [Parts.server_pluginManager, Table.insert_self] at hplugin
      exact Option.some.inj hplugin
    refine (keepsStore_admission keepsFiles_validateAuth).bind fun claims =>
      keepsStore_release hothers (fun _ => .refl _) (fun s => ?_)
        (fun s hs => truthful_handle_resource hs) claims
    have hhandle : (resourcePlugin parts).handle args s =
        ResourceStorage.handle parts.storage args s := rfl
    rw [hhandle, ResourceStorage.handle, if_neg (hmethod rfl)]
    split
    · split <;> exact .refl _
    · exact .refl _
  · rw [Parts.server_pluginManager, Table.insert_of_ne _ _ hname] at hplugin
    have hkeeps := hothers.plugin name plugin hplugin args
    exact (keepsStore_admission fun s => (hkeeps s).1).bind fun claims =>
      keepsStore_release hothers (fun s => (hkeeps s).2.2) (fun s => (hkeeps s).2.1)
        (fun s _ h => absurd h hname) claims

/-- The calls for a secret are answered by the store that they start from. -/
theorem truthful_put (args : PluginRequest) (hmethod : args.method = "POST") {s : ServerState ρ}
    (hs : Holds parts layout store s) {c : Call J}
    (hc : c ∈ (((parts.server now).pluginReply request "resource" (resourcePlugin parts) args).run
      s).calls) : Truthful parts.opa store c := by
  rw [ApiServer.pluginReply_eq] at hc
  have hadmission : KeepsStore parts layout store ((parts.server now).admission request "resource"
    (resourcePlugin parts) args) := keepsStore_admission keepsFiles_validateAuth
  have hrelease : ∀ claims, ((parts.server now).release "resource" (resourcePlugin parts) args
      claims).Meets (fun _ => True) (Truthful parts.opa store) := by
    intro claims
    refine Traced.Meets.bind (Traced.meets_call fun _ _ => ⟨trivial, fun _ hget => ?_⟩)
      fun response => meets_reply (fun _ _ => trivial) (fun _ _ => trivial) claims response
    exact absurd (hmethod.symm.trans hget) (by simp)
  obtain ⟨-, hcalls⟩ := hadmission s hs
  rcases Traced.run_bind_cases ((parts.server now).admission request "resource"
    (resourcePlugin parts) args) ((parts.server now).release "resource" (resourcePlugin parts) args)
      s with ⟨e, calls, t, hrun, hbind⟩ | ⟨claims, calls, t, hrun, hbind⟩
  · rw [hrun] at hcalls
    rw [hbind] at hc
    exact hcalls c hc
  · rw [hrun] at hcalls
    rw [hbind] at hc
    rcases List.mem_append.1 hc with hc | hc
    · exact hcalls c hc
    · exact (hrelease claims t trivial).2 c hc

theorem route_eq_postResourcePolicy {plugin method : String} :
    route plugin method = some .postResourcePolicy ↔
      plugin = "resource-policy" ∧ method = "POST" := by
  unfold route
  split_ifs <;> simp_all

theorem route_resource (method : String) : route "resource" method = none := by
  simp [route]

theorem requested_of_ne {opa : Opa} {rest : List String} {method : String} {body : Bytes}
    (hresource : method = "POST" → name ≠ "resource")
    (hpolicy : method = "POST" → name ≠ "resource-policy") :
    requested opa name rest method body = none := by
  rw [requested, if_neg fun h => hresource h.1 h.2, if_neg fun h => hpolicy h.1 h.2]

/-- **What one request does**: it makes the change that it asks for, for an administrator, or none,
and its calls are answered by the store. -/
theorem api_spec (hothers : OthersKeepFiles parts layout) {body : Bytes} {path : String}
    {query : Query} {rest : List String} (hpath : split path '/' = name :: rest)
    {s : ServerState ρ} (hs : Holds parts layout store s) :
    Ends parts layout store now request (requested parts.opa name rest request.method body)
        (((parts.server now).api request body path query).run s) ∧
      ∀ c ∈ (((parts.server now).api request body path query).run s).calls,
        Truthful parts.opa store c := by
  rw [ApiServer.api, hpath]
  cases hroute : route name request.method with
  | some r =>
    simp only [hroute]
    by_cases hr : r = .postResourcePolicy
    · subst hr
      obtain ⟨rfl, hmethod⟩ := route_eq_postResourcePolicy.1 hroute
      rw [hmethod]
      exact ⟨ends_setPolicy hs, (truthful_setPolicy s trivial).2⟩
    · have hkeeps : KeepsStore parts layout store
          ((parts.server now).builtInReply request body rest r) := keepsStore_builtInReply hothers hr
      refine ⟨.kept (requested_of_ne (fun _ hname => ?_) fun hmethod hname => ?_) (hkeeps s hs).1,
        (hkeeps s hs).2⟩
      · rw [hname, route_resource] at hroute
        cases hroute
      · rw [route_eq_postResourcePolicy.2 ⟨hname, hmethod⟩] at hroute
        exact hr (Option.some.inj hroute).symm
  | none =>
    have hpolicy : request.method = "POST" → name ≠ "resource-policy" := fun hmethod hname => by
      rw [route_eq_postResourcePolicy.2 ⟨hname, hmethod⟩] at hroute
      cases hroute
    simp only [hroute]
    cases hplugin : (parts.server now).pluginManager name with
    | none =>
      exact ⟨.failed hs, fun c hc => by cases hc⟩
    | some plugin =>
      dsimp only
      by_cases hput : name = "resource" ∧ request.method = "POST"
      · obtain ⟨rfl, hmethod⟩ := hput
        obtain rfl : resourcePlugin parts = plugin := by
          rw [Parts.server_pluginManager, Table.insert_self] at hplugin
          exact Option.some.inj hplugin
        rw [hmethod]
        exact ⟨ends_put ⟨body, query, rest, "POST"⟩ rfl hs,
          fun c hc => truthful_put ⟨body, query, rest, "POST"⟩ rfl hs hc⟩
      · have hkeeps : KeepsStore parts layout store ((parts.server now).pluginReply request name
            plugin ⟨body, query, rest, request.method⟩) :=
          keepsStore_pluginReply hothers hplugin fun hname hmethod => hput ⟨hname, hmethod⟩
        exact ⟨.kept (requested_of_ne (fun hmethod hname => hput ⟨hname, hmethod⟩) hpolicy)
          (hkeeps s hs).1, (hkeeps s hs).2⟩

/-- What is refused has no status of success. -/
theorem accepted_error {h : Halt} :
    ((respond (.error h)).any fun response => response.status == 200) = false := by
  cases h with
  | panic m => rfl
  | error e => cases e <;> rfl

/-- An answer of success is what the handler gave. -/
theorem respond_eq_some_accepted {result : Except Halt HttpResponse} {response : HttpResponse} :
    respond result = some response ∧ response.status = 200 ↔
      result = .ok response ∧ response.status = 200 := by
  refine and_congr_left fun hstatus => ?_
  cases result with
  | ok given => simp [respond]
  | error h =>
    refine iff_of_false (fun hrespond => ?_) (by simp)
    have herror := accepted_error (h := h)
    rw [hrespond, Option.any_some, hstatus] at herror
    cases herror

variable {s t : ServerState ρ}

/-- A change is made where it was asked for and the request is accepted. -/
theorem Ends.holds {asked : Option Change} {result : Except Halt HttpResponse}
    {calls : List (Call J)}
    (h : Ends parts layout store now request asked ⟨result, calls, t⟩) {change : Option Change}
    (hchange : change = if (respond result).any fun response => response.status == 200 then asked
      else none) :
    Holds parts layout (store.after change.toList) t ∧
      (change ≠ none → parts.admin.validateAdminToken now request = .ok ()) := by
  subst hchange
  cases h with
  | failed hstore =>
    rw [accepted_error, if_neg Bool.false_ne_true]
    exact ⟨hstore, fun h => absurd rfl h⟩
  | kept hasked hstore =>
    rw [hasked, ite_self]
    exact ⟨hstore, fun h => absurd rfl h⟩
  | made hasked hadmin hstatus hstore =>
    have haccepted : ((respond (.ok _)).any fun response => response.status == 200) = true :=
      beq_iff_eq.2 hstatus
    rw [haccepted, if_pos rfl, hasked]
    exact ⟨hstore, fun _ => hadmin⟩

variable {e : Exchange J}

/-- The step of a request. -/
theorem step_exchange (hothers : OthersKeepFiles parts layout) (hs : Holds parts layout store s)
    (hstep : (requests parts layout).Step s (.exchange e) t) :
    (Holds parts layout (store.after (e.change parts.opa).toList) t ∧
      (e.change parts.opa ≠ none → parts.admin.validateAdminToken e.now e.request = .ok ())) ∧
      e.AnsweredBy parts.opa store := by
  obtain ⟨-, result, hrun, hresponse⟩ := hstep
  obtain ⟨name, rest, hpath⟩ :=
    List.exists_cons_of_ne_nil (FileSystem.pieces_ne_nil e.path)
  rw [← ResourceDesc.split_eq_pieces] at hpath
  obtain ⟨hends, hcalls⟩ : Ends parts layout store e.now e.request
      (requested parts.opa name rest e.request.method e.body)
        (((parts.server e.now).api e.request e.body e.path e.query).run s) ∧ _ :=
    api_spec hothers hpath hs
  rw [hrun] at hends hcalls
  refine ⟨hends.holds ?_, hcalls⟩
  rw [Exchange.change, Exchange.accepted, hpath, hresponse]

/-- The token of the request is good, and the policy of the store lets its claims in. -/
def LetsIn (parts : Parts ρ A J K) (store : SecretStore) (e : Exchange J) (rest : List String)
    (s : ServerState ρ) (claims : Json) : Prop :=
  ∃ token, ApiServer.TokenOf (parts.server e.now) e.request s token ∧
    parts.tokenVerifier.verify token = .ok claims ∧
    parts.opa.decideBytes store.policy (policyData "resource" rest e.query).print claims.print =
      .ok true

/-! ## A server with one administrator -/

/-- Keys that take the token `admin`. -/
def exampleJwtSimple : JwtSimple where
  Ed25519PublicKey := Unit
  fromPem _ := .ok ()
  verifyToken _ _ token := if token = "admin" then .ok () else .error "InvalidSignature"

/-- Policies that let everyone in are those that say so. -/
def exampleOpa : Opa where
  regorus :=
    { Policy := String
      addPolicy := .ok
      fromJsonStr := fun _ => .ok (.object [])
      addData := .ok
      setInputJson := fun _ => .ok (.object [])
      evalAllow := fun policy _ _ => .ok (policy == "allow") }
  serde := ⟨fun _ _ => .error "EOF while parsing a value"⟩
  decodeError _ := "Invalid input length"
  utf8Error _ := "invalid utf-8 sequence"
  policyPath := "/policy.rego"
  defaultPolicy := "allow"

def exampleParts : Parts Unit exampleJwtSimple exampleJwt ApiServer.exampleCrypto where
  repository := ⟨"/repository"⟩
  opa := exampleOpa
  admin := .Simple [⟨"admin", ()⟩]
  otherPlugins := .empty
  attestationService :=
    { auth := fun _ s => (.bail "unavailable", s)
      attest := fun _ _ s => (.bail "unavailable", s)
      setPolicy := fun _ s => (.bail "unavailable", s)
      queryReferenceValue := fun _ s => (.bail "unavailable", s)
      registerReferenceValue := fun _ s => (.bail "unavailable", s)
      sessions := fun _ => .empty
      now := fun _ => 0 }
  tokenVerifier := ⟨⟨[], [[0, 0, 0]], false⟩, [""]⟩
  teePubKey _ := .RSA Jwe.RSA_OAEP256_ALGORITHM "AQ" "AQ"
  draw s := (⟨[7], [9], [], fun _ => ()⟩, s)
  responseToString response := .ok (Base64.encode response.ciphertext)

def exampleLayout : Layout where
  place := ["repository"]
  policyPlace := ["policy.rego"]
  policyPlace_ne desc _ := by simp [LocalFs.names]

def exampleStore : SecretStore := ⟨.empty, toUtf8 "allow"⟩

def exampleState : ServerState Unit :=
  ⟨LocalFs.exampleTree.put ["policy.rego"] (toUtf8 "allow") rfl, ()⟩

theorem exampleParts_keep : OthersKeepFiles exampleParts exampleLayout where
  auth _ _ := .refl _
  attest _ _ _ := .refl _
  setPolicy _ _ := .refl _
  queryReferenceValue _ _ := .refl _
  registerReferenceValue _ _ := .refl _
  draw _ := .refl _
  plugin name plugin h := by cases h

theorem exampleState_holds : Holds exampleParts exampleLayout exampleStore exampleState where
  base := rfl
  policyPath := rfl
  policy := rfl
  stored _ _ _ h := by cases h
  absent desc _ _ := by
    have hfiles : exampleState.fs.files =
        LocalFs.exampleTree.files.insert ["policy.rego"] (toUtf8 "allow") := rfl
    rw [hfiles, Table.insert_of_ne _ _ (by simp [exampleLayout, LocalFs.names])]
    rfl

/-- A request about a secret. -/
def exampleRun (request : HttpRequest) (body : Bytes) (s : ServerState Unit) :
    Ending (ServerState Unit) (Call exampleJwt) Halt HttpResponse :=
  ((exampleParts.server 0).api request body "resource/a/b/c" ⟨[], List.nodup_nil⟩).run s

def exampleExchange (request : HttpRequest) (body : Bytes) (s : ServerState Unit) :
    Exchange exampleJwt where
  request := request
  body := body
  path := "resource/a/b/c"
  query := ⟨[], List.nodup_nil⟩
  now := 0
  calls := (exampleRun request body s).calls
  response := respond (exampleRun request body s).result

theorem exampleExchange_step (request : HttpRequest) (body : Bytes) (s : ServerState Unit) :
    (requests exampleParts exampleLayout).Step s (.exchange (exampleExchange request body s))
      (exampleRun request body s).state := by
  refine ⟨rfl, (exampleRun request body s).result, ?_, rfl⟩
  change exampleRun request body s = _
  rfl

/-- The request of an administrator that puts a secret. -/
def examplePut : Exchange exampleJwt :=
  exampleExchange ⟨"POST", none, .ok "admin"⟩ [7] exampleState

def exampleAfterPut : ServerState Unit :=
  (exampleRun ⟨"POST", none, .ok "admin"⟩ [7] exampleState).state

theorem examplePut_run : Run (requests exampleParts exampleLayout) exampleState
    [.exchange examplePut] exampleAfterPut :=
  Run.one (exampleExchange_step _ _ _)

theorem examplePut_accepted : examplePut.accepted = true := by
  decide +kernel

theorem examplePut_changes :
    changes exampleParts.opa [.exchange examplePut] = [.put ⟨"a", "b", "c"⟩ [7]] := by
  have hpath : split "resource/a/b/c" '/' = ["resource", "a", "b", "c"] := rfl
  have hchange : examplePut.change exampleParts.opa = some (.put ⟨"a", "b", "c"⟩ [7]) := by
    change (match split "resource/a/b/c" '/' with
      | [] => none
      | plugin :: rest =>
        if examplePut.accepted then requested exampleParts.opa plugin rest "POST" [7] else none) = _
    rw [hpath, examplePut_accepted]
    rfl
  simp [changes, ServerEvent.change, hchange]

/-- The request for the secret that follows. -/
def exampleGet : Exchange exampleJwt :=
  exampleExchange ⟨"GET", none, .ok "token"⟩ [] exampleAfterPut

theorem exampleGet_step : (requests exampleParts exampleLayout).Step exampleAfterPut
    (.exchange exampleGet) (exampleRun ⟨"GET", none, .ok "token"⟩ [] exampleAfterPut).state :=
  exampleExchange_step _ _ _

/-- The token is let in. -/
theorem exampleGet_letsIn : LetsIn exampleParts (exampleStore.after [.put ⟨"a", "b", "c"⟩ [7]])
    exampleGet ["a", "b", "c"] exampleAfterPut (.object []) := by
  refine ⟨"token", .inr ⟨?_, rfl⟩, rfl, ?_⟩
  · rintro t ⟨cookie, _, _, hcookie, -⟩
    cases hcookie
  · change exampleOpa.decideBytes (toUtf8 "allow") _ _ = _
    rw [Opa.decideBytes, fromUtf8_toUtf8]
    rfl

/-! ## Runs -/

variable {events before : List (ServerEvent J)}

theorem changes_concat (opa : Opa) (events : List (ServerEvent J)) (event : ServerEvent J) :
    changes opa (events ++ [event]) = changes opa events ++ (event.change opa).toList := by
  rw [changes, List.filterMap_append, changes]
  cases h : event.change opa <;> simp [h]

theorem step_event (hothers : OthersKeepFiles parts layout) (hs : Holds parts layout store s)
    {event : ServerEvent J} (hstep : (requests parts layout).Step s event t) :
    Holds parts layout (store.after (event.change parts.opa).toList) t := by
  cases event with
  | meanwhile => exact hs.keepsFiles hstep
  | exchange e => exact (step_exchange hothers hs hstep).1.1

/-- The store after a run, by induction on it. -/
theorem Holds.run (hothers : OthersKeepFiles parts layout) (hs : Holds parts layout store s)
    (hrun : Run (requests parts layout) s events t) :
    Holds parts layout (store.after (changes parts.opa events)) t := by
  induction hrun with
  | nil => exact hs
  | snoc _ hstep ih =>
    rw [changes_concat, SecretStore.after_append]
    exact step_event hothers ih hstep

/-- **A server is a store, and administrators make its changes.** -/
theorem requests_refine (hothers : OthersKeepFiles parts layout) (hs : Holds parts layout store s)
    (hrun : Run (requests parts layout) s events t) :
    Holds parts layout (store.after (changes parts.opa events)) t ∧
      ∀ e, .exchange e ∈ events → e.change parts.opa ≠ none →
        parts.admin.validateAdminToken e.now e.request = .ok () := by
  refine ⟨hs.run hothers hrun, fun e he => ?_⟩
  obtain ⟨before, after, rfl⟩ := List.append_of_mem he
  obtain ⟨u, hbefore, hrest⟩ := hrun.split
  obtain ⟨v, hstep, -⟩ := hrest.exists_step
  exact (step_exchange hothers (hs.run hothers hbefore) hstep).1.2

theorem requests_refine_example :
    Holds exampleParts exampleLayout (exampleStore.after [.put ⟨"a", "b", "c"⟩ [7]])
        exampleAfterPut ∧
      exampleParts.admin.validateAdminToken 0 ⟨"POST", none, .ok "admin"⟩ = .ok () := by
  have hrefine := requests_refine exampleParts_keep exampleState_holds examplePut_run
  rw [examplePut_changes] at hrefine
  refine ⟨hrefine.1, hrefine.2 examplePut (by simp) fun hnone => ?_⟩
  have hchanges := examplePut_changes
  simp [changes, ServerEvent.change, hnone] at hchanges

/-- **What is answered is what was put last**: decisions are those of the policy that was set last,
and a secret is given as it was put last. -/
theorem calls_truthful (hothers : OthersKeepFiles parts layout) (hs : Holds parts layout store s)
    {after : List (ServerEvent J)}
    (hrun : Run (requests parts layout) s (before ++ .exchange e :: after) t) :
    e.AnsweredBy parts.opa (store.after (changes parts.opa before)) := by
  obtain ⟨u, hbefore, hrest⟩ := hrun.split
  obtain ⟨v, hstep, -⟩ := hrest.exists_step
  exact (step_exchange hothers (hs.run hothers hbefore) hstep).2

theorem calls_truthful_example :
    exampleGet.AnsweredBy exampleOpa (exampleStore.after [.put ⟨"a", "b", "c"⟩ [7]]) := by
  have hanswered := calls_truthful exampleParts_keep exampleState_holds
    (examplePut_run.snoc exampleGet_step)
  rwa [examplePut_changes] at hanswered

/-! ## Who gets a secret -/

theorem evaluate_eq_ok (hs : Holds parts layout store s) {input inputClaims : String} {b : Bool} :
    (parts.server now).policyEngine.evaluate input inputClaims s = (.ok b, s) ↔
      parts.opa.decideBytes store.policy input inputClaims = .ok b := by
  change (ofEngine (parts.opa.evaluate input inputClaims s.fs), s) = _ ↔ _
  rw [hs.evaluate, Prod.mk.injEq, ofEngine_eq_ok]
  exact and_iff_left rfl

/-- A request for a secret is admitted with the claims that the store lets in. -/
theorem admitted_iff_letsIn (hs : Holds parts layout store s) {rest : List String}
    (args : PluginRequest) (hargs : args = ⟨e.body, e.query, rest, "GET"⟩) {claims : Option Json} :
    (∃ calls u, ApiServer.Admitted (parts.server e.now) e.request "resource" (resourcePlugin parts)
        args s calls u claims) ↔
      ∃ verified, claims = some verified ∧ LetsIn parts store e rest s verified := by
  have hauth : (resourcePlugin parts).validateAuth args s = (.ok false, s) := by
    rw [hargs]
    rfl
  constructor
  · rintro ⟨calls, u, hadmitted⟩
    cases hadmitted with
    | admin hadmin _ =>
      rw [hauth] at hadmin
      cases hadmin
    | token hfalse htoken hverify hallow =>
      rename_i token verified
      rw [hauth] at hfalse
      cases hfalse
      obtain rfl : s = u := congrArg Prod.snd hallow
      rw [hargs] at hallow
      exact ⟨verified, rfl, token, htoken, hverify, (evaluate_eq_ok hs).1 hallow⟩
  · rintro ⟨verified, rfl, token, htoken, hverify, hallow⟩
    refine ⟨_, s, .token hauth htoken hverify ?_⟩
    rw [hargs]
    exact (evaluate_eq_ok hs).2 hallow

/-- What `handle` does for a request for a secret: it gives what the store has. -/
theorem handle_get (hs : Holds parts layout store s) {rest : List String} {desc : ResourceDesc}
    (hdesc : tryFrom (joinPath rest) = .ok desc) (body : Bytes) (query : Query) :
    ((resourcePlugin parts).handle ⟨body, query, rest, "GET"⟩ s).2 = s ∧
    ∀ data, ((resourcePlugin parts).handle ⟨body, query, rest, "GET"⟩ s).1 = .ok data ↔
      store.secrets desc = some data := by
  have hhandle : (resourcePlugin parts).handle ⟨body, query, rest, "GET"⟩ s =
      ResourceStorage.handle parts.storage ⟨body, query, rest, "GET"⟩ s := rfl
  rw [hhandle, ResourceStorage.handle, if_neg (by simp), if_pos rfl, hdesc]
  exact ⟨rfl, fun data => hs.read (tryFrom_eq_ok.1 hdesc).1⟩

/-- The run of a request for a secret. -/
theorem api_get {rest : List String} (hpath : split e.path '/' = "resource" :: rest)
    (hmethod : e.request.method = "GET") :
    (parts.server now).api e.request e.body e.path e.query =
      (parts.server now).admission e.request "resource" (resourcePlugin parts)
          ⟨e.body, e.query, rest, "GET"⟩ >>=
        (parts.server now).release "resource" (resourcePlugin parts)
          ⟨e.body, e.query, rest, "GET"⟩ := by
  have hplugin : (parts.server now).pluginManager "resource" = some (resourcePlugin parts) := by
    rw [Parts.server_pluginManager, Table.insert_self]
  rw [ApiServer.api_eq hpath hplugin (route_resource _), hmethod]

/-- What `api` answers to an admitted request for a secret that the store has. -/
theorem run_get_of_letsIn (hs : Holds parts layout store s) {rest : List String}
    {desc : ResourceDesc} (hpath : split e.path '/' = "resource" :: rest)
    (hmethod : e.request.method = "GET") (hdesc : tryFrom (joinPath rest) = .ok desc)
    {claims : Json} (hletsIn : LetsIn parts store e rest s claims) {data : Bytes}
    (hdata : store.secrets desc = some data) :
    .handle "resource" ⟨e.body, e.query, rest, "GET"⟩ (.ok data) ∈
        (((parts.server e.now).api e.request e.body e.path e.query).run s).calls ∧
      (((parts.server e.now).api e.request e.body e.path e.query).run s).result =
        (((parts.server e.now).encryptedReply claims data).run s).result := by
  obtain ⟨calls, v, hadmitted⟩ := (admitted_iff_letsIn hs _ rfl).2 ⟨claims, rfl, hletsIn⟩
  obtain rfl := state_of_admitted hadmitted
  obtain ⟨hstate, hgives⟩ := handle_get hs hdesc e.body e.query
  have hhandle : (resourcePlugin parts).handle ⟨e.body, e.query, rest, "GET"⟩ v = (.ok data, v) :=
    Prod.ext ((hgives data).2 hdata) hstate
  have hencrypted : (resourcePlugin parts).encrypted ⟨e.body, e.query, rest, "GET"⟩ v =
      (.ok true, v) := rfl
  rw [api_get hpath hmethod, Traced.run_bind_of_ok (ApiServer.admission_run.2 hadmitted)]
  obtain ⟨after, hafter, -⟩ := (parts.server e.now).run_release "resource" (resourcePlugin parts)
    ⟨e.body, e.query, rest, "GET"⟩ (some claims) v
  rw [hhandle] at hafter
  exact ⟨by rw [hafter]; exact List.mem_append_right _ List.mem_cons_self,
    ApiServer.run_release_encrypted hhandle hencrypted⟩

/-- A request for a secret that succeeds is admitted, and the store has the secret. -/
theorem letsIn_of_result (hs : Holds parts layout store s) {rest : List String}
    {desc : ResourceDesc} (hpath : split e.path '/' = "resource" :: rest)
    (hmethod : e.request.method = "GET") (hdesc : tryFrom (joinPath rest) = .ok desc)
    {response : HttpResponse}
    (h : (((parts.server e.now).api e.request e.body e.path e.query).run s).result =
      .ok response) :
    ∃ claims data, LetsIn parts store e rest s claims ∧ store.secrets desc = some data := by
  rw [api_get hpath hmethod] at h
  rcases Traced.run_bind_cases ((parts.server e.now).admission e.request "resource"
    (resourcePlugin parts) ⟨e.body, e.query, rest, "GET"⟩) ((parts.server e.now).release "resource"
      (resourcePlugin parts) ⟨e.body, e.query, rest, "GET"⟩) s with
    ⟨error, calls, v, hrun, hbind⟩ | ⟨admitted, calls, v, hrun, hbind⟩
  · rw [hbind] at h
    cases h
  · have hadmitted := ApiServer.admission_run.1 hrun
    obtain rfl := state_of_admitted hadmitted
    obtain ⟨claims, rfl, hletsIn⟩ := (admitted_iff_letsIn hs _ rfl).1 ⟨calls, v, hadmitted⟩
    rw [hbind] at h
    dsimp only at h
    rw [ApiServer.release, ApiServer.result_bind_calling] at h
    cases hgiven : ((resourcePlugin parts).handle ⟨e.body, e.query, rest, "GET"⟩ v).1 with
    | ok data => exact ⟨claims, data, hletsIn, ((handle_get hs hdesc _ _).2 data).1 hgiven⟩
    | err error => simp [hgiven, halting] at h
    | panic m => simp [hgiven, halting] at h

/-- **A secret goes to those whom the policy lets in**: a request for it succeeds exactly where its
token is good, the policy that was set last lets the token's claims in, the secret was put and there
is a key in the claims for which it is encrypted; the answer is what was put last, encrypted for
that key. The plugin is asked for the secret, and gives it, exactly where the token is let in. -/
theorem released_iff (hothers : OthersKeepFiles parts layout) (hs : Holds parts layout store s)
    {u : ServerState ρ} (hrun : Run (requests parts layout) s before u)
    (hstep : (requests parts layout).Step u (.exchange e) t) {rest : List String}
    {desc : ResourceDesc} (hpath : split e.path '/' = "resource" :: rest)
    (hmethod : e.request.method = "GET") (hdesc : tryFrom (joinPath rest) = .ok desc) :
    let current := store.after (changes parts.opa before)
    (∀ response, e.response = some response ∧ response.status = 200 ↔
      ∃ claims data key jwe text, LetsIn parts current e rest u claims ∧
        current.secrets desc = some data ∧
        parts.tokenVerifier.extractTeePublicKey claims = .ok key ∧
        Jwe.jwe K (parts.draw u).1 (parts.teePubKey key) data = .ok jwe ∧
        parts.responseToString jwe = .ok text ∧
        response = okResponse "application/json" (toUtf8 text)) ∧
    (∀ data, .handle "resource" ⟨e.body, e.query, rest, "GET"⟩ (.ok data) ∈ e.calls ↔
      current.secrets desc = some data ∧ ∃ claims, LetsIn parts current e rest u claims) ∧
    ∀ claims data, LetsIn parts current e rest u claims → current.secrets desc = some data →
      ApiServer.SealedReply (parts.server e.now) claims data u e.response := by
  intro current
  have hu : Holds parts layout current u := hs.run hothers hrun
  have htruthful := (step_exchange hothers hu hstep).2
  obtain ⟨-, result, hend, hresponse⟩ := hstep
  have hresult := congrArg Ending.result hend
  have hcalls := congrArg Ending.calls hend
  dsimp only at hresult hcalls
  refine ⟨fun response => ?_, fun data => ⟨fun hcall => ?_, ?_⟩, fun claims data hletsIn hdata => ?_⟩
  · rw [hresponse, respond_eq_some_accepted, ← hresult]
    constructor
    · rintro ⟨hok, -⟩
      obtain ⟨claims, data, hletsIn, hdata⟩ := letsIn_of_result hu hpath hmethod hdesc hok
      rw [(run_get_of_letsIn hu hpath hmethod hdesc hletsIn hdata).2] at hok
      obtain ⟨key, jwe, text, hkey, hjwe, htext, rfl⟩ := ApiServer.encryptedReply_eq_ok.1 hok
      exact ⟨claims, data, key, jwe, text, hletsIn, hdata, hkey, hjwe, htext, rfl⟩
    · rintro ⟨claims, data, key, jwe, text, hletsIn, hdata, hkey, hjwe, htext, rfl⟩
      rw [(run_get_of_letsIn hu hpath hmethod hdesc hletsIn hdata).2]
      exact ⟨ApiServer.encryptedReply_eq_ok.2 ⟨key, jwe, text, hkey, hjwe, htext, rfl⟩, rfl⟩
  · have hdata := htruthful _ hcall rfl rfl data
    obtain ⟨desc', hdesc', hdata⟩ := hdata.1 rfl
    cases hdesc.symm.trans hdesc'
    refine ⟨hdata, ?_⟩
    rw [← hcalls, api_get hpath hmethod] at hcall
    obtain ⟨claims, calls, v, hadmission, -⟩ :=
      Traced.exists_of_mem_calls_bind ApiServer.avoids_admission hcall trivial
    obtain ⟨verified, -, hletsIn⟩ := (admitted_iff_letsIn hu _ rfl).1
      ⟨calls, v, ApiServer.admission_run.1 hadmission⟩
    exact ⟨verified, hletsIn⟩
  · rintro ⟨hdata, claims, hletsIn⟩
    rw [← hcalls]
    exact (run_get_of_letsIn hu hpath hmethod hdesc hletsIn hdata).1
  · rw [hresponse, ← hresult, (run_get_of_letsIn hu hpath hmethod hdesc hletsIn hdata).2]
    exact ApiServer.sealedReply_encryptedReply claims data u

/-- The request for the secret that was put succeeds. -/
theorem released_iff_example : ∃ response, exampleGet.response = some response ∧
    response.status = 200 := by
  have hreleased := (released_iff exampleParts_keep exampleState_holds examplePut_run
    exampleGet_step (show split exampleGet.path '/' = "resource" :: ["a", "b", "c"] from rfl) rfl
    (show tryFrom (joinPath ["a", "b", "c"]) = .ok ⟨"a", "b", "c"⟩ from rfl)).1
  rw [examplePut_changes] at hreleased
  exact ⟨_, (hreleased _).2 ⟨.object [], [7], _, _, _, exampleGet_letsIn, rfl, rfl, rfl, rfl, rfl⟩⟩

end

end Trustmee.Kbs
