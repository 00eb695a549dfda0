import Trustmee.Kbs.Accessors
import Trustmee.Kbs.ApiServer

/-!
# The gate in front of the plugins

What `api` does for a plugin is in two parts (`pluginReply_eq`): the checks, `admission`, which call
nothing of the plugin but its answer to who has to allow the request, and the release, which starts
with `handle`. The checks succeed in two ways (`Admitted`), and only then is the plugin asked to do
anything. What it gives for the holder of a token, and wants kept for the TEE, leaves the KBS
encrypted for the key in that token's claims (`api_releases`).
-/

namespace Trustmee.Kbs

namespace ApiServer

variable {σ : Type} {J : Jwt} {K : Jwe.Crypto} (core : ApiServer σ J K) (request : HttpRequest)
  (name : String) (plugin : ClientPlugin σ) (args : PluginRequest)

/-! ## Checks and release -/

/-- The checks, with the claims of the token where one was asked for. -/
def admission : Handling σ J (Option Json) := do
  if ← calling (plugin.validateAuth args) .PluginInternalError (.validateAuth name args) then
    core.validateAdmin request
    return none
  else
    let token ← calling (fun s => (core.getAttestationToken request s, s)) (fun _ => .TokenNotFound)
      .getAttestationToken
    let claims ← calling (fun s => (core.tokenVerifier.verify token, s)) .TokenVerifierError
      (.verify token)
    let policyDataStr := (policyData name args.path args.query).print
    if ← calling (core.policyEngine.evaluate policyDataStr claims.print) .PolicyEngine
        (.evaluate policyDataStr claims.print) then
      return some claims
    else
      Traced.lift (.error (.error .PolicyDeny))

/-- What becomes of the plugin's answer. -/
def reply (claims : Option Json) (response : Bytes) : Handling σ J HttpResponse :=
  match claims with
  | none => pure (okResponse "text/xml" response)
  | some claims => do
    if ← calling (plugin.encrypted args) .PluginInternalError (.encrypted name args) then
      core.encryptedReply claims response
    else
      return okResponse "text/xml" response

/-- The release. -/
def release (claims : Option Json) : Handling σ J HttpResponse := do
  let response ← calling (plugin.handle args) .PluginInternalError (.handle name args)
  core.reply name plugin args claims response

/-- The checks come first. -/
theorem pluginReply_eq : core.pluginReply request name plugin args =
    core.admission request name plugin args >>= core.release name plugin args := by
  rw [pluginReply, admission, Traced.bind_assoc]
  congr 1
  funext admin
  cases admin with
  | true =>
    simp only [if_true, Traced.bind_assoc]
    rfl
  | false =>
    simp only [Bool.false_eq_true, if_false, Traced.bind_assoc]
    congr 1
    funext token
    congr 1
    funext claims
    congr 1
    funext allowed
    cases allowed <;> rfl

/-! ## Calls of `handle` -/

variable {core request name plugin args}

theorem avoids_calling {α : Type} {f : σ → Outcome α × σ} {toError : Error → ApiError}
    {record : Except Halt α → Call J} (h : ∀ r, ¬ (record r).IsHandle) :
    (calling f toError record).Avoids Call.IsHandle :=
  Traced.avoids_call h

theorem avoids_validateAdmin : (core.validateAdmin request).Avoids Call.IsHandle :=
  avoids_calling fun _ => not_false

theorem avoids_admission : (core.admission request name plugin args).Avoids Call.IsHandle := by
  refine Traced.Avoids.bind (avoids_calling fun _ => not_false) fun admin => ?_
  cases admin with
  | true => exact avoids_validateAdmin.bind fun _ => Traced.avoids_pure _
  | false =>
    refine Traced.Avoids.bind (avoids_calling fun _ => not_false) fun token => ?_
    refine Traced.Avoids.bind (avoids_calling fun _ => not_false) fun claims => ?_
    refine Traced.Avoids.bind (avoids_calling fun _ => not_false) fun allowed => ?_
    cases allowed with
    | true => exact Traced.avoids_pure _
    | false => exact Traced.avoids_lift _

theorem avoids_encryptedReply (claims : Json) (response : Bytes) :
    (core.encryptedReply claims response).Avoids Call.IsHandle := by
  refine Traced.Avoids.bind (avoids_calling fun _ => not_false) fun publicKey => ?_
  refine Traced.Avoids.bind (avoids_calling fun _ => not_false) fun jwe => ?_
  exact (Traced.avoids_lift _).bind fun _ => Traced.avoids_pure _

theorem avoids_reply (claims : Option Json) (response : Bytes) :
    (core.reply name plugin args claims response).Avoids Call.IsHandle := by
  cases claims with
  | none => exact Traced.avoids_pure _
  | some claims =>
    refine Traced.Avoids.bind (avoids_calling fun _ => not_false) fun encrypted => ?_
    cases encrypted with
    | true => exact avoids_encryptedReply claims response
    | false => exact Traced.avoids_pure _

theorem avoids_serving {α : Type} {r : Route} {f : σ → Outcome α × σ} {toError : Error → ApiError} :
    (serving r f toError : Handling σ J α).Avoids Call.IsHandle :=
  avoids_calling fun _ => not_false

theorem avoids_builtInReply (body : Bytes) (resourcePath : List String) (r : Route) :
    (core.builtInReply request body resourcePath r).Avoids Call.IsHandle := by
  cases r with
  | auth => exact avoids_serving
  | attest => exact avoids_serving
  | attestationPolicy | postResourcePolicy =>
    exact avoids_validateAdmin.bind fun _ => avoids_serving.bind fun _ => Traced.avoids_pure _
  | getReferenceValue | getResourcePolicy =>
    exact avoids_validateAdmin.bind fun _ => avoids_serving.bind fun _ => Traced.avoids_pure _
  | postReferenceValue =>
    exact avoids_validateAdmin.bind fun _ => (Traced.avoids_lift _).bind fun _ =>
      avoids_serving.bind fun _ => Traced.avoids_pure _

/-! ## Who is let in -/

/-- The session that the request names is attested and has not expired, and this is its token. -/
def SessionToken (core : ApiServer σ J K) (request : HttpRequest) (s : σ) (token : String) : Prop :=
  ∃ cookie id timeout, request.cookie = some cookie ∧
    core.attestationService.sessions s cookie = some (.Attested token id timeout) ∧
    core.attestationService.now s ≤ timeout

/-- The token of a request: the one of its session, or else the one that it bears. -/
def TokenOf (core : ApiServer σ J K) (request : HttpRequest) (s : σ) (token : String) : Prop :=
  SessionToken core request s token ∨
    (∀ t, ¬ SessionToken core request s t) ∧ request.bearer = .ok token

theorem getAttestTokenFromSession_eq_ok {sessions : SessionMap} {now : Time}
    {sessionId token : String} : getAttestTokenFromSession sessions now sessionId = .ok token ↔
      ∃ id timeout, sessions sessionId = some (.Attested token id timeout) ∧ now ≤ timeout := by
  simp only [getAttestTokenFromSession, Outcome.bind_eq_ok, Outcome.okOr_eq_ok,
    Outcome.ensure_eq_ok, Bool.not_eq_true']
  constructor
  · intro h
    obtain ⟨session, hsession, _, hfresh, htoken⟩ := h
    cases session with
    | Authed request challenge id timeout => exact absurd htoken Outcome.bail_ne_ok
    | Attested t id timeout =>
      cases htoken
      have hle : ¬ timeout < now := of_decide_eq_false hfresh
      exact ⟨id, timeout, hsession, Int.not_lt.1 hle⟩
  · intro h
    obtain ⟨id, timeout, hsession, hle⟩ := h
    exact ⟨_, hsession, (), decide_eq_false (Int.not_lt.2 hle), rfl⟩

theorem getAttestationToken_eq_ok {s : σ} {token : String} :
    core.getAttestationToken request s = .ok token ↔ TokenOf core request s token := by
  have hsession : ∀ t, (do
      let cookie ← Outcome.okOr request.cookie "KBS session cookie not found"
      getAttestTokenFromSession (core.attestationService.sessions s)
        (core.attestationService.now s) cookie : Outcome String) = .ok t ↔
      SessionToken core request s t := by
    intro t
    simp only [Outcome.bind_eq_ok, Outcome.okOr_eq_ok, getAttestTokenFromSession_eq_ok,
      SessionToken, exists_and_left]
  rw [getAttestationToken, TokenOf]
  split
  · next t ht =>
    rw [hsession] at ht
    have hunique : SessionToken core request s token ↔ t = token := by
      rw [← hsession] at ht ⊢
      rw [ht, Outcome.ok.injEq]
    rw [Outcome.ok.injEq, hunique, or_iff_left fun h => h.1 t ht]
  · next e he =>
    have hnone : ∀ t, ¬ SessionToken core request s t := by
      intro t ht
      rw [← hsession, he] at ht
      cases ht
    simp [hnone]
  · next m hm =>
    exfalso
    rcases Outcome.bind_eq_panic.1 hm with h | ⟨cookie, -, h⟩
    · exact Outcome.okOr_ne_panic h
    · exact getAttestTokenFromSession_ne_panic h

/-- What precedes `handle`, from a state: the calls that were made, the state that `handle` is
called in, and the claims that were let in. -/
inductive Admitted (core : ApiServer σ J K) (request : HttpRequest) (name : String)
    (plugin : ClientPlugin σ) (args : PluginRequest) (s : σ) :
    List (Call J) → σ → Option Json → Prop
  /-- The plugin wants an administrator to allow the request, and one does. -/
  | admin {t : σ} (hauth : plugin.validateAuth args s = (.ok true, t))
      (hadmin : core.validateAdminToken request = .ok ()) :
      Admitted core request name plugin args s
        [.validateAuth name args (.ok true), .validateAdminToken (.ok ())] t none
  /-- The token of the request is good, and the resource policy lets its claims in. -/
  | token {t u : σ} {token : String} {claims : Json}
      (hauth : plugin.validateAuth args s = (.ok false, t)) (htoken : TokenOf core request t token)
      (hverify : core.tokenVerifier.verify token = .ok claims)
      (hallow : core.policyEngine.evaluate (policyData name args.path args.query).print
        claims.print t = (.ok true, u)) :
      Admitted core request name plugin args s
        [.validateAuth name args (.ok false), .getAttestationToken (.ok token),
          .verify token (.ok claims),
          .evaluate (policyData name args.path args.query).print claims.print (.ok true)]
        u (some claims)

theorem halting_eq_ok {α : Type} {x : Outcome α} {f : Error → ApiError} {a : α} :
    halting x f = .ok a ↔ x = .ok a := by
  cases x <;> simp [halting]

theorem run_calling {α : Type} {f : σ → Outcome α × σ} {toError : Error → ApiError}
    {record : Except Halt α → Call J} {s t : σ} {a : α} {calls : List (Call J)} :
    (calling f toError record).run s = ⟨.ok a, calls, t⟩ ↔
      f s = (.ok a, t) ∧ calls = [record (.ok a)] := by
  simp only [calling, Traced.run_call, Ending.mk.injEq, halting_eq_ok, Prod.ext_iff]
  constructor
  · intro h
    obtain ⟨hok, rfl, hstate⟩ := h
    exact ⟨⟨hok, hstate⟩, by rw [hok, halting]⟩
  · intro h
    obtain ⟨⟨hok, hstate⟩, rfl⟩ := h
    exact ⟨hok, by rw [hok, halting], hstate⟩

/-- The checks succeed in the two ways. -/
theorem admission_run {s t : σ} {calls : List (Call J)} {claims : Option Json} :
    (core.admission request name plugin args).run s = ⟨.ok claims, calls, t⟩ ↔
      Admitted core request name plugin args s calls t claims := by
  constructor
  · intro h
    obtain ⟨admin, _, u, _, hcall, hrest, rfl⟩ := Traced.run_bind_eq_ok.1 h
    obtain ⟨hauth, rfl⟩ := run_calling.1 hcall
    cases admin with
    | true =>
      rw [if_pos rfl] at hrest
      obtain ⟨_, _, _, _, hcall, hend, rfl⟩ := Traced.run_bind_eq_ok.1 hrest
      obtain ⟨hanswer, rfl⟩ := run_calling.1 hcall
      cases hend
      obtain ⟨hadmin, rfl⟩ := Prod.ext_iff.1 hanswer
      exact .admin hauth (Outcome.ofExcept_eq_ok.1 hadmin)
    | false =>
      rw [if_neg Bool.false_ne_true] at hrest
      obtain ⟨token, _, _, _, hcall, hrest, rfl⟩ := Traced.run_bind_eq_ok.1 hrest
      obtain ⟨hanswer, rfl⟩ := run_calling.1 hcall
      obtain ⟨htoken, rfl⟩ := Prod.ext_iff.1 hanswer
      obtain ⟨claims, _, _, _, hcall, hrest, rfl⟩ := Traced.run_bind_eq_ok.1 hrest
      obtain ⟨hanswer, rfl⟩ := run_calling.1 hcall
      obtain ⟨hverify, rfl⟩ := Prod.ext_iff.1 hanswer
      obtain ⟨allowed, _, _, _, hcall, hend, rfl⟩ := Traced.run_bind_eq_ok.1 hrest
      obtain ⟨hallow, rfl⟩ := run_calling.1 hcall
      cases allowed with
      | true =>
        cases hend
        exact .token hauth (getAttestationToken_eq_ok.1 htoken) hverify hallow
      | false => cases hend
  · intro h
    cases h with
    | admin hauth hadmin =>
      refine Traced.run_bind_eq_ok.2 ⟨true, _, _, _, run_calling.2 ⟨hauth, rfl⟩, ?_, rfl⟩
      exact Traced.run_bind_eq_ok.2 ⟨(), _, _, _, run_calling.2 ⟨Prod.ext_iff.2
        ⟨Outcome.ofExcept_eq_ok.2 hadmin, rfl⟩, rfl⟩, rfl, rfl⟩
    | token hauth htoken hverify hallow =>
      refine Traced.run_bind_eq_ok.2 ⟨false, _, _, _, run_calling.2 ⟨hauth, rfl⟩, ?_, rfl⟩
      refine Traced.run_bind_eq_ok.2 ⟨_, _, _, _, run_calling.2 ⟨Prod.ext_iff.2
        ⟨getAttestationToken_eq_ok.2 htoken, rfl⟩, rfl⟩, ?_, rfl⟩
      refine Traced.run_bind_eq_ok.2 ⟨_, _, _, _, run_calling.2 ⟨Prod.ext_iff.2
        ⟨hverify, rfl⟩, rfl⟩, ?_, rfl⟩
      exact Traced.run_bind_eq_ok.2 ⟨true, _, _, _, run_calling.2 ⟨hallow, rfl⟩, rfl, rfl⟩

/-- For a resource, an administrator is asked where one is put in, and a token where it is taken
out. -/
theorem admitted_resource {backend : StorageBackend σ} {s t : σ} {before : List (Call J)}
    {claims : Option Json} (h : Admitted core request name (ResourceStorage.clientPlugin backend)
      args s before t claims) : claims = none ↔ args.method = "POST" := by
  have hauth : ∀ b u, (ResourceStorage.clientPlugin backend).validateAuth args s = (.ok b, u) →
      (args.method == "POST") = b := by
    intro b u hb
    cases hb
    rfl
  cases h with
  | admin h => simpa using hauth _ _ h
  | token h => simpa using hauth _ _ h

/-! ## What the policy knows -/

/-- The policy is asked about this plugin, this path and this query. -/
theorem get_policyData (resourcePath : List String) (query : Query) :
    (policyData name resourcePath query).get "plugin" = some (.string name) ∧
    (policyData name resourcePath query).get "resource-path" =
      some (.array (resourcePath.map .string)) ∧
    ∃ m : Json.Map, (policyData name resourcePath query).get "query" = some (.object m) ∧
      ∀ k v, Json.Map.get m k = some v ↔
        ∃ w, (k, w) ∈ query.entries ∧ v = Json.string w := by
  have hget : ∀ k, (policyData name resourcePath query).get k = if k = "query" then
      some (.object (Json.Map.ofList (query.entries.map fun p => (p.1, Json.string p.2))))
      else if k = "resource-path" then some (.array (resourcePath.map .string))
      else if k = "plugin" then some (.string name) else none := by
    intro k
    simp only [policyData, Json.get_object, Json.Map.ofList, Json.Map.extend_cons,
      Json.Map.extend_nil, Json.Map.get_insert, Json.Map.get_nil]
  refine ⟨hget _, hget _, _, hget _, ?_⟩
  intro k v
  have hkeys : (List.map Prod.fst (query.entries.map fun p => (p.1, Json.string p.2))).Nodup := by
    rw [List.map_map]
    exact query.nodup
  rw [Json.Map.ofList, Json.Map.get_extend_eq_some hkeys]
  simp [eq_comm]

/-! ## What leaves the KBS -/

/-- What a client may see of an answer that is for the TEE: its encryption for the key in the
claims, or the text of an error, which is the same for all answers, or nothing. -/
def SealedReply (core : ApiServer σ J K) (claims : Json) (response : Bytes) (s : σ)
    (seen : Option HttpResponse) : Prop :=
  (∃ key jwe text, core.tokenVerifier.extractTeePublicKey claims = .ok key ∧
    Jwe.jwe K (core.draw s).1 (core.teePubKey key) response = .ok jwe ∧
    core.responseToString jwe = .ok text ∧
    seen = some (okResponse "application/json" (toUtf8 text))) ∨
  (∃ e ∈ [ApiError.TokenVerifierError [], .JweError [], .SerdeError ""],
    seen = some (errorResponse e)) ∨
  seen = none

theorem result_bind_calling {α β : Type} {f : σ → Outcome α × σ} {toError : Error → ApiError}
    {record : Except Halt α → Call J} {k : α → Handling σ J β} {s : σ} :
    ((calling f toError record >>= k).run s).result =
      match halting (f s).1 toError with
      | .ok a => ((k a).run (f s).2).result
      | .error h => .error h := by
  have hrun : (calling f toError record).run s =
      ⟨halting (f s).1 toError, [record (halting (f s).1 toError)], (f s).2⟩ := rfl
  cases h : halting (f s).1 toError with
  | ok a => rw [Traced.run_bind_of_ok (hrun.trans (by rw [h]))]
  | error e => rw [Traced.run_bind_of_error (hrun.trans (by rw [h]))]

theorem result_bind_lift {α β : Type} {r : Except Halt α} {k : α → Handling σ J β} {s : σ} :
    ((Traced.lift r >>= k).run s).result =
      match r with
      | .ok a => ((k a).run s).result
      | .error h => .error h := by
  cases r with
  | ok a => rw [Traced.run_bind_of_ok (Traced.run_lift _)]
  | error e => rw [Traced.run_bind_of_error (Traced.run_lift _)]

theorem sealedReply_encryptedReply (claims : Json) (response : Bytes) (s : σ) :
    SealedReply core claims response s
      (respond ((core.encryptedReply claims response).run s).result) := by
  rw [encryptedReply, result_bind_calling]
  cases hkey : core.tokenVerifier.extractTeePublicKey claims with
  | panic m => exact .inr (.inr rfl)
  | err e => exact .inr (.inl ⟨.TokenVerifierError [], by simp, rfl⟩)
  | ok key =>
    simp only [halting, result_bind_calling]
    cases hjwe : Jwe.jwe K (core.draw s).1 (core.teePubKey key) response with
    | panic m => exact .inr (.inr rfl)
    | err e => exact .inr (.inl ⟨.JweError [], by simp, rfl⟩)
    | ok jwe =>
      simp only [result_bind_lift]
      cases htext : core.responseToString jwe with
      | error e => exact .inr (.inl ⟨.SerdeError "", by simp, rfl⟩)
      | ok text => exact .inl ⟨key, jwe, text, hkey, hjwe, htext, rfl⟩

/-- When an answer for the TEE is given: the claims have a key, and the answer is encrypted for it
and written out. -/
theorem encryptedReply_eq_ok {claims : Json} {response : Bytes} {s : σ} {reply : HttpResponse} :
    ((core.encryptedReply claims response).run s).result = .ok reply ↔
      ∃ key jwe text, core.tokenVerifier.extractTeePublicKey claims = .ok key ∧
        Jwe.jwe K (core.draw s).1 (core.teePubKey key) response = .ok jwe ∧
        core.responseToString jwe = .ok text ∧
        reply = okResponse "application/json" (toUtf8 text) := by
  rw [encryptedReply, result_bind_calling]
  constructor
  · intro h
    cases hkey : core.tokenVerifier.extractTeePublicKey claims with
    | panic m => simp [hkey, halting] at h
    | err e => simp [hkey, halting] at h
    | ok key =>
      simp only [hkey, halting, result_bind_calling] at h
      cases hjwe : Jwe.jwe K (core.draw s).1 (core.teePubKey key) response with
      | panic m => simp [hjwe] at h
      | err e => simp [hjwe] at h
      | ok jwe =>
        simp only [hjwe, result_bind_lift] at h
        cases htext : core.responseToString jwe with
        | error e => simp [htext, Outcome.ofExcept] at h
        | ok text =>
          rw [htext] at h
          cases h
          exact ⟨key, jwe, text, rfl, hjwe, htext, rfl⟩
  · rintro ⟨key, jwe, text, hkey, hjwe, htext, rfl⟩
    simp only [hkey, halting, result_bind_calling, hjwe, result_bind_lift, htext]
    rfl

/-- Answers that AES-GCM makes the same of look the same. -/
theorem encryptedReply_congr {claims : Json} {response response' : Bytes} {s : σ}
    (h : Jwe.SealedAlike K (core.draw s).1 response response') :
    ((core.encryptedReply claims response).run s).result =
      ((core.encryptedReply claims response').run s).result := by
  simp only [encryptedReply, result_bind_calling, Jwe.jwe_congr h]

variable (core name plugin args) in
/-- A run of the release starts with `handle`, and calls it once. -/
theorem run_release (claims : Option Json) (s : σ) : ∃ after,
    ((core.release name plugin args claims).run s).calls =
      .handle name args (halting (plugin.handle args s).1 .PluginInternalError) :: after ∧
    ∀ c ∈ after, ¬ c.IsHandle := by
  have hrun : (calling (plugin.handle args) .PluginInternalError (.handle name args) :
      Handling σ J Bytes).run s = ⟨halting (plugin.handle args s).1 .PluginInternalError,
        [.handle name args (halting (plugin.handle args s).1 .PluginInternalError)],
        (plugin.handle args s).2⟩ := rfl
  cases h : halting (plugin.handle args s).1 .PluginInternalError with
  | ok response =>
    rw [h] at hrun
    refine ⟨((core.reply name plugin args claims response).run (plugin.handle args s).2).calls, ?_,
      avoids_reply claims response _⟩
    rw [release, Traced.run_bind_of_ok hrun]
    rfl
  | error e =>
    rw [h] at hrun
    refine ⟨[], ?_, by simp⟩
    rw [release, Traced.run_bind_of_error hrun]

/-- The answer of a run of the release that is for the TEE. -/
theorem run_release_encrypted {claims : Json} {s t u : σ} {response : Bytes}
    (hhandle : plugin.handle args s = (.ok response, t))
    (hencrypted : plugin.encrypted args t = (.ok true, u)) :
    ((core.release name plugin args (some claims)).run s).result =
      ((core.encryptedReply claims response).run u).result := by
  simp only [release, reply, result_bind_calling, hhandle, hencrypted, halting, if_true]

/-- The run of `api`, where the path names a plugin and the KBS has no arm of its own. -/
theorem api_eq {body : Bytes} {path : String} {query : Query} {rest : List String}
    (hpath : split path '/' = name :: rest) (hplugin : core.pluginManager name = some plugin)
    (hroute : route name request.method = none) : core.api request body path query =
      core.admission request name plugin ⟨body, query, rest, request.method⟩ >>=
        core.release name plugin ⟨body, query, rest, request.method⟩ := by
  rw [← pluginReply_eq, api, hpath]
  simp only [hroute, hplugin]

/-- **A plugin does something only for those who are let in**: for an administrator where it asks
for one, and otherwise for a token that is good and that the resource policy lets in for this very
plugin, path and query. What it gives for such a token and wants kept for the TEE leaves encrypted
for the key in the token's claims, and answers that AES-GCM makes the same of look the same. -/
theorem api_releases (core : ApiServer σ J K) (request : HttpRequest) (body : Bytes) (path : String)
    (query : Query) (s : σ) {name : String} {rest : List String} {plugin : ClientPlugin σ}
    (hpath : split path '/' = name :: rest) (hplugin : core.pluginManager name = some plugin) :
    let args : PluginRequest := ⟨body, query, rest, request.method⟩
    let run := (core.api request body path query).run s
    ((∃ c ∈ run.calls, c.IsHandle) ↔ route name request.method = none ∧
      ∃ before t claims, Admitted core request name plugin args s before t claims) ∧
    ∀ before t claims, route name request.method = none →
      Admitted core request name plugin args s before t claims →
      (∃ after, run.calls = before ++
          .handle name args (halting (plugin.handle args t).1 .PluginInternalError) :: after ∧
        ∀ c ∈ before ++ after, ¬ c.IsHandle) ∧
      ∀ verified response u v, claims = some verified →
        plugin.handle args t = (.ok response, u) → plugin.encrypted args u = (.ok true, v) →
        SealedReply core verified response v (respond run.result) ∧
        ∀ response', Jwe.SealedAlike K (core.draw v).1 response response' →
          respond ((core.encryptedReply verified response').run v).result =
            respond run.result := by
  intro args run
  have hadmitted : ∀ before t claims, route name request.method = none →
      Admitted core request name plugin args s before t claims →
      run.result = ((core.release name plugin args claims).run t).result ∧
      run.calls = before ++ ((core.release name plugin args claims).run t).calls := by
    intro before t claims hroute h
    have hrun := Traced.run_bind_of_ok (f := core.release name plugin args) (admission_run.2 h)
    rw [← api_eq hpath hplugin hroute] at hrun
    have hresult := congrArg Ending.result hrun
    have hcalls := congrArg Ending.calls hrun
    exact ⟨hresult, hcalls⟩
  refine ⟨⟨?_, ?_⟩, ?_⟩
  · rintro ⟨c, hc, hhandle⟩
    cases hroute : route name request.method with
    | some r =>
      have hrun : core.api request body path query = core.builtInReply request body rest r := by
        rw [api, hpath]
        simp only [hroute]
      change c ∈ ((core.api request body path query).run s).calls at hc
      rw [hrun] at hc
      exact absurd hhandle (avoids_builtInReply body rest r s c hc)
    | none =>
      change c ∈ ((core.api request body path query).run s).calls at hc
      rw [api_eq hpath hplugin hroute] at hc
      obtain ⟨claims, before, t, hadmission, -⟩ :=
        Traced.exists_of_mem_calls_bind avoids_admission hc hhandle
      exact ⟨rfl, before, t, claims, admission_run.1 hadmission⟩
  · rintro ⟨hroute, before, t, claims, h⟩
    obtain ⟨after, hafter, -⟩ := core.run_release name plugin args claims t
    refine ⟨.handle name args (halting (plugin.handle args t).1 .PluginInternalError), ?_, trivial⟩
    rw [(hadmitted before t claims hroute h).2, hafter]
    exact List.mem_append_right _ List.mem_cons_self
  · intro before t claims hroute h
    obtain ⟨hresult, hcalls⟩ := hadmitted before t claims hroute h
    constructor
    · obtain ⟨after, hafter, havoids⟩ := core.run_release name plugin args claims t
      refine ⟨after, by rw [hcalls, hafter], ?_⟩
      intro c hc
      rcases List.mem_append.1 hc with hc | hc
      · have hrun : ∀ c ∈ ((core.admission request name plugin args).run s).calls, ¬ c.IsHandle :=
          avoids_admission s
        rw [admission_run.2 h] at hrun
        exact hrun c hc
      · exact havoids c hc
    · intro verified response u v hclaims hhandle hencrypted
      subst hclaims
      rw [hresult, run_release_encrypted hhandle hencrypted]
      refine ⟨sealedReply_encryptedReply verified response v, ?_⟩
      intro response' halike
      rw [encryptedReply_congr halike]

/-! ## A release -/

/-- Cryptography that hides the length of the payload alone. -/
def exampleCrypto : Jwe.Crypto where
  generateAad _ := .ok []
  aesGcm _ _ _ payload := .ok (payload.map fun _ => 0, [])
  RsaPublicKey := ℕ × ℕ
  newRsaPublicKey n e := .ok (n, e)
  rsaEncrypt _ _ _ key := .ok key
  PublicKey := Unit
  fromAffineCoordinates _ _ _ := none
  EphemeralSecret := Unit
  diffieHellman _ _ _ := []
  coordinates _ _ := (none, none)
  deriveKey _ _ := .error "unavailable"
  wrap _ _ := .error "unavailable"

/-- A storage with one secret. -/
def exampleBackend : StorageBackend Unit where
  readSecretResource _ s := (.ok [1, 2, 3], s)
  writeSecretResource _ _ s := (.ok (), s)

/-- A server with the resource plugin that lets every good token in. -/
def exampleServer : ApiServer Unit exampleJwt exampleCrypto where
  pluginManager := Table.empty.insert "resource" (ResourceStorage.clientPlugin exampleBackend)
  attestationService :=
    { auth := fun _ s => (.bail "unavailable", s)
      attest := fun _ _ s => (.bail "unavailable", s)
      setPolicy := fun _ s => (.bail "unavailable", s)
      queryReferenceValue := fun _ s => (.bail "unavailable", s)
      registerReferenceValue := fun _ s => (.bail "unavailable", s)
      sessions := fun _ => .empty
      now := fun _ => 0 }
  policyEngine :=
    { evaluate := fun _ _ s => (.ok true, s)
      setPolicy := fun _ s => (.bail "unavailable", s)
      getPolicy := fun s => (.bail "unavailable", s) }
  validateAdminToken _ := .error "Admin endpoints disabled."
  tokenVerifier := ⟨⟨[], [[0, 0, 0]], false⟩, [""]⟩
  teePubKey _ := .RSA Jwe.RSA_OAEP256_ALGORITHM "AQ" "AQ"
  draw s := (⟨[7], [9], [], fun _ => ()⟩, s)
  responseToString response := .ok (Base64.encode response.ciphertext)

/-- A request for the secret, with a token. -/
def exampleRequest : HttpRequest := ⟨"GET", none, .ok "token"⟩

theorem exampleServer_admitted (args : PluginRequest) (hmethod : args.method = "GET") : Admitted
    exampleServer exampleRequest "resource" (ResourceStorage.clientPlugin exampleBackend) args ()
    [.validateAuth "resource" args (.ok false), .getAttestationToken (.ok "token"),
      .verify "token" (.ok (.object [])),
      .evaluate (policyData "resource" args.path args.query).print (Json.object []).print (.ok true)]
    () (some (.object [])) := by
  refine .token ?_ (.inr ⟨?_, rfl⟩) rfl rfl
  · change (Outcome.ok (args.method == "POST"), ()) = _
    rw [hmethod]
    rfl
  · rintro t ⟨cookie, _, _, hcookie, -⟩
    cases hcookie

/-- The secret is released, encrypted, for a token that is good. -/
theorem api_releases_example :
    (∃ c ∈ ((exampleServer.api exampleRequest [] "resource/a/b/c" ⟨[], List.nodup_nil⟩).run ()).calls,
      c.IsHandle) ∧
    respond ((exampleServer.api exampleRequest [] "resource/a/b/c"
      ⟨[], List.nodup_nil⟩).run ()).result =
        some (okResponse "application/json" (toUtf8 (Base64.encode [0, 0, 0]))) ∧
    ∀ response', response'.length = 3 →
      respond ((exampleServer.encryptedReply (.object []) response').run ()).result =
        some (okResponse "application/json" (toUtf8 (Base64.encode [0, 0, 0]))) := by
  have hreleases := api_releases exampleServer exampleRequest [] "resource/a/b/c"
    ⟨[], List.nodup_nil⟩ ()
    (show split "resource/a/b/c" '/' = "resource" :: ["a", "b", "c"] from rfl) rfl
  have hadmitted := exampleServer_admitted ⟨[], ⟨[], List.nodup_nil⟩, ["a", "b", "c"], "GET"⟩ rfl
  have hseen : respond ((exampleServer.api exampleRequest [] "resource/a/b/c"
      ⟨[], List.nodup_nil⟩).run ()).result =
        some (okResponse "application/json" (toUtf8 (Base64.encode [0, 0, 0]))) := rfl
  refine ⟨hreleases.1.2 ⟨rfl, _, _, _, hadmitted⟩, hseen, ?_⟩
  intro response' hlength
  rw [← hseen]
  refine ((hreleases.2 _ _ _ rfl hadmitted).2 _ [1, 2, 3] () () rfl rfl rfl).2 response' ?_
  intro aad
  change Except.ok ([1, 2, 3].map fun _ => (0 : UInt8), ([] : Bytes)) =
    Except.ok (response'.map fun _ => 0, [])
  rw [List.map_const', List.map_const', hlength]
  rfl

end ApiServer

end Trustmee.Kbs
