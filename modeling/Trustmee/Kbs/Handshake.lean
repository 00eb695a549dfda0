import Trustmee.Kbs.Backend

/-!
# The handshake invariant

What an attested session stands for, in every reachable state of the service: its token came from a
verification of evidence for the TEE of the request that made the session, under the session's own
nonce and the public key of one attestation message sent for it (`attested_session`); and the
session stays as it is until it is removed.

`__attest` reads the session, releases it, and looks it up again, so the evidence is built from an
earlier state of the session than the one that is updated. What carries over is that a session id is
given out once: `Inv.auth_unique` makes the request and the challenge a property of the id.
-/

namespace Trustmee.Kbs

open Transition

/-- What `__attest` sends to the attestation service for a session made from `request` and
`challenge`. -/
structure EvidenceFor (request : Request) (challenge : Challenge) (attestation : Attestation)
    (evidence : List IndependentEvidence) : Prop where
  head : ∃ primary additional, evidence = primary :: additional ∧ primary.tee = request.tee
  nonce : ∀ e ∈ evidence, e.runtimeData.get "nonce" = some (.string challenge.nonce)
  teePubkey : ∀ e ∈ evidence,
    e.runtimeData.get "tee-pubkey" = some attestation.runtimeData.teePubkey

/-! ## What the stretches of code establish -/

/-- The runtime data of a piece of evidence names the nonce and the key, whatever else is in it. -/
theorem get_kbsEvidenceRuntimeData (attestation : Attestation) (nonce : String) :
    (kbsEvidenceRuntimeData attestation nonce).get "nonce" = some (.string nonce) ∧
      (kbsEvidenceRuntimeData attestation nonce).get "tee-pubkey" =
        some attestation.runtimeData.teePubkey := by
  simp [kbsEvidenceRuntimeData, Json.Map.ofList, Json.Map.extend_cons, Json.Map.get_insert]

theorem get_primaryRuntimeData (attestation : Attestation) (nonce : String) :
    (primaryRuntimeData attestation nonce).get "nonce" = some (.string nonce) ∧
      (primaryRuntimeData attestation nonce).get "tee-pubkey" =
        some attestation.runtimeData.teePubkey := by
  simp [primaryRuntimeData, Json.Map.ofList, Json.Map.extend_cons, Json.Map.get_insert]

theorem authFinish_ok {env : Env} {request : Request} {challenge : Except String Challenge}
    {now : Time} {id : String} {session : SessionStatus} {response : Response}
    (h : authFinish env request challenge now id = .ok (session, response)) :
    ∃ c, challenge = .ok c ∧ session = .Authed request c id (now + minutes env.timeout) := by
  cases challenge with
  | error e => cases h
  | ok c =>
    cases h
    exact ⟨c, rfl, rfl⟩

/-- The first lookup goes on only from a session to attest, with its TEE and its nonce. -/
theorem attestLookup_inr {sessions : SessionMap} {now : Time} {sessionId : String} {tee : Tee}
    {nonce : String} (h : attestLookup sessions now sessionId = .ok (.inr (tee, nonce))) :
    ∃ request challenge id timeout,
      sessions sessionId = some (.Authed request challenge id timeout) ∧
        tee = request.tee ∧ nonce = challenge.nonce := by
  obtain ⟨session, hs, h⟩ := Outcome.bind_eq_ok.1 h
  obtain ⟨_, _, h⟩ := Outcome.bind_eq_ok.1 h
  cases session with
  | Attested token id timeout => cases h
  | Authed request challenge id timeout =>
    cases h
    exact ⟨request, challenge, id, timeout, Outcome.okOr_eq_ok.1 hs, rfl, rfl⟩

/-- The evidence is for the TEE and the nonce that were read from the session. -/
theorem assembleEvidence_ok {env : Env} {iterate : List (Tee × Json) → List (Tee × Json)}
    {attestation : Attestation} {request : Request} {challenge : Challenge}
    {evidence : List IndependentEvidence}
    (h : assembleEvidence env iterate attestation request.tee challenge.nonce = .ok evidence) :
    EvidenceFor request challenge attestation evidence := by
  have hprimary := get_primaryRuntimeData attestation challenge.nonce
  have hadditional := get_kbsEvidenceRuntimeData attestation challenge.nonce
  obtain ⟨_, _, h⟩ := Outcome.bind_eq_ok.1 h
  split at h
  · cases h
    refine ⟨⟨_, _, rfl, rfl⟩, fun e he => ?_, fun e he => ?_⟩ <;>
      rw [List.mem_singleton.1 he]
    exacts [hprimary.1, hprimary.2]
  · obtain ⟨additional, _, h⟩ := Outcome.bind_eq_ok.1 h
    cases h
    refine ⟨⟨_, _, rfl, rfl⟩, fun e he => ?_, fun e he => ?_⟩ <;>
      rcases List.mem_cons.1 he with rfl | he
    · exact hprimary.1
    · obtain ⟨p, _, rfl⟩ := List.mem_map.1 he
      exact hadditional.1
    · exact hprimary.2
    · obtain ⟨p, _, rfl⟩ := List.mem_map.1 he
      exact hadditional.2

/-! ## The invariant -/

/-- The history tells of a session `id`, of an attestation message sent for it, and the evidence was
assembled from these two. -/
def Assembled (history : List Event) (id : String) (attestation : Attestation)
    (evidence : List IndependentEvidence) : Prop :=
  .attestation id attestation ∈ history ∧
    ∃ request challenge timeout, .auth request challenge id timeout ∈ history ∧
      EvidenceFor request challenge attestation evidence

/-- What a handler knows where it waits. -/
def HandlerInv (history : List Event) : Handler → Prop
  | .attest id attestation => .attestation id attestation ∈ history
  | .attestChecked id attestation tee nonce =>
    .attestation id attestation ∈ history ∧
      ∃ request challenge timeout, .auth request challenge id timeout ∈ history ∧
        tee = request.tee ∧ nonce = challenge.nonce
  | .attestAssembled id attestation evidence => Assembled history id attestation evidence
  | .attestVerifying id attestation evidence => Assembled history id attestation evidence
  | _ => True

/-- What a session in the map stands for. -/
def SessionInv (history : List Event) (key : String) : SessionStatus → Prop
  | .Authed request challenge id timeout =>
    id = key ∧ .auth request challenge id timeout ∈ history
  | .Attested token id timeout =>
    id = key ∧ ∃ request challenge attestation evidence,
      .auth request challenge id timeout ∈ history ∧ .attestation id attestation ∈ history ∧
        .verify evidence token ∈ history ∧ EvidenceFor request challenge attestation evidence

/-- **The handshake invariant.** -/
structure Inv (s : State) : Prop where
  issued : ∀ {request challenge id timeout}, .auth request challenge id timeout ∈ s.history →
    id ∈ s.issued
  auth_unique : ∀ {request challenge id timeout request' challenge' timeout'},
    .auth request challenge id timeout ∈ s.history →
    .auth request' challenge' id timeout' ∈ s.history →
    request' = request ∧ challenge' = challenge ∧ timeout' = timeout
  handler : ∀ {r h}, s.handlers r = some h → HandlerInv s.history h
  session : ∀ {key session}, s.sessions key = some session → SessionInv s.history key session

theorem HandlerInv.mono {history history' : List Event} (hsub : history ⊆ history') {h : Handler}
    (hh : HandlerInv history h) : HandlerInv history' h := by
  cases h with
  | attest id attestation => exact hsub hh
  | attestChecked id attestation tee nonce =>
    obtain ⟨ha, request, challenge, timeout, hauth, hrest⟩ := hh
    exact ⟨hsub ha, request, challenge, timeout, hsub hauth, hrest⟩
  | attestAssembled id attestation evidence =>
    obtain ⟨ha, request, challenge, timeout, hauth, hrest⟩ := hh
    exact ⟨hsub ha, request, challenge, timeout, hsub hauth, hrest⟩
  | attestVerifying id attestation evidence =>
    obtain ⟨ha, request, challenge, timeout, hauth, hrest⟩ := hh
    exact ⟨hsub ha, request, challenge, timeout, hsub hauth, hrest⟩
  | _ => trivial

theorem SessionInv.mono {history history' : List Event} (hsub : history ⊆ history') {key : String}
    {session : SessionStatus} (hs : SessionInv history key session) :
    SessionInv history' key session := by
  cases session with
  | Authed request challenge id timeout => exact ⟨hs.1, hsub hs.2⟩
  | Attested token id timeout =>
    obtain ⟨hid, request, challenge, attestation, evidence, h₁, h₂, h₃, h₄⟩ := hs
    exact ⟨hid, request, challenge, attestation, evidence, hsub h₁, hsub h₂, hsub h₃, h₄⟩

/-- A session in the map stands under its own id, which was given out. -/
theorem SessionInv.auth_mem {history : List Event} {key : String} {session : SessionStatus}
    (hs : SessionInv history key session) : session.id = key ∧
      ∃ request challenge, .auth request challenge key session.timeout ∈ history := by
  cases session with
  | Authed request challenge id timeout =>
    obtain ⟨rfl, hauth⟩ := hs
    exact ⟨rfl, request, challenge, hauth⟩
  | Attested token id timeout =>
    obtain ⟨rfl, request, challenge, _, _, hauth, _⟩ := hs
    exact ⟨rfl, request, challenge, hauth⟩

/-! ## Every update of the state keeps the invariant -/

namespace Inv

variable {s : State}

theorem init : Inv State.init where
  issued h := by cases h
  auth_unique h := by cases h
  handler h := by cases h
  session h := by cases h

theorem setHandler (hs : Inv s) (r : ReqId) {h : Handler} (hh : HandlerInv s.history h) :
    Inv (s.setHandler r h) where
  issued := hs.issued
  auth_unique := hs.auth_unique
  handler h' := by
    rcases Table.insert_eq_some h' with ⟨-, rfl⟩ | ⟨-, h'⟩
    · exact hh
    · exact hs.handler h'
  session := hs.session

/-- An event that makes no session. -/
theorem record (hs : Inv s) {e : Event}
    (he : ∀ request challenge id timeout, e ≠ .auth request challenge id timeout) :
    Inv (s.record e) := by
  have hmem : ∀ {request challenge id timeout},
      .auth request challenge id timeout ∈ (s.record e).history →
        .auth request challenge id timeout ∈ s.history := by
    intro request challenge id timeout h
    rcases List.mem_append.1 h with h | h
    · exact h
    · exact absurd (List.mem_singleton.1 h).symm (he _ _ _ _)
  have hsub : s.history ⊆ (s.record e).history := List.subset_append_left _ _
  exact
    { issued := fun h => hs.issued (hmem h)
      auth_unique := fun h h' => hs.auth_unique (hmem h) (hmem h')
      handler := fun h => (hs.handler h).mono hsub
      session := fun h => (hs.session h).mono hsub }

theorem setSession (hs : Inv s) {key : String} {session : SessionStatus}
    (h : SessionInv s.history key session) : Inv (s.setSession key session) where
  issued := hs.issued
  auth_unique := hs.auth_unique
  handler := hs.handler
  session h' := by
    rcases Table.insert_eq_some h' with ⟨rfl, rfl⟩ | ⟨-, h'⟩
    · exact h
    · exact hs.session h'

theorem removeSession (hs : Inv s) (key : String) : Inv (s.removeSession key) where
  issued := hs.issued
  auth_unique := hs.auth_unique
  handler := hs.handler
  session h := hs.session (Table.erase_eq_some h).2

theorem hold (hs : Inv s) (id : String) (r : ReqId) : Inv (s.hold id r) :=
  ⟨hs.issued, hs.auth_unique, hs.handler, hs.session⟩

theorem release (hs : Inv s) (id : String) : Inv (s.release id) :=
  ⟨hs.issued, hs.auth_unique, hs.handler, hs.session⟩

/-- An id that was not given out names no session. -/
theorem session_of_not_issued (hs : Inv s) {id : String} (hid : id ∉ s.issued) :
    s.sessions id = none := by
  cases h : s.sessions id with
  | none => rfl
  | some session =>
    obtain ⟨-, request, challenge, hauth⟩ := (hs.session h).auth_mem
    exact absurd (hs.issued hauth) hid

/-- A new session, under a fresh id. -/
theorem newSession (hs : Inv s) {r : ReqId} {request : Request} {challenge : Challenge}
    {id : String} {timeout : Time} {response : Response} (hid : id ∉ s.issued) :
    Inv (s.afterAuth r request (.ok (.Authed request challenge id timeout, response))) := by
  have hsub : s.history ⊆ s.history ++ [.auth request challenge id timeout] :=
    List.subset_append_left _ _
  have hold : ∀ {request' challenge' id' timeout'},
      .auth request' challenge' id' timeout' ∈ s.history ++ [.auth request challenge id timeout] →
        .auth request' challenge' id' timeout' ∈ s.history ∨
          (request' = request ∧ challenge' = challenge ∧ id' = id ∧ timeout' = timeout) := by
    intro request' challenge' id' timeout' h
    rcases List.mem_append.1 h with h | h
    · exact .inl h
    · cases List.mem_singleton.1 h
      exact .inr ⟨rfl, rfl, rfl, rfl⟩
  refine { issued := fun h => ?_, auth_unique := fun h h' => ?_, handler := fun h => ?_,
           session := fun h => ?_ }
  · rcases hold h with h₁ | ⟨-, -, rfl, -⟩
    · exact List.mem_cons_of_mem _ (hs.issued h₁)
    · exact List.mem_cons_self
  · rcases hold h with h₁ | ⟨rfl, rfl, rfl, rfl⟩
    · rcases hold h' with h₂ | ⟨-, -, rfl, -⟩
      · exact hs.auth_unique h₁ h₂
      · exact absurd (hs.issued h₁) hid
    · rcases hold h' with h₂ | ⟨rfl, rfl, -, rfl⟩
      · exact absurd (hs.issued h₂) hid
      · exact ⟨rfl, rfl, rfl⟩
  · rcases Table.insert_eq_some h with ⟨-, rfl⟩ | ⟨-, h⟩
    · trivial
    · exact (hs.handler h).mono hsub
  · have hnone : s.sessions id = none := hs.session_of_not_issued hid
    change s.sessions.insertNew id _ _ = _ at h
    rw [Table.insertNew_of_none hnone] at h
    rcases Table.insert_eq_some h with ⟨rfl, rfl⟩ | ⟨-, h⟩
    · exact ⟨rfl, List.mem_append_right _ List.mem_cons_self⟩
    · exact (hs.session h).mono hsub

/-- A handler that goes on with the value of a call. -/
theorem setHandler_ofOutcome (hs : Inv s) (r : ReqId) {α : Type} (x : Outcome α) (f : α → Handler)
    (h : ∀ a, x = .ok a → HandlerInv s.history (f a)) :
    Inv (s.setHandler r (.ofOutcome x f)) := by
  cases x with
  | ok a => exact hs.setHandler r (h a rfl)
  | err e => exact hs.setHandler r trivial
  | panic m => exact hs.setHandler r trivial

/-- `attest` on a session whose id evidence was assembled for: the token of that evidence, or the
old one. -/
theorem sessionInv_attest (hs : Inv s) {key token : String} {session : SessionStatus}
    {attestation : Attestation} {evidence : List IndependentEvidence}
    (hsession : s.sessions key = some session)
    (hassembled : Assembled s.history key attestation evidence) :
    SessionInv (s.record (.verify evidence token)).history key (session.attest token) := by
  have hsub : s.history ⊆ (s.record (.verify evidence token)).history :=
    List.subset_append_left _ _
  have hinv := (hs.session hsession).mono hsub
  cases session with
  | Attested token' id timeout => exact hinv
  | Authed request challenge id timeout =>
    obtain ⟨rfl, hauth⟩ := hs.session hsession
    obtain ⟨ha, request', challenge', timeout', hauth', hev⟩ := hassembled
    obtain ⟨rfl, rfl, rfl⟩ := hs.auth_unique hauth hauth'
    exact ⟨rfl, _, _, attestation, evidence, hsub hauth, hsub ha,
      List.mem_append_right _ List.mem_cons_self, hev⟩

/-- **Every step of the service keeps the invariant.** -/
theorem step {env : Env} {l : Label} {t : State} (hs : Inv s) (hstep : Step env s l t) : Inv t := by
  cases hstep with
  | recvAuth hr => exact hs.setHandler_ofOutcome _ _ _ fun _ _ => trivial
  | @authFinish r request challenge now id hr hid =>
    cases h : authFinish env request challenge now id with
    | ok p =>
      obtain ⟨session, response⟩ := p
      obtain ⟨c, -, rfl⟩ := authFinish_ok h
      exact hs.newSession hid
    | err e => exact hs.setHandler r trivial
    | panic m => exact hs.setHandler r trivial
  | @recvAttest r cookie attestation hr =>
    cases h : attestStart cookie attestation with
    | ok p =>
      obtain ⟨id, a⟩ := p
      have hrec : Inv (s.record (.attestation id a)) := hs.record fun _ _ _ _ => Event.noConfusion
      exact hrec.setHandler r (List.mem_append_right _ List.mem_cons_self)
    | err e => exact hs.setHandler r trivial
    | panic m => exact hs.setHandler r trivial
  | @attestLookup r now sessionId attestation hr hfree =>
    refine hs.setHandler_ofOutcome _ _ _ fun a ha => ?_
    rcases a with response | ⟨tee, nonce⟩
    · trivial
    · obtain ⟨request, challenge, id, timeout, hsession, htee, hnonce⟩ := attestLookup_inr ha
      obtain ⟨rfl, hauth⟩ := hs.session hsession
      exact ⟨hs.handler hr, request, challenge, timeout, hauth, htee, hnonce⟩
  | @assembleEvidence r sessionId attestation tee nonce iterate hr hiter =>
    refine hs.setHandler_ofOutcome _ _ _ fun evidence hev => ?_
    obtain ⟨ha, request, challenge, timeout, hauth, rfl, rfl⟩ := hs.handler hr
    exact ⟨ha, request, challenge, timeout, hauth, assembleEvidence_ok hev⟩
  | @attestLookupAgain r sessionId attestation evidence hr hfree =>
    cases attestLookupAgain s.sessions sessionId with
    | ok tee =>
      have hassembled : Assembled s.history sessionId attestation evidence := hs.handler hr
      exact (hs.setHandler r (h := .attestVerifying _ _ _) hassembled).hold _ _
    | err e => exact hs.setHandler r trivial
    | panic m => exact hs.setHandler r trivial
  | @attestFinish r sessionId attestation evidence session token hr hsession =>
    have hassembled : Assembled s.history sessionId attestation evidence := hs.handler hr
    cases token with
    | error e =>
      exact ((hs.setSession (hs.session hsession)).release _).setHandler r trivial
    | ok token =>
      have hrec : Inv (s.record (.verify evidence token)) :=
        hs.record fun _ _ _ _ => Event.noConfusion
      exact ((hrec.setSession (hs.sessionInv_attest hsession hassembled)).release _).setHandler r
        trivial
  | recvGetToken hr => exact hs.setHandler_ofOutcome _ _ _ fun _ _ => trivial
  | getToken hr hfree => exact hs.setHandler_ofOutcome _ _ _ fun _ _ => trivial
  | sweep hsession hexp hfree => exact hs.removeSession _
  | @drop r h hr hdone =>
    have hletGo : Inv (s.letGo h) := by
      cases h with
      | attestVerifying => exact hs.release _
      | _ => exact hs
    exact hletGo.setHandler r trivial

end Inv

theorem reachable_inv {env : Env} {s : State} (h : Reachable (service env) s) : Inv s :=
  h.invariant (fun _ hi => hi ▸ Inv.init) fun _ _ _ hs hstep => hs.step hstep

/-! ## What a step does to the sessions -/

/-- A step leaves a session alone, or makes it under an id not yet given out, or removes it, or
attests it: only the end of a verification does. -/
theorem step_sessions {env : Env} {s t : State} {l : Label} (hstep : Step env s l t)
    (key : String) :
    s.issued ⊆ t.issued ∧
      (t.sessions key = s.sessions key ∨
        (key ∉ s.issued ∧ ∃ request challenge timeout,
          t.sessions key = some (.Authed request challenge key timeout)) ∨
        t.sessions key = none ∨
        ∃ r attestation evidence session token, l = .attestFinish r (.ok token) ∧
          s.handlers r = some (.attestVerifying key attestation evidence) ∧
          s.sessions key = some session ∧ t.sessions key = some (session.attest token)) := by
  cases hstep with
  | @authFinish r request challenge now id hr hid =>
    cases h : authFinish env request challenge now id with
    | ok p =>
      obtain ⟨session, response⟩ := p
      obtain ⟨c, -, rfl⟩ := authFinish_ok h
      refine ⟨List.subset_cons_self _ _, ?_⟩
      by_cases hkey : key = id
      · subst hkey
        cases hkey : s.sessions key with
        | none =>
          refine .inr (.inl ⟨hid, request, c, now + minutes env.timeout, ?_⟩)
          exact congrFun (Table.insertNew_of_none hkey) key |>.trans (Table.insert_self _ _ _)
        | some session => exact .inl ((Table.insertNew_of_some hkey).trans hkey)
      · exact .inl (Table.insertNew_of_ne hkey)
    | err e => exact ⟨List.Subset.refl _, .inl rfl⟩
    | panic m => exact ⟨List.Subset.refl _, .inl rfl⟩
  | @recvAttest r cookie attestation hr =>
    cases attestStart cookie attestation <;> exact ⟨List.Subset.refl _, .inl rfl⟩
  | @attestLookupAgain r sessionId attestation evidence hr hfree =>
    cases attestLookupAgain s.sessions sessionId <;> exact ⟨List.Subset.refl _, .inl rfl⟩
  | @attestFinish r sessionId attestation evidence session token hr hsession =>
    cases token with
    | error e =>
      refine ⟨List.Subset.refl _, .inl ?_⟩
      by_cases hkey : key = sessionId
      · rw [hkey, hsession]
        exact Table.insert_self _ _ _
      · exact Table.insert_of_ne _ _ hkey
    | ok token =>
      refine ⟨List.Subset.refl _, ?_⟩
      by_cases hkey : key = sessionId
      · subst hkey
        exact .inr (.inr (.inr ⟨r, attestation, evidence, session, token, rfl, hr, hsession,
          Table.insert_self _ _ _⟩))
      · exact .inl (Table.insert_of_ne _ _ hkey)
  | @sweep id now session hsession hexp hfree =>
    refine ⟨List.Subset.refl _, ?_⟩
    by_cases hkey : key = id
    · rw [hkey]
      exact .inr (.inr (.inl (Table.erase_self _ _)))
    · exact .inl (Table.erase_of_ne _ hkey)
  | @drop r h hr hdone => cases h <;> exact ⟨List.Subset.refl _, .inl rfl⟩
  | _ => exact ⟨List.Subset.refl _, .inl rfl⟩

/-- An attested session, once made, is there unchanged or has been removed for good. -/
theorem step_attested {env : Env} {s t : State} {l : Label} (hstep : Step env s l t)
    {key : String} {session : SessionStatus} (hattested : session.IsAttested)
    (hs : key ∈ s.issued ∧ (s.sessions key = none ∨ s.sessions key = some session)) :
    key ∈ t.issued ∧ (t.sessions key = none ∨ t.sessions key = some session) := by
  obtain ⟨hissued, hsession⟩ := hs
  obtain ⟨hsub, hcases⟩ := step_sessions hstep key
  refine ⟨hsub hissued, ?_⟩
  rcases hcases with hsame | ⟨hnew, -⟩ | hnone | ⟨_, _, _, session', token, -, -, hold, hattest⟩
  · rwa [hsame]
  · exact absurd hissued hnew
  · exact .inl hnone
  · rcases hsession with hsession | hsession
    · cases hsession.symm.trans hold
    · cases hsession.symm.trans hold
      rw [SessionStatus.attest_of_isAttested hattested] at hattest
      exact .inr hattest

/-! ## Attested sessions -/

/-- **What an attested session stands for.** In every reachable state, the token of an attested
session was returned for evidence made for the session's own request and challenge and one
attestation message, and every later state has the session unchanged, or no longer. -/
theorem attested_session {env : Env} {s : State} (h : Reachable (service env) s)
    {key token : String} {id : String} {timeout : Time}
    (hsession : s.sessions key = some (.Attested token id timeout)) :
    id = key ∧
    (∃ request challenge attestation evidence,
      .auth request challenge key timeout ∈ s.history ∧
      (∀ request' challenge' timeout', .auth request' challenge' key timeout' ∈ s.history →
        request' = request ∧ challenge' = challenge ∧ timeout' = timeout) ∧
      .attestation key attestation ∈ s.history ∧
      .verify evidence token ∈ s.history ∧
      EvidenceFor request challenge attestation evidence) ∧
    ∀ tr s', Run (service env) s tr s' →
      s'.sessions key = none ∨ s'.sessions key = some (.Attested token id timeout) := by
  have hinv := reachable_inv h
  obtain ⟨rfl, request, challenge, attestation, evidence, hauth, ha, hverify, hev⟩ :=
    hinv.session hsession
  refine ⟨rfl, ⟨request, challenge, attestation, evidence, hauth, ?_, ha, hverify, hev⟩, ?_⟩
  · intro request' challenge' timeout' hauth'
    exact hinv.auth_unique hauth hauth'
  · intro tr s' hrun
    let P (t : State) : Prop := id ∈ t.issued ∧
      (t.sessions id = none ∨ t.sessions id = some (.Attested token id timeout))
    have hP : ∀ s l t, P s → (service env).Step s l t → P t := fun _ _ _ hs hstep =>
      step_attested hstep trivial hs
    exact (hrun.stable hP ⟨hinv.issued hauth, .inr hsession⟩).2

/-! A handshake with one client, at the defaults of the configuration. -/

/-- Parsers that know the texts the example client sends. -/
def exampleEnv : Env where
  parseVersion text := if text = "0.4.0" then .ok ⟨0, 4, 0, "", ""⟩ else .error "invalid version"
  parseAdditional _ := .error "invalid type"
  timeout := 5

def exampleRequest : Request := ⟨"0.4.0", .Snp, .string ""⟩

def exampleChallenge : Challenge := ⟨"bm9uY2U=", .null⟩

def exampleAttestation : Attestation where
  initData := none
  runtimeData := ⟨"bm9uY2U=", .object [("kty", .string "EC")]⟩
  teeEvidence := ⟨.object [], ""⟩

theorem exists_attested_session : ∃ s, Reachable (service exampleEnv) s ∧
    s.sessions "id" = some (.Attested "token" "id" (minutes 5)) := by
  have h₀ : Reachable (service exampleEnv) State.init := Reachable.init rfl
  have h₁ := h₀.step (@Step.recvAuth exampleEnv _ 0 (.ok exampleRequest) rfl)
  have h₂ := h₁.step (@Step.authFinish exampleEnv _ 0 exampleRequest (.ok exampleChallenge) 0 "id"
    rfl List.not_mem_nil)
  have h₃ := h₂.step (@Step.recvAttest exampleEnv _ 1 (some "id") (.ok exampleAttestation) rfl)
  have h₄ := h₃.step (@Step.attestLookup exampleEnv _ 1 1 "id" exampleAttestation rfl rfl)
  have h₅ := h₄.step (@Step.assembleEvidence exampleEnv _ 1 "id" exampleAttestation .Snp "bm9uY2U="
    id rfl fun _ => .refl _)
  have h₆ := h₅.step (@Step.attestLookupAgain exampleEnv _ 1 "id" exampleAttestation _ rfl rfl)
  have h₇ := h₆.step (@Step.attestFinish exampleEnv _ 1 "id" exampleAttestation _ _ (.ok "token")
    rfl rfl)
  exact ⟨_, h₇, rfl⟩

theorem attested_session_example : ∃ s : State,
    s.sessions "id" = some (.Attested "token" "id" (minutes 5)) ∧
    ∃ request challenge attestation evidence,
      .auth request challenge "id" (minutes 5) ∈ s.history ∧
      .attestation "id" attestation ∈ s.history ∧
      EvidenceFor request challenge attestation evidence := by
  obtain ⟨s, hs, hsession⟩ := exists_attested_session
  obtain ⟨-, ⟨request, challenge, attestation, evidence, hauth, -, ha, -, hev⟩, -⟩ :=
    attested_session hs hsession
  exact ⟨s, hsession, request, challenge, attestation, evidence, hauth, ha, hev⟩

end Trustmee.Kbs
