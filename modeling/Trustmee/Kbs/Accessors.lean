import Trustmee.Kbs.Handshake

/-!
# The panic arms of the session accessors

`request` and `challenge` panic on an attested session. The first lookup of `__attest` calls them
only on a session that is not attested, but the second one calls `request` on whatever is there by
then: of two requests with one cookie, the one that is still between its lookups when the other
commits its token ends in a panic (`second_attest_panics`). These are the only panics of the
service: without such a commit no run has one (`accessors_no_panic`).
-/

namespace Trustmee.Kbs

open Transition

/-- No handler has ended in a panic. -/
def NoPanic (s : State) : Prop := ∀ r m, s.handlers r ≠ some (.done (.panic m))

/-- A request that has passed the first lookup of the session `id`, and will come to the second. -/
def WillLookUpAgain (env : Env) (id : String) : Handler → Prop
  | .attestChecked sessionId attestation _ nonce =>
    sessionId = id ∧ nonce = attestation.runtimeData.nonce ∧
      (attestation.teeEvidence.additionalEvidence = "" ∨
        ∃ l, env.parseAdditional attestation.teeEvidence.additionalEvidence = .ok l)
  | .attestAssembled sessionId _ _ => sessionId = id
  | _ => False

/-- A token is committed to a session only when no other request is between its two lookups. -/
def CommitsAlone (env : Env) (s : State) : Label → Prop
  | .attestFinish r (.ok _) => ∀ id attestation evidence,
    s.handlers r = some (.attestVerifying id attestation evidence) →
      ∀ r' h, s.handlers r' = some h → ¬ WillLookUpAgain env id h
  | _ => True

/-! ## Which stretches of code panic -/

section

variable {env : Env} {sessions : SessionMap} {now : Time} {sessionId m : String}

theorem authStart_ne_panic {body : Except String Request} : authStart env body ≠ .panic m := by
  intro h
  rcases Outcome.bind_eq_panic.1 h with h | ⟨request, -, h⟩
  · simp at h
  rcases Outcome.bind_eq_panic.1 h with h | ⟨version, -, h⟩
  · simp at h
  rcases Outcome.bind_eq_panic.1 h with h | ⟨_, -, h⟩
  · exact Outcome.ensure_ne_panic h
  · cases h

theorem authFinish_ne_panic {request : Request} {challenge : Except String Challenge}
    {id : String} : authFinish env request challenge now id ≠ .panic m := by
  intro h
  cases challenge <;> cases h

theorem attestStart_ne_panic {cookie : Option String} {attestation : Except String Attestation} :
    attestStart cookie attestation ≠ .panic m := by
  intro h
  cases cookie <;> cases attestation <;> cases h

/-- The first lookup calls the accessors on a session that is not attested. -/
theorem attestLookup_ne_panic : attestLookup sessions now sessionId ≠ .panic m := by
  intro h
  rcases Outcome.bind_eq_panic.1 h with h | ⟨session, -, h⟩
  · exact Outcome.okOr_ne_panic h
  rcases Outcome.bind_eq_panic.1 h with h | ⟨_, -, h⟩
  · exact Outcome.ensure_ne_panic h
  cases session <;> cases h

theorem assembleEvidence_ne_panic {iterate : List (Tee × Json) → List (Tee × Json)}
    {attestation : Attestation} {tee : Tee} {nonce : String} :
    assembleEvidence env iterate attestation tee nonce ≠ .panic m := by
  intro h
  rcases Outcome.bind_eq_panic.1 h with h | ⟨_, -, h⟩
  · exact Outcome.ensure_ne_panic h
  split at h
  · cases h
  · rcases Outcome.bind_eq_panic.1 h with h | ⟨_, -, h⟩
    · exact Outcome.ofExcept_ne_panic h
    · cases h

/-- **The second lookup panics exactly on an attested session.** -/
theorem attestLookupAgain_panic_iff :
    (∃ m, attestLookupAgain sessions sessionId = .panic m) ↔
      ∃ session, sessions sessionId = some session ∧ session.IsAttested := by
  constructor
  · rintro ⟨m, h⟩
    rcases Outcome.bind_eq_panic.1 h with h | ⟨session, hs, h⟩
    · exact absurd h Outcome.okOr_ne_panic
    rcases Outcome.bind_eq_panic.1 h with h | ⟨_, -, h⟩
    · exact ⟨session, Outcome.okOr_eq_ok.1 hs, SessionStatus.request_eq_panic h⟩
    · cases h
  · rintro ⟨session, hs, hattested⟩
    refine ⟨"unexpected status", ?_⟩
    rw [attestLookupAgain, hs]
    change (session.request >>= _) = _
    rw [SessionStatus.request_panic hattested]
    rfl

theorem attestFinish_ne_panic {session : SessionStatus} {token : Except String String} :
    (attestFinish session token).2 ≠ .panic m := by
  intro h
  cases token <;> cases h

theorem getAttestTokenFromSession_ne_panic :
    getAttestTokenFromSession sessions now sessionId ≠ .panic m := by
  intro h
  rcases Outcome.bind_eq_panic.1 h with h | ⟨session, -, h⟩
  · exact Outcome.okOr_ne_panic h
  rcases Outcome.bind_eq_panic.1 h with h | ⟨_, -, h⟩
  · exact Outcome.ensure_ne_panic h
  cases session <;> cases h

/-- The evidence is assembled exactly for a request that will come to the second lookup. -/
theorem assembleEvidence_ok_iff {iterate : List (Tee × Json) → List (Tee × Json)}
    {attestation : Attestation} {tee : Tee} {nonce : String} :
    (∃ evidence, assembleEvidence env iterate attestation tee nonce = .ok evidence) ↔
      WillLookUpAgain env sessionId (.attestChecked sessionId attestation tee nonce) := by
  simp only [WillLookUpAgain, true_and]
  constructor
  · rintro ⟨evidence, h⟩
    obtain ⟨_, hnonce, h⟩ := Outcome.bind_eq_ok.1 h
    refine ⟨eq_of_beq (Outcome.ensure_eq_ok.1 hnonce), ?_⟩
    split at h
    · next hempty => exact .inl (eq_of_beq hempty)
    · obtain ⟨l, hl, -⟩ := Outcome.bind_eq_ok.1 h
      exact .inr ⟨l, Outcome.ofExcept_eq_ok.1 hl⟩
  · rintro ⟨rfl, hadditional⟩
    simp only [assembleEvidence, beq_self_eq_true, Outcome.ensure, if_true, Outcome.ok_bind]
    split
    · exact ⟨_, rfl⟩
    · next hne =>
      rcases hadditional with hempty | ⟨l, hl⟩
      · simp [hempty] at hne
      · rw [hl]
        exact ⟨_, rfl⟩

end

/-! ## What a step does to the handlers -/

/-- Some session with this id is attested. -/
def AttestedAt (s : State) (id : String) : Prop :=
  ∃ session, s.sessions id = some session ∧ session.IsAttested

/-- The request `r` is between its two lookups of the session `id`. -/
def Between (env : Env) (s : State) (r : ReqId) (id : String) : Prop :=
  ∃ h, s.handlers r = some h ∧ WillLookUpAgain env id h

/-- How a step makes the request `r` go on as `h`: between the lookups it is after the first of
them, which found no attested session, or has been before; and it panics only at the second lookup
of an attested session. -/
structure GoesOn (env : Env) (s : State) (l : Label) (r : ReqId) (h : Handler) : Prop where
  between : ∀ {id}, WillLookUpAgain env id h →
    ((∃ now, l = .attestLookup r now) ∧ ¬ AttestedAt s id) ∨ Between env s r id
  panic : ∀ {m}, h = .done (.panic m) → ∃ id, Between env s r id ∧ AttestedAt s id

variable {env : Env} {s t : State} {l : Label}

/-- A handler that is neither between the lookups nor has panicked. -/
theorem GoesOn.other {r : ReqId} {h : Handler} (hw : ∀ id, ¬ WillLookUpAgain env id h)
    (hp : ∀ m, h ≠ .done (.panic m)) : GoesOn env s l r h where
  between h' := absurd h' (hw _)
  panic h' := absurd h' (hp _)

theorem GoesOn.ofOutcome {r : ReqId} {α : Type} {x : Outcome α} {f : α → Handler}
    (hx : ∀ m, x ≠ .panic m) (hf : ∀ a, x = .ok a → GoesOn env s l r (f a)) :
    GoesOn env s l r (.ofOutcome x f) := by
  cases x with
  | ok a => exact hf a rfl
  | err e => exact .other (fun _ h => h) (fun _ => by simp [Handler.ofOutcome])
  | panic m => exact absurd rfl (hx m)

theorem GoesOn.done {r : ReqId} {x : Outcome Response} (hx : ∀ m, x ≠ .panic m) :
    GoesOn env s l r (.done x) :=
  .other (fun _ h => h) fun m h => hx m (Handler.done.inj h)

/-- **What a step does to a request**: it leaves it alone, or the request goes on. -/
theorem step_handlers (hstep : Step env s l t) (r' : ReqId) :
    t.handlers r' = s.handlers r' ∨ ∃ h, t.handlers r' = some h ∧ GoesOn env s l r' h := by
  have hset : ∀ {u : State} {r : ReqId} {h : Handler}, u.handlers = s.handlers.insert r h →
      GoesOn env s l r h → u.handlers r' = s.handlers r' ∨
        ∃ h', u.handlers r' = some h' ∧ GoesOn env s l r' h' := by
    intro u r h hu hh
    rw [hu]
    by_cases hr : r' = r
    · rw [hr]
      exact .inr ⟨h, Table.insert_self _ _ _, hh⟩
    · exact .inl (Table.insert_of_ne _ _ hr)
  cases hstep with
  | recvAuth hr =>
    exact hset rfl (.ofOutcome (fun _ => authStart_ne_panic) fun _ _ =>
      .other (fun _ h => h) fun _ => Handler.noConfusion)
  | @authFinish r request challenge now id hr hid =>
    cases h : authFinish env request challenge now id with
    | ok p => exact hset rfl (.done fun _ => Outcome.ok_ne_panic)
    | err e => exact hset rfl (.done fun _ => Outcome.err_ne_panic)
    | panic m => exact absurd h authFinish_ne_panic
  | @recvAttest r cookie attestation hr =>
    cases h : attestStart cookie attestation with
    | ok p => exact hset rfl (.other (fun _ h => h) fun _ => Handler.noConfusion)
    | err e => exact hset rfl (.done fun _ => Outcome.err_ne_panic)
    | panic m => exact absurd h attestStart_ne_panic
  | @attestLookup r now sessionId attestation hr hfree =>
    refine hset rfl (.ofOutcome (fun _ => attestLookup_ne_panic) fun a ha => ?_)
    rcases a with response | ⟨tee, nonce⟩
    · exact .done fun _ => Outcome.ok_ne_panic
    · obtain ⟨request, challenge, id, timeout, hsession, -⟩ := attestLookup_inr ha
      refine ⟨fun hw => .inl ⟨⟨now, rfl⟩, ?_⟩, fun h => by cases h⟩
      obtain ⟨rfl, -⟩ := hw
      rintro ⟨session, hs, hattested⟩
      cases hsession.symm.trans hs
      exact hattested
  | @assembleEvidence r sessionId attestation tee nonce iterate hr hiter =>
    refine hset rfl (.ofOutcome (fun _ => assembleEvidence_ne_panic) fun evidence hev => ?_)
    refine ⟨fun hw => .inr ⟨_, hr, ?_⟩, fun h => by cases h⟩
    obtain rfl : sessionId = _ := hw
    exact assembleEvidence_ok_iff.1 ⟨evidence, hev⟩
  | @attestLookupAgain r sessionId attestation evidence hr hfree =>
    cases h : attestLookupAgain s.sessions sessionId with
    | ok tee => exact hset rfl (.other (fun _ h => h) fun _ => Handler.noConfusion)
    | err e => exact hset rfl (.done fun _ => Outcome.err_ne_panic)
    | panic m =>
      have hattested : AttestedAt s sessionId := attestLookupAgain_panic_iff.1 ⟨m, h⟩
      exact hset rfl ⟨fun hw => hw.elim, fun _ => ⟨sessionId, ⟨_, hr, rfl⟩, hattested⟩⟩
  | @attestFinish r sessionId attestation evidence session token hr hsession =>
    have hdone : GoesOn env s (.attestFinish r token) r (.done (attestFinish session token).2) :=
      .done fun _ => attestFinish_ne_panic
    cases token with
    | error e => exact hset rfl hdone
    | ok token => exact hset rfl hdone
  | recvGetToken hr =>
    exact hset rfl (.ofOutcome (fun _ => Outcome.okOr_ne_panic) fun _ _ =>
      .other (fun _ h => h) fun _ => Handler.noConfusion)
  | getToken hr hfree =>
    exact hset rfl (.ofOutcome (fun _ => getAttestTokenFromSession_ne_panic) fun _ _ =>
      .done fun _ => Outcome.ok_ne_panic)
  | sweep hsession hexp hfree => exact .inl rfl
  | @drop r h hr hdone =>
    have hletGo : (s.letGo h).handlers = s.handlers := by cases h <;> rfl
    exact hset (r := r) (h := .dropped) (congrArg (Table.insert · r _) hletGo)
      (.other (fun _ h => h) fun _ => Handler.noConfusion)

/-! ## Without a commit between two lookups -/

/-- No handler has panicked, and the session of a request between its lookups is not attested. -/
structure AccessorInv (env : Env) (s : State) : Prop where
  noPanic : NoPanic s
  between : ∀ {r id}, Between env s r id → ¬ AttestedAt s id

theorem AccessorInv.step (hs : AccessorInv env s) (hc : CommitsAlone env s l)
    (hstep : Step env s l t) : AccessorInv env t where
  noPanic r m h := by
    rcases step_handlers hstep r with hsame | ⟨h', ht, hgoes⟩
    · exact hs.noPanic r m (hsame.symm.trans h)
    · cases ht.symm.trans h
      obtain ⟨id, hbetween, hattested⟩ := hgoes.panic rfl
      exact hs.between hbetween hattested
  between := by
    rintro r id ⟨h, ht, hw⟩ ⟨session, hsession, hattested⟩
    -- The request was between its lookups before the step, or comes from the first one.
    have hbefore : ((∃ now, l = .attestLookup r now) ∧ ¬ AttestedAt s id) ∨
        Between env s r id := by
      rcases step_handlers hstep r with hsame | ⟨h', ht', hgoes⟩
      · exact .inr ⟨h, hsame.symm.trans ht, hw⟩
      · cases ht'.symm.trans ht
        exact hgoes.between hw
    have hnot : ¬ AttestedAt s id := by
      rcases hbefore with ⟨-, hnot⟩ | hbetween
      · exact hnot
      · exact hs.between hbetween
    rcases (step_sessions hstep id).2 with
      hsame | ⟨-, _, _, _, hauthed⟩ | hnone | ⟨_, _, _, _, _, rfl, hr, -, -⟩
    · exact hnot ⟨session, hsame.symm.trans hsession, hattested⟩
    · cases hauthed.symm.trans hsession
      exact hattested
    · cases hnone.symm.trans hsession
    · rcases hbefore with ⟨⟨_, hl⟩, -⟩ | ⟨h', hh', hw'⟩
      · cases hl
      · exact hc _ _ _ hr _ _ hh' hw'

/-- A request between its lookups of an attested session that nothing holds can go on to a panic. -/
theorem panic_of_between {r : ReqId} {id : String} (hfree : s.held id = none)
    (hattested : AttestedAt s id) (hbetween : Between env s r id) :
    ∃ tr u, Run (service env) s tr u ∧ ∃ m, u.handlers r = some (.done (.panic m)) := by
  have hsecond : ∀ {s : State} {attestation evidence}, s.held id = none → AttestedAt s id →
      s.handlers r = some (.attestAssembled id attestation evidence) →
        ∃ u, Step env s (.attestLookupAgain r) u ∧ ∃ m, u.handlers r = some (.done (.panic m)) := by
    intro s attestation evidence hfree hattested hr
    obtain ⟨m, hm⟩ := attestLookupAgain_panic_iff.2 hattested
    refine ⟨_, .attestLookupAgain hr hfree, m, ?_⟩
    rw [hm]
    exact Table.insert_self _ _ _
  obtain ⟨h, hr, hw⟩ := hbetween
  cases h with
  | attestAssembled sessionId attestation evidence =>
    obtain rfl : sessionId = id := hw
    obtain ⟨u, hstep, hpanic⟩ := hsecond hfree hattested hr
    exact ⟨_, u, .one hstep, hpanic⟩
  | attestChecked sessionId attestation tee nonce =>
    obtain rfl : sessionId = id := hw.1
    obtain ⟨evidence, hev⟩ := @assembleEvidence_ok_iff env sessionId (fun l => l) _ _ _ |>.2 hw
    have hstep : Step env s (.assembleEvidence r) _ :=
      .assembleEvidence hr fun l => List.Perm.refl ((fun l => l) l)
    rw [hev] at hstep
    obtain ⟨u, hstep', hpanic⟩ := hsecond (s := s.setHandler r _) hfree hattested
      (Table.insert_self _ _ _)
    exact ⟨_, u, (Run.one hstep).snoc hstep', hpanic⟩
  | _ => exact hw.elim

/-- A commit while another request is between its lookups leads on to a panic. -/
theorem panic_of_not_commitsAlone (hstep : Step env s l t) (hc : ¬ CommitsAlone env s l) :
    ∃ tr u, Run (service env) t tr u ∧ ¬ NoPanic u := by
  cases hstep with
  | @attestFinish r sessionId attestation evidence session token hr hsession =>
    cases token with
    | error e => exact absurd trivial hc
    | ok token =>
      simp only [CommitsAlone, not_forall, not_not] at hc
      obtain ⟨_, _, _, hr', r', h, hh, hw⟩ := hc
      cases hr'.symm.trans hr
      set t := ((((s.setSession sessionId (attestFinish session (.ok token)).1).release
        sessionId).setHandler r (.done (attestFinish session (.ok token)).2)).recordVerify
          evidence (.ok token)) with ht
      have hne : r' ≠ r := by
        rintro rfl
        cases hh.symm.trans hr
        exact hw
      have hfree : t.held sessionId = none := Table.erase_self _ _
      have hattested : AttestedAt t sessionId :=
        ⟨_, Table.insert_self _ _ _, SessionStatus.isAttested_attest _ _⟩
      have hlater : t.handlers r' = some h := (Table.insert_of_ne _ _ hne).trans hh
      obtain ⟨tr, u, hrun, m, hm⟩ := panic_of_between hfree hattested ⟨h, hlater, hw⟩
      exact ⟨tr, u, hrun, fun hno => hno _ _ hm⟩
  | _ => exact absurd trivial hc

/-- **When the accessors do not panic.** No request panics in a run whose commits all find no other
request between its lookups of the session, and every other commit can be followed by a panic. -/
theorem accessors_no_panic (env : Env) :
    (∀ tr s, AllSteps (service env) (CommitsAlone env) State.init tr s → NoPanic s) ∧
      ∀ s l t, Step env s l t → ¬ CommitsAlone env s l →
        ∃ tr u, Run (service env) t tr u ∧ ¬ NoPanic u := by
  refine ⟨fun tr s hrun => ?_, fun s l t hstep hc => panic_of_not_commitsAlone hstep hc⟩
  have hinit : AccessorInv env State.init := by
    refine ⟨fun r m h => ?_, ?_⟩
    · cases h
    · rintro r id ⟨h, hr, -⟩
      cases hr
  have hinv : AccessorInv env s := hrun.invariant (fun _ hi => by cases hi; exact hinit)
    (fun _ _ _ hs hc hstep => hs.step hc hstep) rfl
  exact hinv.noPanic

/-! Two requests with one cookie. -/

/-- The request `1` verifies its evidence while the request `2` is between its lookups. -/
theorem exists_race : ∃ s evidence session, Reachable (service exampleEnv) s ∧
    s.handlers 1 = some (.attestVerifying "id" exampleAttestation evidence) ∧
    s.handlers 2 = some (.attestAssembled "id" exampleAttestation evidence) ∧
    s.sessions "id" = some session ∧ session.cookie = ⟨"id", minutes 5⟩ ∧
    ¬ session.IsAttested := by
  have h₀ : Reachable (service exampleEnv) State.init := Reachable.init rfl
  have h₁ := h₀.step (@Step.recvAuth exampleEnv _ 0 (.ok exampleRequest) rfl)
  have h₂ := h₁.step (@Step.authFinish exampleEnv _ 0 exampleRequest (.ok exampleChallenge) 0 "id"
    rfl List.not_mem_nil)
  have h₃ := h₂.step (@Step.recvAttest exampleEnv _ 1 (some "id") (.ok exampleAttestation) rfl)
  have h₄ := h₃.step (@Step.recvAttest exampleEnv _ 2 (some "id") (.ok exampleAttestation) rfl)
  have h₅ := h₄.step (@Step.attestLookup exampleEnv _ 1 1 "id" exampleAttestation rfl rfl)
  have h₆ := h₅.step (@Step.attestLookup exampleEnv _ 2 1 "id" exampleAttestation rfl rfl)
  have h₇ := h₆.step (@Step.assembleEvidence exampleEnv _ 1 "id" exampleAttestation .Snp "bm9uY2U="
    id rfl fun _ => .refl _)
  have h₈ := h₇.step (@Step.assembleEvidence exampleEnv _ 2 "id" exampleAttestation .Snp "bm9uY2U="
    id rfl fun _ => .refl _)
  have h₉ := h₈.step (@Step.attestLookupAgain exampleEnv _ 1 "id" exampleAttestation _ rfl rfl)
  exact ⟨_, _, _, h₉, rfl, rfl, rfl, rfl, id⟩

/-- The first request gets its token, the second one ends in a panic. -/
theorem second_attest_panics : ∃ s, Reachable (service exampleEnv) s ∧
    s.handlers 1 = some (.done (.ok ⟨some ⟨"id", minutes 5⟩, .token "token"⟩)) ∧
    s.handlers 2 = some (.done (.panic "unexpected status")) ∧ ¬ NoPanic s := by
  obtain ⟨s, evidence, session, h, h₁, h₂, hs, hcookie, hauthed⟩ := exists_race
  cases session with
  | Attested => exact absurd trivial hauthed
  | Authed request challenge id timeout =>
    cases hcookie
    have hcommit := h.step (@Step.attestFinish exampleEnv _ _ _ _ _ _ (.ok "token") h₁ hs)
    have hpanic := hcommit.step (@Step.attestLookupAgain exampleEnv _ 2 "id" exampleAttestation
      evidence h₂ rfl)
    exact ⟨_, hpanic, rfl, rfl, fun hno => hno 2 "unexpected status" rfl⟩

/-- One client's handshake, and the commit of the race. -/
theorem accessors_no_panic_example :
    (∃ tr s, AllSteps (service exampleEnv) (CommitsAlone exampleEnv) State.init tr s ∧
      s.sessions "id" = some (.Attested "token" "id" (minutes 5)) ∧ NoPanic s) ∧
    ∃ t tr u, Reachable (service exampleEnv) t ∧ Run (service exampleEnv) t tr u ∧ ¬ NoPanic u := by
  constructor
  · have h₀ : AllSteps (service exampleEnv) (CommitsAlone exampleEnv) State.init [] State.init :=
      .nil
    have h₁ := h₀.step (@Step.recvAuth exampleEnv _ 0 (.ok exampleRequest) rfl) trivial
    have h₂ := h₁.step (@Step.authFinish exampleEnv _ 0 exampleRequest (.ok exampleChallenge) 0 "id"
      rfl List.not_mem_nil) trivial
    have h₃ := h₂.step (@Step.recvAttest exampleEnv _ 1 (some "id") (.ok exampleAttestation) rfl)
      trivial
    have h₄ := h₃.step (@Step.attestLookup exampleEnv _ 1 1 "id" exampleAttestation rfl rfl) trivial
    have h₅ := h₄.step (@Step.assembleEvidence exampleEnv _ 1 "id" exampleAttestation .Snp
      "bm9uY2U=" id rfl fun _ => .refl _) trivial
    have h₆ := h₅.step (@Step.attestLookupAgain exampleEnv _ 1 "id" exampleAttestation _ rfl rfl)
      trivial
    have h₇ := h₆.step (@Step.attestFinish exampleEnv _ 1 "id" exampleAttestation _ _ (.ok "token")
      rfl rfl) ?_
    · exact ⟨_, _, h₇, rfl, (accessors_no_panic exampleEnv).1 _ _ h₇⟩
    · intro id attestation evidence _ r' h hh hw
      -- The requests are `0`, which has ended, and `1`, which verifies.
      match r' with
      | 0 => cases hh; exact hw
      | 1 => cases hh; exact hw
      | r' + 2 => cases hh
  · obtain ⟨s, evidence, session, h, h₁, h₂, hs, -, -⟩ := exists_race
    have hstep := @Step.attestFinish exampleEnv _ _ _ _ _ _ (.ok "token") h₁ hs
    obtain ⟨tr, u, hrun, hpanic⟩ := (accessors_no_panic exampleEnv).2 _ _ _ hstep
      fun hc => hc _ _ _ h₁ _ _ h₂ rfl
    exact ⟨_, tr, u, h.step hstep, hrun, hpanic⟩

end Trustmee.Kbs
