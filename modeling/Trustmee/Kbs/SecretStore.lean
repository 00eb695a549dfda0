import Trustmee.Kbs.ResourcePolicy
import Trustmee.Kbs.SecretRelease

/-!
# What the KBS holds

To those who use it, a KBS is a store: secrets by their descriptions, and the policy that they are
released under (`SecretStore`). What a server has on its disk is such a store (`Holds`), where the
secrets are files below the directory of the repository and the policy is a file that is none of
them. A write of a secret and a new policy change the store as they should, or not at all
(`Holds.put`, `Holds.setPolicy`), and what is read and decided is what the store says (`Holds.read`,
`Holds.evaluate`).
-/

namespace Trustmee.Kbs

open FileSystem (Grows)
open LocalFs (Stored names names_injective)
open ResourceDesc (Accepted)

/-! ## The store -/

/-- What administrators put into a KBS. -/
structure SecretStore where
  secrets : Table ResourceDesc Bytes
  /-- The policy that secrets are released under. -/
  policy : Bytes

/-- A change of the store. -/
inductive Change
  | put (desc : ResourceDesc) (data : Bytes)
  | setPolicy (policy : Bytes)

namespace SecretStore

def apply (store : SecretStore) : Change → SecretStore
  | .put desc data => { store with secrets := store.secrets.insert desc data }
  | .setPolicy policy => { store with policy := policy }

/-- The store after changes, made in their order. -/
def after (store : SecretStore) (changes : List Change) : SecretStore := changes.foldl apply store

@[simp] theorem after_nil (store : SecretStore) : store.after [] = store := rfl

theorem after_append (store : SecretStore) (changes changes' : List Change) :
    store.after (changes ++ changes') = (store.after changes).after changes' :=
  List.foldl_append

end SecretStore

/-! ## The server -/

/-- The state of a server: the files of its host, and what its parts remember. -/
structure ServerState (ρ : Type) where
  fs : FileSystem
  rest : ρ

/-- The parts of a server that keeps its secrets in files. -/
structure Parts (ρ : Type) (A : JwtSimple) (J : Jwt) (K : Jwe.Crypto) where
  repository : LocalFs
  opa : Opa
  admin : AdminBackend A
  /-- The plugins by the side of `resource`. -/
  otherPlugins : PluginManager (ServerState ρ)
  attestationService : AttestationHandlers (ServerState ρ)
  tokenVerifier : TokenVerifier J
  teePubKey : J.TeePubKey → TeePubKey
  draw : ServerState ρ → Jwe.Draws K × ServerState ρ
  responseToString : Jwe.Response → Except String String

namespace Parts

variable {ρ : Type} {A : JwtSimple} {J : Jwt} {K : Jwe.Crypto} (parts : Parts ρ A J K)

/-- The storage of the plugin `resource`. -/
def storage : StorageBackend (ServerState ρ) where
  readSecretResource desc s :=
    ((parts.repository.readSecretResource desc s.fs).1,
      { s with fs := (parts.repository.readSecretResource desc s.fs).2 })
  writeSecretResource desc data s :=
    ((parts.repository.writeSecretResource desc data s.fs).1,
      { s with fs := (parts.repository.writeSecretResource desc data s.fs).2 })

/-- The engine of the resource policy. -/
def policyEngine : PolicyEngine (ServerState ρ) where
  evaluate data inputClaims s := (ofEngine (parts.opa.evaluate data inputClaims s.fs), s)
  setPolicy request s :=
    (ofEngine (parts.opa.setPolicy request s.fs).1,
      { s with fs := (parts.opa.setPolicy request s.fs).2 })
  getPolicy s := (ofEngine (parts.opa.getPolicy s.fs), s)

/-- The server, at a time. -/
def server (now : Time) : ApiServer (ServerState ρ) J K where
  pluginManager :=
    parts.otherPlugins.insert "resource" (ResourceStorage.clientPlugin parts.storage)
  attestationService := parts.attestationService
  policyEngine := parts.policyEngine
  validateAdminToken request :=
    (parts.admin.validateAdminToken now request).mapError AdminError.display
  tokenVerifier := parts.tokenVerifier
  teePubKey := parts.teePubKey
  draw := parts.draw
  responseToString := parts.responseToString

theorem server_pluginManager (now : Time) : (parts.server now).pluginManager =
    parts.otherPlugins.insert "resource" (ResourceStorage.clientPlugin parts.storage) := rfl

end Parts

/-! ## The store on the disk -/

/-- Where the repository and the policy are. The policy is none of the files of secrets. -/
structure Layout where
  place : Place
  policyPlace : Place
  policyPlace_ne : ∀ desc, Accepted desc → policyPlace ≠ place ++ names desc

namespace Layout

variable (layout : Layout)

/-- A file that the KBS has there. -/
def Owns (p : Place) : Prop :=
  p = layout.policyPlace ∨ ∃ desc, Accepted desc ∧ p = layout.place ++ names desc

/-- Those files stay as they are. -/
structure KeepsFiles {ρ : Type} (s t : ServerState ρ) : Prop where
  grows : Grows s.fs t.fs
  files : ∀ p, layout.Owns p → t.fs.files p = s.fs.files p

theorem KeepsFiles.refl {ρ : Type} {s : ServerState ρ} : layout.KeepsFiles s s :=
  ⟨.refl _, fun _ _ => rfl⟩

end Layout

/-- A server has the store on its disk. -/
structure Holds {ρ : Type} {A : JwtSimple} {J : Jwt} {K : Jwe.Crypto} (parts : Parts ρ A J K)
    (layout : Layout) (store : SecretStore) (s : ServerState ρ) : Prop where
  base : s.fs.base parts.repository.repoDirPath = .ok layout.place
  policyPath : s.fs.resolve parts.opa.policyPath = .ok layout.policyPlace
  policy : s.fs.files layout.policyPlace = some store.policy
  stored : ∀ desc data, Accepted desc → store.secrets desc = some data →
    Stored parts.repository desc data layout.place s.fs
  absent : ∀ desc, Accepted desc → store.secrets desc = none →
    s.fs.files (layout.place ++ names desc) = none

namespace Holds

variable {ρ : Type} {A : JwtSimple} {J : Jwt} {K : Jwe.Crypto} {parts : Parts ρ A J K}
  {layout : Layout} {store : SecretStore} {s t : ServerState ρ} {desc : ResourceDesc} {data : Bytes}

/-- The store is there as long as its files are. -/
theorem keepsFiles (h : Holds parts layout store s) (hkeeps : layout.KeepsFiles s t) :
    Holds parts layout store t where
  base := hkeeps.grows.base h.base
  policyPath := hkeeps.grows.resolve h.policyPath
  policy := by rw [hkeeps.files _ (.inl rfl), h.policy]
  stored desc data haccepted hdata := by
    have hstored := h.stored desc data haccepted hdata
    refine ⟨hkeeps.grows.base h.base, hkeeps.grows.resolve hstored.resolve, ?_⟩
    rw [hkeeps.files _ (.inr ⟨desc, haccepted, rfl⟩), hstored.files]
  absent desc haccepted hnone := by
    rw [hkeeps.files _ (.inr ⟨desc, haccepted, rfl⟩), h.absent desc haccepted hnone]

/-- What is not about the files does not matter. -/
theorem rest (h : Holds parts layout store s) (hfs : t.fs = s.fs) : Holds parts layout store t :=
  h.keepsFiles ⟨hfs ▸ .refl _, fun _ _ => by rw [hfs]⟩

/-- A read finds what the store has. -/
theorem read (h : Holds parts layout store s) (haccepted : Accepted desc) :
    (parts.repository.readSecretResource desc s.fs).1 = .ok data ↔
      store.secrets desc = some data := by
  cases hdata : store.secrets desc with
  | some data' =>
    have hstored := h.stored desc data' haccepted hdata
    rw [LocalFs.readSecretResource_of_stored hstored]
    simp
  | none =>
    refine iff_of_false (fun hread => ?_) (by simp)
    rw [LocalFs.readSecretResource, Outcome.context_eq_ok, ofIo_eq_ok] at hread
    cases hresolve : s.fs.resolve (parts.repository.readPath desc) with
    | error e =>
      rw [FileSystem.read, hresolve] at hread
      cases hread
    | ok q =>
      obtain ⟨place, hplace, rfl⟩ := LocalFs.resolve_readPath haccepted hresolve
      cases h.base.symm.trans hplace
      rw [FileSystem.read_eq_ok hresolve, h.absent desc haccepted hdata] at hread
      cases hread

/-- A decision is one of the policy that the store has. -/
theorem evaluate (h : Holds parts layout store s) (input inputClaims : String) :
    parts.opa.evaluate input inputClaims s.fs =
      parts.opa.decideBytes store.policy input inputClaims :=
  Opa.evaluate_of_file h.policyPath h.policy input inputClaims

/-- **A write of a secret** puts it into the store, or it fails and the store is as it was. -/
theorem put (h : Holds parts layout store s) (haccepted : Accepted desc) {result : Outcome Unit}
    {fs : FileSystem}
    (hwrite : parts.repository.writeSecretResource desc data s.fs = (result, fs)) :
    (result ≠ .ok () ∧ Holds parts layout store { s with fs := fs }) ∨
      (result = .ok () ∧ Holds parts layout (store.apply (.put desc data)) { s with fs := fs }) := by
  obtain ⟨hgrows, ⟨hfailed, hfiles⟩ | ⟨hok, place, hstored, hfiles⟩⟩ :=
    LocalFs.writeSecretResource_spec haccepted hwrite
  · exact .inl ⟨hfailed, h.keepsFiles ⟨hgrows, fun p _ => by rw [hfiles]⟩⟩
  · cases (hgrows.base h.base).symm.trans hstored.base
    have hother : ∀ desc', desc' ≠ desc → fs.files (layout.place ++ names desc') =
        s.fs.files (layout.place ++ names desc') := by
      intro desc' hne
      rw [hfiles, Table.insert_of_ne _ _ fun heq =>
        hne (names_injective (List.append_cancel_left heq))]
    refine .inr ⟨hok, hstored.base, hgrows.resolve h.policyPath, ?_, ?_, ?_⟩
    · change fs.files layout.policyPlace = some store.policy
      rw [hfiles, Table.insert_of_ne _ _ (layout.policyPlace_ne desc haccepted), h.policy]
    · intro desc' data' haccepted' hdata'
      rcases Table.insert_eq_some hdata' with ⟨rfl, rfl⟩ | ⟨hne, hdata'⟩
      · exact hstored
      · have hstored' := h.stored desc' data' haccepted' hdata'
        refine ⟨hstored.base, hgrows.resolve hstored'.resolve, ?_⟩
        rw [hother desc' hne, hstored'.files]
    · intro desc' haccepted' hnone
      obtain ⟨hne, hnone⟩ := Table.insert_eq_none hnone
      change fs.files (layout.place ++ names desc') = none
      rw [hother desc' hne, h.absent desc' haccepted' hnone]

/-- **A new policy** is the policy of the store from then on, or it is refused and the store is as
it was. -/
theorem setPolicy (h : Holds parts layout store s) {request : Bytes}
    {result : Except KbsPolicyEngineError Unit} {fs : FileSystem}
    (hset : parts.opa.setPolicy request s.fs = (result, fs)) :
    ((∃ e, result = .error e) ∧ Holds parts layout store { s with fs := fs }) ∨
      (result = .ok () ∧ ∃ policy, parts.opa.policyOf request = .ok policy ∧
        Holds parts layout (store.apply (.setPolicy policy)) { s with fs := fs }) := by
  rcases Opa.setPolicy_spec h.policyPath hset with ⟨hfailed, rfl⟩ |
    ⟨hok, policy, hpolicy, hgrows, hfiles⟩
  · exact .inl ⟨hfailed, h⟩
  · have hother : ∀ desc', Accepted desc' → fs.files (layout.place ++ names desc') =
        s.fs.files (layout.place ++ names desc') := by
      intro desc' haccepted'
      rw [hfiles, Table.insert_of_ne _ _ (layout.policyPlace_ne desc' haccepted').symm]
    refine .inr ⟨hok, policy, hpolicy, hgrows.base h.base, hgrows.resolve h.policyPath, ?_, ?_, ?_⟩
    · change fs.files layout.policyPlace = some policy
      rw [hfiles, Table.insert_self]
    · intro desc' data' haccepted' hdata'
      have hstored' := h.stored desc' data' haccepted' hdata'
      refine ⟨hgrows.base h.base, hgrows.resolve hstored'.resolve, ?_⟩
      rw [hother desc' haccepted', hstored'.files]
    · intro desc' haccepted' hnone
      change fs.files (layout.place ++ names desc') = none
      rw [hother desc' haccepted', h.absent desc' haccepted' hnone]

end Holds

end Trustmee.Kbs
