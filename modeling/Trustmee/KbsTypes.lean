import Trustmee.Foundations.Json

/-!
# The types of the KBS protocol

The messages of the RCAR handshake: the client sends a `Request`, the KBS answers with a
`Challenge`, and the client sends back an `Attestation` whose runtime data repeats the nonce and
binds the TEE's public key.
-/

namespace Trustmee

/-- The TEEs evidence can come from. -/
inductive Tee
  | AzSnpVtpm | AzTdxVtpm | Cca | Csv | HygonDcu | Nvidia | Sample | SampleDevice | Se | Sev | Sgx
  | Snp | Tdx | Tpm
  deriving DecidableEq

/-- The first message of the handshake. -/
structure Request where
  version : String
  tee : Tee
  extraParams : Json

/-- The answer to a `Request`. -/
structure Challenge where
  nonce : String
  extraParams : Json

/-- The runtime data of an attestation. The TEE public key is kept as the JSON it serialises to. -/
structure RuntimeData where
  nonce : String
  teePubkey : Json

/-- Evidence of the primary TEE, and the JSON text of a map with that of additional devices. -/
structure CompositeEvidence where
  primaryEvidence : Json
  additionalEvidence : String

/-- Init data as the client sends it. -/
structure InitData where
  format : String
  body : String

/-- The second message of the handshake. -/
structure Attestation where
  initData : Option InitData
  runtimeData : RuntimeData
  teeEvidence : CompositeEvidence

end Trustmee
