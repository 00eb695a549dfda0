import Trustmee.Kbs.Accessors
import Trustmee.Kbs.CoCoAs
import Trustmee.Kbs.KeyBinding
import Trustmee.Kbs.SecretRelease
import Trustmee.Wasm.Atomicity
import Trustmee.Wasm.SignatureGate
import Trustmee.Wasm.Durability
import Trustmee.Foundations.Agreement
import Trustmee.Verifier.Interface
import Trustmee.Tdx.Claims
import Trustmee.Tdx.Native
import Trustmee.Tdx.Component
import Trustmee.Tdx.Agreement
import Trustmee.Tdx.Measured
import Trustmee.Snp.Native
import Trustmee.Snp.Soundness
import Trustmee.Snp.Agreement
import Trustmee.Verifier.Sample
import Trustmee.Verifier.Hygon
import Trustmee.Verifier.Se
import Trustmee.Verifier.Sgx
import Trustmee.Verifier.Vtpm
import Trustmee.Verifier.Cca
import Trustmee.Verifier.Dispatch
import Trustmee.Service.Broker
import Trustmee.Service.Evaluate
import Trustmee.Service.Binding
import Trustmee.Service.Appraised
import Trustmee.Policy.Input
import Trustmee.Policy.Engine
import Trustmee.Policy.Backends
import Trustmee.Policy.Events
import Trustmee.Foundations.FileSystem
import Trustmee.KeyValue.Interface
import Trustmee.KeyValue.Backends
import Trustmee.Rvps.ReferenceValue
import Trustmee.Rvps.Storage
import Trustmee.Rvps.Service
import Trustmee.Policy.Store
import Trustmee.KeyValue.Agreement
import Trustmee.KeyValue.PolicyEngine
import Trustmee.Policy.StoreMap
import Trustmee.Foundations.Slices
import Trustmee.Foundations.Utf16
import Trustmee.Eventlog.DevicePath
import Trustmee.Eventlog.LoadEvent
import Trustmee.Eventlog.EventData
import Trustmee.Eventlog.Encoding
import Trustmee.Eventlog.Panics
import Trustmee.Foundations.SharedFile
import Trustmee.Stores.Concurrent
import Trustmee.Nvidia.SpdmResponse
import Trustmee.Tdx.Layout
import Trustmee.Nvidia.SpdmText
import Trustmee.Nvidia.SpdmMessage
import Trustmee.Nvidia.Report
import Trustmee.Nvidia.Lossless
import Trustmee.Nvidia.Verified
import Trustmee.Nvidia.Tokens
import Trustmee.Foundations.BigNum
import Trustmee.Verifier.InitDataPcr
import Trustmee.Service.SigningKey
import Trustmee.Foundations.RegoText
import Trustmee.Service.Partition
import Trustmee.Service.TrustClaims
import Trustmee.Service.PolicyData
import Trustmee.Tdx.Collateral
import Trustmee.Tdx.Crl
import Trustmee.Foundations.Der
import Trustmee.Tdx.FetchCollateral
import Trustmee.Tdx.Fetched
import Trustmee.Tdx.Cacheable
import Trustmee.Snp.VcekUrl
import Trustmee.Snp.VcekCache
import Trustmee.Kbs.IntelTrustAuthority
import Trustmee.Kbs.ItaRequest
import Trustmee.Kbs.ResourceDesc
import Trustmee.Foundations.Directories
import Trustmee.Kbs.LocalFs
import Trustmee.Rvps.Failures
import Trustmee.Rvps.Golden
import Trustmee.Foundations.LexicalPath
import Trustmee.Rvps.InToto
import Trustmee.Rvps.TempFiles
import Trustmee.Kbs.Admin
import Trustmee.Kbs.ResourcePolicy
import Trustmee.Kbs.Requests
import Trustmee.Kbs.TokenPolicies
import Trustmee.Foundations.RegoMonotone
import Trustmee.Policy.Monotone
import Trustmee.Policy.Gpu
import Trustmee.Policy.Affirmed
import Trustmee.Policy.AffirmedTdx
import Trustmee.Foundations.ReadersWriter
import Trustmee.Service.Server
import Trustmee.Service.Snapshot
import Trustmee.Kbs.KeyRelease
import Trustmee.Verifier.VtpmSoundness
import Trustmee.Eventlog.Usize
import Trustmee.Tdx.Wasm32
