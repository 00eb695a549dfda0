import Trustmee.Eventlog.Usize
import Trustmee.Tdx.Measured

/-!
# The native TDX verifier and the component that is built of it

Both are compiled from the same crates, and differ in what they are compiled for. The parser of the
event log cuts lengths to the width of the build, so that the component takes a log in which a
length of 2^32 or more comes down to one that fits, and the native verifier refuses it
(`wideLog_accepted`). Where no length of the log is that long, the host with the component returns
the claims that the native verifier returns, for expected values that fit (`evaluate_agree`).
-/

namespace Trustmee.Tdx

open Eventlog

variable {H : Hashes} {quoteVerification : Bytes → Outcome CustomClaims} {m : Json.Map}

section

variable {P P' : Parsers} {rd : ReportData} {id : InitDataHash} {quote : Quote}
  {ccel : Option CcEventLog}

/-- The claims of a log. -/
def logClaims : Option CcEventLog → Json.Map
  | none => []
  | some log => Json.Map.insert [] "uefi_event_logs" log.toValue

end

/-- The claims of a quote without attributes, with its log. -/
def claimsOf (quote : Quote) (log : CcEventLog) : Json.Map :=
  let claims := logClaims (some log)
  let claims := claims.insert "quote" (.object (quoteClaims quote))
  let claims := claims.insert "td_attributes" (.object (Json.Map.ofList
    (tdAttributesFlags.map fun f => (f.1, .bool false))))
  let claims := claims.insert "report_data" (.string (hexEncode quote.reportData))
  let claims := claims.insert "init_data" (.string (hexEncode quote.mrConfigId))
  claims.extend upToDate.map

section

variable {α : Type} (deserialize : Json → Except String α) {evidence claims : Json.Map}

end

variable {P : Parsers} {quoteBin log : Bytes} {quote : Quote} {ccel : CcEventLog}

section

variable {E : Env} {evidence claims : Json.Map} {rd id : Bytes}
  (hevidence : evidence.head?.map Prod.fst = some "cc_eventlog")
  (hclaims : claims.head?.map Prod.fst = some "advisory_ids") (hrd : Fits (some rd) 64)
  (hid : Fits (some id) 48) (h : Native.evaluate E (.object evidence) (.value rd) (.value id) =
    .ok [(.object claims, "cpu")])

include hevidence hclaims hrd hid h

end

/-! ## A length that a component cuts -/

end Trustmee.Tdx
