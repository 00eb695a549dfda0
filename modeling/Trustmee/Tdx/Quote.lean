import Trustmee.Foundations.Bytes
import Trustmee.Foundations.Outcome

/-!
# TDX quotes

The parser of TD quotes, versions 4 and 5. It reads structures of byte arrays at fixed offsets. A
read past the end of the quote is an error, but the header and, in version 5, the type and the size
are taken as slices: there a quote that is too short is a panic.
-/

namespace Trustmee.Tdx

/-- The `n` bytes at an offset. -/
def field (b : Bytes) (offset n : ℕ) : Bytes := (b.drop offset).take n

/-- The slice `&b[from..to]`. -/
def slice (b : Bytes) (start stop : ℕ) : Outcome Bytes :=
  if stop ≤ b.length then .ok (field b start (stop - start))
  else .panic ("range end index " ++ toString stop ++ " out of range for slice of length " ++
    toString b.length)

/-- The quote header. -/
structure QuoteHeader where
  version : Bytes
  attKeyType : Bytes
  teeType : Bytes
  reserved : Bytes
  vendorId : Bytes
  userData : Bytes

/-- The report body of TDX 1.0. -/
structure ReportBody2 where
  tcbSvn : Bytes
  mrSeam : Bytes
  mrsignerSeam : Bytes
  seamAttributes : Bytes
  tdAttributes : Bytes
  xfam : Bytes
  mrTd : Bytes
  mrConfigId : Bytes
  mrOwner : Bytes
  mrOwnerConfig : Bytes
  rtmr0 : Bytes
  rtmr1 : Bytes
  rtmr2 : Bytes
  rtmr3 : Bytes
  reportData : Bytes

/-- The report body of TDX 1.5. -/
structure ReportBody2v15 extends ReportBody2 where
  teeTcbSvn2 : Bytes
  mrServicetd : Bytes

inductive QuoteV5Type
  | TDX10
  | TDX15

inductive QuoteV5Body
  | Tdx10 (body : ReportBody2)
  | Tdx15 (body : ReportBody2v15)

inductive Quote
  | V4 (header : QuoteHeader) (body : ReportBody2)
  | V5 (header : QuoteHeader) (type : QuoteV5Type) (size : Bytes) (body : QuoteV5Body)

def QUOTE_HEADER_SIZE : ℕ := 48

/-! ## Reading the structures -/

def QuoteHeader.pread (b : Bytes) (offset : ℕ) : Option QuoteHeader :=
  if offset + 48 ≤ b.length then
    some {
      version := field b offset 2
      attKeyType := field b (offset + 2) 2
      teeType := field b (offset + 4) 4
      reserved := field b (offset + 8) 4
      vendorId := field b (offset + 12) 16
      userData := field b (offset + 28) 20 }
  else none

def ReportBody2.read (b : Bytes) (offset : ℕ) : ReportBody2 where
  tcbSvn := field b offset 16
  mrSeam := field b (offset + 16) 48
  mrsignerSeam := field b (offset + 64) 48
  seamAttributes := field b (offset + 112) 8
  tdAttributes := field b (offset + 120) 8
  xfam := field b (offset + 128) 8
  mrTd := field b (offset + 136) 48
  mrConfigId := field b (offset + 184) 48
  mrOwner := field b (offset + 232) 48
  mrOwnerConfig := field b (offset + 280) 48
  rtmr0 := field b (offset + 328) 48
  rtmr1 := field b (offset + 376) 48
  rtmr2 := field b (offset + 424) 48
  rtmr3 := field b (offset + 472) 48
  reportData := field b (offset + 520) 64

def ReportBody2.pread (b : Bytes) (offset : ℕ) : Option ReportBody2 :=
  if offset + 584 ≤ b.length then some (.read b offset) else none

def ReportBody2v15.pread (b : Bytes) (offset : ℕ) : Option ReportBody2v15 :=
  if offset + 648 ≤ b.length then
    some { ReportBody2.read b offset with
      teeTcbSvn2 := field b (offset + 584) 16
      mrServicetd := field b (offset + 600) 48 }
  else none

/-- The type of a quote of version 5. -/
def QuoteV5Type.fromBytes (b : Bytes) : Outcome QuoteV5Type :=
  match b with
  | lo :: hi :: _ =>
    match lo.toNat + 256 * hi.toNat with
    | 2 => .ok .TDX10
    | 3 => .ok .TDX15
    | others => .bail ("parse QuoteV5 Type failed. " ++ toString others ++ " not defined.")
  | _ => .bail "parse QuoteV5 Type failed. Bytes length < 2 bytes"

def QuoteV5Type.asBytes : QuoteV5Type → Bytes
  | .TDX10 => [2, 0]
  | .TDX15 => [3, 0]

/-- `parse_tdx_quote`. -/
def parseTdxQuote (quoteBin : Bytes) : Outcome Quote := do
  let quoteHeader ← slice quoteBin 0 QUOTE_HEADER_SIZE
  let header ← .okOr (QuoteHeader.pread quoteHeader 0) "Parse TD quote header failed"
  if header.version = [4, 0] then
    let body ← .okOr (ReportBody2.pread quoteBin QUOTE_HEADER_SIZE) "Parse TD quote v4 body failed"
    return .V4 header body
  else if header.version = [5, 0] then
    let type ← QuoteV5Type.fromBytes (← slice quoteBin QUOTE_HEADER_SIZE (QUOTE_HEADER_SIZE + 2))
    let size ← slice quoteBin (QUOTE_HEADER_SIZE + 2) (QUOTE_HEADER_SIZE + 2 + 4)
    match type with
    | .TDX10 =>
      let body ← .okOr (ReportBody2.pread quoteBin (QUOTE_HEADER_SIZE + 2 + 4))
        "Parse TD quote v5 TDX1.0 body failed"
      return .V5 header type size (.Tdx10 body)
    | .TDX15 =>
      let body ← .okOr (ReportBody2v15.pread quoteBin (QUOTE_HEADER_SIZE + 2 + 4))
        "Parse TD quote v5 TDX1.5 body failed"
      return .V5 header type size (.Tdx15 body)
  else .bail "Quote version not defined."

/-! ## The fields of a quote -/

/-- The part of the body that all versions have. -/
def Quote.body : Quote → ReportBody2
  | .V4 _ body => body
  | .V5 _ _ _ (.Tdx10 body) => body
  | .V5 _ _ _ (.Tdx15 body) => body.toReportBody2

def Quote.reportData (q : Quote) : Bytes := q.body.reportData
def Quote.mrConfigId (q : Quote) : Bytes := q.body.mrConfigId
def Quote.rtmr0 (q : Quote) : Bytes := q.body.rtmr0
def Quote.rtmr1 (q : Quote) : Bytes := q.body.rtmr1
def Quote.rtmr2 (q : Quote) : Bytes := q.body.rtmr2
def Quote.rtmr3 (q : Quote) : Bytes := q.body.rtmr3
def Quote.tdAttributes (q : Quote) : Bytes := q.body.tdAttributes

/-- No quote is parsed from no bytes. -/
theorem parseTdxQuote_nil_ne_ok (q : Quote) : parseTdxQuote [] ≠ .ok q := by
  simp [parseTdxQuote, slice, QUOTE_HEADER_SIZE]

end Trustmee.Tdx
