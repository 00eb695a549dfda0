import Trustmee.Tdx.Measured

/-!
# The layouts of TDX quotes

A quote of version 4 has its report body behind the header; one of version 5 has a type and a size
there, and behind them the body of TDX 1.0 or of TDX 1.5. The parser accepts the strings that have
one of these layouts, and what it gives, and what the claims print, are the bytes at the places of
the layout. It panics on strings that end inside the header, the type or the size
(`parseTdxQuote_exact`).
-/

namespace Trustmee.Tdx

/-! ## Regions -/

/-- A field of a structure, under its name in the claims. -/
structure Region where
  name : String
  offset : ℕ
  size : ℕ

/-- The fields of the quote header. -/
def headerLayout : List Region :=
  [⟨"version", 0, 2⟩, ⟨"att_key_type", 2, 2⟩, ⟨"tee_type", 4, 4⟩, ⟨"reserved", 8, 4⟩,
   ⟨"vendor_id", 12, 16⟩, ⟨"user_data", 28, 20⟩]

/-- The fields of the report body of TDX 1.0. -/
def bodyLayout : List Region :=
  [⟨"tcb_svn", 0, 16⟩, ⟨"mr_seam", 16, 48⟩, ⟨"mrsigner_seam", 64, 48⟩, ⟨"seam_attributes", 112, 8⟩,
   ⟨"td_attributes", 120, 8⟩, ⟨"xfam", 128, 8⟩, ⟨"mr_td", 136, 48⟩, ⟨"mr_config_id", 184, 48⟩,
   ⟨"mr_owner", 232, 48⟩, ⟨"mr_owner_config", 280, 48⟩, ⟨"rtmr_0", 328, 48⟩, ⟨"rtmr_1", 376, 48⟩,
   ⟨"rtmr_2", 424, 48⟩, ⟨"rtmr_3", 472, 48⟩, ⟨"report_data", 520, 64⟩]

/-- The fields that TDX 1.5 adds to the report body. -/
def addedLayout : List Region := [⟨"tee_tcb_svn2", 584, 16⟩, ⟨"mr_servicetd", 600, 48⟩]

/-- A field of the structure that starts at a place of the quote, in hexadecimal. -/
def Region.claim (b : Bytes) (start : ℕ) (r : Region) : String × Json :=
  hexClaim r.name (field b (start + r.offset) r.size)

/-- The fields of a structure. -/
def regionClaims (b : Bytes) (start : ℕ) (layout : List Region) : Json.Map :=
  .ofList (layout.map (Region.claim b start))

theorem get_regionClaims {b : Bytes} {start : ℕ} {layout : List Region}
    (hnodup : (layout.map Region.name).Nodup) {r : Region} (hr : r ∈ layout) :
    Json.Map.get (regionClaims b start layout) r.name =
      some (.string (hexEncode (field b (start + r.offset) r.size))) := by
  refine (Json.Map.get_extend_eq_some ?_).2 (.inl (List.mem_map_of_mem hr))
  rw [List.map_map]
  exact hnodup

/-! ## Layouts -/

/-- The layouts of quotes: by the version, and in version 5 by the type of the body. -/
inductive Layout
  | v4
  | v5 (type : QuoteV5Type)

namespace Layout

/-- Where the report body starts. -/
def bodyStart : Layout → ℕ
  | v4 => 48
  | v5 _ => 54

/-- The fields of the report body. -/
def body : Layout → List Region
  | v4 => bodyLayout
  | v5 .TDX10 => bodyLayout
  | v5 .TDX15 => bodyLayout ++ addedLayout

/-- How many bytes a quote has, but for the signature. -/
def length : Layout → ℕ
  | v4 => 632
  | v5 .TDX10 => 638
  | v5 .TDX15 => 702

/-- A string has the version and the type of the layout, and is long enough for it. -/
def Matches (b : Bytes) : Layout → Prop
  | v4 => field b 0 2 = [4, 0] ∧ v4.length ≤ b.length
  | v5 type => field b 0 2 = [5, 0] ∧ field b 48 2 = type.asBytes ∧ (v5 type).length ≤ b.length

/-- What the claims print of a quote. -/
def quoteClaims (b : Bytes) (layout : Layout) : Json.Map :=
  let structures :=
    [("header", .object (regionClaims b 0 headerLayout)),
     ("body", .object (regionClaims b layout.bodyStart layout.body))]
  match layout with
  | v4 => .ofList structures
  | v5 _ => .ofList (hexClaim "type" (field b 48 2) :: hexClaim "size" (field b 50 4) :: structures)

end Layout

/-! ## What the parser reads -/

variable {b : Bytes}

/-- The header of a quote. -/
def QuoteHeader.read (b : Bytes) : QuoteHeader where
  version := field b 0 2
  attKeyType := field b 2 2
  teeType := field b 4 4
  reserved := field b 8 4
  vendorId := field b 12 16
  userData := field b 28 20

/-- The body of a quote of version 5. -/
def QuoteV5Body.read (b : Bytes) : QuoteV5Type → QuoteV5Body
  | .TDX10 => .Tdx10 (.read b 54)
  | .TDX15 => .Tdx15 { ReportBody2.read b 54 with
      teeTcbSvn2 := field b 638 16
      mrServicetd := field b 654 48 }

/-- The quote that a string of the layout holds. -/
def Layout.quote (b : Bytes) : Layout → Quote
  | v4 => .V4 (.read b) (.read b 48)
  | v5 type => .V5 (.read b) type (field b 50 4) (.read b type)

theorem length_field {offset n : ℕ} (h : offset + n ≤ b.length) :
    (field b offset n).length = n := by
  rw [field, List.length_take, List.length_drop]
  omega

theorem slice_of_le {start stop : ℕ} (h : stop ≤ b.length) :
    slice b start stop = .ok (field b start (stop - start)) := if_pos h

theorem slice_of_lt {start stop : ℕ} (h : b.length < stop) : ¬ (slice b start stop).Returns :=
  fun hreturns => hreturns _ (if_neg (Nat.not_le.2 h))

theorem pread_quoteHeader (h : 48 ≤ b.length) :
    QuoteHeader.pread (field b 0 48) 0 = some (.read b) := by
  have hfield : ∀ offset n, offset + n ≤ 48 →
      field (field b 0 48) offset n = field b offset n := by
    intro offset n hle
    rw [field_slice hle, Nat.zero_add]
  rw [QuoteHeader.pread, if_pos (length_field h).ge]
  simp only [Nat.zero_add, hfield _ _ (show 0 + 2 ≤ 48 by omega),
    hfield _ _ (show 2 + 2 ≤ 48 by omega), hfield _ _ (show 4 + 4 ≤ 48 by omega),
    hfield _ _ (show 8 + 4 ≤ 48 by omega), hfield _ _ (show 12 + 16 ≤ 48 by omega),
    hfield _ _ (show 28 + 20 ≤ 48 by omega), QuoteHeader.read]

/-- Two bytes are the type that they write. -/
theorem fromBytes_eq_ok {x : Bytes} (h : x.length = 2) {type : QuoteV5Type} :
    QuoteV5Type.fromBytes x = .ok type ↔ x = type.asBytes := by
  obtain ⟨lo, hi, rfl⟩ := List.length_eq_two.1 h
  constructor
  · intro hok
    unfold QuoteV5Type.fromBytes at hok
    have hlo := lo.toNat_lt
    have hhi := hi.toNat_lt
    dsimp only at hok
    split at hok
    · next h2 =>
      cases hok
      obtain rfl : hi = 0 := UInt8.toNat_inj.1 (by simp; omega)
      obtain rfl : lo = 2 := UInt8.toNat_inj.1 (by simp at h2 ⊢; omega)
      rfl
    · next h3 =>
      cases hok
      obtain rfl : hi = 0 := UInt8.toNat_inj.1 (by simp; omega)
      obtain rfl : lo = 3 := UInt8.toNat_inj.1 (by simp at h3 ⊢; omega)
      rfl
    · exact absurd hok Outcome.bail_ne_ok
  · intro hx
    rw [hx]
    cases type with
    | TDX10 => rfl
    | TDX15 => rfl

theorem returns_fromBytes (x : Bytes) : (QuoteV5Type.fromBytes x).Returns := by
  unfold QuoteV5Type.fromBytes
  split
  · split
    · exact Outcome.returns_ok _
    · exact Outcome.returns_ok _
    · exact Outcome.returns_bail _
  · exact Outcome.returns_bail _

/-- The body that is read behind the type and the size. -/
def preadV5Body (b : Bytes) : QuoteV5Type → Outcome QuoteV5Body
  | .TDX10 => do
    let body ← .okOr (ReportBody2.pread b 54) "Parse TD quote v5 TDX1.0 body failed"
    return .Tdx10 body
  | .TDX15 => do
    let body ← .okOr (ReportBody2v15.pread b 54) "Parse TD quote v5 TDX1.5 body failed"
    return .Tdx15 body

theorem preadV5Body_eq_ok {type : QuoteV5Type} {body : QuoteV5Body} :
    preadV5Body b type = .ok body ↔ (Layout.v5 type).length ≤ b.length ∧ body = .read b type := by
  cases type with
  | TDX10 =>
    simp only [preadV5Body, Outcome.bind_eq_ok, Outcome.okOr_eq_ok, Outcome.pure_eq,
      Outcome.ok.injEq, ReportBody2.pread, Option.ite_none_right_eq_some, Option.some.injEq,
      Layout.length, QuoteV5Body.read]
    constructor
    · rintro ⟨_, ⟨hlen, rfl⟩, rfl⟩
      exact ⟨hlen, rfl⟩
    · rintro ⟨hlen, rfl⟩
      exact ⟨_, ⟨hlen, rfl⟩, rfl⟩
  | TDX15 =>
    simp only [preadV5Body, Outcome.bind_eq_ok, Outcome.okOr_eq_ok, Outcome.pure_eq,
      Outcome.ok.injEq, ReportBody2v15.pread, Option.ite_none_right_eq_some, Option.some.injEq,
      Layout.length, QuoteV5Body.read]
    constructor
    · rintro ⟨_, ⟨hlen, rfl⟩, rfl⟩
      exact ⟨hlen, rfl⟩
    · rintro ⟨hlen, rfl⟩
      exact ⟨_, ⟨hlen, rfl⟩, rfl⟩

theorem returns_preadV5Body (type : QuoteV5Type) : (preadV5Body b type).Returns := by
  cases type with
  | TDX10 => exact (Outcome.returns_okOr _ _).bind fun _ _ => Outcome.returns_ok _
  | TDX15 => exact (Outcome.returns_okOr _ _).bind fun _ _ => Outcome.returns_ok _

/-- The part of a quote of version 5 behind the header. -/
def parseV5 (b : Bytes) : Outcome Quote := do
  let typeBytes ← slice b 48 50
  let type ← QuoteV5Type.fromBytes typeBytes
  let size ← slice b 50 54
  let body ← preadV5Body b type
  return .V5 (.read b) type size body

theorem parseTdxQuote_of_le (h : 48 ≤ b.length) : parseTdxQuote b =
    if field b 0 2 = [4, 0] then
      Outcome.okOr (ReportBody2.pread b 48) "Parse TD quote v4 body failed" >>=
        fun body => .ok (.V4 (.read b) body)
    else if field b 0 2 = [5, 0] then parseV5 b
    else .bail "Quote version not defined." := by
  rw [parseTdxQuote, QUOTE_HEADER_SIZE, slice_of_le h, Outcome.ok_bind, pread_quoteHeader h,
    Outcome.okOr, Outcome.ok_bind]
  refine if_congr Iff.rfl rfl (if_congr Iff.rfl ?_ rfl)
  rw [parseV5]
  congr 1
  funext typeBytes
  congr 1
  funext type
  congr 1
  funext size
  cases type with
  | TDX10 => simp only [preadV5Body, Outcome.bind_assoc, Outcome.pure_eq, Outcome.ok_bind]
  | TDX15 => simp only [preadV5Body, Outcome.bind_assoc, Outcome.pure_eq, Outcome.ok_bind]

theorem parseV5_eq_ok {q : Quote} : parseV5 b = .ok q ↔
    ∃ type : QuoteV5Type, field b 48 2 = type.asBytes ∧ (Layout.v5 type).length ≤ b.length ∧
      q = (Layout.v5 type).quote b := by
  have hlong : ∀ type : QuoteV5Type, 54 ≤ (Layout.v5 type).length := by
    intro type
    cases type <;> decide
  constructor
  · intro h
    simp only [parseV5, Outcome.bind_eq_ok, Outcome.pure_eq, Outcome.ok.injEq] at h
    obtain ⟨typeBytes, hslice, type, htype, size, hsize, body, hbody, rfl⟩ := h
    obtain ⟨hlen, rfl⟩ := preadV5Body_eq_ok.1 hbody
    have hle := (hlong type).trans hlen
    rw [slice_of_le (by omega), Outcome.ok.injEq] at hslice hsize
    subst hslice hsize
    exact ⟨type, (fromBytes_eq_ok (length_field (by omega))).1 htype, hlen, rfl⟩
  · rintro ⟨type, htype, hlen, rfl⟩
    have hle := (hlong type).trans hlen
    rw [parseV5, slice_of_le (by omega), Outcome.ok_bind,
      (fromBytes_eq_ok (length_field (by omega))).2 htype, Outcome.ok_bind, slice_of_le (by omega),
      Outcome.ok_bind, preadV5Body_eq_ok.2 ⟨hlen, rfl⟩, Outcome.ok_bind]
    rfl

/-- The strings that do not end inside the header, or inside the type or the size. -/
def LongEnough (b : Bytes) : Prop :=
  48 ≤ b.length ∧ (field b 0 2 = [5, 0] → 50 ≤ b.length ∧
    ∀ type : QuoteV5Type, field b 48 2 = type.asBytes → 54 ≤ b.length)

theorem returns_parseV5_iff : (parseV5 b).Returns ↔
    50 ≤ b.length ∧ ∀ type : QuoteV5Type, field b 48 2 = type.asBytes → 54 ≤ b.length := by
  constructor
  · intro h
    obtain ⟨hslice, hrest⟩ := Outcome.returns_bind_iff.1 h
    have hlen : 50 ≤ b.length := by
      by_contra hlt
      exact slice_of_lt (by omega) hslice
    refine ⟨hlen, fun type htype => ?_⟩
    obtain ⟨-, hsize⟩ := Outcome.returns_bind_iff.1 (hrest _ (slice_of_le hlen))
    obtain ⟨hsize, -⟩ := Outcome.returns_bind_iff.1
      (hsize type ((fromBytes_eq_ok (length_field (by omega))).2 htype))
    by_contra hlt
    exact slice_of_lt (by omega) hsize
  · rintro ⟨hlen, hsize⟩
    rw [parseV5, slice_of_le hlen, Outcome.ok_bind]
    apply (returns_fromBytes _).bind
    intro type htype
    have hle := hsize type ((fromBytes_eq_ok (length_field (by omega))).1 htype)
    rw [slice_of_le hle, Outcome.ok_bind]
    exact (returns_preadV5Body type).bind fun _ _ => Outcome.returns_ok _

/-- The parser panics exactly on strings that are not long enough. -/
theorem returns_parseTdxQuote_iff : (parseTdxQuote b).Returns ↔ LongEnough b := by
  by_cases h : 48 ≤ b.length
  · rw [parseTdxQuote_of_le h, LongEnough, and_iff_right h]
    split_ifs with h4 h5
    · refine iff_of_true ?_ fun h5 => ?_
      · exact (Outcome.returns_okOr _ _).bind fun _ _ => Outcome.returns_ok _
      · rw [h4] at h5
        exact absurd h5 (by decide)
    · rw [returns_parseV5_iff]
      exact ⟨fun hlen _ => hlen, fun hlen => hlen h5⟩
    · exact iff_of_true (Outcome.returns_bail _) fun h5' => absurd h5' h5
  · refine iff_of_false (fun hreturns => ?_) fun hlong => h hlong.1
    exact slice_of_lt (by rw [QUOTE_HEADER_SIZE]; omega) (Outcome.returns_bind_iff.1 hreturns).1

/-- **The parser accepts the strings of the layouts**, and gives what they hold. -/
theorem parseTdxQuote_eq_ok {q : Quote} : parseTdxQuote b = .ok q ↔
    ∃ layout : Layout, layout.Matches b ∧ q = layout.quote b := by
  by_cases h : 48 ≤ b.length
  · rw [parseTdxQuote_of_le h]
    split_ifs with h4 h5
    · simp only [Outcome.bind_eq_ok, Outcome.okOr_eq_ok, ReportBody2.pread,
        Option.ite_none_right_eq_some, Option.some.injEq, Outcome.ok.injEq]
      constructor
      · rintro ⟨_, ⟨hlen, rfl⟩, rfl⟩
        exact ⟨.v4, ⟨h4, hlen⟩, rfl⟩
      · rintro ⟨layout, hmatches, rfl⟩
        cases layout with
        | v4 => exact ⟨_, ⟨hmatches.2, rfl⟩, rfl⟩
        | v5 type =>
          have h5 := hmatches.1
          rw [h4] at h5
          exact absurd h5 (by decide)
    · rw [parseV5_eq_ok]
      constructor
      · rintro ⟨type, htype, hlen, rfl⟩
        exact ⟨.v5 type, ⟨h5, htype, hlen⟩, rfl⟩
      · rintro ⟨layout, hmatches, rfl⟩
        cases layout with
        | v4 => exact absurd hmatches.1 h4
        | v5 type => exact ⟨type, hmatches.2.1, hmatches.2.2, rfl⟩
    · refine iff_of_false Outcome.bail_ne_ok ?_
      rintro ⟨layout, hmatches, -⟩
      cases layout with
      | v4 => exact h4 hmatches.1
      | v5 type => exact h5 hmatches.1
  · refine iff_of_false (fun hok => ?_) ?_
    · have hlong := returns_parseTdxQuote_iff.1 (hok ▸ Outcome.returns_ok q)
      exact h hlong.1
    · rintro ⟨layout, hmatches, -⟩
      cases layout with
      | v4 => exact h (le_trans (by decide) hmatches.2)
      | v5 type => exact h (le_trans (by cases type <;> decide) hmatches.2.2)

/-! ## What the claims print -/

theorem headerClaims_read {version : Bytes} (h : field b 0 2 = version) :
    headerClaims version (.read b) = regionClaims b 0 headerLayout := by
  simp only [headerClaims, QuoteHeader.read, regionClaims, headerLayout, Region.claim, List.map_cons,
    List.map_nil, Nat.zero_add, h]

theorem bodyMembers_read (start : ℕ) :
    bodyMembers (.read b start) = bodyLayout.map (Region.claim b start) := by
  simp only [bodyMembers, ReportBody2.read, bodyLayout, Region.claim, List.map_cons, List.map_nil,
    Nat.add_zero]

theorem v5BodyClaims_read (type : QuoteV5Type) :
    v5BodyClaims (.read b type) = regionClaims b 54 (Layout.v5 type).body := by
  cases type with
  | TDX10 => rw [QuoteV5Body.read, v5BodyClaims, bodyMembers_read, regionClaims, Layout.body]
  | TDX15 =>
    rw [QuoteV5Body.read, v5BodyClaims, bodyMembers_read, regionClaims, Layout.body,
      List.map_append]
    rfl

theorem quoteClaims_quote {layout : Layout} (h : layout.Matches b) :
    quoteClaims (layout.quote b) = layout.quoteClaims b := by
  cases layout with
  | v4 =>
    rw [Layout.quote, quoteClaims, headerClaims_read h.1, bodyMembers_read]
    rfl
  | v5 type =>
    rw [Layout.quote, quoteClaims, headerClaims_read h.1, v5BodyClaims_read, ← h.2.1]
    rfl

theorem body_quote (layout : Layout) : (layout.quote b).body = .read b layout.bodyStart := by
  cases layout with
  | v4 => rfl
  | v5 type => cases type <;> rfl

/-- The flags of the attributes, in the claims. -/
def attributeClaims (attributes : Bytes) : Json.Map :=
  .ofList (tdAttributesFlags.map fun f => (f.1, .bool ((fromLeBytes attributes).testBit f.2)))

/-- Claims that print the fields of a string at the places of the layout. Members with other names
come from the event log. -/
structure Prints (b : Bytes) (layout : Layout) (v : Json) : Prop where
  quote : v.get "quote" = some (.object (layout.quoteClaims b))
  tdAttributes : v.get "td_attributes" =
    some (.object (attributeClaims (field b (layout.bodyStart + 120) 8)))
  reportData : v.get "report_data" =
    some (.string (hexEncode (field b (layout.bodyStart + 520) 64)))
  initData : v.get "init_data" =
    some (.string (hexEncode (field b (layout.bodyStart + 184) 48)))

/-- A quote whose fields are the ranges of a string at the places of the layout. -/
structure Shows (b : Bytes) (layout : Layout) (q : Quote) : Prop where
  reportData : q.reportData = field b (layout.bodyStart + 520) 64
  mrConfigId : q.mrConfigId = field b (layout.bodyStart + 184) 48
  tdAttributes : q.tdAttributes = field b (layout.bodyStart + 120) 8
  rtmr0 : q.rtmr0 = field b (layout.bodyStart + 328) 48
  rtmr1 : q.rtmr1 = field b (layout.bodyStart + 376) 48
  rtmr2 : q.rtmr2 = field b (layout.bodyStart + 424) 48
  rtmr3 : q.rtmr3 = field b (layout.bodyStart + 472) 48
  claims : ∀ (E : Env) (ccEventlog : Option E.EventLog) (v : Json),
    generateParsedClaim q ccEventlog = .ok v → Prints b layout v

theorem prints_of_generateParsedClaim {E : Env} {layout : Layout} (hmatches : layout.Matches b)
    {ccEventlog : Option E.EventLog} {v : Json}
    (h : generateParsedClaim (layout.quote b) ccEventlog = .ok v) : Prints b layout v := by
  simp only [generateParsedClaim, Quote.tdAttributes, Quote.reportData, Quote.mrConfigId,
    body_quote, ReportBody2.read, quoteClaims_quote hmatches, parseTdAttributes,
    Outcome.bind_eq_ok, Outcome.pure_eq, Outcome.ok.injEq] at h
  obtain ⟨attributes, hattributes, claims, -, rfl⟩ := h
  split at hattributes
  · cases hattributes
    constructor
    · simp [Json.Map.get_insert]
    · simp [Json.Map.get_insert, attributeClaims]
    · simp [Json.Map.get_insert]
    · simp
  · exact absurd hattributes Outcome.bail_ne_ok

theorem shows_quote {layout : Layout} (h : layout.Matches b) : Shows b layout (layout.quote b) where
  reportData := by rw [Quote.reportData, body_quote, ReportBody2.read]
  mrConfigId := by rw [Quote.mrConfigId, body_quote, ReportBody2.read]
  tdAttributes := by rw [Quote.tdAttributes, body_quote, ReportBody2.read]
  rtmr0 := by rw [Quote.rtmr0, body_quote, ReportBody2.read]
  rtmr1 := by rw [Quote.rtmr1, body_quote, ReportBody2.read]
  rtmr2 := by rw [Quote.rtmr2, body_quote, ReportBody2.read]
  rtmr3 := by rw [Quote.rtmr3, body_quote, ReportBody2.read]
  claims _ _ _ := prints_of_generateParsedClaim h

/-! ## Exactness -/

/-- What the parser should do with a string: it returns, it accepts the strings that have a layout,
and what it gives is what stands at the places of the layout. -/
structure ParsedExactly (b : Bytes) : Prop where
  returns : (parseTdxQuote b).Returns
  accepts : (∃ q, parseTdxQuote b = .ok q) ↔ ∃ layout : Layout, layout.Matches b
  shows : ∀ q, parseTdxQuote b = .ok q → ∃ layout : Layout, layout.Matches b ∧ Shows b layout q

theorem parsedExactly_iff : ParsedExactly b ↔ LongEnough b := by
  refine ⟨fun h => returns_parseTdxQuote_iff.1 h.returns, fun h => ?_⟩
  refine ⟨returns_parseTdxQuote_iff.2 h, ⟨?_, ?_⟩, ?_⟩
  · rintro ⟨q, hq⟩
    obtain ⟨layout, hmatches, -⟩ := parseTdxQuote_eq_ok.1 hq
    exact ⟨layout, hmatches⟩
  · rintro ⟨layout, hmatches⟩
    exact ⟨_, parseTdxQuote_eq_ok.2 ⟨layout, hmatches, rfl⟩⟩
  · intro q hq
    obtain ⟨layout, hmatches, rfl⟩ := parseTdxQuote_eq_ok.1 hq
    exact ⟨layout, hmatches, shows_quote hmatches⟩

/-- A claim of the report body. -/
def bodyClaim (v : Json) (name : String) : Option Json := do
  let quote ← v.get "quote"
  let body ← quote.get "body"
  body.get name

/-- Claims that agree on what the report bodies of all layouts have. -/
structure AgreeOnBody (v v' : Json) : Prop where
  body : ∀ r ∈ bodyLayout, bodyClaim v r.name = bodyClaim v' r.name
  tdAttributes : v.get "td_attributes" = v'.get "td_attributes"
  reportData : v.get "report_data" = v'.get "report_data"
  initData : v.get "init_data" = v'.get "init_data"

theorem get_body_quoteClaims (layout : Layout) : Json.Map.get (layout.quoteClaims b) "body" =
    some (.object (regionClaims b layout.bodyStart layout.body)) := by
  cases layout with
  | v4 => simp [Layout.quoteClaims, Json.Map.ofList, Json.Map.extend_cons]
  | v5 type =>
    simp [Layout.quoteClaims, Json.Map.ofList, Json.Map.extend_cons, hexClaim]

theorem nodup_body (layout : Layout) : (layout.body.map Region.name).Nodup := by
  cases layout with
  | v4 => decide
  | v5 type => cases type <;> decide

theorem mem_body {r : Region} (hr : r ∈ bodyLayout) (layout : Layout) : r ∈ layout.body := by
  cases layout with
  | v4 => exact hr
  | v5 type =>
    cases type with
    | TDX10 => exact hr
    | TDX15 => exact List.mem_append_left _ hr

theorem Prints.bodyClaim {layout : Layout} {v : Json} (h : Prints b layout v) {r : Region}
    (hr : r ∈ bodyLayout) : bodyClaim v r.name =
      some (.string (hexEncode (field b (layout.bodyStart + r.offset) r.size))) := by
  simp only [Tdx.bodyClaim, h.quote, Json.get_object, get_body_quoteClaims, Option.bind_eq_bind,
    Option.bind_some]
  exact get_regionClaims (nodup_body layout) (mem_body hr layout)

theorem le_of_mem_bodyLayout : ∀ r ∈ bodyLayout, r.offset + r.size ≤ 584 := by decide

/-- The same bytes of a report body give the same claims, wherever the body starts. -/
theorem Prints.agreeOnBody {b' : Bytes} {layout layout' : Layout} {v v' : Json}
    (h : Prints b layout v) (h' : Prints b' layout' v')
    (hbody : field b layout.bodyStart 584 = field b' layout'.bodyStart 584) : AgreeOnBody v v' := by
  have hfield : ∀ {offset n : ℕ}, offset + n ≤ 584 →
      field b (layout.bodyStart + offset) n = field b' (layout'.bodyStart + offset) n := by
    intro offset n hle
    rw [← field_slice hle, hbody, field_slice hle]
  constructor
  · intro r hr
    rw [h.bodyClaim hr, h'.bodyClaim hr, hfield (le_of_mem_bodyLayout r hr)]
  · rw [h.tdAttributes, h'.tdAttributes, hfield (by decide)]
  · rw [h.reportData, h'.reportData, hfield (by decide)]
  · rw [h.initData, h'.initData, hfield (by decide)]

/-- The claims of a quote agree with those of any quote that has the same report body, whatever
their versions. -/
def BodiesAgree (b : Bytes) : Prop :=
  ∀ (b' : Bytes) (layout layout' : Layout) (q q' : Quote), layout.Matches b → layout'.Matches b' →
    field b layout.bodyStart 584 = field b' layout'.bodyStart 584 →
      parseTdxQuote b = .ok q → parseTdxQuote b' = .ok q' →
        ∀ (E E' : Env) (ccEventlog : Option E.EventLog) (ccEventlog' : Option E'.EventLog)
          (v v' : Json), generateParsedClaim q ccEventlog = .ok v →
            generateParsedClaim q' ccEventlog' = .ok v' → AgreeOnBody v v'

theorem bodiesAgree (b : Bytes) : BodiesAgree b := by
  intro b' layout layout' q q' hmatches hmatches' hbody hq hq' E E' _ _ v v' hv hv'
  have hquote : q = layout.quote b := by
    have h := parseTdxQuote_eq_ok.2 ⟨layout, hmatches, rfl⟩
    exact Outcome.ok.inj (hq.symm.trans h)
  have hquote' : q' = layout'.quote b' := by
    have h := parseTdxQuote_eq_ok.2 ⟨layout', hmatches', rfl⟩
    exact Outcome.ok.inj (hq'.symm.trans h)
  subst hquote hquote'
  exact (prints_of_generateParsedClaim hmatches hv).agreeOnBody
    (prints_of_generateParsedClaim hmatches' hv') hbody

/-- **Quotes are parsed exactly** where they do not end inside the header, the type or the size, and
equal report bodies give equal claims in all versions. -/
theorem parseTdxQuote_exact (b : Bytes) : (ParsedExactly b ↔ LongEnough b) ∧ BodiesAgree b :=
  ⟨parsedExactly_iff, bodiesAgree b⟩

/-- The parser panics on a string that is shorter than a header, and on a header of version 5 with
nothing behind it. -/
theorem not_parsedExactly_cut : ¬ ParsedExactly (List.replicate 47 0) ∧
    ¬ ParsedExactly ([5, 0] ++ List.replicate 46 0) := by
  refine ⟨fun h => ?_, fun h => ?_⟩
  · exact absurd (returns_parseTdxQuote_iff.1 h.returns).1 (by decide)
  · exact absurd ((returns_parseTdxQuote_iff.1 h.returns).2 rfl).1 (by decide)

end Trustmee.Tdx
