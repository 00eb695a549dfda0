import Trustmee.Eventlog.DevicePath

/-!
# The device path of an image

The event of an image that is loaded carries the device path that it was loaded from, as nodes one
after the other and an End node. `getNestedPaths` goes from node to node: what does not start with a
node panics or is refused (`exists_nodes`, `getNestedPaths_of_broken`,
`getNestedPaths_of_truncated`), and a sequence of nodes gives their texts (`getNestedPaths_nodes`).
The End node is taken away before, by its length alone, and never looked at. `decodes_iff` says on
which data the parser decodes the nodes, in the native build, whose lengths have 64 bits.
-/

namespace Trustmee.Eventlog

/-! ## Paths -/

/-- A node of a device path. -/
structure DevicePathNode where
  efiType : UInt8
  efiSubType : UInt8
  data : Bytes
  length_le : data.length ≤ 65531

/-- The bytes of a node: its type, its subtype, its length and its data. -/
def DevicePathNode.encode (node : DevicePathNode) : Bytes :=
  node.efiType :: node.efiSubType :: (toLe 2 (node.data.length + 4) ++ node.data)

/-- The text of a node. -/
def DevicePathNode.print (node : DevicePathNode) : Outcome String :=
  printPath node.efiType node.efiSubType node.data

/-- The text of the node panics. -/
def DevicePathNode.IsFault (node : DevicePathNode) : Prop :=
  PrintFault node.efiType node.efiSubType node.data

/-- The bytes of nodes. -/
def encodePath (nodes : List DevicePathNode) : Bytes := nodes.flatMap DevicePathNode.encode

/-- The bytes of the End node. -/
def endNode : Bytes := [0x7F, 0xFF, 4, 0]

/-- The length of the node that bytes start with. -/
def nodeLength (bytes : Bytes) : ℕ := leValue ((bytes.take 4).drop 2)

/-! ## The parser -/

/-- One more path in the details. -/
def pushPath (result : EventDetails) (path : String) : EventDetails :=
  { result with devicePaths := some (result.devicePaths.getD [] ++ [path]) }

/-- `get_nested_paths`. A round takes a node away, so that as many rounds as there are bytes are
enough. -/
def getNestedPaths : ℕ → Bytes → EventDetails → Outcome EventDetails
  | 0, _, result => .ok result
  | fuel + 1, devicePathBytes, result => do
    let efiType ← byteAt devicePathBytes 0
    let efiSubType ← byteAt devicePathBytes 1
    let efiLength ← slice devicePathBytes 2 4
    Outcome.ensure (leValue efiLength ≤ devicePathBytes.length)
      ("Data is too short: expected at least " ++ toString (leValue efiLength) ++ " bytes")
    let vendorDataRaw ← slice devicePathBytes 4 (leValue efiLength)
    let devicePath ← slice devicePathBytes (leValue efiLength) devicePathBytes.length
    let path ← printPath efiType efiSubType vendorDataRaw
    if devicePath = [] then return pushPath result path
    else getNestedPaths fuel devicePath (pushPath result path)

/-- What `EvBootServicesAppParser::parse` does with a length. The End node is taken to be the last
four bytes of the path. -/
def EvBootServicesAppParser.parsePath (overflowChecks : Bool) (data : Bytes) (devPathLen : ℕ) :
    Outcome EventDetails := do
  let withoutEnd ← subUsize overflowChecks devPathLen 4
  let devPathEnd ← addUsize overflowChecks 32 withoutEnd
  Outcome.ensure (devPathEnd ≤ data.length) "Data is shorter than claimed by dev_path_offset"
  let devicePathBytes ← slice data 32 devPathEnd
  Outcome.ensure (4 ≤ devicePathBytes.length) "Remaining device path is shorter than 4 bytes"
  getNestedPaths devicePathBytes.length devicePathBytes .empty

/-- `EvBootServicesAppParser::parse`. -/
def EvBootServicesAppParser.parse (overflowChecks : Bool) (data : Bytes) :
    Outcome EventDetails := do
  Outcome.ensure (32 ≤ data.length) "Data is too short: expected at least 32 bytes"
  let devPathLen ← slice data 24 32
  if leValue devPathLen = 0 then return .empty
  else parsePath overflowChecks data (leValue devPathLen)

/-! ## What bytes start with -/

/-- Bytes that break off in the header of a node, or give a node less than its header. -/
def IsBroken (bytes : Bytes) : Prop :=
  (0 < bytes.length ∧ bytes.length < 4) ∨ (4 ≤ bytes.length ∧ nodeLength bytes < 4)

/-- Bytes that break off in the data of a node. -/
def IsTruncated (bytes : Bytes) : Prop :=
  4 ≤ bytes.length ∧ 4 ≤ nodeLength bytes ∧ bytes.length < nodeLength bytes

theorem length_encode (node : DevicePathNode) : node.encode.length = node.data.length + 4 := by
  simp only [DevicePathNode.encode, List.length_cons, List.length_append, length_toLe]
  omega

theorem encodePath_cons (node : DevicePathNode) (nodes : List DevicePathNode) :
    encodePath (node :: nodes) = node.encode ++ encodePath nodes := List.flatMap_cons

theorem encode_ne_nil (node : DevicePathNode) (rest : Bytes) : node.encode ++ rest ≠ [] :=
  List.cons_ne_nil _ _

theorem nodeLength_lt (bytes : Bytes) : nodeLength bytes < 65536 := by
  have hlength : ((bytes.take 4).drop 2).length ≤ 2 := by
    rw [List.length_drop, List.length_take]
    omega
  have hlt := leValue_lt ((bytes.take 4).drop 2)
  have hpow : 256 ^ ((bytes.take 4).drop 2).length ≤ 256 ^ 2 :=
    Nat.pow_le_pow_right (by decide) hlength
  exact lt_of_lt_of_le hlt hpow

theorem nodeLength_encode (node : DevicePathNode) (rest : Bytes) :
    nodeLength (node.encode ++ rest) = node.data.length + 4 := by
  have hlt : node.data.length + 4 < 256 ^ 2 := by
    have := node.length_le
    omega
  exact leValue_toLe hlt

theorem exists_four {bytes : Bytes} (h : 4 ≤ bytes.length) :
    ∃ x y z w rest, bytes = x :: y :: z :: w :: rest := by
  rcases bytes with _ | ⟨x, _ | ⟨y, _ | ⟨z, _ | ⟨w, rest⟩⟩⟩⟩
  · simp at h
  · simp at h
  · simp at h
  · simp at h
  · exact ⟨x, y, z, w, rest, rfl⟩

/-- Bytes that are no shorter than the node they start with start with a node. -/
theorem exists_node {bytes : Bytes} (hlength : 4 ≤ nodeLength bytes)
    (hle : nodeLength bytes ≤ bytes.length) :
    ∃ (node : DevicePathNode) (rest : Bytes), bytes = node.encode ++ rest := by
  have hlt := nodeLength_lt bytes
  obtain ⟨x, y, z, w, rest, rfl⟩ := exists_four (hlength.trans hle)
  obtain ⟨k, hk⟩ := Nat.exists_eq_add_of_le hlength
  have hrest : k ≤ rest.length := by
    simp only [List.length_cons] at hle
    omega
  have hdata : (rest.take k).length = k := List.length_take_of_le hrest
  have hbytes : toLe 2 (k + 4) = [z, w] := by
    rw [Nat.add_comm, ← hk]
    exact toLe_leValue [z, w]
  refine ⟨⟨x, y, rest.take k, by omega⟩, rest.drop k, ?_⟩
  rw [DevicePathNode.encode]
  dsimp only
  rw [hdata, hbytes]
  simp

/-- **Bytes are nodes, and what does not go on.** -/
theorem exists_nodes (bytes : Bytes) : ∃ (nodes : List DevicePathNode) (tail : Bytes),
    bytes = encodePath nodes ++ tail ∧ (tail = [] ∨ IsBroken tail ∨ IsTruncated tail) := by
  induction hn : bytes.length using Nat.strong_induction_on generalizing bytes with
  | _ n ih =>
    by_cases hnil : bytes = []
    · exact ⟨[], bytes, rfl, .inl hnil⟩
    by_cases hshort : bytes.length < 4
    · exact ⟨[], bytes, rfl, .inr (.inl (.inl ⟨List.length_pos_iff.2 hnil, hshort⟩))⟩
    by_cases hlength : nodeLength bytes < 4
    · exact ⟨[], bytes, rfl, .inr (.inl (.inr ⟨by omega, hlength⟩))⟩
    by_cases hle : bytes.length < nodeLength bytes
    · exact ⟨[], bytes, rfl, .inr (.inr ⟨by omega, by omega, hle⟩)⟩
    obtain ⟨node, rest, hbytes⟩ := exists_node (by omega) (not_lt.1 hle)
    have hrest : rest.length < n := by
      have := congrArg List.length hbytes
      rw [List.length_append, length_encode] at this
      omega
    obtain ⟨nodes, tail, hnodes, htail⟩ := ih rest.length hrest rest rfl
    refine ⟨node :: nodes, tail, ?_, htail⟩
    rw [encodePath_cons, List.append_assoc, ← hnodes, hbytes]

/-! ## From node to node -/

/-- The texts of nodes. -/
def Prints (nodes : List DevicePathNode) (paths : List String) : Prop :=
  List.Forall₂ (fun node path => node.print = .ok path) nodes paths

/-- More paths in the details. -/
def pushPaths (result : EventDetails) (paths : List String) : EventDetails :=
  paths.foldl pushPath result

variable {fuel : ℕ} {node : DevicePathNode} {nodes : List DevicePathNode} {paths : List String}
  {tail rest : Bytes} {result : EventDetails}

theorem pushPaths_cons (result : EventDetails) (path : String) (paths : List String) :
    pushPaths result (path :: paths) = pushPaths (pushPath result path) paths := rfl

theorem devicePaths_pushPaths (result : EventDetails) (paths : List String) (hne : paths ≠ []) :
    pushPaths result paths =
      { result with devicePaths := some (result.devicePaths.getD [] ++ paths) } := by
  induction paths generalizing result with
  | nil => exact absurd rfl hne
  | cons path paths ih =>
    rw [pushPaths_cons]
    by_cases hnil : paths = []
    · subst hnil
      rfl
    · rw [ih _ hnil, pushPath]
      simp

/-- A round that finds a node. -/
theorem getNestedPaths_node (fuel : ℕ) (node : DevicePathNode) (rest : Bytes)
    (result : EventDetails) : getNestedPaths (fuel + 1) (node.encode ++ rest) result =
      node.print >>= fun path =>
        if rest = [] then .ok (pushPath result path)
        else getNestedPaths fuel rest (pushPath result path) := by
  have hlength : (node.encode ++ rest).length = node.data.length + 4 + rest.length := by
    rw [List.length_append, length_encode]
  have hnode : leValue (((node.encode ++ rest).take 4).drop 2) = node.data.length + 4 :=
    nodeLength_encode node rest
  have htype : byteAt (node.encode ++ rest) 0 = .ok node.efiType := rfl
  have hsubType : byteAt (node.encode ++ rest) 1 = .ok node.efiSubType := rfl
  have hdata : ((node.encode ++ rest).take (node.data.length + 4)).drop 4 = node.data := by
    rw [List.take_left' (length_encode node)]
    rfl
  have hrest : ((node.encode ++ rest).take (node.encode ++ rest).length).drop
      (node.data.length + 4) = rest := by
    rw [List.take_length, List.drop_left' (length_encode node)]
  rw [getNestedPaths, htype, hsubType, slice_of_le (by decide) (by omega)]
  simp only [Outcome.ok_bind]
  rw [hnode, ensure_of (by omega), slice_of_le (by omega) (by omega),
    slice_of_le (by omega) le_rfl, hdata, hrest]
  rfl

/-- A round on bytes that are broken panics. -/
theorem getNestedPaths_of_broken (h : IsBroken tail) :
    ∃ m, getNestedPaths (fuel + 1) tail result = .panic m := by
  by_contra hnone
  have hreturns : (getNestedPaths (fuel + 1) tail result).Returns := fun m hm => hnone ⟨m, hm⟩
  rw [getNestedPaths] at hreturns
  rcases h with ⟨hpos, hshort⟩ | ⟨hlength, hnode⟩
  · have hreturns := (Outcome.returns_bind_iff.1 hreturns).2 _ (byteAt_of_lt hpos)
    have hone := returns_byteAt_iff.1 (Outcome.returns_bind_iff.1 hreturns).1
    have hreturns := (Outcome.returns_bind_iff.1 hreturns).2 _ (byteAt_of_lt hone)
    have hslice := returns_slice_iff.1 (Outcome.returns_bind_iff.1 hreturns).1
    omega
  · unfold nodeLength at hnode
    have hreturns := (Outcome.returns_bind_iff.1 hreturns).2 _ (byteAt_of_lt (by omega))
    have hreturns := (Outcome.returns_bind_iff.1 hreturns).2 _ (byteAt_of_lt (by omega))
    have hreturns := (Outcome.returns_bind_iff.1 hreturns).2 _
      (slice_of_le (by decide) (by omega))
    have hreturns := (Outcome.returns_bind_iff.1 hreturns).2 _ (ensure_of (by omega))
    have hslice := returns_slice_iff.1 (Outcome.returns_bind_iff.1 hreturns).1
    omega

/-- A round on bytes that break off in a node is refused. -/
theorem getNestedPaths_of_truncated (h : IsTruncated tail) :
    ∃ e, getNestedPaths (fuel + 1) tail result = .err e := by
  obtain ⟨hlength, -, hshort⟩ := h
  unfold nodeLength at hshort
  rw [getNestedPaths, byteAt_of_lt (by omega), byteAt_of_lt (by omega),
    slice_of_le (by decide) hlength]
  simp only [Outcome.ok_bind]
  rw [ensure_of_not (by omega)]
  exact ⟨_, rfl⟩

/-- **Nodes give their texts, and what follows is left.** -/
theorem getNestedPaths_nodes (hprints : Prints nodes paths) (htail : tail ≠ [])
    (result : EventDetails) : getNestedPaths (fuel + nodes.length) (encodePath nodes ++ tail) result =
      getNestedPaths fuel tail (pushPaths result paths) := by
  induction hprints generalizing result with
  | nil => rfl
  | cons hprint _ ih =>
    rw [encodePath_cons, List.append_assoc, List.length_cons, ← Nat.add_assoc,
      getNestedPaths_node, hprint, Outcome.ok_bind, if_neg (by simp [htail]), ih, pushPaths_cons]

/-- Nodes to the end give their texts. -/
theorem getNestedPaths_all (hprints : Prints nodes paths) (hne : nodes ≠ [])
    (result : EventDetails) : getNestedPaths (fuel + nodes.length) (encodePath nodes) result =
      .ok (pushPaths result paths) := by
  induction hprints generalizing result with
  | nil => exact absurd rfl hne
  | @cons node path nodes paths hprint hprints ih =>
    rw [encodePath_cons, List.length_cons, ← Nat.add_assoc, getNestedPaths_node, hprint,
      Outcome.ok_bind, pushPaths_cons]
    cases nodes with
    | nil =>
      cases hprints
      rfl
    | cons node' nodes =>
      rw [if_neg (by rw [encodePath_cons]; exact encode_ne_nil _ _), ih (by simp)]

/-- A node whose text panics ends the parser. -/
theorem getNestedPaths_of_fault (h : ∃ node ∈ nodes, node.IsFault) (result : EventDetails) :
    ∃ m, getNestedPaths (fuel + nodes.length) (encodePath nodes ++ tail) result = .panic m := by
  induction nodes generalizing result with
  | nil =>
    obtain ⟨node, hnode, -⟩ := h
    cases hnode
  | cons node nodes ih =>
    rw [encodePath_cons, List.append_assoc, List.length_cons, ← Nat.add_assoc,
      getNestedPaths_node]
    by_cases hfault : node.IsFault
    · obtain ⟨m, hm⟩ := exists_printPath_eq_panic hfault
      exact ⟨m, by rw [DevicePathNode.print, hm, Outcome.panic_bind]⟩
    · obtain ⟨path, hpath⟩ := exists_printPath_eq_ok hfault
      have hrest : ∃ node ∈ nodes, node.IsFault := by
        obtain ⟨node', hnode', hfault'⟩ := h
        rcases List.mem_cons.1 hnode' with rfl | hmem
        · exact absurd hfault' hfault
        · exact ⟨node', hmem, hfault'⟩
      have hne : encodePath nodes ++ tail ≠ [] := by
        obtain ⟨node', hnode', -⟩ := hrest
        cases nodes with
        | nil => cases hnode'
        | cons node'' nodes =>
          rw [encodePath_cons, List.append_assoc]
          exact encode_ne_nil _ _
      rw [DevicePathNode.print, hpath, Outcome.ok_bind, if_neg hne]
      exact ih hrest _

/-- Nodes of which no text panics have texts. -/
theorem exists_prints (h : ∀ node ∈ nodes, ¬ node.IsFault) : ∃ paths, Prints nodes paths := by
  induction nodes with
  | nil => exact ⟨[], .nil⟩
  | cons node nodes ih =>
    obtain ⟨path, hpath⟩ := exists_printPath_eq_ok (h node List.mem_cons_self)
    obtain ⟨paths, hpaths⟩ := ih fun node hnode => h node (List.mem_cons_of_mem _ hnode)
    exact ⟨path :: paths, .cons hpath hpaths⟩

theorem length_le_encodePath (nodes : List DevicePathNode) :
    4 * nodes.length ≤ (encodePath nodes).length := by
  induction nodes with
  | nil => rfl
  | cons node nodes ih =>
    rw [encodePath_cons, List.length_append, length_encode, List.length_cons]
    omega

/-! ## A path as a whole -/

/-- A path in which a text panics, or which is broken after its nodes. -/
def PathFault (path : Bytes) : Prop := ∃ (nodes : List DevicePathNode) (tail : Bytes),
  path = encodePath nodes ++ tail ∧ ((∃ node ∈ nodes, node.IsFault) ∨ IsBroken tail)

/-- As many rounds as there are bytes are enough for the nodes, and one more for the rest. -/
theorem exists_fuel (nodes : List DevicePathNode) (tail : Bytes) (htail : tail ≠ []) :
    ∃ fuel, (encodePath nodes ++ tail).length = fuel + 1 + nodes.length := by
  have hnodes := length_le_encodePath nodes
  have hpos := List.length_pos_iff.2 htail
  refine ⟨(encodePath nodes).length + tail.length - nodes.length - 1, ?_⟩
  rw [List.length_append]
  omega

theorem exists_fuel_all (nodes : List DevicePathNode) :
    ∃ fuel, (encodePath nodes).length = fuel + nodes.length := by
  have hnodes := length_le_encodePath nodes
  exact ⟨(encodePath nodes).length - nodes.length, by omega⟩

theorem exists_panic_of_pathFault {path : Bytes} (h : PathFault path) :
    ∃ m, getNestedPaths path.length path result = .panic m := by
  obtain ⟨nodes, tail, rfl, hfault⟩ := h
  by_cases hnodes : ∃ node ∈ nodes, node.IsFault
  · obtain ⟨fuel, hfuel⟩ := exists_fuel_all nodes
    rw [List.length_append, hfuel, Nat.add_right_comm]
    exact getNestedPaths_of_fault hnodes result
  · have hbroken := hfault.resolve_left hnodes
    have htail : tail ≠ [] := by
      rintro rfl
      rcases hbroken with ⟨h, -⟩ | ⟨h, -⟩ <;> simp at h
    obtain ⟨paths, hprints⟩ := exists_prints fun node hnode hfault => hnodes ⟨node, hnode, hfault⟩
    obtain ⟨fuel, hfuel⟩ := exists_fuel nodes tail htail
    rw [hfuel, getNestedPaths_nodes hprints htail]
    exact getNestedPaths_of_broken hbroken

theorem exists_err_of_truncated (hnodes : ∀ node ∈ nodes, ¬ node.IsFault)
    (h : IsTruncated tail) : ∃ e, getNestedPaths (encodePath nodes ++ tail).length
      (encodePath nodes ++ tail) result = .err e := by
  have htail : tail ≠ [] := by
    rintro rfl
    have := h.1
    simp at this
  obtain ⟨paths, hprints⟩ := exists_prints hnodes
  obtain ⟨fuel, hfuel⟩ := exists_fuel nodes tail htail
  rw [hfuel, getNestedPaths_nodes hprints htail]
  exact getNestedPaths_of_truncated h

theorem getNestedPaths_of_prints (hprints : Prints nodes paths) (hne : nodes ≠ []) :
    getNestedPaths (encodePath nodes).length (encodePath nodes) .empty =
      .ok { EventDetails.empty with devicePaths := some paths } := by
  obtain ⟨fuel, hfuel⟩ := exists_fuel_all nodes
  have hpaths : paths ≠ [] := by
    rintro rfl
    cases hprints
    exact hne rfl
  rw [hfuel, getNestedPaths_all hprints hne, devicePaths_pushPaths _ _ hpaths]
  rfl

/-- **The recursion panics exactly on paths with a fault.** -/
theorem returns_getNestedPaths_iff {path : Bytes} (hne : path ≠ []) :
    (getNestedPaths path.length path .empty).Returns ↔ ¬ PathFault path := by
  constructor
  · intro h hfault
    obtain ⟨m, hm⟩ := exists_panic_of_pathFault hfault
    exact h m hm
  · intro hfault
    obtain ⟨nodes, tail, rfl, htail⟩ := exists_nodes path
    have hnodes : ∀ node ∈ nodes, ¬ node.IsFault :=
      fun node hnode h => hfault ⟨nodes, tail, rfl, .inl ⟨node, hnode, h⟩⟩
    rcases htail with rfl | hbroken | htruncated
    · obtain ⟨paths, hprints⟩ := exists_prints hnodes
      rw [List.append_nil] at hne ⊢
      rw [getNestedPaths_of_prints hprints (by rintro rfl; exact hne rfl)]
      exact Outcome.returns_ok _
    · exact absurd ⟨nodes, tail, rfl, .inr hbroken⟩ hfault
    · obtain ⟨e, he⟩ := exists_err_of_truncated hnodes htruncated
      rw [he]
      exact fun m hm => Outcome.err_ne_panic hm

/-! ## The event -/

/-- `LengthOfDevicePath` of an event. -/
def devPathLen (data : Bytes) : ℕ := leValue ((data.take 32).drop 24)

/-- The path of an event, without its last four bytes. -/
def devicePathOf (data : Bytes) : Bytes := (data.take (devPathLen data + 28)).drop 32

variable {data : Bytes} {overflowChecks : Bool}

theorem devPathLen_lt (data : Bytes) : devPathLen data < 2 ^ 64 := by
  have hlength : ((data.take 32).drop 24).length ≤ 8 := by
    rw [List.length_drop, List.length_take]
    omega
  have hlt := leValue_lt ((data.take 32).drop 24)
  have hpow : 256 ^ ((data.take 32).drop 24).length ≤ 256 ^ 8 :=
    Nat.pow_le_pow_right (by decide) hlength
  exact lt_of_lt_of_le hlt (hpow.trans (by decide))

theorem length_devicePathOf (h : devPathLen data + 28 ≤ data.length) :
    (devicePathOf data).length = devPathLen data - 4 := by
  rw [devicePathOf, List.length_drop, List.length_take]
  omega

namespace EvBootServicesAppParser

theorem parse_of_short (h : data.length < 32) : ∃ e, parse overflowChecks data = .err e := by
  rw [parse, ensure_of_not (by omega)]
  exact ⟨_, rfl⟩

theorem parse_eq (h : 32 ≤ data.length) : parse overflowChecks data =
    if devPathLen data = 0 then .ok .empty
    else parsePath overflowChecks data (devPathLen data) := by
  rw [parse, ensure_of h, Outcome.ok_bind, slice_of_le (by decide) h, Outcome.ok_bind]
  rfl

theorem parse_of_zero (h : 32 ≤ data.length) (hlen : devPathLen data = 0) :
    parse overflowChecks data = .ok .empty := by
  rw [parse_eq h, if_pos hlen]

/-- A length from which the End node cannot be taken away, or that passes every end, panics, or
wraps around to an end before the start. -/
theorem parse_of_wrapping (h : 32 ≤ data.length) (hlen : devPathLen data ≠ 0)
    (hwrap : devPathLen data < 4 ∨ 2 ^ 64 ≤ devPathLen data + 28) :
    ∃ m, parse overflowChecks data = .panic m := by
  have hlt := devPathLen_lt data
  have hbackwards : ∀ stop < 32, ∃ m, (Outcome.ensure (stop ≤ data.length)
      "Data is shorter than claimed by dev_path_offset" >>= fun _ => slice data 32 stop) =
        .panic m := by
    intro stop hstop
    rw [ensure_of (by omega), Outcome.ok_bind, slice, if_pos hstop]
    exact ⟨_, rfl⟩
  rw [parse_eq h, if_neg hlen, parsePath]
  by_cases hsmall : devPathLen data < 4
  · cases overflowChecks with
    | true =>
      rw [subUsize, if_neg (by omega), if_pos rfl]
      exact ⟨_, rfl⟩
    | false =>
      rw [subUsize, if_neg (by omega), if_neg (by simp), Outcome.ok_bind, addUsize,
        if_neg (by omega), if_neg (by simp), Outcome.ok_bind]
      obtain ⟨m, hm⟩ := hbackwards (32 + (devPathLen data + 2 ^ 64 - 4) - 2 ^ 64) (by omega)
      exact ⟨m, by rw [← Outcome.bind_assoc, hm, Outcome.panic_bind]⟩
  · have hlarge := hwrap.resolve_left hsmall
    rw [subUsize, if_pos (by omega), Outcome.ok_bind]
    cases overflowChecks with
    | true =>
      rw [addUsize, if_neg (by omega), if_pos rfl]
      exact ⟨_, rfl⟩
    | false =>
      rw [addUsize, if_neg (by omega), if_neg (by simp), Outcome.ok_bind]
      obtain ⟨m, hm⟩ := hbackwards (32 + (devPathLen data - 4) - 2 ^ 64) (by omega)
      exact ⟨m, by rw [← Outcome.bind_assoc, hm, Outcome.panic_bind]⟩

variable (h : 32 ≤ data.length) (hlower : 4 ≤ devPathLen data)
  (hupper : devPathLen data + 28 < 2 ^ 64)

include h hlower hupper

/-- The parser on an event whose length no machine word is too small for. -/
theorem parse_of_length : parse overflowChecks data =
    (Outcome.ensure (devPathLen data + 28 ≤ data.length)
      "Data is shorter than claimed by dev_path_offset" >>= fun _ =>
        slice data 32 (devPathLen data + 28) >>= fun devicePathBytes =>
          Outcome.ensure (4 ≤ devicePathBytes.length)
            "Remaining device path is shorter than 4 bytes" >>= fun _ =>
              getNestedPaths devicePathBytes.length devicePathBytes .empty) := by
  have hstop : 32 + (devPathLen data - 4) = devPathLen data + 28 := by omega
  rw [parse_eq h, if_neg (by omega), parsePath, subUsize, if_pos hlower, Outcome.ok_bind, addUsize,
    if_pos (by omega), Outcome.ok_bind, hstop]

theorem parse_of_claimed (hshort : data.length < devPathLen data + 28) :
    ∃ e, parse overflowChecks data = .err e := by
  rw [parse_of_length h hlower hupper, ensure_of_not (by omega)]
  exact ⟨_, rfl⟩

variable (hinside : devPathLen data + 28 ≤ data.length)

include hinside

theorem parse_of_header (hshort : devPathLen data < 8) :
    ∃ e, parse overflowChecks data = .err e := by
  have hlength := length_devicePathOf hinside
  have hslice : slice data 32 (devPathLen data + 28) = .ok (devicePathOf data) :=
    slice_of_le (by omega) hinside
  rw [parse_of_length h hlower hupper, ensure_of hinside, Outcome.ok_bind, hslice, Outcome.ok_bind,
    ensure_of_not (by omega)]
  exact ⟨_, rfl⟩

/-- The parser on an event with a path that can be a node. -/
theorem parse_of_path (hpath : 8 ≤ devPathLen data) : parse overflowChecks data =
    getNestedPaths (devicePathOf data).length (devicePathOf data) .empty := by
  have hlength := length_devicePathOf hinside
  have hslice : slice data 32 (devPathLen data + 28) = .ok (devicePathOf data) :=
    slice_of_le (by omega) hinside
  rw [parse_of_length h hlower hupper, ensure_of hinside, Outcome.ok_bind, hslice, Outcome.ok_bind,
    ensure_of (by omega), Outcome.ok_bind]

end EvBootServicesAppParser

/-! ## Decoding -/

/-- A `UEFI_IMAGE_LOAD_EVENT` with the nodes for its path: where the image is, the length of the
path, and the path, with the End node. -/
def IsLoadEvent (data : Bytes) (nodes : List DevicePathNode) : Prop := ∃ image : Bytes,
  image.length = 24 ∧ (encodePath nodes ++ endNode).length < 2 ^ 64 ∧
    data = image ++ toLe 8 (encodePath nodes ++ endNode).length ++ (encodePath nodes ++ endNode)

/-- The parser decodes the data: the nodes of an event give their texts, and what is no event is
refused, or has no details. -/
structure Decodes (overflowChecks : Bool) (data : Bytes) : Prop where
  nodes : ∀ nodes, IsLoadEvent data nodes → ∃ paths, Prints nodes paths ∧
    EvBootServicesAppParser.parse overflowChecks data =
      .ok { EventDetails.empty with devicePaths := some paths }
  other : (∀ nodes, ¬ IsLoadEvent data nodes) →
    (∃ e, EvBootServicesAppParser.parse overflowChecks data = .err e) ∨
      EvBootServicesAppParser.parse overflowChecks data = .ok .empty

/-- Data with no path, with a path that passes the end or breaks off in a node, or with one whose
nodes are there, of which no text panics, and behind which there is the End node and nothing
else. -/
def IsDecodable (data : Bytes) : Prop :=
  data.length < 32 ∨ devPathLen data = 0 ∨
    4 ≤ devPathLen data ∧ devPathLen data + 28 < 2 ^ 64 ∧
      (data.length < devPathLen data + 28 ∨
        devPathLen data < 8 ∧ ¬ (devPathLen data = 4 ∧ data.drop 32 = endNode) ∨
        8 ≤ devPathLen data ∧ ∃ (nodes : List DevicePathNode) (tail : Bytes),
          devicePathOf data = encodePath nodes ++ tail ∧ (∀ node ∈ nodes, ¬ node.IsFault) ∧
            (IsTruncated tail ∨ tail = [] ∧ data.drop (devPathLen data + 28) = endNode))

/-- An event, by its length and its path. -/
theorem isLoadEvent_iff : IsLoadEvent data nodes ↔ 32 ≤ data.length ∧ 4 ≤ devPathLen data ∧
    devicePathOf data = encodePath nodes ∧ data.drop (devPathLen data + 28) = endNode := by
  constructor
  · rintro ⟨image, himage, hlength, rfl⟩
    have hend : (encodePath nodes ++ endNode).length = (encodePath nodes).length + 4 := by
      rw [List.length_append]
      rfl
    have hlen : devPathLen (image ++ toLe 8 (encodePath nodes ++ endNode).length ++
        (encodePath nodes ++ endNode)) = (encodePath nodes).length + 4 := by
      have htake : (image ++ toLe 8 (encodePath nodes ++ endNode).length).length = 32 := by
        rw [List.length_append, himage, length_toLe]
      rw [devPathLen, List.take_left' htake, List.drop_left' himage, leValue_toLe hlength, hend]
    have hprefix : (image ++ toLe 8 (encodePath nodes ++ endNode).length ++
        encodePath nodes).length = (encodePath nodes).length + 4 + 28 := by
      rw [List.length_append, List.length_append, himage, length_toLe]
      omega
    refine ⟨?_, by omega, ?_, ?_⟩
    · rw [List.length_append, List.length_append, himage, length_toLe]
      omega
    · rw [devicePathOf, hlen, ← List.append_assoc, List.take_left' hprefix, List.drop_left']
      rw [List.length_append, himage, length_toLe]
    · rw [hlen, ← List.append_assoc, List.drop_left' hprefix]
  · rintro ⟨hlength, hlower, hpath, hend⟩
    have htotal : data.length = devPathLen data + 32 := by
      have := congrArg List.length hend
      rw [List.length_drop] at this
      have hfour : endNode.length = 4 := rfl
      omega
    have hstop : 32 + (devPathLen data + 28 - 32) = devPathLen data + 28 := by omega
    have hrest : data.drop 32 = encodePath nodes ++ endNode := by
      rw [← List.take_append_drop (devPathLen data + 28 - 32) (data.drop 32), ← List.drop_take,
        List.drop_drop, hstop, hend, ← hpath, devicePathOf]
    have hpathLen : (encodePath nodes ++ endNode).length = devPathLen data := by
      rw [← hrest, List.length_drop]
      omega
    have height : ((data.take 32).drop 24).length = 8 := by
      rw [List.length_drop, List.length_take]
      omega
    have hlen : toLe 8 (devPathLen data) = (data.take 32).drop 24 := by
      rw [devPathLen, ← height, toLe_leValue]
    have himage : (data.take 32).take 24 = data.take 24 := by
      rw [List.take_take]
      rfl
    refine ⟨data.take 24, List.length_take_of_le (by omega), ?_, ?_⟩
    · rw [hpathLen]
      exact devPathLen_lt data
    · rw [hpathLen, hlen, ← hrest, ← himage, List.take_append_drop, List.take_append_drop]

theorem isLoadEvent_nil_iff (h : 32 ≤ data.length) :
    IsLoadEvent data [] ↔ devPathLen data = 4 ∧ data.drop 32 = endNode := by
  rw [isLoadEvent_iff]
  constructor
  · rintro ⟨-, hlower, hpath, hend⟩
    have hlength := congrArg List.length hend
    rw [List.length_drop] at hlength
    have hfour : endNode.length = 4 := rfl
    have hempty := congrArg List.length hpath
    rw [length_devicePathOf (by omega)] at hempty
    have hzero : (encodePath []).length = 0 := rfl
    have hlen : devPathLen data = 4 := by omega
    rw [hlen] at hend
    exact ⟨hlen, hend⟩
  · rintro ⟨hlen, hend⟩
    refine ⟨h, by omega, ?_, by rw [hlen]; exact hend⟩
    rw [devicePathOf, hlen, List.drop_take_self]
    rfl

/-- An event does not end before its path does. -/
theorem le_length_of_isLoadEvent (h : IsLoadEvent data nodes) :
    devPathLen data + 28 ≤ data.length := by
  have hend := congrArg List.length (isLoadEvent_iff.1 h).2.2.2
  rw [List.length_drop] at hend
  have hfour : endNode.length = 4 := rfl
  omega

theorem not_decodes_of_panic {m : String}
    (h : EvBootServicesAppParser.parse overflowChecks data = .panic m) :
    ¬ Decodes overflowChecks data := by
  intro hdecodes
  by_cases hevent : ∃ nodes, IsLoadEvent data nodes
  · obtain ⟨nodes, hevent⟩ := hevent
    obtain ⟨paths, -, hok⟩ := hdecodes.nodes nodes hevent
    rw [h] at hok
    cases hok
  · rcases hdecodes.other (not_exists.1 hevent) with ⟨e, herr⟩ | hok
    · rw [h] at herr
      cases herr
    · rw [h] at hok
      cases hok

/-- What the parser refuses is decoded when it is no event. -/
theorem decodes_of_err_iff {e : Error}
    (h : EvBootServicesAppParser.parse overflowChecks data = .err e) :
    Decodes overflowChecks data ↔ ∀ nodes, ¬ IsLoadEvent data nodes := by
  constructor
  · intro hdecodes nodes hevent
    obtain ⟨paths, -, hok⟩ := hdecodes.nodes nodes hevent
    rw [h] at hok
    cases hok
  · exact fun hnone => ⟨fun nodes hevent => absurd hevent (hnone nodes), fun _ => .inl ⟨e, h⟩⟩

/-- An event with less than a node for its path has none. -/
theorem forall_not_isLoadEvent_iff (h : 32 ≤ data.length) (hshort : devPathLen data < 8) :
    (∀ nodes, ¬ IsLoadEvent data nodes) ↔ ¬ (devPathLen data = 4 ∧ data.drop 32 = endNode) := by
  rw [← isLoadEvent_nil_iff h]
  refine ⟨fun hnone => hnone [], fun hnil nodes hevent => hnil ?_⟩
  have hinside := le_length_of_isLoadEvent hevent
  have hpath := congrArg List.length (isLoadEvent_iff.1 hevent).2.2.1
  rw [length_devicePathOf hinside] at hpath
  have hnodes := length_le_encodePath nodes
  have hzero : nodes = [] := List.length_eq_zero_iff.1 (by omega)
  rwa [hzero] at hevent

/-- The parser on a path that can be a node. -/
theorem decodes_path_iff (hne : devicePathOf data ≠ []) (hlength : 32 ≤ data.length)
    (hlower : 4 ≤ devPathLen data) (hparse : EvBootServicesAppParser.parse overflowChecks data =
      getNestedPaths (devicePathOf data).length (devicePathOf data) .empty) :
    Decodes overflowChecks data ↔ ∃ (nodes : List DevicePathNode) (tail : Bytes),
      devicePathOf data = encodePath nodes ++ tail ∧ (∀ node ∈ nodes, ¬ node.IsFault) ∧
        (IsTruncated tail ∨ tail = [] ∧ data.drop (devPathLen data + 28) = endNode) := by
  -- Nodes to the end of the path give their texts.
  have hnodes : ∀ nodes, devicePathOf data = encodePath nodes → (∀ node ∈ nodes, ¬ node.IsFault) →
      ∃ paths, Prints nodes paths ∧ EvBootServicesAppParser.parse overflowChecks data =
        .ok { EventDetails.empty with devicePaths := some paths } := by
    intro nodes hpath hfault
    obtain ⟨paths, hprints⟩ := exists_prints hfault
    refine ⟨paths, hprints, ?_⟩
    rw [hparse, hpath]
    apply getNestedPaths_of_prints hprints
    rintro rfl
    exact hne hpath
  -- No text of an event's node panics, where the parser does not.
  have hevents : (EvBootServicesAppParser.parse overflowChecks data).Returns →
      ∀ nodes, IsLoadEvent data nodes → ∃ paths, Prints nodes paths ∧
        EvBootServicesAppParser.parse overflowChecks data =
          .ok { EventDetails.empty with devicePaths := some paths } := by
    intro hreturns nodes hevent
    have hpath := (isLoadEvent_iff.1 hevent).2.2.1
    refine hnodes nodes hpath fun node hnode hfault => ?_
    rw [hparse, returns_getNestedPaths_iff hne] at hreturns
    exact hreturns ⟨nodes, [], by rw [hpath, List.append_nil], .inl ⟨node, hnode, hfault⟩⟩
  constructor
  · intro hdecodes
    have hfault : ¬ PathFault (devicePathOf data) := by
      intro hfault
      obtain ⟨m, hm⟩ := exists_panic_of_pathFault hfault
      exact not_decodes_of_panic (hparse.trans hm) hdecodes
    obtain ⟨nodes, tail, hpath, htail⟩ := exists_nodes (devicePathOf data)
    have hnofault : ∀ node ∈ nodes, ¬ node.IsFault :=
      fun node hnode h => hfault ⟨nodes, tail, hpath, .inl ⟨node, hnode, h⟩⟩
    refine ⟨nodes, tail, hpath, hnofault, ?_⟩
    rcases htail with rfl | hbroken | htruncated
    · refine .inr ⟨rfl, ?_⟩
      rw [List.append_nil] at hpath
      obtain ⟨paths, -, hok⟩ := hnodes nodes hpath hnofault
      by_contra hend
      rcases hdecodes.other fun nodes h => hend (isLoadEvent_iff.1 h).2.2.2 with ⟨e, herr⟩ | hempty
      · rw [hok] at herr
        cases herr
      · rw [hok] at hempty
        cases hempty
    · exact absurd ⟨nodes, tail, hpath, .inr hbroken⟩ hfault
    · exact .inl htruncated
  · rintro ⟨nodes, tail, hpath, hnofault, htruncated | ⟨rfl, hend⟩⟩
    · obtain ⟨e, he⟩ : ∃ e, EvBootServicesAppParser.parse overflowChecks data = .err e := by
        rw [hparse, hpath]
        exact exists_err_of_truncated hnofault htruncated
      refine (decodes_of_err_iff he).2 fun nodes hevent => ?_
      have hreturns : (EvBootServicesAppParser.parse overflowChecks data).Returns := by
        rw [he]
        exact fun m hm => Outcome.err_ne_panic hm
      obtain ⟨paths, -, hok⟩ := hevents hreturns nodes hevent
      rw [he] at hok
      cases hok
    · rw [List.append_nil] at hpath
      have hevent : IsLoadEvent data nodes := isLoadEvent_iff.2 ⟨hlength, hlower, hpath, hend⟩
      obtain ⟨paths, -, hok⟩ := hnodes nodes hpath hnofault
      have hreturns : (EvBootServicesAppParser.parse overflowChecks data).Returns := by
        rw [hok]
        exact Outcome.returns_ok _
      exact ⟨hevents hreturns, fun hnone => absurd hevent (hnone nodes)⟩

/-- **The parser decodes the data exactly when they are decodable.** -/
theorem decodes_iff (overflowChecks : Bool) (data : Bytes) :
    Decodes overflowChecks data ↔ IsDecodable data := by
  unfold IsDecodable
  by_cases hshort : data.length < 32
  · rw [iff_true_right (.inl hshort)]
    obtain ⟨e, he⟩ := EvBootServicesAppParser.parse_of_short hshort
    refine (decodes_of_err_iff he).2 fun nodes hevent => ?_
    have := (isLoadEvent_iff.1 hevent).1
    omega
  have hlength : 32 ≤ data.length := not_lt.1 hshort
  rw [or_iff_right hshort]
  by_cases hzero : devPathLen data = 0
  · rw [iff_true_right (.inl hzero)]
    refine ⟨fun nodes hevent => ?_, fun _ => .inr ?_⟩
    · have := (isLoadEvent_iff.1 hevent).2.1
      omega
    · exact EvBootServicesAppParser.parse_of_zero hlength hzero
  rw [or_iff_right hzero]
  by_cases hwrap : devPathLen data < 4 ∨ 2 ^ 64 ≤ devPathLen data + 28
  · obtain ⟨m, hm⟩ : ∃ m, EvBootServicesAppParser.parse overflowChecks data = .panic m :=
      EvBootServicesAppParser.parse_of_wrapping hlength hzero hwrap
    refine iff_of_false (not_decodes_of_panic hm) fun h => ?_
    omega
  have hlower : 4 ≤ devPathLen data := by omega
  have hupper : devPathLen data + 28 < 2 ^ 64 := by omega
  rw [and_iff_right hlower, and_iff_right hupper]
  by_cases hclaimed : data.length < devPathLen data + 28
  · rw [iff_true_right (.inl hclaimed)]
    obtain ⟨e, he⟩ := EvBootServicesAppParser.parse_of_claimed hlength hlower hupper hclaimed
    refine (decodes_of_err_iff he).2 fun nodes hevent => ?_
    have := le_length_of_isLoadEvent hevent
    omega
  have hinside : devPathLen data + 28 ≤ data.length := not_lt.1 hclaimed
  rw [or_iff_right hclaimed]
  by_cases hheader : devPathLen data < 8
  · obtain ⟨e, he⟩ := EvBootServicesAppParser.parse_of_header hlength hlower hupper hinside hheader
    rw [decodes_of_err_iff he, forall_not_isLoadEvent_iff hlength hheader, and_iff_right hheader,
      or_iff_left fun h => absurd h.1 (by omega)]
  · have hpath : 8 ≤ devPathLen data := not_lt.1 hheader
    have hne : devicePathOf data ≠ [] := by
      intro hnil
      have := length_devicePathOf hinside
      rw [hnil, List.length_nil] at this
      omega
    rw [or_iff_right fun h => hheader h.1, and_iff_right hpath]
    exact decodes_path_iff hne hlength hlower
      (EvBootServicesAppParser.parse_of_path hlength hlower hupper hinside hpath)

/-- An event with no node but the End node. -/
def endEvent : Bytes := List.replicate 24 0 ++ toLe 8 4 ++ endNode

/-- The path that has no node is refused. -/
theorem not_decodes_endEvent : ¬ ∀ (overflowChecks : Bool) (data : Bytes),
    Decodes overflowChecks data := by
  intro h
  have hevent : IsLoadEvent endEvent [] := ⟨List.replicate 24 0, rfl, by decide, rfl⟩
  obtain ⟨paths, -, hok⟩ := (h true endEvent).nodes [] hevent
  have herr : EvBootServicesAppParser.parse true endEvent =
      .bail "Remaining device path is shorter than 4 bytes" := rfl
  rw [herr] at hok
  cases hok

end Trustmee.Eventlog
