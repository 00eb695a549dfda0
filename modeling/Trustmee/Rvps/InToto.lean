import Trustmee.Foundations.LexicalPath
import Trustmee.Rvps.Service

/-!
# The in-toto extractor

A provenance has files, each under a relative path. They are put into a new temporary directory: the
path is joined to that of the directory and cleaned, the directory of the path is made, and the file
is created and written. Then the layout among the files is checked, and in-toto verifies them. No
reference value is extracted.
-/

namespace Trustmee.Rvps

open FileSystem (clean)

/-! ## Provenances -/

def INTOTO_VERSION : String := "0.9"

/-- `Provenance`. -/
structure Provenance where
  version : String
  lineNormalization : Bool
  files : Table String String

/-- The derived `Deserialize`. -/
def Provenance.fromValue (v : Json) : Except String Provenance := do
  let m ← Deserialize.fields "Provenance" ["version", "line_normalization", "files"] 3 v
  let version ← Deserialize.withDefault Deserialize.string INTOTO_VERSION m "version"
  let lineNormalization ← Deserialize.required Deserialize.bool m "line_normalization"
  let files ← Deserialize.required (Deserialize.hashMap Deserialize.string) m "files"
  return ⟨version, lineNormalization, files⟩

/-! ## Paths -/

/-- `rsplit_once(c).unwrap_or((s, "")).0`. -/
def beforeLast (s : String) (c : Char) : String :=
  if c ∈ s.toList then String.ofList (s.toList.reverse.dropWhile (· != c)).tail.reverse else s

/-- `get_file_path`. -/
def getFilePath (tempdir relativeFilePath : String) : String × String :=
  let absPath := clean (tempdir ++ "/" ++ relativeFilePath)
  (absPath, beforeLast absPath '/')

/-- `ends_with`. -/
def endsWith (s suffix : String) : Bool := suffix.toList.isSuffixOf s.toList

/-! ## The extractor -/

/-- What the loop over the files leaves: the tree, `file_paths`, and the files that it created, each
with its key. -/
structure Placed where
  tree : FileSystem
  filePaths : List String
  created : List (String × Place)

/-- One turn of the loop. -/
@[irreducible] def placeFile (tempdirStr : String) (placed : Placed) (file : String × String) :
    Outcome Unit × Placed :=
  let (filePath, dir) := getFilePath tempdirStr file.1
  match placed.tree.createDirAll dir with
  | (.error e, tree) => (.err [e.display], { placed with tree })
  | (.ok (), tree) =>
    match tree.create filePath with
    | .error e => (.err [e.display], { placed with tree })
    | .ok (place, tree) =>
      let created := placed.created ++ [(file.1, place)]
      match decodeBase64 file.2 with
      | .ok bytes =>
        (.ok (), ⟨tree.writeAll place bytes, placed.filePaths ++ [filePath], created⟩)
      | .err e => (.err e, { placed with tree, created })
      | .panic m => (.panic m, { placed with tree, created })

/-- The loop over the files. -/
def placeFiles (tempdirStr : String) (placed : Placed) :
    List (String × String) → Outcome Unit × Placed
  | [] => (.ok (), placed)
  | file :: files =>
    match placeFile tempdirStr placed file with
    | (.ok (), placed) => placeFiles tempdirStr placed files
    | (.err e, placed) => (.err e, placed)
    | (.panic m, placed) => (.panic m, placed)

/-- `InTotoExtractor`, by what it calls. -/
structure InTotoExtractor where
  serde : SerdeJson
  /-- `tempfile::tempdir`: the path of the new directory. -/
  tempdir : FileSystem → Except String (String × FileSystem)
  /-- `parse::<DateTime<Utc>>`. -/
  parseDateTime : String → Except String DateTime
  /-- `shim::verify`, in a tree. -/
  verify : FileSystem → (layoutPath : String) → (pubKeyPaths intermediatePaths : List String) →
    (linkDir : String) → (lineNormalization : Bool) → Except String Unit

namespace InTotoExtractor

variable (E : InTotoExtractor)

/-- The provenance of a text, of the right version. -/
def readProvenance (provenance : String) : Outcome Provenance := do
  let payload ← Outcome.ofExcept (E.serde.fromStr Provenance.fromValue provenance)
  if payload.version ≠ INTOTO_VERSION then
    .bail ("Version unmatched! Need " ++ INTOTO_VERSION ++ ", given " ++ payload.version ++ ".")
  else return payload

/-- The layout of an envelope has a time at which it expires. -/
def checkExpires (envelope : Json) : Outcome DateTime := do
  let payloadType := (envelope.get "payloadType").getD .null
  if payloadType.asStr ≠ some "application/vnd.in-toto+json" then
    .bail ("Unsupported payload type " ++ payloadType.print ++
      ", only support `application/vnd.in-toto+json` now")
  else
    let inner ← Outcome.okOr ((envelope.get "payload").bind Json.asStr)
      "Unexpected payload, expected a base64 encoded string"
    let layout ← decodeBase64 inner
    let layout ← (Outcome.ofExcept (E.serde.fromSlice .ok layout)).context "parse layout"
    let expireStr ← Outcome.okOr ((layout.get "expires").bind Json.asStr)
      "failed to get expired time"
    Outcome.ofExcept (E.parseDateTime expireStr)

/-- The part of `verify_and_extract` behind the loop. -/
def verifyPlaced (tempdirStr : String) (lineNormalization : Bool) (placed : Placed) :
    Outcome (List ReferenceValue) := do
  let layoutPath ← Outcome.okOr (placed.filePaths.find? (endsWith · ".layout"))
    "Layout file not found."
  let pubKeyPaths := placed.filePaths.filter (endsWith · ".pub")
  let _ ← Outcome.ofExcept (placed.tree.currentDir.mapError IoError.display)
  let layoutFile ← Outcome.ofExcept ((placed.tree.read layoutPath).mapError IoError.display)
  let envelope ← Outcome.ofExcept (E.serde.fromSlice .ok layoutFile)
  let _ ← E.checkExpires envelope
  let tree ← Outcome.ofExcept ((placed.tree.setCurrentDir tempdirStr).mapError IoError.display)
  let _ ← Outcome.ofExcept (E.verify tree layoutPath pubKeyPaths [] "" lineNormalization)
  return []

/-- `verify_and_extract`, with an order in which it goes through the files, and what was placed when
it returns, before the directory is dropped. -/
def verifyAndExtract (iteration : Table.Iteration String String) (fs : FileSystem)
    (provenance : String) : Outcome (List ReferenceValue) × Placed :=
  match E.readProvenance provenance with
  | .err e => (.err e, ⟨fs, [], []⟩)
  | .panic m => (.panic m, ⟨fs, [], []⟩)
  | .ok payload =>
    match E.tempdir fs with
    | .error e => (.err [e], ⟨fs, [], []⟩)
    | .ok (tempdirStr, tree) =>
      match placeFiles tempdirStr ⟨tree, [], []⟩ (iteration.order payload.files) with
      | (.ok (), placed) => (E.verifyPlaced tempdirStr payload.lineNormalization placed, placed)
      | (.err e, placed) => (.err e, placed)
      | (.panic m, placed) => (.panic m, placed)

end InTotoExtractor

end Trustmee.Rvps
