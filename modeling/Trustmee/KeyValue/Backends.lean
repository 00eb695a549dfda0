import Trustmee.Foundations.Deserialize
import Trustmee.Foundations.Encoding
import Trustmee.Foundations.KeyedDirectory
import Trustmee.KeyValue.Interface

/-!
# The backends of the key-value storage

`Memory` keeps a hash map, `LocalJson` a file with a map of texts, `LocalFs` a directory with a file
for each key, and `Postgres` a table of rows. Files and rows are ideal: a file holds what was written
last, the JSON text of a map is read as the map, and a row is found by its primary key. An operation
returns its result and what it leaves behind; what goes through a hash map, a directory or a table is
given the order.
-/

namespace Trustmee.KeyValue

/-! ## Memory -/

namespace Memory

/-- `MemoryKeyValueStorage::set`. -/
def set (items : Table String Bytes) (key : String) (value : Bytes) (parameters : SetParameters) :
    Except KeyValueStorageError Unit × Table String Bytes :=
  if parameters.overwrite then (.ok (), items.insert key value)
  else if (items key).isSome then (.error (.setKeyFailed "key already exists" key), items)
  else (.ok (), items.insert key value)

/-- `MemoryKeyValueStorage::list`. -/
def list (iteration : Table.Iteration String Bytes) (items : Table String Bytes) :
    Except KeyValueStorageError (List String) :=
  .ok ((iteration.order items).map Prod.fst)

/-- `MemoryKeyValueStorage::get`. -/
def get (items : Table String Bytes) (key : String) :
    Except KeyValueStorageError (Option Bytes) :=
  .ok (items key)

/-- `MemoryKeyValueStorage::delete`. -/
def delete (items : Table String Bytes) (key : String) :
    Except KeyValueStorageError (Option Bytes) × Table String Bytes :=
  (.ok (items key), items.erase key)

end Memory

/-! ## A JSON file -/

namespace LocalJson

/-- `serde_json::from_slice::<HashMap<String, String>>`. -/
def readItems (file : Json) : Except String (Table String String) :=
  Deserialize.hashMap Deserialize.string file

/-- `serde_json::to_string` of a map, which is gone through in an order. -/
def writeItems (iteration : Table.Iteration String String) (items : Table String String) : Json :=
  .object ((iteration.order items).map fun p => (p.1, .string p.2))

/-- `URL_SAFE.decode` of a value that may be absent, with the error of the call. -/
def decodeValue (fail : String → KeyValueStorageError) :
    Option String → Except KeyValueStorageError (Option Bytes)
  | none => .ok none
  | some v =>
    match Base64.decodeUrlSafe v with
    | some b => .ok (some b)
    | none => .error (fail "invalid base64")

/-- `LocalJson::set`. It refuses to overwrite when it is asked to. -/
def set (iteration : Table.Iteration String String) (file : Json) (key : String) (value : Bytes)
    (parameters : SetParameters) : Except KeyValueStorageError Unit × Json :=
  match readItems file with
  | .error e => (.error (.malformedValue e), file)
  | .ok items =>
    if parameters.overwrite ∧ (items key).isSome then
      (.error (.setKeyFailed "key already exists" key), file)
    else (.ok (), writeItems iteration (items.insert key (Base64.encodeUrlSafe value)))

/-- `LocalJson::get`. -/
def get (file : Json) (key : String) : Except KeyValueStorageError (Option Bytes) :=
  match readItems file with
  | .error e => .error (.malformedValue ("failed to deserialize the file: " ++ e))
  | .ok items => decodeValue (fun e => .getKeyFailed
      ("failed to base64 decode the content inside json: " ++ e) key) (items key)

/-- `LocalJson::list`. -/
def list (iteration : Table.Iteration String String) (file : Json) :
    Except KeyValueStorageError (List String) :=
  match readItems file with
  | .error e => .error (.listKeysFailed ("failed to deserialize the file: " ++ e))
  | .ok items => .ok ((iteration.order items).map Prod.fst)

/-- `LocalJson::delete`. -/
def delete (iteration : Table.Iteration String String) (file : Json) (key : String) :
    Except KeyValueStorageError (Option Bytes) × Json :=
  match readItems file with
  | .error e => (.error (.deleteKeyFailed ("failed to deserialize the file: " ++ e) key), file)
  | .ok items =>
    match decodeValue (fun e => .deleteKeyFailed ("failed to base64 decode value: " ++ e) key)
        (items key) with
    | .error e => (.error e, file)
    | .ok value => (.ok value, writeItems iteration (items.erase key))

end LocalJson

/-! ## A directory -/

namespace LocalFs

/-- The characters of a key, with `\x2F` for a slash. -/
def escapeSlash : List Char → List Char
  | [] => []
  | c :: l => if c = '/' then '\\' :: 'x' :: '2' :: 'F' :: escapeSlash l else c :: escapeSlash l

/-- The characters of a file name, with a slash for `\x2F`. -/
def unescapeSlash : List Char → List Char
  | '\\' :: 'x' :: '2' :: 'F' :: l => '/' :: unescapeSlash l
  | c :: l => c :: unescapeSlash l
  | [] => []

/-- The name of the file of a key. -/
def fileName (key : String) : String := String.ofList (escapeSlash key.toList)

/-- The key of a file name. -/
def keyOf (name : String) : String := String.ofList (unescapeSlash name.toList)

/-- `LocalFs::set`. A file that it wrote without overwriting exists afterwards, which is an error. -/
def set (dirPath : String) (fs : FileSystem) (key : String) (value : Bytes)
    (parameters : SetParameters) : Except KeyValueStorageError Unit × FileSystem :=
  if isValidKey key then
    let filePath := FileSystem.join dirPath (fileName key)
    let written :=
      if parameters.overwrite ∨ fs.pathExists filePath = false then fs.write filePath value
      else .ok fs
    match written with
    | .error e => (.error (.setKeyFailed e.display key), fs)
    | .ok fs =>
      if parameters.overwrite = false ∧ fs.pathExists filePath then
        (.error (.setKeyFailed "key already exists" key), fs)
      else (.ok (), fs)
  else (.error (.setKeyFailed "key contains invalid characters" key), fs)

/-- `LocalFs::get`. -/
def get (dirPath : String) (fs : FileSystem) (key : String) :
    Except KeyValueStorageError (Option Bytes) :=
  let filePath := FileSystem.join dirPath (fileName key)
  if fs.pathExists filePath = false then .ok none
  else match fs.read filePath with
    | .error e => .error (.getKeyFailed ("failed to read the file: " ++ e.display) key)
    | .ok file => .ok (some file)

/-- `LocalFs::list`. -/
def list (listing : FileSystem.Listing) (dirPath : String) (fs : FileSystem) :
    Except KeyValueStorageError (List String) :=
  match fs.readDir listing dirPath with
  | .error e => .error (.listKeysFailed ("failed to read the directory: " ++ e.display))
  | .ok names => .ok (names.map keyOf)

/-- `LocalFs::delete`. -/
def delete (dirPath : String) (fs : FileSystem) (key : String) :
    Except KeyValueStorageError (Option Bytes) × FileSystem :=
  let filePath := FileSystem.join dirPath (fileName key)
  if fs.pathExists filePath = false then (.ok none, fs)
  else match fs.read filePath with
    | .error e => (.error (.getKeyFailed e.display key), fs)
    | .ok file =>
      match fs.removeFile filePath with
      | .error e => (.error (.deleteKeyFailed e.display key), fs)
      | .ok fs => (.ok (some file), fs)

end LocalFs

/-! ## A table -/

namespace Postgres

/-- `PostgresClient::set`: an `INSERT`, where asked for with `ON CONFLICT … DO UPDATE`. -/
def set (table : String) (rows : Table String Bytes) (key : String) (value : Bytes)
    (parameters : SetParameters) : Except KeyValueStorageError Unit × Table String Bytes :=
  if isValidKey key then
    if parameters.overwrite = false ∧ (rows key).isSome then
      (.error (.setKeyFailed ("error returned from database: duplicate key value violates unique " ++
        "constraint \"" ++ table ++ "_pkey\"") key), rows)
    else (.ok (), rows.insert key value)
  else (.error (.setKeyFailed "key contains invalid characters" key), rows)

/-- `PostgresClient::list`. -/
def list (iteration : Table.Iteration String Bytes) (rows : Table String Bytes) :
    Except KeyValueStorageError (List String) :=
  .ok ((iteration.order rows).map Prod.fst)

/-- `PostgresClient::get`, which fetches one row and fails where there is none. -/
def get (rows : Table String Bytes) (key : String) : Except KeyValueStorageError (Option Bytes) :=
  match rows key with
  | some value => .ok (some value)
  | none => .error (.getKeyFailed
      "no rows returned by a query that expected to return at least one row" key)

/-- `PostgresClient::delete`: a `DELETE … RETURNING`. -/
def delete (rows : Table String Bytes) (key : String) :
    Except KeyValueStorageError (Option Bytes) × Table String Bytes :=
  (.ok (rows key), rows.erase key)

end Postgres

/-! ## The storages -/

/-- A `LocalFs`, on an empty directory. -/
abbrev LocalFs := FileSystem.EmptyDirectory

/-- A configured backend. -/
inductive Backend
  | memory
  | localJson
  | localFs (store : LocalFs)
  | postgres (table : String)

/-- The answer and the state that are left. -/
def answer {σ α : Type} (reply : α → Reply) (result : Except KeyValueStorageError α × σ) :
    Answer × σ :=
  (result.1.map reply, result.2)

/-- The storage of a backend: an empty map, a file with an empty object, an empty directory, or a
table without rows. -/
def Backend.storage : Backend → Storage
  | .memory => {
    State := Table String Bytes
    Order := Table.Iteration String Bytes
    empty := .empty
    exec := fun order items op =>
      match op with
      | .set key value parameters => answer (fun _ => .done) (Memory.set items key value parameters)
      | .list => answer .keys (Memory.list order items, items)
      | .get key => answer .value (Memory.get items key, items)
      | .delete key => answer .value (Memory.delete items key)
    nonempty_order := inferInstance }
  | .localJson => {
    State := Json
    Order := Table.Iteration String String
    empty := .object []
    exec := fun order file op =>
      match op with
      | .set key value parameters =>
        answer (fun _ => .done) (LocalJson.set order file key value parameters)
      | .list => answer .keys (LocalJson.list order file, file)
      | .get key => answer .value (LocalJson.get file key, file)
      | .delete key => answer .value (LocalJson.delete order file key)
    nonempty_order := inferInstance }
  | .localFs store => {
    State := FileSystem
    Order := FileSystem.Listing
    empty := store.fs
    exec := fun order fs op =>
      match op with
      | .set key value parameters =>
        answer (fun _ => .done) (LocalFs.set store.dirPath fs key value parameters)
      | .list => answer .keys (LocalFs.list order store.dirPath fs, fs)
      | .get key => answer .value (LocalFs.get store.dirPath fs key, fs)
      | .delete key => answer .value (LocalFs.delete store.dirPath fs key)
    nonempty_order := inferInstance }
  | .postgres table => {
    State := Table String Bytes
    Order := Table.Iteration String Bytes
    empty := .empty
    exec := fun order rows op =>
      match op with
      | .set key value parameters =>
        answer (fun _ => .done) (Postgres.set table rows key value parameters)
      | .list => answer .keys (Postgres.list order rows, rows)
      | .get key => answer .value (Postgres.get rows key, rows)
      | .delete key => answer .value (Postgres.delete rows key)
    nonempty_order := inferInstance }

end Trustmee.KeyValue
