import Mathlib.Data.List.Forall2
import Mathlib.Data.List.Sort
import SpeechGateway.Files
import SpeechGateway.JsonText

/-!
The gate in front of a local ASR model: `verify_model_manifest` compares the files of the
model directory with a manifest of their sizes and digests. The file system does not change
during a call, every directory and file can be read, and the platform has the flags that
the code asks for. A path is what the operating system makes of it.
-/
namespace SpeechGateway.Artifacts
open Dict Unicode JsonText Files

/-- `ModelArtifactVerificationError`, by its reason. -/
inductive ModelArtifactVerificationError
  | modelSymlink
  | modelMissing
  | modelNotDirectory
  | manifestMissing
  | manifestNotRegular
  | parentUnsafe
  | manifestUnreadable
  | notJson
  | schemaInvalid
  | schemaUnsupported
  | metadataInvalid
  | entryInvalid
  | pathInvalid
  | entryMetadataInvalid (path : Str)
  | duplicatePath (path : Str)
  | artifactSymlink (path : Str)
  | artifactSpecial (path : Str)
  | artifactUnsafe (name : Str)
  | artifactNotRegular (name : Str)
  | setMismatch (missing unexpected : Option Str)
  | sizeMismatch (path : Str)
  | checksumMismatch (path : Str)
  | outputInside
  | outputSymlink
  | identityMissing
  | noArtifacts
  deriving DecidableEq, Repr

def ModelArtifactVerificationError.message : ModelArtifactVerificationError → Str
  | modelSymlink => str "ASR model path must not be a symlink"
  | modelMissing => str "ASR model directory does not exist"
  | modelNotDirectory => str "ASR model path must be a regular directory"
  | manifestMissing => str "Model manifest does not exist"
  | manifestNotRegular => str "Model manifest must be a regular file"
  | parentUnsafe => str "Unable to open model manifest parent safely"
  | manifestUnreadable => str "Unable to read model manifest safely"
  | notJson => str "Model manifest is not valid JSON"
  | schemaInvalid => str "Model manifest schema is invalid"
  | schemaUnsupported => str "Unsupported model manifest schema"
  | metadataInvalid => str "Model manifest metadata is invalid"
  | entryInvalid => str "Model manifest file entry is invalid"
  | pathInvalid => str "Model manifest path is invalid"
  | entryMetadataInvalid path => str "Model manifest metadata is invalid: " ++ path
  | duplicatePath path => str "Model manifest contains duplicate path: " ++ path
  | artifactSymlink path => str "Model artifact must not be a symlink: " ++ path
  | artifactSpecial path => str "Model artifact must be a regular file: " ++ path
  | artifactUnsafe name => str "Unable to open model artifact safely: " ++ name
  | artifactNotRegular name => str "Model artifact must be a regular file: " ++ name
  | setMismatch missing unexpected =>
    str "Model artifact set does not match manifest: " ++ (str ", ").intercalate
      ((missing.map (str "missing=" ++ ·)).toList ++ (unexpected.map (str "unexpected=" ++ ·)).toList)
  | sizeMismatch path => str "Model artifact size mismatch: " ++ path
  | checksumMismatch path => str "Model artifact checksum mismatch: " ++ path
  | outputInside => str "Create the approval manifest outside the model directory"
  | outputSymlink => str "Manifest output must not be a symlink"
  | identityMissing => str "Manifest source and immutable revision are required"
  | noArtifacts => str "Model directory contains no artifacts"

/-- What the module raises: its own error, or an exception that it lets through: of a path that cannot
    be opened or replaced, of a text that cannot be encoded, of an integer of too many digits, or of
    values that nest too deep. -/
inductive Raised
  | rejected (reason : ModelArtifactVerificationError)
  | osError
  | unicodeEncodeError
  | valueError
  | recursionError
  deriving DecidableEq, Repr

def rejecting {α : Type} : Except ModelArtifactVerificationError α → Except Raised α
  | .ok value => .ok value
  | .error reason => .error (.rejected reason)

/-- `SHA256_PATTERN.fullmatch`. -/
def isSha256 (checksum : Str) : Bool :=
  checksum.length == 64 && checksum.all fun c => (0x30 ≤ c.val && c.val ≤ 0x39) || (0x61 ≤ c.val && c.val ≤ 0x66)

/-- What `hexdigest()` of SHA-256 returns. -/
structure Digest where
  text : Str
  sha256 : isSha256 text = true
  deriving DecidableEq

structure ModelManifestMetadata where
  source : Str
  revision : Str
  fileCount : Nat
  deriving DecidableEq, Repr

structure ManifestEntry where
  path : Str
  size : Nat
  sha256 : Str
  deriving DecidableEq, Repr

/-- What `_read_manifest` returns. -/
structure Manifest where
  source : Str
  revision : Str
  entries : List ManifestEntry
  deriving DecidableEq, Repr

/-- A path to a directory: whether its last part is a symbolic link, and where it leads
    with every link followed. -/
structure DirectoryPath where
  isSymlink : Bool
  resolved : Option Location

/-- The last part of a path. `Path("/")` has none. -/
inductive PathName
  | missing
  | up
  | entry (name : FileName)

/-- A path to a file: where its parent leads with every link followed, and its last part. -/
structure FilePath where
  parent : Option Location
  name : PathName

/-- `path.resolve()`, for a path that does not end in a link. -/
def FilePath.resolved (path : FilePath) : Option Location :=
  match path.parent,path.name with
  | some parent,.entry name => some (parent ++ [name])
  | _,_ => none

/-- `_require_model_directory`. -/
def requireModelDirectory (fs : FileSystem) (model : DirectoryPath) : Except ModelArtifactVerificationError Location :=
  if model.isSymlink then .error .modelSymlink else
  match model.resolved with
  | none => .error .modelMissing
  | some root =>
    match fs.lookup root with
    | some (.directory _) => .ok root
    | _ => .error .modelNotDirectory

/-- The loop of `_collect_model_files`; `files` holds the paths collected so far. -/
def collectLoop (root : Location) (excluded : Option Location) :
    List (Location × Node) → List (Str × Location) → Except ModelArtifactVerificationError (List (Str × Location))
  | [],files => .ok files
  | (place,.symlink) :: _,_ => .error (.artifactSymlink (posix place))
  | (_,.directory _) :: rest,files => collectLoop root excluded rest files
  | (place,.special _) :: _,_ => .error (.artifactSpecial (posix place))
  | (place,.file _) :: rest,files =>
    if excluded = some (root ++ place) then collectLoop root excluded rest files
    else collectLoop root excluded rest (setItem files (posix place) (root ++ place))

/-- `_collect_model_files`. -/
def collectModelFiles (fs : FileSystem) (root : Location) (excluded : Option Location) :
    Except ModelArtifactVerificationError (List (Str × Location)) :=
  match fs.lookup root with
  | some node => collectLoop root excluded node.rglob []
  | none => .ok []

/-- `path.name`. -/
def lastName (place : Location) : Str :=
  match place.getLast? with
  | some name => name.text
  | none => []

/-- `_measure_file`. -/
def measureFile (sha256 : Bytes → Digest) (fs : FileSystem) (place : Location) : Except ModelArtifactVerificationError (Nat × Digest) :=
  match fs.lookup place with
  | some (.file content) => .ok (content.length,sha256 content)
  | some (.directory _) | some (.special true) => .error (.artifactNotRegular (lastName place))
  | some .symlink | some (.special false) | none => .error (.artifactUnsafe (lastName place))

/-! ## The manifest -/

/-- `_read_manifest_bytes`. -/
def readManifestBytes (fs : FileSystem) (path : FilePath) : Except ModelArtifactVerificationError Bytes :=
  match path.parent with
  | none => .error .manifestMissing
  | some parent =>
    match path.name,fs.lookup parent with
    | .missing,_ => .error .manifestNotRegular
    | .up,some (.directory _) => .error .manifestNotRegular
    | .entry name,some (.directory _) =>
      match fs.lookup (parent ++ [name]) with
      | some (.file content) => .ok content
      | some (.directory _) | some (.special true) => .error .manifestNotRegular
      | some .symlink | some (.special false) | none => .error .manifestUnreadable
    | _,_ => .error .parentUnsafe

/-- `_validate_relative_path`. -/
def validateRelativePath : Value → Except ModelArtifactVerificationError Str
  | .str value =>
    if value = [] ∨ char '\\' ∈ value then .error .pathInvalid else
    let path := purePosixPath value
    if path.isAbsolute ∨ value ≠ path.asPosix ∨ ∃ part ∈ path.parts, part = [] ∨ part = str "." ∨ part = str ".." then
      .error .pathInvalid
    else .ok value
  | _ => .error .pathInvalid

/-- `set(items) == names`. -/
def keysAre (names : List Str) (items : List (Str × Value)) : Bool :=
  (items.all fun item => item.1 ∈ names) && names.all fun name => name ∈ items.map Prod.fst

def schemaKeys : List Str := [str "schema_version",str "source",str "revision",str "files"]

def entryKeys : List Str := [str "path",str "size",str "sha256"]

/-- The checks of `_read_manifest` outside `files`: the source, the revision and the raw entries. -/
def readHeader : Value → Except ModelArtifactVerificationError (Str × Str × List Value)
  | .dict payload =>
    if !keysAre schemaKeys payload then .error .schemaInvalid else
    match payload.lookup (str "schema_version") with
    | some (.int version) =>
      if version ≠ 1 then .error .schemaUnsupported else
      match payload.lookup (str "source"),payload.lookup (str "revision"),payload.lookup (str "files") with
      | some (.str source),some (.str revision),some (.list files) =>
        if strip source = [] ∨ strip revision = [] ∨ files = [] then .error .metadataInvalid
        else .ok (source,revision,files)
      | _,_,_ => .error .metadataInvalid
    | _ => .error .schemaInvalid
  | _ => .error .schemaInvalid

/-- The checks on one entry, but for its repetition. -/
def readEntry : Value → Except ModelArtifactVerificationError ManifestEntry
  | .dict raw =>
    if !keysAre entryKeys raw then .error .entryInvalid else do
      let path ← validateRelativePath ((raw.lookup (str "path")).getD .null)
      match raw.lookup (str "size"),raw.lookup (str "sha256") with
      | some (.int size),some (.str checksum) =>
        if size < 0 ∨ isSha256 checksum = false then .error (.entryMetadataInvalid path)
        else .ok ⟨path,size.toNat,checksum⟩
      | _,_ => .error (.entryMetadataInvalid path)
  | _ => .error .entryInvalid

/-- The loop over `files`; `seen` is `seen_paths`. -/
def readEntries : List Value → List Str → Except ModelArtifactVerificationError (List ManifestEntry)
  | [],_ => .ok []
  | raw :: rest,seen => do
    let entry ← readEntry raw
    if entry.path ∈ seen then .error (.duplicatePath entry.path) else do
      let entries ← readEntries rest (entry.path :: seen)
      .ok (entry :: entries)

/-- What becomes of an exception of `json.loads`: only `JSONDecodeError` is named. -/
def unreadable : JsonError → Raised
  | .decode => .rejected .notJson
  | .digits => .valueError
  | .recursion => .recursionError

/-- `_read_manifest` on what the file holds, for an interpreter with so much room for nesting. -/
def parseManifest (room : Nesting) (content : Bytes) : Except Raised Manifest :=
  match decode content with
  | none => .error (.rejected .notJson)
  | some text =>
    match loads room text with
    | .error error => .error (unreadable error)
    | .ok payload => do
      let (source,revision,files) ← rejecting (readHeader payload)
      let entries ← rejecting (readEntries files [])
      .ok ⟨strip source,strip revision,entries⟩

/-- `_read_manifest`. -/
def readManifest (room : Nesting) (fs : FileSystem) (path : FilePath) : Except Raised Manifest := do
  let content ← rejecting (readManifestBytes fs path)
  parseManifest room content

/-- `sorted(left - right)[0]`, if there is one. -/
def firstMissing (left right : List Str) : Option Str :=
  ((left.filter fun path => path ∉ right).insertionSort (· ≤ ·)).head?

/-- The loop over the entries. -/
def compareEntries (sha256 : Bytes → Digest) (fs : FileSystem) (actual : List (Str × Location)) :
    List ManifestEntry → Except ModelArtifactVerificationError Unit
  | [] => .ok ()
  | entry :: rest => do
    let (size,digest) ← measureFile sha256 fs ((actual.lookup entry.path).getD [])
    if size ≠ entry.size then .error (.sizeMismatch entry.path) else
    if digest.text ≠ entry.sha256 then .error (.checksumMismatch entry.path) else
    compareEntries sha256 fs actual rest

/-- `verify_model_manifest`. -/
def verifyModelManifest (room : Nesting) (sha256 : Bytes → Digest) (fs : FileSystem) (model : DirectoryPath) (path : FilePath) :
    Except Raised ModelManifestMetadata := do
  let root ← rejecting (requireModelDirectory fs model)
  let manifest ← readManifest room fs path
  let actual ← rejecting (collectModelFiles fs root path.resolved)
  let actualPaths := actual.map Prod.fst
  let expected := manifest.entries.map ManifestEntry.path
  if ¬((∀ path ∈ actualPaths, path ∈ expected) ∧ ∀ path ∈ expected, path ∈ actualPaths) then
    .error (.rejected (.setMismatch (firstMissing expected actualPaths) (firstMissing actualPaths expected)))
  else do
    rejecting (compareEntries sha256 fs actual manifest.entries)
    .ok ⟨manifest.source,manifest.revision,manifest.entries.length⟩

end SpeechGateway.Artifacts
