import SpeechGateway.Artifacts
import SpeechGateway.Programs

/-!
What `verify_model_manifest` accepts: a manifest that is a well-formed version-1 document,
beside a directory whose regular files are the listed ones, each with the listed size and
digest, and which holds nothing but files and directories (`verification_exact`).
-/
namespace SpeechGateway.Artifacts
open Dict Unicode JsonText Files
open Programs (bind_ok)

/-- The items of an entry in the document, and the entry that they describe. -/
structure EntryOf (items : List (Str × Value)) (entry : ManifestEntry) : Prop where
  keys : ∀ key, key ∈ items.map Prod.fst ↔ key ∈ entryKeys
  path : items.lookup (str "path") = some (.str entry.path)
  size : items.lookup (str "size") = some (.int entry.size)
  sha256 : items.lookup (str "sha256") = some (.str entry.sha256)
  relative : Relative entry.path
  plain : char '\\' ∉ entry.path
  digest : isSha256 entry.sha256 = true

def Describes (raw : Value) (entry : ManifestEntry) : Prop := ∃ items, raw = .dict items ∧ EntryOf items entry

/-- The items of a version-1 document, and the manifest that they describe. -/
structure ManifestOf (items : List (Str × Value)) (manifest : Manifest) : Prop where
  keys : ∀ key, key ∈ items.map Prod.fst ↔ key ∈ schemaKeys
  version : items.lookup (str "schema_version") = some (.int 1)
  source : ∃ source, items.lookup (str "source") = some (.str source) ∧ manifest.source = strip source
  revision : ∃ revision, items.lookup (str "revision") = some (.str revision) ∧ manifest.revision = strip revision
  named : manifest.source ≠ [] ∧ manifest.revision ≠ []
  files : ∃ files, items.lookup (str "files") = some (.list files) ∧ List.Forall₂ Describes files manifest.entries
  nonempty : manifest.entries ≠ []
  distinct : (manifest.entries.map ManifestEntry.path).Nodup

/-- The bytes are UTF-8 for a text that is loaded as such a document. -/
def WellFormed (room : Nesting) (content : Bytes) (manifest : Manifest) : Prop :=
  ∃ text items, decode content = some text ∧ loads room text = .ok (.dict items) ∧ ManifestOf items manifest

theorem rejecting_ok {α : Type} {first : Except ModelArtifactVerificationError α} {value : α} :
    rejecting first = .ok value ↔ first = .ok value := by
  cases first <;> simp [rejecting]

theorem keysAre_iff {names : List Str} {items : List (Str × Value)} :
    keysAre names items = true ↔ ∀ key, key ∈ items.map Prod.fst ↔ key ∈ names := by
  simp only [keysAre,Bool.and_eq_true,List.all_eq_true,decide_eq_true_eq]
  constructor
  · rintro ⟨inside,all⟩ key
    refine ⟨fun member => ?_,all key⟩
    obtain ⟨item,here,rfl⟩ := List.mem_map.mp member
    exact inside item here
  · intro same
    exact ⟨fun item here => (same _).mp (List.mem_map_of_mem here),fun name listed => (same name).mpr listed⟩

theorem relative_ne_nil {path : Str} (relative : Relative path) : path ≠ [] := by
  rintro rfl
  have := (relative_iff.mp relative).2.1
  revert this
  decide

theorem validateRelativePath_ok {raw : Value} {path : Str} :
    validateRelativePath raw = .ok path ↔ raw = .str path ∧ Relative path ∧ char '\\' ∉ path := by
  cases raw with
  | str value =>
    rw [validateRelativePath]
    by_cases refused : value = [] ∨ char '\\' ∈ value
    · rw [if_pos refused]
      refine ⟨nofun,fun ⟨same,relative,plain⟩ => ?_⟩
      cases same
      rcases refused with empty | inside
      · exact absurd empty (relative_ne_nil relative)
      · exact absurd inside plain
    · rw [if_neg refused]
      rw [not_or] at refused
      dsimp only
      split_ifs with bad
      · refine ⟨nofun,fun ⟨same,relative,plain⟩ => ?_⟩
        cases same
        obtain ⟨down,normal,parts⟩ := relative_iff.mp relative
        rcases bad with absolute | other | ⟨part,member,wrong⟩
        · rw [down] at absolute
          cases absolute
        · exact absurd normal other
        · exact absurd wrong (parts part member)
      · rw [not_or,not_or] at bad
        obtain ⟨down,normal,parts⟩ := bad
        constructor
        · intro same
          cases same
          refine ⟨rfl,relative_iff.mpr ⟨by simpa using down,by simpa using normal,fun part member wrong => ?_⟩,refused.2⟩
          exact parts ⟨part,member,wrong⟩
        · rintro ⟨same,-⟩
          cases same
          rfl
  | null | bool | int | float | list | dict => exact ⟨nofun,fun both => by cases both.1⟩

theorem readEntry_ok {raw : Value} {entry : ManifestEntry} : readEntry raw = .ok entry ↔ Describes raw entry := by
  cases raw with
  | dict items =>
    rw [readEntry]
    constructor
    · intro read
      split_ifs at read with keys
      have keys : ∀ key, key ∈ items.map Prod.fst ↔ key ∈ entryKeys := keysAre_iff.mp (by simpa using keys)
      obtain ⟨path,valid,read⟩ := bind_ok.mp read
      obtain ⟨named,relative,plain⟩ := validateRelativePath_ok.mp valid
      split at read
      · rename_i size checksum sized summed
        split_ifs at read with bad
        cases read
        rw [not_or] at bad
        refine ⟨items,rfl,keys,?_,?_,summed,relative,plain,by simpa using bad.2⟩
        · cases found : items.lookup (str "path") with
          | none =>
            rw [found] at named
            cases named
          | some value =>
            rw [found] at named
            exact congrArg some named
        · rw [sized]
          dsimp only
          rw [Int.toNat_of_nonneg (by omega)]
      · cases read
    · rintro ⟨items',same,described⟩
      cases same
      have keys : keysAre entryKeys items = true := keysAre_iff.mpr described.keys
      have valid : validateRelativePath (.str entry.path) = .ok entry.path :=
        validateRelativePath_ok.mpr ⟨rfl,described.relative,described.plain⟩
      rw [keys,described.path,described.size,described.sha256]
      refine bind_ok.mpr ⟨entry.path,valid,?_⟩
      dsimp only
      rw [if_neg (by rw [described.digest]; simp)]
      rfl
  | null | bool | int | float | list | str => exact ⟨nofun,fun ⟨_,same,_⟩ => by cases same⟩

theorem readEntries_ok {raws : List Value} {seen : List Str} {entries : List ManifestEntry} :
    readEntries raws seen = .ok entries ↔ List.Forall₂ Describes raws entries ∧
      (entries.map ManifestEntry.path).Nodup ∧ ∀ entry ∈ entries, entry.path ∉ seen := by
  induction raws generalizing seen entries with
  | nil =>
    constructor
    · intro read
      cases read
      exact ⟨.nil,List.nodup_nil,nofun⟩
    · rintro ⟨each,-⟩
      cases each
      rfl
  | cons raw raws ih =>
    rw [readEntries]
    constructor
    · intro read
      obtain ⟨entry,first,read⟩ := bind_ok.mp read
      split_ifs at read with repeated
      obtain ⟨rest,later,read⟩ := bind_ok.mp read
      cases read
      obtain ⟨each,distinct,apart⟩ := ih.mp later
      refine ⟨.cons (readEntry_ok.mp first) each,?_,?_⟩
      · rw [List.map_cons,List.nodup_cons]
        refine ⟨fun inside => ?_,distinct⟩
        obtain ⟨other,member,same⟩ := List.mem_map.mp inside
        exact apart other member (same ▸ List.mem_cons_self)
      · intro other member
        rcases List.mem_cons.mp member with rfl | later
        · exact repeated
        · exact fun inside => apart other later (List.mem_cons_of_mem _ inside)
    · rintro ⟨each,distinct,apart⟩
      cases each with
      | @cons _ entry _ entries described each =>
        rw [List.map_cons,List.nodup_cons] at distinct
        refine bind_ok.mpr ⟨entry,readEntry_ok.mpr described,?_⟩
        rw [if_neg (apart entry List.mem_cons_self)]
        refine bind_ok.mpr ⟨entries,ih.mpr ⟨each,distinct.2,fun other member inside => ?_⟩,rfl⟩
        rcases List.mem_cons.mp inside with same | inside
        · exact distinct.1 (same ▸ List.mem_map_of_mem member)
        · exact apart other (List.mem_cons_of_mem _ member) inside

theorem readHeader_ok {payload : Value} {source revision : Str} {files : List Value} :
    readHeader payload = .ok (source,revision,files) ↔ ∃ items, payload = .dict items ∧
      (∀ key, key ∈ items.map Prod.fst ↔ key ∈ schemaKeys) ∧ items.lookup (str "schema_version") = some (.int 1) ∧
      items.lookup (str "source") = some (.str source) ∧ items.lookup (str "revision") = some (.str revision) ∧
      items.lookup (str "files") = some (.list files) ∧ strip source ≠ [] ∧ strip revision ≠ [] ∧ files ≠ [] := by
  cases payload with
  | dict items =>
    rw [readHeader]
    constructor
    · intro read
      split_ifs at read with keys
      have keys : ∀ key, key ∈ items.map Prod.fst ↔ key ∈ schemaKeys := keysAre_iff.mp (by simpa using keys)
      split at read
      · rename_i version versioned
        split_ifs at read with other
        split at read
        · rename_i sourced revised listed
          split_ifs at read with bad
          cases read
          rw [not_or,not_or] at bad
          rw [not_not.mp other] at versioned
          exact ⟨items,rfl,keys,versioned,sourced,revised,listed,bad⟩
        · cases read
      · cases read
    · rintro ⟨items',same,keys,version,sourced,revised,listed,bad⟩
      cases same
      have keys : keysAre schemaKeys items = true := keysAre_iff.mpr keys
      rw [keys,version,sourced,revised,listed]
      dsimp only
      rw [if_neg (by simp),if_neg (by simp),if_neg (by rw [not_or,not_or]; exact bad)]
  | null | bool | int | float | list | str => exact ⟨nofun,fun ⟨_,same,_⟩ => by cases same⟩

/-- The reader accepts the well-formed documents. -/
theorem parseManifest_ok {room : Nesting} {content : Bytes} {manifest : Manifest} :
    parseManifest room content = .ok manifest ↔ WellFormed room content manifest := by
  rw [parseManifest]
  constructor
  · intro read
    split at read
    · cases read
    rename_i text decoded
    split at read
    · cases read
    rename_i payload loaded
    obtain ⟨⟨source,revision,files⟩,header,read⟩ := bind_ok.mp read
    obtain ⟨entries,listed,read⟩ := bind_ok.mp read
    cases read
    obtain ⟨items,rfl,keys,version,sourced,revised,filed,named,dated,some⟩ := readHeader_ok.mp (rejecting_ok.mp header)
    obtain ⟨each,distinct,-⟩ := readEntries_ok.mp (rejecting_ok.mp listed)
    refine ⟨text,items,decoded,loaded,keys,version,⟨source,sourced,rfl⟩,⟨revision,revised,rfl⟩,⟨named,dated⟩,
      ⟨files,filed,each⟩,?_,distinct⟩
    rintro rfl
    cases each
    exact some rfl
  · rintro ⟨text,items,decoded,loaded,described⟩
    obtain ⟨source,sourced,named⟩ := described.source
    obtain ⟨revision,revised,dated⟩ := described.revision
    obtain ⟨files,filed,each⟩ := described.files
    have given := described.named
    rw [named,dated] at given
    have header : readHeader (.dict items) = .ok (source,revision,files) := by
      refine readHeader_ok.mpr ⟨items,rfl,described.keys,described.version,sourced,revised,filed,given.1,given.2,?_⟩
      rintro rfl
      exact described.nonempty (List.forall₂_nil_left_iff.mp each)
    have listed : readEntries files [] = .ok manifest.entries := readEntries_ok.mpr ⟨each,described.distinct,nofun⟩
    rw [decoded]
    dsimp only
    rw [loaded]
    refine bind_ok.mpr ⟨_,rejecting_ok.mpr header,bind_ok.mpr ⟨_,rejecting_ok.mpr listed,?_⟩⟩
    rw [← named,← dated]

/-! ## What stands on disk -/

theorem readManifestBytes_ok {fs : FileSystem} {path : FilePath} {content : Bytes} :
    readManifestBytes fs path = .ok content ↔
      ∃ place, path.resolved = some place ∧ fs.lookup place = some (.file content) := by
  obtain ⟨parent,name⟩ := path
  cases parent with
  | none => exact ⟨nofun,fun ⟨_,led,_⟩ => by cases led⟩
  | some parent =>
    cases name with
    | missing => exact ⟨nofun,fun ⟨_,led,_⟩ => by cases led⟩
    | up =>
      refine ⟨fun read => ?_,fun ⟨_,led,_⟩ => by cases led⟩
      rw [readManifestBytes] at read
      dsimp only at read
      split at read <;> contradiction
    | entry name =>
      have led : (FilePath.mk (some parent) (.entry name)).resolved = some (parent ++ [name]) := rfl
      rw [led]
      constructor
      · intro read
        rw [readManifestBytes] at read
        dsimp only at read
        split at read
        · cases read
        · cases read
        · rename_i same _
          cases same
          split at read
          · rename_i held
            cases read
            exact ⟨_,rfl,held⟩
          all_goals cases read
        · cases read
      · rintro ⟨place,same,held⟩
        cases same
        have above : ∃ entries, fs.lookup parent = some (.directory entries) := by
          rw [FileSystem.lookup,Node.lookup_append,Option.bind_eq_some_iff] at held
          obtain ⟨node,there,below⟩ := held
          cases node with
          | directory entries => exact ⟨entries,there⟩
          | file | symlink | special => cases below
        obtain ⟨entries,above⟩ := above
        rw [readManifestBytes]
        dsimp only
        rw [above]
        dsimp only
        rw [held]

theorem requireModelDirectory_ok {fs : FileSystem} {model : DirectoryPath} {root : Location} :
    requireModelDirectory fs model = .ok root ↔ model.isSymlink = false ∧ model.resolved = some root ∧
      ∃ entries, fs.lookup root = some (.directory entries) := by
  rw [requireModelDirectory]
  constructor
  · intro required
    split_ifs at required with link
    split at required
    · cases required
    · rename_i led
      split at required
      · rename_i entries held
        cases required
        exact ⟨by simpa using link,led,entries,held⟩
      · cases required
  · rintro ⟨link,led,entries,held⟩
    rw [link,led]
    dsimp only
    rw [held]
    rfl

/-- A regular file below the directory, the manifest excluded. -/
def IsArtifact (fs : FileSystem) (root : Location) (excluded : Option Location) (place : Location) (content : Bytes) :
    Prop :=
  fs.lookup (root ++ place) = some (.file content) ∧ excluded ≠ some (root ++ place)

/-- Neither a symbolic link nor a special file. -/
def Node.Plain (node : Node) : Prop := node ≠ .symlink ∧ ∀ opens, node ≠ .special opens

/-- The files of a walk, as `_collect_model_files` sets them. -/
def kept (root : Location) (excluded : Option Location) (walk : List (Location × Node)) : List (Str × Location) :=
  walk.filterMap fun
    | (place,.file _) => if excluded = some (root ++ place) then none else some (posix place,root ++ place)
    | _ => none

theorem collectLoop_ok {root : Location} {excluded : Option Location} {walk : List (Location × Node)}
    {files found : List (Str × Location)} :
    collectLoop root excluded walk files = .ok found ↔ (∀ entry ∈ walk, Node.Plain entry.2) ∧
      found = (kept root excluded walk).foldl (fun items pair => setItem items pair.1 pair.2) files := by
  induction walk generalizing files with
  | nil => exact ⟨fun same => by cases same; exact ⟨nofun,rfl⟩,fun both => by rw [both.2]; rfl⟩
  | cons entry walk ih =>
    obtain ⟨place,node⟩ := entry
    cases node with
    | symlink => exact ⟨nofun,fun both => absurd rfl (both.1 _ List.mem_cons_self).1⟩
    | special opens => exact ⟨nofun,fun both => absurd rfl ((both.1 _ List.mem_cons_self).2 opens)⟩
    | directory entries =>
      rw [collectLoop,ih,List.forall_mem_cons]
      exact ⟨fun both => ⟨⟨⟨nofun,nofun⟩,both.1⟩,both.2⟩,fun both => ⟨both.1.2,both.2⟩⟩
    | file content =>
      have plain : Node.Plain (.file content) := ⟨nofun,nofun⟩
      rw [collectLoop,List.forall_mem_cons]
      by_cases manifest : excluded = some (root ++ place)
      · have skipped : kept root excluded ((place,.file content) :: walk) = kept root excluded walk := by
          rw [kept,List.filterMap_cons]
          dsimp only
          rw [if_pos manifest]
          rfl
        rw [if_pos manifest,ih,skipped]
        exact ⟨fun both => ⟨⟨plain,both.1⟩,both.2⟩,fun both => ⟨both.1.2,both.2⟩⟩
      · have set : kept root excluded ((place,.file content) :: walk) =
            (posix place,root ++ place) :: kept root excluded walk := by
          rw [kept,List.filterMap_cons]
          dsimp only
          rw [if_neg manifest]
          rfl
        rw [if_neg manifest,ih,set]
        exact ⟨fun both => ⟨⟨plain,both.1⟩,both.2⟩,fun both => ⟨both.1.2,both.2⟩⟩

/-- What `_collect_model_files` returns: the artifacts by their paths. -/
structure Collected (fs : FileSystem) (root : Location) (excluded : Option Location)
    (files : List (Str × Location)) : Prop where
  distinct : (files.map Prod.fst).Nodup
  found : ∀ path location, files.lookup path = some location ↔ ∃ place content,
    IsArtifact fs root excluded place content ∧ posix place = path ∧ root ++ place = location

theorem Collected.keys {fs : FileSystem} {root : Location} {excluded : Option Location} {files : List (Str × Location)}
    (collected : Collected fs root excluded files) (path : Str) :
    path ∈ files.map Prod.fst ↔ ∃ place content, IsArtifact fs root excluded place content ∧ posix place = path := by
  rw [mem_keys]
  constructor
  · rintro ⟨location,found⟩
    obtain ⟨place,content,artifact,same,-⟩ := (collected.found path location).mp found
    exact ⟨place,content,artifact,same⟩
  · rintro ⟨place,content,artifact,same⟩
    exact ⟨_,(collected.found path _).mpr ⟨place,content,artifact,same,rfl⟩⟩

section
variable {fs : FileSystem} {root : Location} {excluded : Option Location} {entries : List (FileName × Node)}
  (directory : fs.lookup root = some (.directory entries))
include directory

theorem mem_walk (place : Location) (node : Node) :
    (place,node) ∈ (Node.directory entries).rglob ↔ place ≠ [] ∧ fs.lookup (root ++ place) = some node := by
  rw [Node.mem_rglob (fs.distinct.at directory),FileSystem.lookup,Node.lookup_append]
  rw [FileSystem.lookup] at directory
  rw [directory,Option.bind_some]

theorem IsArtifact.below {place : Location} {content : Bytes} (artifact : IsArtifact fs root excluded place content) :
    place ≠ [] := by
  rintro rfl
  have held := artifact.1
  rw [List.append_nil,directory] at held
  cases held

theorem mem_kept {path : Str} {location : Location} :
    (path,location) ∈ kept root excluded (Node.directory entries).rglob ↔ ∃ place content,
      IsArtifact fs root excluded place content ∧ posix place = path ∧ root ++ place = location := by
  rw [kept,List.mem_filterMap]
  constructor
  · rintro ⟨⟨place,node⟩,walked,same⟩
    cases node with
    | file content =>
      dsimp only at same
      split_ifs at same with manifest
      cases same
      exact ⟨place,content,⟨((mem_walk directory place _).mp walked).2,manifest⟩,rfl,rfl⟩
    | symlink | special | directory => cases same
  · rintro ⟨place,content,artifact,rfl,rfl⟩
    refine ⟨(place,.file content),(mem_walk directory place _).mpr ⟨artifact.below directory,artifact.1⟩,?_⟩
    exact if_neg artifact.2

/-- The collection succeeds where nothing but files and directories is found. -/
theorem collectModelFiles_ok {files : List (Str × Location)} :
    collectModelFiles fs root excluded = .ok files ↔
      (∀ place node, fs.lookup (root ++ place) = some node → Node.Plain node) ∧
        files = toDict (kept root excluded (Node.directory entries).rglob) := by
  rw [collectModelFiles,directory]
  dsimp only
  rw [collectLoop_ok]
  refine and_congr ⟨fun walked place node held => ?_,fun all entry walked => ?_⟩ Iff.rfl
  · by_cases below : place = []
    · subst below
      rw [List.append_nil,directory] at held
      cases held
      exact ⟨nofun,nofun⟩
    · exact walked _ ((mem_walk directory place node).mpr ⟨below,held⟩)
  · exact all entry.1 entry.2 ((mem_walk directory entry.1 entry.2).mp walked).2

theorem collected : Collected fs root excluded (toDict (kept root excluded (Node.directory entries).rglob)) := by
  refine ⟨nodup_toDict _,fun path location => ?_⟩
  rw [lookup_toDict,mem_kept directory]
  rintro ⟨path,location⟩ first ⟨other,location'⟩ second same
  obtain ⟨place,content,artifact,rfl,rfl⟩ := (mem_kept directory).mp first
  obtain ⟨place',content',artifact',rfl,rfl⟩ := (mem_kept directory).mp second
  rw [posix_injective (artifact.below directory) (artifact'.below directory) same]

end

theorem measureFile_ok {sha256 : Bytes → Digest} {fs : FileSystem} {place : Location} {size : Nat} {digest : Digest} :
    measureFile sha256 fs place = .ok (size,digest) ↔
      ∃ content, fs.lookup place = some (.file content) ∧ size = content.length ∧ digest = sha256 content := by
  rw [measureFile]
  constructor
  · intro measured
    split at measured
    · rename_i content held
      cases measured
      exact ⟨content,held,rfl,rfl⟩
    all_goals cases measured
  · rintro ⟨content,held,rfl,rfl⟩
    rw [held]

theorem compareEntries_ok {sha256 : Bytes → Digest} {fs : FileSystem} {actual : List (Str × Location)}
    {entries : List ManifestEntry} :
    compareEntries sha256 fs actual entries = .ok () ↔ ∀ entry ∈ entries, ∃ content,
      fs.lookup ((actual.lookup entry.path).getD []) = some (.file content) ∧ content.length = entry.size ∧
        (sha256 content).text = entry.sha256 := by
  induction entries with
  | nil => exact ⟨fun _ => nofun,fun _ => rfl⟩
  | cons entry entries ih =>
    rw [compareEntries,bind_ok,List.forall_mem_cons]
    constructor
    · rintro ⟨⟨size,digest⟩,measured,rest⟩
      obtain ⟨content,held,rfl,rfl⟩ := measureFile_ok.mp measured
      dsimp only at rest
      split_ifs at rest with sized summed
      exact ⟨⟨content,held,not_not.mp sized,not_not.mp summed⟩,ih.mp rest⟩
    · rintro ⟨⟨content,held,sized,summed⟩,rest⟩
      refine ⟨(content.length,sha256 content),measureFile_ok.mpr ⟨content,held,rfl,rfl⟩,?_⟩
      dsimp only
      rw [if_neg (not_not.mpr sized),if_neg (not_not.mpr summed)]
      exact ih.mpr rest

/-! ## The gate -/

/-- What the gate is for: the directory at `root` is there, the manifest is a well-formed
    document in a regular file, nothing but files and directories stands below `root`, the
    artifacts are the listed paths, and each has the listed size and digest. -/
structure Approved (room : Nesting) (sha256 : Bytes → Digest) (fs : FileSystem) (model : DirectoryPath) (path : FilePath)
    (root : Location) (manifest : Manifest) : Prop where
  directory : model.isSymlink = false ∧ model.resolved = some root ∧ ∃ entries, fs.lookup root = some (.directory entries)
  document : ∃ place content, path.resolved = some place ∧ fs.lookup place = some (.file content) ∧
    WellFormed room content manifest
  plain : ∀ place node, fs.lookup (root ++ place) = some node → node ≠ .symlink ∧ ∀ opens, node ≠ .special opens
  paths : ∀ listed, listed ∈ manifest.entries.map ManifestEntry.path ↔
    ∃ place content, IsArtifact fs root path.resolved place content ∧ posix place = listed
  measured : ∀ entry ∈ manifest.entries, ∀ place content, IsArtifact fs root path.resolved place content →
    posix place = entry.path → content.length = entry.size ∧ (sha256 content).text = entry.sha256

/-- The gate is passed by what it is for, and reports the manifest that it has read. -/
theorem verifyModelManifest_ok {room : Nesting} {sha256 : Bytes → Digest} {fs : FileSystem} {model : DirectoryPath} {path : FilePath}
    {metadata : ModelManifestMetadata} :
    verifyModelManifest room sha256 fs model path = .ok metadata ↔ ∃ root manifest,
      Approved room sha256 fs model path root manifest ∧
        metadata = ⟨manifest.source,manifest.revision,manifest.entries.length⟩ := by
  rw [verifyModelManifest]
  constructor
  · intro verified
    obtain ⟨root,required,verified⟩ := bind_ok.mp verified
    obtain ⟨manifest,read,verified⟩ := bind_ok.mp verified
    obtain ⟨content,given,parsed⟩ := bind_ok.mp read
    obtain ⟨actual,gathered,verified⟩ := bind_ok.mp verified
    obtain ⟨place,led,held⟩ := readManifestBytes_ok.mp (rejecting_ok.mp given)
    obtain ⟨link,resolved,entries,directory⟩ := requireModelDirectory_ok.mp (rejecting_ok.mp required)
    obtain ⟨plain,rfl⟩ := (collectModelFiles_ok directory).mp (rejecting_ok.mp gathered)
    have files : Collected fs root path.resolved _ := collected directory
    dsimp only at verified
    split_ifs at verified with same
    obtain ⟨⟨⟩,compared,verified⟩ := bind_ok.mp verified
    cases verified
    have compared := compareEntries_ok.mp (rejecting_ok.mp compared)
    refine ⟨root,manifest,⟨⟨link,resolved,entries,directory⟩,⟨place,content,led,held,parseManifest_ok.mp parsed⟩,plain,
      fun listed => ?_,?_⟩,rfl⟩
    · rw [← files.keys]
      exact ⟨same.2 listed,same.1 listed⟩
    · intro entry member place content artifact named
      obtain ⟨content',held,sized,summed⟩ := compared entry member
      rw [(files.found entry.path _).mpr ⟨place,content,artifact,named,rfl⟩,Option.getD_some,artifact.1] at held
      cases held
      exact ⟨sized,summed⟩
  · rintro ⟨root,manifest,approved,rfl⟩
    obtain ⟨link,resolved,entries,directory⟩ := approved.directory
    obtain ⟨place,content,led,held,described⟩ := approved.document
    have files : Collected fs root path.resolved _ := collected directory
    have required := requireModelDirectory_ok.mpr ⟨link,resolved,entries,directory⟩
    have read : readManifest room fs path = .ok manifest :=
      bind_ok.mpr ⟨content,rejecting_ok.mpr (readManifestBytes_ok.mpr ⟨place,led,held⟩),parseManifest_ok.mpr described⟩
    have gathered := (@collectModelFiles_ok fs root path.resolved entries directory _).mpr ⟨approved.plain,rfl⟩
    refine bind_ok.mpr ⟨root,rejecting_ok.mpr required,bind_ok.mpr ⟨manifest,read,
      bind_ok.mpr ⟨_,rejecting_ok.mpr gathered,?_⟩⟩⟩
    dsimp only
    rw [if_neg]
    · refine bind_ok.mpr ⟨(),rejecting_ok.mpr (compareEntries_ok.mpr fun entry member => ?_),rfl⟩
      obtain ⟨place,content,artifact,named⟩ := (approved.paths entry.path).mp (List.mem_map_of_mem member)
      rw [(files.found entry.path _).mpr ⟨place,content,artifact,named,rfl⟩,Option.getD_some]
      exact ⟨content,artifact.1,approved.measured entry member place content artifact named⟩
    · rw [not_not]
      exact ⟨fun listed inside => (approved.paths listed).mpr ((files.keys listed).mp inside),
        fun listed inside => (files.keys listed).mpr ((approved.paths listed).mp inside)⟩

/-- The manifest lists these files: their paths, sizes and digests, and nothing else. -/
def Manifest.Lists (sha256 : Bytes → Digest) (manifest : Manifest) (files : Location → Bytes → Prop) : Prop :=
  ∀ entry, entry ∈ manifest.entries ↔
    ∃ place content, files place content ∧ entry = ⟨posix place,content.length,(sha256 content).text⟩

/-- While no two of the contents share a digest, the files that the manifest lists are the artifacts. -/
theorem Approved.unaltered {room : Nesting} {sha256 : Bytes → Digest} {fs : FileSystem} {model : DirectoryPath} {path : FilePath}
    {root : Location} {manifest : Manifest} (approved : Approved room sha256 fs model path root manifest)
    {files : Location → Bytes → Prop} (below : ∀ place content, files place content → place ≠ [])
    (listed : manifest.Lists sha256 files)
    (injective : ∀ place place' content content', IsArtifact fs root path.resolved place content →
      files place' content' → sha256 content = sha256 content' → content = content')
    (place : Location) (content : Bytes) :
    IsArtifact fs root path.resolved place content ↔ files place content := by
  obtain ⟨-,-,entries,directory⟩ := approved.directory
  -- an artifact and a listed file with one path have one content
  have agree {place place' : Location} {content content' : Bytes}
      (artifact : IsArtifact fs root path.resolved place content) (file : files place' content')
      (same : posix place = posix place') : place = place' ∧ content = content' := by
    have member := (listed _).mpr ⟨place',content',file,rfl⟩
    refine ⟨posix_injective (artifact.below directory) (below _ _ file) same,injective _ _ _ _ artifact file ?_⟩
    have summed := (approved.measured _ member place content artifact same).2
    cases first : sha256 content
    cases second : sha256 content'
    rw [first,second] at summed
    congr
  constructor
  · intro artifact
    obtain ⟨entry,member,named⟩ := List.mem_map.mp ((approved.paths (posix place)).mpr ⟨place,content,artifact,rfl⟩)
    obtain ⟨place',content',file,rfl⟩ := (listed entry).mp member
    obtain ⟨rfl,rfl⟩ := agree artifact file named.symm
    exact file
  · intro file
    have member := (listed _).mpr ⟨place,content,file,rfl⟩
    obtain ⟨place',content',artifact,named⟩ := (approved.paths (posix place)).mp (List.mem_map.mpr ⟨_,member,rfl⟩)
    obtain ⟨rfl,rfl⟩ := agree artifact file named
    exact artifact

/-- A manifest is accepted exactly where it is approved; and where it lists some files, and no two
    contents share a digest, the artifacts then are those files: none is missing, extra, renamed or altered. -/
theorem verification_exact (room : Nesting) (sha256 : Bytes → Digest) (fs : FileSystem) (model : DirectoryPath) (path : FilePath) :
    ((∃ metadata, verifyModelManifest room sha256 fs model path = .ok metadata) ↔
      ∃ root manifest, Approved room sha256 fs model path root manifest) ∧
    ∀ metadata, verifyModelManifest room sha256 fs model path = .ok metadata →
      ∃ root manifest, model.resolved = some root ∧ readManifest room fs path = .ok manifest ∧
        ∀ files : Location → Bytes → Prop, (∀ place content, files place content → place ≠ []) →
          manifest.Lists sha256 files →
          (∀ place place' content content', IsArtifact fs root path.resolved place content → files place' content' →
            sha256 content = sha256 content' → content = content') →
          ∀ place content, IsArtifact fs root path.resolved place content ↔ files place content := by
  constructor
  · constructor
    · rintro ⟨metadata,verified⟩
      obtain ⟨root,manifest,approved,-⟩ := verifyModelManifest_ok.mp verified
      exact ⟨root,manifest,approved⟩
    · rintro ⟨root,manifest,approved⟩
      exact ⟨_,verifyModelManifest_ok.mpr ⟨root,manifest,approved,rfl⟩⟩
  · intro metadata verified
    obtain ⟨root,manifest,approved,-⟩ := verifyModelManifest_ok.mp verified
    obtain ⟨place,content,led,held,described⟩ := approved.document
    refine ⟨root,manifest,approved.directory.2.1,bind_ok.mpr ⟨content,
      rejecting_ok.mpr (readManifestBytes_ok.mpr ⟨place,led,held⟩),parseManifest_ok.mpr described⟩,fun files below listed injective => ?_⟩
    exact approved.unaltered below listed injective

/-- A name of one byte. -/
def letter (b : UInt8) (plain : b ≠ 0x2F ∧ b ≠ 0 ∧ b ≠ 0x2E) : FileName where
  bytes := [b]
  nonempty := nofun
  noSlash := by simpa using plain.1.symm
  noNul := by simpa using plain.2.1.symm
  notHere := by simpa using plain.2.2
  notUp := nofun

/-- The SHA-256 of no bytes. -/
def emptyDigest : Digest :=
  ⟨str "e3b0c44298fc1c149afbf4c8996fb92427ae41e4649b934ca495991b7852b855",by decide⟩

def stagedManifest : Str :=
  str "\x7b\"files\": [\x7b\"path\": \"a\", \"size\": 0, \"sha256\": \"" ++ emptyDigest.text ++
    str "\"\x7d], \"schema_version\": 1, \"source\": \"hub\", \"revision\": \"r1\"\x7d"

def directoryName : FileName := letter 0x64 (by decide)

def manifestName : FileName := letter 0x6A (by decide)

/-- `/d/a` is empty, and `/j` is the manifest. -/
def staged : FileSystem where
  root := .directory [(directoryName,.directory [(letter 0x61 (by decide),.file [])]),
    (manifestName,.file (stagedManifest.map fun c => .ofNat c.val))]
  distinct := by
    refine Node.distinct_directory (by decide) ?_
    simp only [List.forall_mem_cons]
    refine ⟨Node.distinct_directory (by decide) ?_,Node.distinct_leaf nofun,nofun⟩
    simp only [List.forall_mem_cons]
    exact ⟨Node.distinct_leaf nofun,nofun⟩

theorem verification_exact_staged :
    ∃ root manifest, Approved leastNesting (fun _ => emptyDigest) staged ⟨false,some [letter 0x64 (by decide)]⟩
      ⟨some [],.entry (letter 0x6A (by decide))⟩ root manifest :=
  (verification_exact leastNesting (fun _ => emptyDigest) staged ⟨false,some [letter 0x64 (by decide)]⟩
    ⟨some [],.entry (letter 0x6A (by decide))⟩).1.mp ⟨⟨str "hub",str "r1",1⟩,by decide +kernel⟩

end SpeechGateway.Artifacts
