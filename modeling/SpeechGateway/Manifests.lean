import SpeechGateway.Approval
import SpeechGateway.JsonWriting

/-!
`create_model_manifest`, which records a model directory for the gate. What it writes is
accepted by the gate with the same metadata exactly when no name holds a backslash and the
source and the revision hold no surrogate pair in two halves (`manifest_round_trip_iff`).
-/
namespace SpeechGateway.Artifacts
open Dict Unicode JsonText Files
open Programs (bind_ok)

/-- `output_parent / output.name`, and whether that is the model directory or lies below it. -/
def outputInside (root parent : Location) : PathName → Bool
  | .entry name => root.isPrefixOf (parent ++ [name])
  | .missing | .up => root.isPrefixOf parent

/-- `output.is_symlink()`. -/
def outputSymlink (fs : FileSystem) (parent : Location) : PathName → Bool
  | .entry name =>
    match fs.lookup (parent ++ [name]) with
    | some .symlink => true
    | _ => false
  | .missing | .up => false

/-- The loop over the sorted files. -/
def measureFiles (sha256 : Bytes → Digest) (fs : FileSystem) :
    List (Str × Location) → Except ModelArtifactVerificationError (List ManifestEntry)
  | [] => .ok []
  | (path,artifact) :: rest => do
    let (size,digest) ← measureFile sha256 fs artifact
    let entries ← measureFiles sha256 fs rest
    .ok (⟨path,size,digest.text⟩ :: entries)

def entryValue (entry : ManifestEntry) : Value :=
  .dict [(str "path",.str entry.path),(str "size",.int entry.size),(str "sha256",.str entry.sha256)]

def payload (source revision : Str) (entries : List ManifestEntry) : Value :=
  .dict [(str "schema_version",.int 1),(str "source",.str source),(str "revision",.str revision),
    (str "files",.list (entries.map entryValue))]

/-- `json.dump`, and a line break. -/
def manifestText (source revision : Str) (entries : List ManifestEntry) : Option Str :=
  (dump (payload source revision entries)).map (· ++ [char '\n'])

/-- `mkstemp` in the parent, and `os.replace`: a directory is neither replaced nor made. No text is
    written where `json.dump` raises. -/
def replaceOutput (fs : FileSystem) (parent : Location) (name : PathName) (text : Option Str) : Except Raised FileSystem :=
  match fs.lookup parent with
  | some (.directory _) =>
    match text with
    | none => .error .valueError
    | some text =>
      match encode text with
      | none => .error .unicodeEncodeError
      | some content =>
        match name with
        | .entry name =>
          match fs.lookup (parent ++ [name]) with
          | some (.directory _) => .error .osError
          | _ => .ok (fs.write (parent ++ [name]) content)
        | .missing | .up => .error .osError
  | _ => .error .osError

/-- `create_model_manifest`, and the file system that it leaves. -/
def createModelManifest (sha256 : Bytes → Digest) (fs : FileSystem) (model : DirectoryPath) (output : FilePath)
    (source revision : Str) : Except Raised (ModelManifestMetadata × FileSystem) := do
  let root ← rejecting (requireModelDirectory fs model)
  match output.parent with
  | none => .error .osError
  | some parent =>
    if outputInside root parent output.name then .error (.rejected .outputInside) else
    if outputSymlink fs parent output.name then .error (.rejected .outputSymlink) else
    let source := strip source
    let revision := strip revision
    if source = [] ∨ revision = [] then .error (.rejected .identityMissing) else do
      let files ← rejecting (collectModelFiles fs root none)
      let entries ← rejecting (measureFiles sha256 fs (files.insertionSort (·.1 ≤ ·.1)))
      if entries = [] then .error (.rejected .noArtifacts) else do
        let after ← replaceOutput fs parent output.name (manifestText source revision entries)
        .ok (⟨source,revision,entries.length⟩,after)

/-- What the reader gets for an entry, in the order of the keys. -/
def entryRead (entry : ManifestEntry) : List (Str × Value) :=
  [(str "path",.str (joinPairs entry.path)),(str "sha256",.str (joinPairs entry.sha256)),(str "size",.int entry.size)]

/-- What the reader gets for the payload. -/
def payloadRead (source revision : Str) (entries : List ManifestEntry) : List (Str × Value) :=
  [(str "files",.list (entries.map fun entry => .dict (entryRead entry))),(str "revision",.str (joinPairs revision)),
    (str "schema_version",.int 1),(str "source",.str (joinPairs source))]

theorem writeItems_eq (level : Nat) (items : List Value) : writeItems level items = items.map (write level) := by
  induction items with
  | nil => rfl
  | cons item items ih => rw [writeItems,ih,List.map_cons]

theorem entryRead_distinct (entry : ManifestEntry) : ((entryRead entry).map Prod.fst).Nodup :=
  (by decide : [str "path",str "sha256",str "size"].Nodup)

theorem payloadRead_distinct (source revision : Str) (entries : List ManifestEntry) :
    ((payloadRead source revision entries).map Prod.fst).Nodup :=
  (by decide : [str "files",str "revision",str "schema_version",str "source"].Nodup)

/-- An entry is written with its keys sorted. -/
theorem write_entry (level : Nat) (entry : ManifestEntry) :
    write level (entryValue entry) = block (char '\x7b') (char '\x7d') level
      ([(str "path",writeString entry.path),(str "sha256",writeString entry.sha256),
        (str "size",writeInt entry.size)].map writeMember) := by
  rw [entryValue,write]
  rfl

theorem stands_entry (level : Nat) {entry : ManifestEntry} (short : Printable entry.size) :
    Stands 1 (write level (entryValue entry)) (.dict (entryRead entry)) := by
  rw [write_entry,← toDict_distinct (entryRead_distinct entry)]
  refine stands_dict level (.cons ⟨?_,stands_str _⟩ (.cons ⟨?_,stands_str _⟩ (.cons ⟨?_,stands_int short⟩ .nil)))
  · exact (by decide : joinPairs (str "path") = str "path")
  · exact (by decide : joinPairs (str "sha256") = str "sha256")
  · exact (by decide : joinPairs (str "size") = str "size")

theorem write_payload (source revision : Str) (entries : List ManifestEntry) :
    write 0 (payload source revision entries) = block (char '\x7b') (char '\x7d') 0
      ([(str "files",block (char '[') (char ']') 1 ((entries.map entryValue).map (write 2))),
        (str "revision",writeString revision),(str "schema_version",writeInt 1),
        (str "source",writeString source)].map writeMember) := by
  rw [payload,write,← writeItems_eq]
  rfl

theorem stands_payload (source revision : Str) {entries : List ManifestEntry}
    (short : ∀ entry ∈ entries, Printable entry.size) :
    Stands 3 (write 0 (payload source revision entries)) (.dict (payloadRead source revision entries)) := by
  have listed : Stands 2 (block (char '[') (char ']') 1 ((entries.map entryValue).map (write 2)))
      (.list (entries.map fun entry => .dict (entryRead entry))) := by
    refine stands_list 1 ?_
    rw [List.forall₂_map_left_iff,List.forall₂_map_left_iff,List.forall₂_map_right_iff,List.forall₂_same]
    exact fun entry member => stands_entry 2 (short entry member)
  have text (s : Str) : Stands 2 (writeString s) (.str (joinPairs s)) := (stands_str s).deeper (Nat.zero_le 2)
  have version : Stands 2 (writeInt 1) (.int 1) := (stands_int (by decide)).deeper (Nat.zero_le 2)
  rw [write_payload,← toDict_distinct (payloadRead_distinct source revision entries)]
  refine stands_dict 0 (.cons ⟨?_,listed⟩ (.cons ⟨?_,text _⟩ (.cons ⟨?_,version⟩ (.cons ⟨?_,text _⟩ .nil))))
  · exact (by decide : joinPairs (str "files") = str "files")
  · exact (by decide : joinPairs (str "revision") = str "revision")
  · exact (by decide : joinPairs (str "schema_version") = str "schema_version")
  · exact (by decide : joinPairs (str "source") = str "source")

theorem printable_payload {source revision : Str} {entries : List ManifestEntry} :
    (payload source revision entries).printable = true ↔ ∀ entry ∈ entries, Printable entry.size := by
  have items : printableItems (entries.map entryValue) = true ↔ ∀ entry ∈ entries, Printable entry.size := by
    induction entries with
    | nil => simp [printableItems]
    | cons entry entries ih => simp [printableItems,printableMembers,entryValue,Value.printable,ih]
  have one : Printable 1 := by decide
  simp [payload,Value.printable,printableMembers,items,one]

/-- The manifest is loaded as what was put into it, with surrogate pairs joined. -/
theorem loads_manifestText (room : Nesting) {source revision text : Str} {entries : List ManifestEntry}
    (written : manifestText source revision entries = some text) :
    loads room text = .ok (.dict (payloadRead source revision entries)) := by
  rw [manifestText,dump] at written
  split_ifs at written with short
  · cases written
    exact loads_line ((stands_payload source revision (printable_payload.mp short)).deeper room.property)
  · cases written

theorem measureFiles_ok {sha256 : Bytes → Digest} {fs : FileSystem} {files : List (Str × Location)}
    {entries : List ManifestEntry} :
    measureFiles sha256 fs files = .ok entries ↔ List.Forall₂ (fun file entry => ∃ content,
      fs.lookup file.2 = some (.file content) ∧ entry = ⟨file.1,content.length,(sha256 content).text⟩) files entries := by
  induction files generalizing entries with
  | nil =>
    constructor
    · intro measured
      cases measured
      exact .nil
    · intro none
      cases none
      rfl
  | cons file files ih =>
    obtain ⟨path,artifact⟩ := file
    rw [measureFiles,bind_ok]
    constructor
    · rintro ⟨⟨size,digest⟩,measured,rest⟩
      obtain ⟨content,held,rfl,rfl⟩ := measureFile_ok.mp measured
      obtain ⟨entries,later,same⟩ := bind_ok.mp rest
      cases same
      exact .cons ⟨content,held,rfl⟩ (ih.mp later)
    · intro each
      cases each with
      | cons first later =>
        obtain ⟨content,held,rfl⟩ := first
        exact ⟨_,measureFile_ok.mpr ⟨content,held,rfl,rfl⟩,bind_ok.mpr ⟨_,ih.mpr later,rfl⟩⟩

theorem forall₂_left {α β : Type*} {relation : α → β → Prop} {left : List α} {right : List β}
    (each : List.Forall₂ relation left right) {last : β} (inside : last ∈ right) : ∃ first ∈ left, relation first last := by
  induction each with
  | nil => cases inside
  | cons related _ ih =>
    rcases List.mem_cons.mp inside with rfl | later
    · exact ⟨_,List.mem_cons_self,related⟩
    · obtain ⟨first,member,related⟩ := ih later
      exact ⟨first,List.mem_cons_of_mem _ member,related⟩

theorem forall₂_right {α β : Type*} {relation : α → β → Prop} {left : List α} {right : List β}
    (each : List.Forall₂ relation left right) {first : α} (inside : first ∈ left) :
    ∃ last ∈ right, relation first last :=
  forall₂_left each.flip inside

/-- How a manifest was created: for the directory at `root`, at `parent` under `name`. -/
structure Created (sha256 : Bytes → Digest) (fs : FileSystem) (model : DirectoryPath) (output : FilePath)
    (source revision : Str) (root parent : Location) (name : FileName) (entries : List ManifestEntry) (content : Bytes) :
    Prop where
  directory : model.isSymlink = false ∧ model.resolved = some root ∧ ∃ entries, fs.lookup root = some (.directory entries)
  led : output.parent = some parent ∧ output.name = .entry name
  outside : ¬root <+: parent ++ [name]
  above : ∃ entries, fs.lookup parent = some (.directory entries)
  file : ∀ entries, fs.lookup (parent ++ [name]) ≠ some (.directory entries)
  named : strip source ≠ [] ∧ strip revision ≠ []
  plain : ∀ place node, fs.lookup (root ++ place) = some node → Node.Plain node
  measured : ∃ files, Collected fs root none files ∧ measureFiles sha256 fs (files.insertionSort (·.1 ≤ ·.1)) = .ok entries
  nonempty : entries ≠ []
  encoded : ∃ text, manifestText (strip source) (strip revision) entries = some text ∧ encode text = some content

theorem replaceOutput_ok {fs after : FileSystem} {parent : Location} {name : PathName} {text : Option Str} :
    replaceOutput fs parent name text = .ok after ↔ ∃ entry content, name = .entry entry ∧
      (∃ entries, fs.lookup parent = some (.directory entries)) ∧
      (∀ entries, fs.lookup (parent ++ [entry]) ≠ some (.directory entries)) ∧
      (∃ written, text = some written ∧ encode written = some content) ∧
      after = fs.write (parent ++ [entry]) content := by
  unfold replaceOutput
  constructor
  · intro replaced
    split at replaced
    · rename_i entries above
      split at replaced
      · cases replaced
      rename_i written
      split at replaced
      · cases replaced
      · rename_i content encoded
        split at replaced
        · rename_i entry
          split at replaced
          · cases replaced
          · rename_i file
            cases replaced
            exact ⟨entry,content,rfl,⟨entries,above⟩,file,⟨written,rfl,encoded⟩,rfl⟩
        all_goals cases replaced
    · cases replaced
  · rintro ⟨entry,content,rfl,⟨entries,above⟩,file,⟨written,rfl,encoded⟩,rfl⟩
    rw [above]
    dsimp only
    rw [encoded]
    dsimp only
    split
    · rename_i held
      exact absurd held (file _)
    · rfl

theorem createModelManifest_ok {sha256 : Bytes → Digest} {fs after : FileSystem} {model : DirectoryPath}
    {output : FilePath} {source revision : Str} {metadata : ModelManifestMetadata}
    (created : createModelManifest sha256 fs model output source revision = .ok (metadata,after)) :
    ∃ root parent name entries content, Created sha256 fs model output source revision root parent name entries content ∧
      metadata = ⟨strip source,strip revision,entries.length⟩ ∧ after = fs.write (parent ++ [name]) content := by
  rw [createModelManifest] at created
  obtain ⟨root,required,created⟩ := bind_ok.mp created
  obtain ⟨link,resolved,children,directory⟩ := requireModelDirectory_ok.mp (rejecting_ok.mp required)
  split at created
  · cases created
  rename_i parent led
  split_ifs at created with inside symlink
  dsimp only at created
  split_ifs at created with blank
  obtain ⟨files,gathered,created⟩ := bind_ok.mp created
  obtain ⟨entries,measured,created⟩ := bind_ok.mp created
  split_ifs at created with empty
  obtain ⟨replaced,written,created⟩ := bind_ok.mp created
  cases created
  obtain ⟨name,content,entry,above,file,encoded,rfl⟩ := replaceOutput_ok.mp written
  obtain ⟨plain,rfl⟩ := (collectModelFiles_ok directory).mp (rejecting_ok.mp gathered)
  rw [entry,outputInside,List.isPrefixOf_iff_prefix] at inside
  rw [not_or] at blank
  exact ⟨root,parent,name,entries,content,⟨⟨link,resolved,children,directory⟩,⟨led,entry⟩,inside,above,file,blank,plain,
    ⟨_,collected directory,rejecting_ok.mp measured⟩,empty,encoded⟩,rfl,rfl⟩

section
variable {sha256 : Bytes → Digest} {fs : FileSystem} {model : DirectoryPath} {output : FilePath} {source revision : Str}
  {root parent : Location} {name : FileName} {entries : List ManifestEntry} {content : Bytes}
  (created : Created sha256 fs model output source revision root parent name entries content)
include created

/-- The model directory is as it was. -/
theorem Created.unchanged (place : Location) :
    (fs.write (parent ++ [name]) content).lookup (root ++ place) = fs.lookup (root ++ place) := by
  refine Node.lookup_write_other content (fun inside => ?_) fun inside => ?_
  · rcases List.prefix_or_prefix_of_prefix inside (List.prefix_append root place) with above | below
    · obtain ⟨rest,same⟩ := above
      obtain ⟨-,-,children,directory⟩ := created.directory
      cases rest with
      | nil =>
        rw [List.append_nil] at same
        exact created.outside (same ▸ List.prefix_refl _)
      | cons next rest =>
        rw [← same,FileSystem.lookup,Node.lookup_append,Option.bind_eq_some_iff] at directory
        obtain ⟨node,held,below⟩ := directory
        cases node with
        | directory children => exact created.file children held
        | file | symlink | special => cases below
    · exact created.outside below
  · exact created.outside ((List.prefix_append root place).trans inside)

/-- The manifest is where the output was asked for. -/
theorem Created.written : (fs.write (parent ++ [name]) content).lookup (parent ++ [name]) = some (.file content) := by
  obtain ⟨children,above⟩ := created.above
  exact Node.lookup_write above name content

theorem Created.resolved : output.resolved = some (parent ++ [name]) := by
  rw [FilePath.resolved,created.led.1,created.led.2]

/-- The artifacts that the gate will see are the regular files that were recorded. -/
theorem Created.artifact (place : Location) (held : Bytes) :
    IsArtifact (fs.write (parent ++ [name]) content) root output.resolved place held ↔
      fs.lookup (root ++ place) = some (.file held) := by
  rw [IsArtifact,created.unchanged,created.resolved]
  refine and_iff_left ?_
  intro same
  exact created.outside (Option.some.inj same ▸ List.prefix_append root place)

/-- Each regular file is recorded once, with its size and its digest. -/
theorem Created.recorded : (entries.map ManifestEntry.path).Nodup ∧ ∀ entry, entry ∈ entries ↔
    ∃ place held, fs.lookup (root ++ place) = some (.file held) ∧
      entry = ⟨posix place,held.length,(sha256 held).text⟩ := by
  obtain ⟨files,collected,measured⟩ := created.measured
  have each := measureFiles_ok.mp measured
  have sorted := List.perm_insertionSort (fun first second : Str × Location => first.1 ≤ second.1) files
  generalize files.insertionSort (·.1 ≤ ·.1) = ordered at each sorted
  have keys : entries.map ManifestEntry.path = ordered.map Prod.fst := by
    clear sorted measured created
    induction each with
    | nil => rfl
    | cons first later ih =>
      obtain ⟨held,-,rfl⟩ := first
      rw [List.map_cons,List.map_cons,ih]
  have member (path : Str) (location : Location) : (path,location) ∈ ordered ↔
      ∃ place held, fs.lookup (root ++ place) = some (.file held) ∧ posix place = path ∧ root ++ place = location := by
    rw [sorted.mem_iff]
    constructor
    · intro inside
      obtain ⟨place,held,artifact,both⟩ := (collected.found _ _).mp (lookup_of_mem collected.distinct inside)
      exact ⟨place,held,artifact.1,both⟩
    · rintro ⟨place,held,artifact,both⟩
      exact mem_of_lookup ((collected.found _ _).mpr ⟨place,held,⟨artifact,nofun⟩,both⟩)
  refine ⟨by rw [keys,(sorted.map Prod.fst).nodup_iff]; exact collected.distinct,fun entry => ⟨fun inside => ?_,?_⟩⟩
  · obtain ⟨⟨path,location⟩,listed,held,there,rfl⟩ := forall₂_left each inside
    obtain ⟨place,held',artifact,rfl,rfl⟩ := (member path location).mp listed
    exact ⟨place,held,there,rfl⟩
  · rintro ⟨place,held,artifact,rfl⟩
    obtain ⟨entry,inside,held',there,rfl⟩ := forall₂_right each ((member _ _).mpr ⟨place,held,artifact,rfl,rfl⟩)
    rw [artifact] at there
    cases there
    exact inside

/-- What the gate can make of the written bytes. -/
theorem Created.wellFormed_iff (room : Nesting) (manifest : Manifest) :
    WellFormed room content manifest ↔ ManifestOf (payloadRead (strip source) (strip revision) entries) manifest := by
  obtain ⟨text,written,encoded⟩ := created.encoded
  have decoded := decode_encode encoded
  have loaded := loads_manifestText room written
  constructor
  · rintro ⟨text,items,decoded',loaded',described⟩
    rw [decoded] at decoded'
    cases decoded'
    rw [loaded] at loaded'
    cases loaded'
    exact described
  · intro described
    exact ⟨_,_,decoded,loaded,described⟩

end

/-! ## The round trip -/

theorem isSha256_no_high {checksum : Str} (sha256 : isSha256 checksum = true) : ∀ c ∈ checksum, isHigh c = false := by
  simp only [isSha256,Bool.and_eq_true,List.all_eq_true] at sha256
  intro c inside
  have digit := sha256.2 c inside
  simp only [Bool.or_eq_true,Bool.and_eq_true,decide_eq_true_eq] at digit
  rw [← Bool.not_eq_true,isHigh_iff]
  omega

theorem entryOf_read {place : Location} (below : place ≠ []) (plain : ∀ name ∈ place, UInt8.ofNat 0x5C ∉ name.bytes)
    (size : Nat) (digest : Digest) :
    EntryOf (entryRead ⟨posix place,size,digest.text⟩) ⟨posix place,size,digest.text⟩ := by
  have path : joinPairs (posix place) = posix place := joinPairs_plain fun c inside => posix_no_high inside
  have sum : joinPairs digest.text = digest.text := joinPairs_plain (isSha256_no_high digest.sha256)
  refine ⟨fun key => ?_,?_,rfl,?_,relative_posix below,?_,digest.sha256⟩
  · exact (by decide : [str "path",str "sha256",str "size"].Perm entryKeys).mem_iff
  · show some (Value.str (joinPairs (posix place))) = _
    rw [path]
  · show some (Value.str (joinPairs digest.text)) = _
    rw [sum]
  · rw [show char '\\' = point 0x5C from rfl,mem_posix (by decide)]
    rintro ⟨name,member,inside⟩
    exact plain name member ((mem_fsdecode (by decide)).mp inside)

/-- Whenever a manifest is created, the gate accepts it beside the unchanged directory, with the
    same metadata, if and only if no regular file has a backslash in its path and no surrogate
    pair stands in two halves in the stripped source or revision. -/
theorem manifest_round_trip_iff {room : Nesting} {sha256 : Bytes → Digest} {fs after : FileSystem} {model : DirectoryPath}
    {output : FilePath} {source revision : Str} {metadata : ModelManifestMetadata}
    (created : createModelManifest sha256 fs model output source revision = .ok (metadata,after)) :
    verifyModelManifest room sha256 after model output = .ok metadata ↔
      (∀ root place content, model.resolved = some root → fs.lookup (root ++ place) = some (.file content) →
        ∀ name ∈ place, UInt8.ofNat 0x5C ∉ name.bytes) ∧ ¬Paired (strip source) ∧ ¬Paired (strip revision) := by
  obtain ⟨root,parent,name,entries,written,record,rfl,rfl⟩ := createModelManifest_ok created
  obtain ⟨distinct,recorded⟩ := record.recorded
  obtain ⟨link,resolved,children,directory⟩ := record.directory
  rw [verifyModelManifest_ok]
  constructor
  · rintro ⟨root',manifest,approved,same⟩
    cases (approved.directory.2.1.symm.trans resolved)
    obtain ⟨place,held,led,there,described⟩ := approved.document
    rw [record.resolved] at led
    cases led
    rw [record.written] at there
    cases there
    have described := (record.wellFormed_iff room manifest).mp described
    -- what is read for a string is no longer than what was recorded
    have shorter {text : Str} (same : strip (joinPairs text) = text) : ¬Paired text := by
      intro paired
      have := joinPairs_paired paired
      have := strip_length (joinPairs text)
      rw [same] at this
      omega
    obtain ⟨source',sourced,named⟩ := described.source
    obtain ⟨revision',revised,dated⟩ := described.revision
    cases sourced
    cases revised
    simp only [ModelManifestMetadata.mk.injEq] at same
    refine ⟨fun root place content led held name member inside => ?_,shorter (named.symm.trans same.1.symm),
      shorter (dated.symm.trans same.2.1.symm)⟩
    cases led.symm.trans resolved
    obtain ⟨entry,listed,path⟩ :=
      List.mem_map.mp ((approved.paths (posix place)).mpr ⟨place,content,(record.artifact place content).mpr held,rfl⟩)
    obtain ⟨files,-,each⟩ := described.files
    obtain ⟨raw,-,items,-,entryOf⟩ := forall₂_left each listed
    refine entryOf.plain ?_
    rw [path,show char '\\' = point 0x5C from rfl,mem_posix (by decide)]
    exact ⟨name,member,(mem_fsdecode (by decide)).mpr inside⟩
  · rintro ⟨slashes,unpaired,unpaired'⟩
    refine ⟨root,⟨strip source,strip revision,entries⟩,⟨⟨link,resolved,children,?_⟩,?_,?_,?_,?_⟩,rfl⟩
    · have := record.unchanged []
      rwa [List.append_nil,directory] at this
    · refine ⟨_,written,record.resolved,record.written,(record.wellFormed_iff room _).mpr ?_⟩
      refine ⟨fun key => ?_,rfl,⟨_,rfl,?_⟩,⟨_,rfl,?_⟩,record.named,⟨_,rfl,?_⟩,record.nonempty,distinct⟩
      · exact (by decide : [str "files",str "revision",str "schema_version",str "source"].Perm schemaKeys).mem_iff
      · rw [joinPairs_unpaired unpaired,strip_strip]
      · rw [joinPairs_unpaired unpaired',strip_strip]
      · rw [List.forall₂_map_left_iff,List.forall₂_same]
        intro entry member
        obtain ⟨place,held,there,rfl⟩ := (recorded entry).mp member
        have below : place ≠ [] := (show IsArtifact fs root none place held from ⟨there,nofun⟩).below directory
        exact ⟨_,rfl,entryOf_read below (slashes root place held resolved there) held.length (sha256 held)⟩
    · intro place node held
      rw [record.unchanged] at held
      exact record.plain place node held
    · intro listed
      constructor
      · intro inside
        obtain ⟨entry,member,rfl⟩ := List.mem_map.mp inside
        obtain ⟨place,held,there,rfl⟩ := (recorded entry).mp member
        exact ⟨place,held,(record.artifact place held).mpr there,rfl⟩
      · rintro ⟨place,held,artifact,rfl⟩
        exact List.mem_map.mpr ⟨_,(recorded _).mpr ⟨place,held,(record.artifact place held).mp artifact,rfl⟩,rfl⟩
    · intro entry member place held artifact path
      obtain ⟨place',held',there,rfl⟩ := (recorded entry).mp member
      have there' := (record.artifact place held).mp artifact
      have below : place ≠ [] := (show IsArtifact fs root none place held from ⟨there',nofun⟩).below directory
      have below' : place' ≠ [] := (show IsArtifact fs root none place' held' from ⟨there,nofun⟩).below directory
      obtain rfl := posix_injective below below' path
      rw [there'] at there
      cases there
      exact ⟨rfl,rfl⟩

/-- `/d` and `/j`. -/
def stagedDirectory : DirectoryPath := ⟨false,some [directoryName]⟩

def stagedOutput : FilePath := ⟨some [],.entry manifestName⟩

/-- What becomes of a manifest that is created at `/j` for `/d` and then given to the gate. -/
def roundTrip (fs : FileSystem) :
    Except Raised (ModelManifestMetadata × Except Raised ModelManifestMetadata) := do
  let (metadata,after) ←
    createModelManifest (fun _ => emptyDigest) fs stagedDirectory stagedOutput (str " hub") (str "r1")
  .ok (metadata,verifyModelManifest leastNesting (fun _ => emptyDigest) after stagedDirectory stagedOutput)

theorem roundTrip_ok {fs : FileSystem} {metadata : ModelManifestMetadata}
    {verified : Except Raised ModelManifestMetadata}
    (tripped : roundTrip fs = .ok (metadata,verified)) : ∃ after,
      createModelManifest (fun _ => emptyDigest) fs stagedDirectory stagedOutput (str " hub") (str "r1") =
        .ok (metadata,after) ∧
      verifyModelManifest leastNesting (fun _ => emptyDigest) after stagedDirectory stagedOutput = verified := by
  obtain ⟨⟨found,after⟩,created,same⟩ := bind_ok.mp tripped
  cases same
  exact ⟨after,created,rfl⟩

theorem manifest_round_trip_staged :
    (∀ root place content, stagedDirectory.resolved = some root → staged.lookup (root ++ place) = some (.file content) →
      ∀ name ∈ place, UInt8.ofNat 0x5C ∉ name.bytes) ∧ ¬Paired (strip (str " hub")) ∧ ¬Paired (strip (str "r1")) := by
  have tripped : roundTrip staged = .ok (⟨str "hub",str "r1",1⟩,.ok ⟨str "hub",str "r1",1⟩) := by decide +kernel
  obtain ⟨after,created,verified⟩ := roundTrip_ok tripped
  exact (manifest_round_trip_iff created).mp verified

/-- `/d` holds one empty file, whose name is `a\b`. -/
def backslashed : FileSystem where
  root := .directory [(directoryName,
    .directory [(⟨[0x61,0x5C,0x62],nofun,by decide,by decide,nofun,nofun⟩,.file [])])]
  distinct := by
    refine Node.distinct_directory (by decide) ?_
    simp only [List.forall_mem_cons]
    refine ⟨Node.distinct_directory (by decide) ?_,nofun⟩
    simp only [List.forall_mem_cons]
    exact ⟨Node.distinct_leaf nofun,nofun⟩

/-- Its manifest is created, and the gate refuses the path in it. -/
theorem backslash_not_verified : ∃ metadata after,
    createModelManifest (fun _ => emptyDigest) backslashed stagedDirectory stagedOutput (str " hub") (str "r1") =
      .ok (metadata,after) ∧
    verifyModelManifest leastNesting (fun _ => emptyDigest) after stagedDirectory stagedOutput ≠ .ok metadata := by
  have tripped : roundTrip backslashed = .ok (⟨str "hub",str "r1",1⟩,.error (.rejected .pathInvalid)) := by decide +kernel
  obtain ⟨after,created,refused⟩ := roundTrip_ok tripped
  refine ⟨_,after,created,?_⟩
  rw [refused]
  nofun

end SpeechGateway.Artifacts
