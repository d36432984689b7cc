import SpeechGateway.Dict
import SpeechGateway.Unicode

/-!
Directory trees as a POSIX file system holds them, walked as `Path.rglob("*")` does. Names
are bytes, and a path is written with the names decoded by `os.fsdecode`; different places
have different paths (`posix_injective`).
-/
namespace Files
open Dict Unicode

/-- A name in a directory: any bytes but `/` and NUL, and neither `.` nor `..`. -/
structure FileName where
  bytes : Bytes
  nonempty : bytes ≠ []
  noSlash : UInt8.ofNat 0x2F ∉ bytes
  noNul : UInt8.ofNat 0 ∉ bytes
  notHere : bytes ≠ [.ofNat 0x2E]
  notUp : bytes ≠ [.ofNat 0x2E,.ofNat 0x2E]
  deriving DecidableEq

/-- The names that lead somewhere, from a directory down. -/
abbrev Location := List FileName

/-- What a directory holds under a name. `special` is a pipe, a socket or a device, which
    may refuse to be opened. -/
inductive Node
  | file (content : Bytes)
  | symlink
  | special (opens : Bool)
  | directory (entries : List (FileName × Node))

namespace Node

/-- What stands at a place under a node. -/
def lookup : Node → Location → Option Node
  | node,[] => some node
  | directory entries,name :: rest => (entries.lookup name).bind fun child => child.lookup rest
  | _,_ :: _ => none

/-- Every directory holds a name once. -/
def Distinct (node : Node) : Prop :=
  ∀ place entries, node.lookup place = some (directory entries) → (entries.map Prod.fst).Nodup

mutual
/-- `rglob("*")`: everything below a directory, each with its place. -/
def rglob : Node → List (Location × Node)
  | directory entries => entries.map (fun entry => ([entry.1],entry.2)) ++ rglobEach entries
  | _ => []

/-- `rglob("*")` of each directory among the entries. -/
def rglobEach : List (FileName × Node) → List (Location × Node)
  | [] => []
  | (name,child) :: rest => child.rglob.map (fun found => (name :: found.1,found.2)) ++ rglobEach rest
end

/-- A file put at a place whose directory exists. -/
def write : Node → Location → Bytes → Node
  | directory entries,[name],content => directory (setItem entries name (file content))
  | directory entries,name :: rest,content =>
    directory (entries.map fun entry => if entry.1 = name then (entry.1,entry.2.write rest content) else entry)
  | node,_,_ => node

theorem lookup_nil (node : Node) : node.lookup [] = some node := by
  cases node <;> rfl

theorem lookup_directory (entries : List (FileName × Node)) (name : FileName) (rest : Location) :
    (directory entries).lookup (name :: rest) = (entries.lookup name).bind fun child => child.lookup rest := rfl

theorem lookup_append (node : Node) (place rest : Location) :
    node.lookup (place ++ rest) = (node.lookup place).bind fun found => found.lookup rest := by
  induction place generalizing node with
  | nil => rw [List.nil_append,lookup_nil,Option.bind_some]
  | cons name place ih =>
    cases node with
    | directory entries =>
      rw [List.cons_append,lookup_directory,lookup_directory]
      cases entries.lookup name with
      | none => rfl
      | some child => exact ih child
    | file | symlink | special => rfl

theorem Distinct.at {node found : Node} (distinct : node.Distinct) {place : Location}
    (there : node.lookup place = some found) : found.Distinct := by
  intro rest entries below
  refine distinct (place ++ rest) entries ?_
  rw [lookup_append,there,Option.bind_some,below]

theorem Distinct.keys {entries : List (FileName × Node)} (distinct : (directory entries).Distinct) :
    (entries.map Prod.fst).Nodup := distinct [] entries rfl

theorem Distinct.child {entries : List (FileName × Node)} (distinct : (directory entries).Distinct) {name : FileName}
    {child : Node} (member : (name,child) ∈ entries) : child.Distinct := by
  have found := lookup_of_mem distinct.keys member
  have there : (directory entries).lookup [name] = some child := by
    rw [lookup_directory,found,Option.bind_some,lookup_nil]
  exact distinct.at there

theorem rglobEach_eq (entries : List (FileName × Node)) :
    rglobEach entries =
      entries.flatMap fun entry => entry.2.rglob.map fun found => (entry.1 :: found.1,found.2) := by
  induction entries with
  | nil => rw [rglobEach]; rfl
  | cons entry rest ih =>
    obtain ⟨name,child⟩ := entry
    rw [rglobEach,ih,List.flatMap_cons]

theorem mem_rglob_directory {entries : List (FileName × Node)} {place : Location} {found : Node} :
    (place,found) ∈ (directory entries).rglob ↔ ∃ name child, (name,child) ∈ entries ∧
      (place = [name] ∧ found = child ∨ ∃ rest, place = name :: rest ∧ (rest,found) ∈ child.rglob) := by
  rw [rglob,rglobEach_eq,List.mem_append,List.mem_map,List.mem_flatMap]
  constructor
  · rintro (⟨⟨name,child⟩,member,same⟩ | ⟨⟨name,child⟩,member,inside⟩)
    · cases same
      exact ⟨name,child,member,Or.inl ⟨rfl,rfl⟩⟩
    · obtain ⟨⟨rest,below⟩,deeper,same⟩ := List.mem_map.mp inside
      cases same
      exact ⟨name,child,member,Or.inr ⟨rest,rfl,deeper⟩⟩
  · rintro ⟨name,child,member,⟨rfl,rfl⟩ | ⟨rest,rfl,deeper⟩⟩
    · exact Or.inl ⟨(name,found),member,rfl⟩
    · exact Or.inr ⟨(name,child),member,List.mem_map.mpr ⟨(rest,found),deeper,rfl⟩⟩

/-- The walk comes to everything that stands below, and to nothing else. -/
theorem mem_rglob {node : Node} (distinct : node.Distinct) (place : Location) (found : Node) :
    (place,found) ∈ node.rglob ↔ place ≠ [] ∧ node.lookup place = some found := by
  induction place generalizing node with
  | nil =>
    refine iff_of_false (fun inside => ?_) fun both => both.1 rfl
    cases node with
    | directory entries =>
      obtain ⟨name,child,-,⟨same,-⟩ | ⟨rest,same,-⟩⟩ := mem_rglob_directory.mp inside <;> cases same
    | file | symlink | special =>
      rw [rglob] at inside
      · cases inside
      · nofun
  | cons name rest ih =>
    cases node with
    | file | symlink | special =>
      refine iff_of_false (fun inside => ?_) fun both => by cases both.2
      rw [rglob] at inside
      · cases inside
      · nofun
    | directory entries =>
      rw [mem_rglob_directory,lookup_directory,Option.bind_eq_some_iff]
      constructor
      · rintro ⟨name',child,member,⟨same,rfl⟩ | ⟨rest',same,deeper⟩⟩
        · cases same
          exact ⟨nofun,found,lookup_of_mem distinct.keys member,lookup_nil _⟩
        · cases same
          exact ⟨nofun,child,lookup_of_mem distinct.keys member,((ih (distinct.child member)).mp deeper).2⟩
      · rintro ⟨-,child,under,there⟩
        have member := mem_of_lookup under
        cases rest with
        | nil =>
          rw [lookup_nil] at there
          cases there
          exact ⟨name,found,member,Or.inl ⟨rfl,rfl⟩⟩
        | cons next rest =>
          exact ⟨name,child,member,Or.inr ⟨_,rfl,(ih (distinct.child member)).mpr ⟨nofun,there⟩⟩⟩

theorem distinct_directory {entries : List (FileName × Node)} (keys : (entries.map Prod.fst).Nodup)
    (children : ∀ entry ∈ entries, entry.2.Distinct) : (directory entries).Distinct := by
  rintro (_ | ⟨name,rest⟩) below there
  · cases there
    exact keys
  · rw [lookup_directory,Option.bind_eq_some_iff] at there
    obtain ⟨child,under,there⟩ := there
    exact children _ (mem_of_lookup under) rest below there

theorem distinct_leaf {node : Node} (leaf : ∀ entries, node ≠ directory entries) : node.Distinct := by
  rintro (_ | ⟨name,rest⟩) below there
  · rw [lookup_nil] at there
    exact absurd (Option.some.inj there) (leaf below)
  · cases node with
    | directory entries => exact absurd rfl (leaf entries)
    | file | symlink | special => cases there

/-- What a child becomes when a file is written below it. -/
theorem write_cons (entries : List (FileName × Node)) (name next : FileName) (rest : Location) (content : Bytes) :
    (directory entries).write (name :: next :: rest) content =
      directory (entries.map fun entry =>
        if entry.1 = name then (entry.1,entry.2.write (next :: rest) content) else entry) := rfl

theorem write_keys (entries : List (FileName × Node)) (name : FileName) (change : Node → Node) :
    (entries.map fun entry => if entry.1 = name then (entry.1,change entry.2) else entry).map Prod.fst =
      entries.map Prod.fst := by
  rw [List.map_map]
  refine List.map_congr_left fun entry _ => ?_
  simp only [Function.comp]
  split_ifs <;> rfl

theorem write_lookup (entries : List (FileName × Node)) (name other : FileName) (change : Node → Node) :
    (entries.map fun entry => if entry.1 = name then (entry.1,change entry.2) else entry).lookup other =
      if other = name then (entries.lookup other).map change else entries.lookup other := by
  induction entries with
  | nil => simp
  | cons entry entries ih =>
    rw [List.map_cons,lookup_cons,lookup_cons,ih]
    have head : (if entry.1 = name then (entry.1,change entry.2) else entry).1 = entry.1 := by
      split_ifs <;> rfl
    rw [head]
    by_cases here : other = entry.1
    · subst here
      by_cases same : entry.1 = name <;> simp [same]
    · rw [if_neg here,if_neg here]

theorem Distinct.write {node : Node} (distinct : node.Distinct) (target : Location) (content : Bytes) :
    (node.write target content).Distinct := by
  induction target generalizing node with
  | nil => cases node <;> exact distinct
  | cons name rest ih =>
    cases node with
    | file | symlink | special => cases rest <;> exact distinct
    | directory entries =>
      cases rest with
      | nil =>
        refine distinct_directory (nodup_setItem distinct.keys _ _) fun entry member => ?_
        rcases mem_setItem member with rfl | earlier
        · exact distinct_leaf nofun
        · exact distinct.child earlier
      | cons next rest =>
        rw [write_cons]
        refine distinct_directory ?_ fun entry member => ?_
        · rw [write_keys entries name fun child => child.write (next :: rest) content]
          exact distinct.keys
        · obtain ⟨earlier,inside,rfl⟩ := List.mem_map.mp member
          split_ifs
          · exact ih (distinct.child inside)
          · exact distinct.child inside

/-- The file stands where it was put. -/
theorem lookup_write {node : Node} {place : Location} {entries : List (FileName × Node)}
    (there : node.lookup place = some (directory entries)) (name : FileName) (content : Bytes) :
    (node.write (place ++ [name]) content).lookup (place ++ [name]) = some (file content) := by
  induction place generalizing node with
  | nil =>
    rw [lookup_nil] at there
    cases there
    show (directory (setItem entries name (file content))).lookup [name] = _
    rw [lookup_directory,lookup_setItem,if_pos rfl]
    rfl
  | cons first place ih =>
    cases node with
    | file | symlink | special => cases there
    | directory children =>
      rw [lookup_directory,Option.bind_eq_some_iff] at there
      obtain ⟨child,under,there⟩ := there
      have deeper := ih there
      obtain ⟨next,rest,split⟩ := List.exists_cons_of_ne_nil (List.append_ne_nil_of_right_ne_nil place (List.cons_ne_nil name []))
      rw [List.cons_append]
      rw [split] at deeper ⊢
      rw [write_cons,lookup_directory,write_lookup children first first fun child => child.write (next :: rest) content,
        if_pos rfl,under]
      exact deeper

/-- Nothing changes beside the file and the directories above it. -/
theorem lookup_write_other {node : Node} {target place : Location} (content : Bytes) (below : ¬target <+: place)
    (above : ¬place <+: target) : (node.write target content).lookup place = node.lookup place := by
  induction target generalizing node place with
  | nil => exact absurd List.nil_prefix below
  | cons name target ih =>
    cases node with
    | file | symlink | special => cases target <;> rfl
    | directory entries =>
      cases place with
      | nil => exact absurd List.nil_prefix above
      | cons other place =>
        cases target with
        | nil =>
          have apart : other ≠ name := by
            rintro rfl
            exact below (List.cons_prefix_cons.mpr ⟨rfl,List.nil_prefix⟩)
          show (directory (setItem entries name (file content))).lookup (other :: place) = _
          rw [lookup_directory,lookup_directory,lookup_setItem,if_neg apart]
        | cons next target =>
          rw [write_cons,lookup_directory,lookup_directory,
            write_lookup entries name other fun child => child.write (next :: target) content]
          by_cases same : other = name
          · subst same
            rw [if_pos rfl]
            cases entries.lookup other with
            | none => rfl
            | some child =>
              exact ih (fun inside => below (List.cons_prefix_cons.mpr ⟨rfl,inside⟩))
                fun inside => above (List.cons_prefix_cons.mpr ⟨rfl,inside⟩)
          · rw [if_neg same]

end Node

/-- A whole file system: a tree from `/` down. -/
structure FileSystem where
  root : Node
  distinct : root.Distinct

namespace FileSystem

def lookup (fs : FileSystem) (place : Location) : Option Node := fs.root.lookup place

def write (fs : FileSystem) (place : Location) (content : Bytes) : FileSystem :=
  ⟨fs.root.write place content,fs.distinct.write place content⟩

end FileSystem

/-! ## Paths -/

/-- The name as Python spells it. -/
def FileName.text (name : FileName) : Str := fsdecode name.bytes

/-- `as_posix()` of a relative path. -/
def posix (place : Location) : Str := [char '/'].intercalate (place.map FileName.text)

theorem FileName.text_injective : Function.Injective FileName.text := by
  intro first second same
  cases first
  cases second
  obtain rfl := fsdecode_injective same
  rfl

theorem FileName.text_eq {name : FileName} {bytes : Bytes} (same : name.text = fsdecode bytes) : name.bytes = bytes :=
  fsdecode_injective same

theorem FileName.slash_not_mem (name : FileName) : char '/' ∉ name.text := by
  intro inside
  exact name.noSlash ((mem_fsdecode (by decide)).mp inside)

theorem FileName.text_ne (name : FileName) : name.text ≠ [] ∧ name.text ≠ str "." ∧ name.text ≠ str ".." := by
  refine ⟨fun same => ?_,fun same => ?_,fun same => ?_⟩
  · exact name.nonempty (FileName.text_eq (show name.text = fsdecode [] from same))
  · exact name.notHere (FileName.text_eq (same.trans (by decide)))
  · exact name.notUp (FileName.text_eq (same.trans (by decide)))

/-- The names of a path are found between its slashes. -/
theorem splitOn_posix {place : Location} (below : place ≠ []) :
    (posix place).splitOn (char '/') = place.map FileName.text := by
  refine List.splitOn_intercalate _ (fun text member => ?_) (by simpa using below)
  obtain ⟨name,-,rfl⟩ := List.mem_map.mp member
  exact name.slash_not_mem

/-- Different places have different paths. -/
theorem posix_injective {place other : Location} (below : place ≠ []) (below' : other ≠ [])
    (same : posix place = posix other) : place = other := by
  have split := splitOn_posix below
  rw [same,splitOn_posix below'] at split
  exact (List.map_injective_iff.mpr FileName.text_injective split).symm

theorem mem_posix {place : Location} {c : CodePoint} (apart : c ≠ char '/') :
    c ∈ posix place ↔ ∃ name ∈ place, c ∈ name.text := by
  induction place with
  | nil => simp [posix]
  | cons name place ih =>
    rw [List.exists_mem_cons_iff,← ih]
    cases place with
    | nil => simp [posix]
    | cons next place =>
      rw [posix,List.map_cons,List.map_cons,List.intercalate_cons_cons,List.mem_append,List.mem_append,
        List.mem_singleton]
      constructor
      · rintro ((inside | slash) | later)
        · exact Or.inl inside
        · exact absurd slash apart
        · exact Or.inr later
      · rintro (inside | later)
        · exact Or.inl (Or.inl inside)
        · exact Or.inr later

theorem posix_no_high {place : Location} {c : CodePoint} (inside : c ∈ posix place) : isHigh c = false := by
  by_cases slash : c = char '/'
  · rw [slash]
    decide
  · obtain ⟨name,-,inside⟩ := (mem_posix slash).mp inside
    exact fsdecode_no_high inside

/-- `PurePosixPath`: the slashes at the front, and the parts behind them. -/
structure PurePosixPath where
  root : Str
  parts : List Str

def purePosixPath (value : Str) : PurePosixPath where
  root :=
    if (str "///").isPrefixOf value then str "/" else if (str "//").isPrefixOf value then str "//" else
    if (str "/").isPrefixOf value then str "/" else []
  parts := (value.splitOn (char '/')).filter fun part => part ≠ [] ∧ part ≠ str "."

def PurePosixPath.isAbsolute (path : PurePosixPath) : Bool := path.root ≠ []

def PurePosixPath.asPosix (path : PurePosixPath) : Str :=
  if path.root = [] ∧ path.parts = [] then str "." else path.root ++ [char '/'].intercalate path.parts

/-- A path that leads down in normal form: parts with slashes between, or a dot for none. -/
def Relative (path : Str) : Prop :=
  ∃ parts : List Str, (∀ part ∈ parts, part ≠ [] ∧ part ≠ str "." ∧ part ≠ str ".." ∧ char '/' ∉ part) ∧
    path = if parts = [] then str "." else [char '/'].intercalate parts

theorem slash_not_mem {value part : Str} (member : part ∈ value.splitOn (char '/')) : char '/' ∉ part := by
  induction value generalizing part with
  | nil =>
    rw [show ([] : Str).splitOn (char '/') = [[]] from List.splitOn_eq_singleton (by simp)] at member
    rw [List.mem_singleton.mp member]
    simp
  | cons c value ih =>
    rw [List.splitOn_cons_eq_if_modifyHead] at member
    split_ifs at member with slash
    · rcases List.mem_cons.mp member with rfl | later
      · simp
      · exact ih later
    · obtain ⟨first,rest,split⟩ := List.exists_cons_of_ne_nil (List.splitOn_ne_nil (char '/') value)
      rw [split,List.modifyHead_cons] at member
      rw [beq_iff_eq] at slash
      rcases List.mem_cons.mp member with rfl | later
      · rw [List.mem_cons,not_or]
        exact ⟨Ne.symm slash,ih (by rw [split]; exact List.mem_cons_self)⟩
      · exact ih (by rw [split]; exact List.mem_cons_of_mem _ later)

theorem purePosixPath_root {value : Str} (relative : (purePosixPath value).isAbsolute = false) :
    (purePosixPath value).root = [] := by
  simpa [PurePosixPath.isAbsolute] using relative

theorem not_absolute {value : Str} (down : value.head? ≠ some (char '/')) : (purePosixPath value).root = [] := by
  have apart (slashes : Str) (starts : slashes.head? = some (char '/')) : slashes.isPrefixOf value = false := by
    rw [← Bool.not_eq_true,List.isPrefixOf_iff_prefix]
    rintro ⟨rest,rfl⟩
    cases slashes with
    | nil => cases starts
    | cons c slashes => exact down starts
  rw [purePosixPath]
  dsimp only
  rw [apart _ (by decide),apart _ (by decide),apart _ (by decide)]
  rfl

/-- The paths that `PurePosixPath` leaves as they are and that lead neither up nor to the root. -/
theorem relative_iff {value : Str} :
    Relative value ↔ (purePosixPath value).isAbsolute = false ∧ value = (purePosixPath value).asPosix ∧
      ∀ part ∈ (purePosixPath value).parts, ¬(part = [] ∨ part = str "." ∨ part = str "..") := by
  constructor
  · rintro ⟨parts,each,rfl⟩
    by_cases none : parts = []
    · subst none
      decide
    · have split : ([char '/'].intercalate parts).splitOn (char '/') = parts :=
        List.splitOn_intercalate _ (fun part member => (each part member).2.2.2) none
      have found : (purePosixPath ([char '/'].intercalate parts)).parts = parts := by
        rw [purePosixPath]
        dsimp only
        rw [split,List.filter_eq_self.mpr]
        intro part member
        simp [(each part member).1,(each part member).2.1]
      have root : (purePosixPath ([char '/'].intercalate parts)).root = [] := by
        refine not_absolute ?_
        obtain ⟨part,rest,rfl⟩ := List.exists_cons_of_ne_nil none
        obtain ⟨visible,-,-,slash⟩ := each part List.mem_cons_self
        obtain ⟨c,tail,rfl⟩ := List.exists_cons_of_ne_nil visible
        have begins : ([char '/'].intercalate ((c :: tail) :: rest)).head? = some c := by
          cases rest with
          | nil => rw [List.intercalate_singleton]; rfl
          | cons next rest => rw [List.intercalate_cons_cons]; rfl
        rw [begins]
        rintro same
        cases same
        exact slash List.mem_cons_self
      rw [if_neg none]
      refine ⟨by simp [PurePosixPath.isAbsolute,root],?_,?_⟩
      · rw [PurePosixPath.asPosix,found,root,if_neg fun both => none both.2,List.nil_append]
      · rw [found]
        rintro part member (same | same | same)
        · exact (each part member).1 same
        · exact (each part member).2.1 same
        · exact (each part member).2.2.1 same
  · rintro ⟨relative,same,each⟩
    have root := purePosixPath_root relative
    refine ⟨(purePosixPath value).parts,fun part member => ?_,?_⟩
    · have apart := each part member
      rw [not_or,not_or] at apart
      exact ⟨apart.1,apart.2.1,apart.2.2,slash_not_mem (List.mem_of_mem_filter member)⟩
    · conv_lhs => rw [same,PurePosixPath.asPosix,root]
      by_cases none : (purePosixPath value).parts = []
      · rw [if_pos ⟨rfl,none⟩,if_pos none]
      · rw [if_neg fun both => none both.2,if_neg none,List.nil_append]

/-- The path of a place is in normal form. -/
theorem relative_posix {place : Location} (below : place ≠ []) : Relative (posix place) := by
  refine ⟨place.map FileName.text,fun part member => ?_,?_⟩
  · obtain ⟨name,-,rfl⟩ := List.mem_map.mp member
    exact ⟨name.text_ne.1,name.text_ne.2.1,name.text_ne.2.2,name.slash_not_mem⟩
  · rw [if_neg (by simpa using below)]
    rfl

end Files
