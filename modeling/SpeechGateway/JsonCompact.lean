import SpeechGateway.JsonWriting

/-!
JSON as Python's `json` module writes it on one line, with `ensure_ascii=False` and a gap behind
every comma and colon. A value without floats is read back as it was (`loads_compact`), by an
interpreter that recurses deep enough for it.
-/
namespace JsonText
open Dict Unicode
open Programs (bind_ok)

/-- How `py_encode_basestring` writes one code point. -/
def escapePlain (c : CodePoint) : Str :=
  match escapes.lookup c with
  | some letter => [char '\\',letter]
  | none => if c.val < 0x20 then writeHex c.val else [c]

def writePlain (s : Str) : Str := char '"' :: (s.flatMap escapePlain ++ [char '"'])

/-- Brackets around things on one line. -/
def row (first last : CodePoint) (gap : Str) (texts : List Str) : Str :=
  first :: ((char ',' :: gap).intercalate texts ++ [last])

mutual
/-- `json.dumps(value, ensure_ascii=False, separators=("," + gap, ":" + gap))`. -/
def compact (gap : Str) : Value → Str
  | .null => str "null"
  | .bool true => str "true"
  | .bool false => str "false"
  | .int n => writeInt n
  | .float literal => literal
  | .str s => writePlain s
  | .list items => row (char '[') (char ']') gap (compactItems gap items)
  | .dict items => row (char '\x7b') (char '\x7d') gap (compactMembers gap items)

def compactItems (gap : Str) : List Value → List Str
  | [] => []
  | item :: items => compact gap item :: compactItems gap items

def compactMembers (gap : Str) : List (Str × Value) → List Str
  | [] => []
  | (key,item) :: items => (writePlain key ++ char ':' :: (gap ++ compact gap item)) :: compactMembers gap items
end

mutual
/-- A value of Python without floats: the keys of a `dict` are distinct, and every integer is written. -/
def Value.Exact : Value → Prop
  | .null | .bool _ | .str _ => True
  | .int n => Printable n
  | .float _ => False
  | .list items => ExactItems items
  | .dict items => (items.map Prod.fst).Nodup ∧ ExactMembers items

def ExactItems : List Value → Prop
  | [] => True
  | item :: items => item.Exact ∧ ExactItems items

def ExactMembers : List (Str × Value) → Prop
  | [] => True
  | (_,item) :: items => item.Exact ∧ ExactMembers items
end

mutual
/-- How deep brackets nest in the value. -/
def Value.nesting : Value → Nat
  | .null | .bool _ | .int _ | .float _ | .str _ => 0
  | .list items => nestingItems items + 1
  | .dict items => nestingMembers items + 1

def nestingItems : List Value → Nat
  | [] => 0
  | item :: items => max item.nesting (nestingItems items)

def nestingMembers : List (Str × Value) → Nat
  | [] => 0
  | (_,item) :: items => max item.nesting (nestingMembers items)
end

theorem exact_dict {items : List (Str × Value)} (distinct : (items.map Prod.fst).Nodup)
    (each : ∀ item ∈ items, item.2.Exact) : (Value.dict items).Exact := by
  have members : ExactMembers items := by
    clear distinct
    induction items with
    | nil => rw [ExactMembers]; trivial
    | cons item items ih =>
      obtain ⟨first,later⟩ := List.forall_mem_cons.mp each
      rw [ExactMembers]
      exact ⟨first,ih later⟩
  rw [Value.Exact]
  exact ⟨distinct,members⟩

theorem nesting_dict {items : List (Str × Value)} {depth : Nat} (each : ∀ item ∈ items, item.2.nesting ≤ depth) :
    (Value.dict items).nesting ≤ depth + 1 := by
  rw [Value.nesting]
  apply Nat.succ_le_succ
  induction items with
  | nil =>
    rw [nestingMembers]
    exact Nat.zero_le depth
  | cons item items ih =>
    obtain ⟨first,later⟩ := List.forall_mem_cons.mp each
    rw [nestingMembers]
    exact Nat.max_le.mpr ⟨first,ih later⟩

/-- What is not escaped stands for itself. -/
theorem escapePlain_cases (c : CodePoint) :
    (∃ letter, escapePlain c = [char '\\',letter] ∧ letter ≠ char 'u' ∧ backslash.lookup letter = some c) ∨
      escapePlain c = writeHex c.val ∧ c.val < 0x20 ∨
      escapePlain c = [c] ∧ c ≠ char '"' ∧ c ≠ char '\\' ∧ ¬c.val < 0x20 := by
  rw [escapePlain]
  cases short : escapes.lookup c with
  | some letter =>
    have known : escapes.all (fun entry => entry.2 ≠ char 'u' ∧ backslash.lookup entry.2 = some entry.1) = true := by decide
    obtain ⟨before,after,split,-⟩ := List.lookup_eq_some_iff.mp short
    have inside : (c,letter) ∈ escapes := by rw [split]; simp
    obtain ⟨apart,same⟩ := of_decide_eq_true (List.all_eq_true.mp known _ inside)
    exact .inl ⟨letter,rfl,apart,same⟩
  | none =>
    have missing := List.lookup_eq_none_iff.mp short
    dsimp only
    split_ifs with control
    · exact .inr (.inl ⟨rfl,control⟩)
    · refine .inr (.inr ⟨rfl,?_,?_,control⟩)
      · rintro rfl
        exact absurd (missing (char '"',char '"') (by decide)) (by decide)
      · rintro rfl
        exact absurd (missing (char '\\',char '\\') (by decide)) (by decide)

theorem readString_escapePlain (c : CodePoint) (rest : Str) :
    readString 0 (escapePlain c ++ rest) = (readString 0 rest).map fun (s,after) => (c :: s,after) := by
  rcases escapePlain_cases c with ⟨letter,written,apart,known⟩ | ⟨written,control⟩ | ⟨written,quote,solidus,visible⟩
  · rw [written,List.cons_append,List.cons_append,List.nil_append,readString,if_neg (by decide),if_pos rfl,readEscape,
      if_neg apart,known]
    rfl
  · have same : point c.val = c := Fin.ext (point_val c.isLt)
    have scalar : isHigh (point c.val) = true → lowHalf rest = none := by
      rw [same,isHigh_iff]
      omega
    have read : readString 0 (writeHex c.val ++ rest) = _ := readString_hex (by omega) scalar
    rw [written,read,same]
  · rw [written,List.cons_append,List.nil_append,readString,if_neg quote,if_neg solidus,if_neg visible]

theorem readString_writePlain (s after : Str) :
    readString 0 (s.flatMap escapePlain ++ char '"' :: after) = some (s,after) := by
  induction s with
  | nil => rw [List.flatMap_nil,List.nil_append,readString,if_pos rfl]
  | cons c s ih =>
    rw [List.flatMap_cons,List.append_assoc,readString_escapePlain,ih]
    rfl

theorem stands_plain (s : Str) : Stands 0 (writePlain s) (.str s) := by
  refine stands_scanned (begins_quote _) fun inside rest follows => ?_
  show scanOnce inside (char '"' :: ((s.flatMap escapePlain ++ [char '"']) ++ rest)) = _
  rw [scanOnce,if_pos rfl,List.append_assoc,List.singleton_append,readString_writePlain]
  rfl

/-- A word begins with a letter, and is found. -/
theorem stands_word {word : Str} {value : Value} {c : CodePoint} {tail : Str} (split : word = c :: tail)
    (letter : isBlank c = false ∧ c ≠ char ']' ∧ c ≠ char '\x7d' ∧ c ≠ char '"' ∧ c ≠ char '[' ∧ c ≠ char '\x7b')
    (found : ∀ rest, readWord (word ++ rest) = some (value,rest)) : Stands 0 word value := by
  obtain ⟨visible,square,curly,quote,list,dict⟩ := letter
  refine stands_scanned ⟨c,tail,split,visible,square,curly⟩ fun inside rest follows => ?_
  have read := found rest
  rw [split,List.cons_append] at read ⊢
  rw [scanOnce,if_neg quote,if_neg list,if_neg dict,read]

theorem stands_null : Stands 0 (str "null") .null := stands_word rfl (by decide) fun _ => rfl
theorem stands_true : Stands 0 (str "true") (.bool true) := stands_word rfl (by decide) fun _ => rfl
theorem stands_false : Stands 0 (str "false") (.bool false) := stands_word rfl (by decide) fun _ => rfl

section
variable {gap : Str} (blank : ∀ c ∈ gap, isBlank c = true)
include blank

theorem skipBlanks_gap (s : Str) : skipBlanks (gap ++ s) = skipBlanks s := List.dropWhile_append_of_pos blank

variable {α : Type} {read : Str → Except JsonError (α × Str)} {last : CodePoint} (closes : Closes last)
  (shrinks : Shrinks read)
include closes shrinks

theorem readSeparated_row {text : Str} {texts : List Str} {item : α} {items : List α} (first : ReadAs read text item)
    (later : List.Forall₂ (ReadAs read) texts items) (rest : Str) :
    readSeparated read last ((char ',' :: gap).intercalate (text :: texts) ++ last :: rest) = .ok (item :: items,rest) := by
  induction later generalizing text item with
  | nil =>
    rw [List.intercalate_singleton]
    exact readSeparated_last shrinks (first.reads (last :: rest) (Or.inr (Or.inr closes))) (skipBlanks_cons closes.visible rest)
  | @cons next item' texts items second later ih =>
    have split : (char ',' :: gap).intercalate (text :: next :: texts) ++ last :: rest =
        text ++ char ',' :: (gap ++ ((char ',' :: gap).intercalate (next :: texts) ++ last :: rest)) := by
      rw [List.intercalate_cons_cons]
      simp only [List.append_assoc,List.cons_append]
    rw [split]
    apply readSeparated_comma closes shrinks (first.reads _ (follows_comma _)) (skipBlanks_cons (by decide) _)
    rw [skipBlanks_gap blank,second.begins.intercalate]
    exact ih second

/-- A row is read back behind its first bracket. -/
theorem readEnclosed_row {texts : List Str} {items : List α} (each : List.Forall₂ (ReadAs read) texts items) (rest : Str) :
    readEnclosed read last ((char ',' :: gap).intercalate texts ++ last :: rest) = .ok (items,rest) := by
  cases each with
  | nil =>
    show readEnclosed read last (last :: rest) = _
    rw [readEnclosed,skipBlanks_cons closes.visible]
    dsimp only
    rw [if_pos rfl]
  | @cons text item texts items first later =>
    obtain ⟨tail,begun⟩ : ∃ tail, (char ',' :: gap).intercalate (text :: texts) ++ last :: rest = text ++ tail := by
      cases texts with
      | nil => exact ⟨_,by rw [List.intercalate_singleton]⟩
      | cons next texts => exact ⟨_,by rw [List.intercalate_cons_cons,List.append_assoc,List.append_assoc]⟩
    have read' := readSeparated_row blank closes shrinks first later rest
    rw [begun] at read' ⊢
    exact readEnclosed_some closes first.begins tail (first.begins.skip tail) read'

end

section
variable {gap : Str} (blank : ∀ c ∈ gap, isBlank c = true) {deep : Nat}
include blank

theorem stands_row_list {texts : List Str} {items : List Value} (each : List.Forall₂ (Stands deep) texts items) :
    Stands (deep + 1) (row (char '[') (char ']') gap texts) (.list items) := by
  intro depth enough
  refine ⟨⟨_,_,rfl,by decide,by decide,by decide⟩,fun rest follows => ?_⟩
  obtain ⟨depth,rfl⟩ : ∃ n, depth = n + 1 := ⟨depth - 1,by omega⟩
  have read := readEnclosed_row blank (Or.inl rfl) (readValue_shrinks depth)
    (each.imp fun text item stands => stands depth (by omega)) rest
  rw [row,List.cons_append,List.append_assoc,List.singleton_append,readValue,scanOnce,if_neg (by decide),if_pos rfl]
  exact bind_ok.mpr ⟨_,rfl,bind_ok.mpr ⟨_,read,rfl⟩⟩

theorem readMember_compact {key text : Str} {item : Value} (stands : Stands deep text item) {depth : Nat}
    (enough : deep ≤ depth) :
    ReadAs (readMember (readValue depth)) (writePlain key ++ char ':' :: (gap ++ text)) (key,item) := by
  refine ⟨begins_quote _,fun rest follows => ?_⟩
  have split : writePlain key ++ char ':' :: (gap ++ text) ++ rest =
      char '"' :: (key.flatMap escapePlain ++ char '"' :: char ':' :: (gap ++ (text ++ rest))) := by
    simp only [writePlain,List.append_assoc,List.cons_append,List.nil_append]
  have item := stands depth enough
  rw [split,readMember,if_pos rfl]
  refine bind_ok.mpr ⟨_,orDecode_ok.mpr (readString_writePlain key _),?_⟩
  dsimp only
  rw [skipBlanks_cons (by decide)]
  dsimp only
  rw [if_pos rfl,skipBlanks_gap blank,item.begins.skip]
  exact bind_ok.mpr ⟨_,item.reads rest follows,rfl⟩

theorem stands_row_dict {texts : List Str} {items : List (Str × Value)} (distinct : (items.map Prod.fst).Nodup)
    (each : ∀ depth ≥ deep, List.Forall₂ (ReadAs (readMember (readValue depth))) texts items) :
    Stands (deep + 1) (row (char '\x7b') (char '\x7d') gap texts) (.dict items) := by
  intro depth enough
  refine ⟨⟨_,_,rfl,by decide,by decide,by decide⟩,fun rest follows => ?_⟩
  obtain ⟨depth,rfl⟩ : ∃ n, depth = n + 1 := ⟨depth - 1,by omega⟩
  have read := readEnclosed_row blank (Or.inr rfl) (readMember_shrinks (readValue_shrinks depth)) (each depth (by omega)) rest
  rw [row,List.cons_append,List.append_assoc,List.singleton_append,readValue,scanOnce,if_neg (by decide),if_neg (by decide),
    if_pos rfl]
  refine bind_ok.mpr ⟨_,rfl,bind_ok.mpr ⟨_,read,?_⟩⟩
  dsimp only
  rw [toDict_distinct distinct]

end

mutual
theorem stands_compact {gap : Str} (blank : ∀ c ∈ gap, isBlank c = true) (value : Value) (exact : value.Exact) :
    Stands value.nesting (compact gap value) value := by
  cases value with
  | null => rw [compact,Value.nesting]; exact stands_null
  | bool b =>
    rw [Value.nesting]
    cases b with
    | true => rw [compact]; exact stands_true
    | false => rw [compact]; exact stands_false
  | int n =>
    rw [Value.Exact] at exact
    rw [compact,Value.nesting]
    exact stands_int exact
  | float literal => rw [Value.Exact] at exact; exact exact.elim
  | str s => rw [compact,Value.nesting]; exact stands_plain s
  | list items =>
    rw [Value.Exact] at exact
    rw [compact,Value.nesting]
    exact stands_row_list blank (stands_compactItems blank items exact (Nat.le_refl _))
  | dict items =>
    rw [Value.Exact] at exact
    rw [compact,Value.nesting]
    exact stands_row_dict blank exact.1 fun depth => reads_compactMembers blank items exact.2

theorem stands_compactItems {gap : Str} (blank : ∀ c ∈ gap, isBlank c = true) (items : List Value)
    (exact : ExactItems items) {deep : Nat} (enough : nestingItems items ≤ deep) :
    List.Forall₂ (Stands deep) (compactItems gap items) items := by
  cases items with
  | nil => rw [compactItems]; exact .nil
  | cons item items =>
    rw [ExactItems] at exact
    rw [nestingItems,Nat.max_le] at enough
    rw [compactItems]
    exact .cons ((stands_compact blank item exact.1).deeper enough.1) (stands_compactItems blank items exact.2 enough.2)

theorem reads_compactMembers {gap : Str} (blank : ∀ c ∈ gap, isBlank c = true) (items : List (Str × Value))
    (exact : ExactMembers items) {depth : Nat} (enough : nestingMembers items ≤ depth) :
    List.Forall₂ (ReadAs (readMember (readValue depth))) (compactMembers gap items) items := by
  cases items with
  | nil => rw [compactMembers]; exact .nil
  | cons member items =>
    obtain ⟨key,item⟩ := member
    rw [ExactMembers] at exact
    rw [nestingMembers,Nat.max_le] at enough
    rw [compactMembers]
    exact .cons (readMember_compact blank (stands_compact blank item exact.1) enough.1)
      (reads_compactMembers blank items exact.2 enough.2)
end

/-- `json.loads(json.dumps(value)) == value`. -/
theorem loads_compact {gap : Str} (blank : ∀ c ∈ gap, isBlank c = true) {value : Value} (exact : value.Exact)
    {room : Nesting} (enough : value.nesting ≤ room.val) : loads room (compact gap value) = .ok value := by
  have read := @loads_stands room _ [] _ ((stands_compact blank value exact).deeper enough) trivial rfl
  rwa [List.append_nil] at read

end JsonText
