import SpeechGateway.Dict
import SpeechGateway.Programs
import SpeechGateway.Unicode

/-!
JSON as Python's `json` module reads it, by recursive descent: a `dict` keeps the last value
of a repeated key, and an escaped surrogate pair stands for one code point. Not only a text that
is no JSON is refused, but also one with an integer of too many digits or with values that nest
deeper than the interpreter recurses, each with an exception of its own.
-/
namespace JsonText
open Dict Unicode
open Programs (bind_ok)

/-- What `json.loads` returns. A `float` is kept as its literal. -/
inductive Value
  | null
  | bool (b : Bool)
  | int (n : Int)
  | float (literal : Str)
  | str (s : Str)
  | list (items : List Value)
  | dict (items : List (Str × Value))

/-- What `json.loads` raises: `JSONDecodeError`, the `ValueError` of an integer that is too long,
    or `RecursionError`. -/
inductive JsonError
  | decode
  | digits
  | recursion
  deriving DecidableEq, Repr

def orDecode {α : Type} : Option α → Except JsonError α
  | some found => .ok found
  | none => .error .decode

def hexDigit (c : CodePoint) : Option Nat :=
  if 0x30 ≤ c.val ∧ c.val ≤ 0x39 then some (c.val - 0x30) else
  if 0x61 ≤ c.val ∧ c.val ≤ 0x66 then some (c.val - 0x57) else
  if 0x41 ≤ c.val ∧ c.val ≤ 0x46 then some (c.val - 0x37) else none

/-- `_decode_uXXXX`: the number that the next four characters write. -/
def decodeHex : Str → Option Nat
  | a :: b :: c :: d :: _ => do
    let a ← hexDigit a
    let b ← hexDigit b
    let c ← hexDigit c
    let d ← hexDigit d
    return ((a * 16 + b) * 16 + c) * 16 + d
  | _ => none

/-- The code point of a surrogate pair. -/
def paired (high low : CodePoint) : CodePoint := point (0x10000 + (high.val - 0xD800) * 0x400 + (low.val - 0xDC00))

/-- A low surrogate, if the next characters escape one. -/
def lowHalf : Str → Option CodePoint
  | c :: u :: rest =>
    if c = char '\\' ∧ u = char 'u' then ((decodeHex rest).map point).filter (isLow ·) else none
  | _ => none

/-- `BACKSLASH`. -/
def backslash : List (CodePoint × CodePoint) :=
  [(char '"',char '"'),(char '\\',char '\\'),(char '/',char '/'),(char 'b',point 8),(char 'f',point 12),
    (char 'n',point 10),(char 'r',point 13),(char 't',point 9)]

/-- What stands after a backslash, and how many characters it takes. -/
def readEscape : Str → Option (CodePoint × Nat)
  | [] => none
  | c :: rest =>
    if c = char 'u' then
      (decodeHex rest).map fun code =>
        match lowHalf (rest.drop 4) with
        | some low => if isHigh (point code) then (paired (point code) low,11) else (point code,5)
        | none => (point code,5)
    else (backslash.lookup c).map (·,1)

/-- `scanstring`, behind the opening quotation mark: the string and what follows it. The
    number counts the characters of an escape already read. -/
def readString : Nat → Str → Option (Str × Str)
  | _,[] => none
  | more + 1,_ :: rest => readString more rest
  | 0,c :: rest =>
    if c = char '"' then some ([],rest) else
    if c = char '\\' then (readEscape rest).bind fun (found,more) => (readString more rest).map fun (s,after) => (found :: s,after)
    else if c.val < 0x20 then none else (readString 0 rest).map fun (s,after) => (c :: s,after)

def isDigit (c : CodePoint) : Bool := 0x30 ≤ c.val && c.val ≤ 0x39

def ofDigits (digits : Str) : Nat := digits.foldl (fun n c => 10 * n + (c.val - 0x30)) 0

/-- The digits before a point, with no leading zero. -/
def readInteger : Str → Option (Str × Str)
  | [] => none
  | c :: rest =>
    if c = char '0' then some ([c],rest) else
    if isDigit c then some (c :: rest.takeWhile isDigit,rest.dropWhile isDigit) else none

/-- A point and digits, if both are there. -/
def readFraction : Str → Str × Str
  | c :: d :: rest =>
    if c = char '.' ∧ isDigit d then (c :: d :: rest.takeWhile isDigit,rest.dropWhile isDigit) else ([],c :: d :: rest)
  | s => ([],s)

/-- `e`, a sign and digits, if the first and the last are there. -/
def readExponent : Str → Str × Str
  | e :: s :: rest =>
    if e = char 'e' ∨ e = char 'E' then
      if isDigit s then (e :: s :: rest.takeWhile isDigit,rest.dropWhile isDigit) else
      match rest with
      | d :: rest =>
        if (s = char '+' ∨ s = char '-') ∧ isDigit d then
          (e :: s :: d :: rest.takeWhile isDigit,rest.dropWhile isDigit)
        else ([],e :: s :: d :: rest)
      | [] => ([],[e,s])
    else ([],e :: s :: rest)
  | s => ([],s)

/-- `sys.int_info.default_max_str_digits`. -/
def maxStrDigits : Nat := 4300

/-- `int` of a sign and digits. -/
def toInt (negative : Bool) (digits : Str) : Except JsonError Int :=
  if maxStrDigits < digits.length then .error .digits
  else .ok (if negative then -ofDigits digits else ofDigits digits)

/-- `NUMBER_RE`: without a fraction and an exponent, an `int`. -/
def readNumber (s : Str) : Except JsonError (Value × Str) := do
  let negative := decide (s.head? = some (char '-'))
  let (digits,rest) ← orDecode (readInteger (if negative then s.tail else s))
  let (fraction,rest) := readFraction rest
  let (exponent,rest) := readExponent rest
  if fraction = [] ∧ exponent = [] then do
    let n ← toInt negative digits
    .ok (.int n,rest)
  else .ok (.float ((if negative then [char '-'] else []) ++ digits ++ fraction ++ exponent),rest)

def words : List (Str × Value) :=
  [(str "null",.null),(str "true",.bool true),(str "false",.bool false),(str "NaN",.float (str "NaN")),
    (str "Infinity",.float (str "Infinity")),(str "-Infinity",.float (str "-Infinity"))]

def readWord (s : Str) : Option (Value × Str) :=
  words.findSome? fun (word,value) => if word.isPrefixOf s then some (value,s.drop word.length) else none

/-! ## Values -/

/-- `WHITESPACE`. -/
def isBlank (c : CodePoint) : Bool := c.val == 0x20 || c.val == 9 || c.val == 10 || c.val == 13

def skipBlanks (s : Str) : Str := s.dropWhile isBlank

section
variable {α : Type} (read : Str → Except JsonError (α × Str)) (close : CodePoint)

/-- One or more things with commas between them, up to a bracket; the fuel counts the things. -/
def readItems : Nat → Str → Except JsonError (List α × Str)
  | 0,_ => .error .decode
  | fuel + 1,s => do
    let (item,rest) ← read s
    match skipBlanks rest with
    | [] => .error .decode
    | c :: rest =>
      if c = close then .ok ([item],rest) else
      if c = char ',' then do
        let (items,rest) ← readItems fuel (skipBlanks rest)
        .ok (item :: items,rest)
      else .error .decode

/-- The things in a text, which are no more than its characters. -/
def readSeparated (s : Str) : Except JsonError (List α × Str) := readItems read close (s.length + 1) s

/-- What stands behind an opening bracket, up to the closing one. -/
def readEnclosed (s : Str) : Except JsonError (List α × Str) :=
  match skipBlanks s with
  | [] => .error .decode
  | c :: rest => if c = close then .ok ([],rest) else readSeparated read close (c :: rest)

end

section
variable (value : Str → Except JsonError (Value × Str))

/-- A key, a colon and a value. -/
def readMember : Str → Except JsonError ((Str × Value) × Str)
  | [] => .error .decode
  | c :: rest =>
    if c = char '"' then do
      let (key,rest) ← orDecode (readString 0 rest)
      match skipBlanks rest with
      | [] => .error .decode
      | c :: rest =>
        if c = char ':' then do
          let (item,rest) ← value (skipBlanks rest)
          .ok ((key,item),rest)
        else .error .decode
    else .error .decode

/-- `JSONArray`. -/
def readList (s : Str) : Except JsonError (Value × Str) := do
  let (items,rest) ← readEnclosed value (char ']') s
  .ok (.list items,rest)

/-- `JSONObject`. -/
def readDict (s : Str) : Except JsonError (Value × Str) := do
  let (items,rest) ← readEnclosed (readMember value) (char '\x7d') s
  .ok (.dict (toDict items),rest)

end

/-- `scan_once`, where `inside` reads what stands in brackets. The interpreter may not recurse deep
    enough for that. -/
def scanOnce (inside : Except JsonError (Str → Except JsonError (Value × Str))) : Str → Except JsonError (Value × Str)
  | [] => .error .decode
  | c :: rest =>
    if c = char '"' then do
      let (s,rest) ← orDecode (readString 0 rest)
      .ok (.str s,rest)
    else if c = char '[' then do
      let value ← inside
      readList value rest
    else if c = char '\x7b' then do
      let value ← inside
      readDict value rest
    else
      match readWord (c :: rest) with
      | some found => .ok found
      | none => readNumber (c :: rest)

/-- `scan_once`, for values that nest at most so deep. -/
def readValue : Nat → Str → Except JsonError (Value × Str)
  | 0 => scanOnce (.error .recursion)
  | depth + 1 => scanOnce (.ok (readValue depth))

/-- How deep values may nest before the interpreter raises `RecursionError`: what its limit leaves
    after the calls under way, which is more than the program's own files need. -/
abbrev Nesting := { depth : Nat // 3 ≤ depth }

def leastNesting : Nesting := ⟨3,Nat.le_refl 3⟩

/-- `json.loads`: one value, with blanks around it. -/
def loads (room : Nesting) (s : Str) : Except JsonError Value := do
  let (value,rest) ← readValue room.val (skipBlanks s)
  if skipBlanks rest = [] then .ok value else .error .decode

theorem orDecode_ok {α : Type} {found : Option α} {value : α} : orDecode found = .ok value ↔ found = some value := by
  cases found <;> simp [orDecode]

/-- What is read is taken off the text. -/
def Shrinks {α : Type} (read : Str → Except JsonError (α × Str)) : Prop :=
  ∀ s found rest, read s = .ok (found,rest) → rest.length < s.length

theorem skipBlanks_length (s : Str) : (skipBlanks s).length ≤ s.length := (List.dropWhile_sublist _).length_le

theorem readString_shorter {more : Nat} {s found rest : Str} (read : readString more s = some (found,rest)) :
    rest.length < s.length := by
  induction s generalizing more found rest with
  | nil => cases more <;> cases read
  | cons c s ih =>
    rw [List.length_cons]
    cases more with
    | succ more =>
      have := ih read
      omega
    | zero =>
      rw [readString] at read
      split_ifs at read
      · cases read
        omega
      · obtain ⟨⟨point,more⟩,-,read⟩ := Option.bind_eq_some_iff.mp read
        obtain ⟨⟨tail,after⟩,read,same⟩ := Option.map_eq_some_iff.mp read
        cases same
        have := ih read
        omega
      · obtain ⟨⟨tail,after⟩,read,same⟩ := Option.map_eq_some_iff.mp read
        cases same
        have := ih read
        omega

section
variable {α : Type} {read : Str → Except JsonError (α × Str)} (shrinks : Shrinks read) (close : CodePoint)
include shrinks

theorem readItems_shrinks (fuel : Nat) : Shrinks (readItems read close fuel) := by
  induction fuel with
  | zero => intro s found rest found; cases found
  | succ fuel ih =>
    intro s found rest whole
    rw [readItems] at whole
    obtain ⟨⟨item,after⟩,first,whole⟩ := bind_ok.mp whole
    have once : after.length < s.length := shrinks _ _ _ first
    have blanks := skipBlanks_length after
    simp only at whole
    split at whole
    · cases whole
    rename_i c after' split
    rw [split,List.length_cons] at blanks
    split_ifs at whole
    · cases whole
      omega
    · obtain ⟨⟨items,last⟩,later,same⟩ := bind_ok.mp whole
      cases same
      have : last.length < _ := ih _ _ _ later
      dsimp only
      have := skipBlanks_length after'
      omega

theorem readEnclosed_shrinks : Shrinks (readEnclosed read close) := by
  intro s found rest whole
  have blanks := skipBlanks_length s
  rw [readEnclosed] at whole
  split at whole
  · cases whole
  rename_i c after split
  rw [split] at blanks
  split_ifs at whole
  · cases whole
    exact blanks
  · exact Nat.lt_of_lt_of_le (readItems_shrinks shrinks close _ _ _ _ whole) blanks

/-- More fuel than characters changes nothing. -/
theorem readItems_fuel {fuel fuel' : Nat} {s : Str} (enough : s.length < fuel) (enough' : s.length < fuel') :
    readItems read close fuel s = readItems read close fuel' s := by
  induction fuel generalizing fuel' s with
  | zero => omega
  | succ fuel ih =>
    obtain ⟨fuel',rfl⟩ : ∃ n, fuel' = n + 1 := ⟨fuel' - 1,by omega⟩
    rw [readItems,readItems]
    cases found : read s with
    | error failure => rfl
    | ok result =>
      obtain ⟨item,rest⟩ := result
      have once := shrinks _ _ _ found
      have blanks := skipBlanks_length rest
      show (match skipBlanks rest with | [] => _ | c :: rest => _) = (match skipBlanks rest with | [] => _ | c :: rest => _)
      cases split : skipBlanks rest with
      | nil => rfl
      | cons c after =>
        have blanks' := skipBlanks_length after
        rw [split,List.length_cons] at blanks
        dsimp only
        rw [@ih fuel' (skipBlanks after) (by omega) (by omega)]

theorem readSeparated_eq (s : Str) : readSeparated read close s = (do
    let (item,rest) ← read s
    match skipBlanks rest with
    | [] => .error .decode
    | c :: rest =>
      if c = close then .ok ([item],rest) else
      if c = char ',' then do
        let (items,rest) ← readSeparated read close (skipBlanks rest)
        .ok (item :: items,rest)
      else .error .decode) := by
  rw [readSeparated,readItems]
  cases found : read s with
  | error failure => rfl
  | ok result =>
    obtain ⟨item,rest⟩ := result
    have once := shrinks _ _ _ found
    have blanks := skipBlanks_length rest
    show (match skipBlanks rest with | [] => _ | c :: rest => _) = (match skipBlanks rest with | [] => _ | c :: rest => _)
    cases split : skipBlanks rest with
    | nil => rfl
    | cons c after =>
      have blanks' := skipBlanks_length after
      rw [split,List.length_cons] at blanks
      dsimp only
      rw [readSeparated,readItems_fuel shrinks close (show (skipBlanks after).length < s.length by omega) (Nat.lt_succ_self _)]

end

theorem readMember_shrinks {value : Str → Except JsonError (Value × Str)} (shrinks : Shrinks value) :
    Shrinks (readMember value) := by
  intro s found rest whole
  match s,whole with
  | c :: s,whole =>
  rw [readMember] at whole
  split_ifs at whole
  obtain ⟨⟨key,after⟩,named,whole⟩ := bind_ok.mp whole
  have first : after.length < s.length := readString_shorter (orDecode_ok.mp named)
  have blanks := skipBlanks_length after
  simp only at whole
  split at whole
  · cases whole
  rename_i colon after' split
  rw [split,List.length_cons] at blanks
  split_ifs at whole
  obtain ⟨⟨item,last⟩,valued,same⟩ := bind_ok.mp whole
  cases same
  have : last.length < _ := shrinks _ _ _ valued
  dsimp only
  have := skipBlanks_length after'
  rw [List.length_cons]
  omega

theorem readWord_shorter {s rest : Str} {found : Value} (read : readWord s = some (found,rest)) : rest.length < s.length := by
  obtain ⟨⟨word,value⟩,member,whole⟩ := List.exists_of_findSome?_eq_some read
  simp only at whole
  split_ifs at whole with starts
  cases whole
  have nonempty : ∀ entry ∈ words, 0 < entry.1.length := by decide
  have : 0 < word.length := nonempty _ member
  have fits := (List.isPrefixOf_iff_prefix.mp starts).length_le
  rw [List.length_drop]
  omega

theorem readInteger_shorter {s found rest : Str} (read : readInteger s = some (found,rest)) : rest.length < s.length := by
  match s,read with
  | c :: s,read =>
  rw [readInteger] at read
  have := (List.dropWhile_sublist isDigit (l := s)).length_le
  split_ifs at read
  all_goals
    cases read
    rw [List.length_cons]
    omega

theorem readFraction_length (s : Str) : (readFraction s).2.length ≤ s.length := by
  match s with
  | [] | [_] => exact Nat.le_refl _
  | c :: d :: s =>
    have := (List.dropWhile_sublist isDigit (l := s)).length_le
    rw [readFraction]
    split_ifs <;> simp only [List.length_cons] <;> omega

theorem readExponent_length (s : Str) : (readExponent s).2.length ≤ s.length := by
  match s with
  | [] | [_] => exact Nat.le_refl _
  | e :: d :: s =>
    have := (List.dropWhile_sublist isDigit (l := s)).length_le
    unfold readExponent
    dsimp only
    split_ifs
    · simp only [List.length_cons]
      omega
    · match s with
      | [] => exact Nat.le_refl _
      | f :: s =>
        have := (List.dropWhile_sublist isDigit (l := s)).length_le
        dsimp only
        split_ifs <;> simp only [List.length_cons] <;> omega
    · exact Nat.le_refl _

theorem readNumber_shrinks : Shrinks readNumber := by
  intro s found rest whole
  rw [readNumber] at whole
  obtain ⟨⟨digits,after⟩,first,whole⟩ := bind_ok.mp whole
  have once : after.length < _ := readInteger_shorter (orDecode_ok.mp first)
  have fraction := readFraction_length after
  have exponent := readExponent_length (readFraction after).2
  have signed : (if decide (s.head? = some (char '-')) = true then s.tail else s).length ≤ s.length := by
    split_ifs
    · rw [List.length_tail]
      omega
    · exact Nat.le_refl _
  simp only at whole
  split_ifs at whole
  · obtain ⟨n,-,same⟩ := bind_ok.mp whole
    cases same
    omega
  all_goals
    cases whole
    omega

theorem scanOnce_shrinks {inside : Except JsonError (Str → Except JsonError (Value × Str))}
    (shrinks : ∀ value, inside = .ok value → Shrinks value) : Shrinks (scanOnce inside) := by
  intro s found rest whole
  match s,whole with
  | c :: s,whole =>
  rw [scanOnce] at whole
  split_ifs at whole
  · obtain ⟨⟨text,after⟩,first,same⟩ := bind_ok.mp whole
    cases same
    exact Nat.lt_succ_of_lt (readString_shorter (orDecode_ok.mp first))
  · obtain ⟨value,deep,whole⟩ := bind_ok.mp whole
    obtain ⟨⟨items,after⟩,first,same⟩ := bind_ok.mp whole
    cases same
    exact Nat.lt_succ_of_lt (readEnclosed_shrinks (shrinks value deep) _ _ _ _ first)
  · obtain ⟨value,deep,whole⟩ := bind_ok.mp whole
    obtain ⟨⟨items,after⟩,first,same⟩ := bind_ok.mp whole
    cases same
    exact Nat.lt_succ_of_lt (readEnclosed_shrinks (readMember_shrinks (shrinks value deep)) _ _ _ _ first)
  · split at whole
    · cases whole
      exact readWord_shorter ‹_›
    · exact readNumber_shrinks _ _ _ whole

theorem readValue_shrinks (depth : Nat) : Shrinks (readValue depth) := by
  induction depth with
  | zero => exact scanOnce_shrinks fun value deep => by cases deep
  | succ depth ih => exact scanOnce_shrinks fun value deep => by cases deep; exact ih

end JsonText
