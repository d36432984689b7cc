import Mathlib.Data.List.Sort
import SpeechGateway.JsonText

/-!
JSON as Python's `json` module writes it, with `indent=2` and `sort_keys=True`. A text that
stands for a value is read back as the value wherever values may stand; strings are read
back with their surrogate pairs joined.
-/
namespace JsonText
open Dict Unicode
open Programs (bind_ok)

def hexChar (n : Nat) : CodePoint := if n < 10 then point (0x30 + n) else point (0x57 + n)

/-- `'\\u{0:04x}'.format(n)`. -/
def writeHex (n : Nat) : Str :=
  [char '\\',char 'u',hexChar (n / 0x1000 % 16),hexChar (n / 0x100 % 16),hexChar (n / 0x10 % 16),hexChar (n % 16)]

/-- `ESCAPE_DCT`. -/
def escapes : List (CodePoint × CodePoint) :=
  [(char '\\',char '\\'),(char '"',char '"'),(point 8,char 'b'),(point 12,char 'f'),(point 10,char 'n'),
    (point 13,char 'r'),(point 9,char 't')]

/-- How `py_encode_basestring_ascii` writes one code point. -/
def escape (c : CodePoint) : Str :=
  match escapes.lookup c with
  | some letter => [char '\\',letter]
  | none =>
    if 0x20 ≤ c.val ∧ c.val ≤ 0x7E then [c] else
    if c.val < 0x10000 then writeHex c.val else
      writeHex (0xD800 + (c.val - 0x10000) / 0x400) ++ writeHex (0xDC00 + (c.val - 0x10000) % 0x400)

def writeString (s : Str) : Str := char '"' :: (s.flatMap escape ++ [char '"'])

def decimal (n : Nat) : Str := (Nat.toDigits 10 n).map char

/-- `int.__repr__`. -/
def writeInt : Int → Str
  | .ofNat n => decimal n
  | .negSucc n => char '-' :: decimal (n + 1)

/-- `newline_indent`, for `indent=2`. -/
def indent (level : Nat) : Str := char '\n' :: List.replicate (2 * level) (char ' ')

/-- Brackets around things on lines of their own. -/
def block (first last : CodePoint) (level : Nat) : List Str → Str
  | [] => [first,last]
  | text :: texts =>
    first :: (indent (level + 1) ++ (char ',' :: indent (level + 1)).intercalate (text :: texts) ++ indent level ++ [last])

def writeMember (member : Str × Str) : Str := writeString member.1 ++ str ": " ++ member.2

mutual
/-- `json.dump(..., indent=2, sort_keys=True)`. -/
def write (level : Nat) : Value → Str
  | .null => str "null"
  | .bool true => str "true"
  | .bool false => str "false"
  | .int n => writeInt n
  | .float literal => literal
  | .str s => writeString s
  | .list items => block (char '[') (char ']') level (writeItems (level + 1) items)
  | .dict items =>
    block (char '\x7b') (char '\x7d') level
      (((writeMembers (level + 1) items).insertionSort (·.1 ≤ ·.1)).map writeMember)

def writeItems (level : Nat) : List Value → List Str
  | [] => []
  | item :: items => write level item :: writeItems level items

def writeMembers (level : Nat) : List (Str × Value) → List (Str × Str)
  | [] => []
  | (key,item) :: items => (key,write level item) :: writeMembers level items
end

/-- `int.__repr__` writes the integer. -/
def Printable (n : Int) : Prop := (decimal n.natAbs).length ≤ maxStrDigits

instance (n : Int) : Decidable (Printable n) := inferInstanceAs (Decidable ((decimal n.natAbs).length ≤ maxStrDigits))

mutual
/-- Every integer in the value is written. -/
def Value.printable : Value → Bool
  | .int n => decide (Printable n)
  | .list items => printableItems items
  | .dict items => printableMembers items
  | .null | .bool _ | .float _ | .str _ => true

def printableItems : List Value → Bool
  | [] => true
  | item :: items => item.printable && printableItems items

def printableMembers : List (Str × Value) → Bool
  | [] => true
  | (_,item) :: items => item.printable && printableMembers items
end

/-- `json.dump`, which raises `ValueError` at an integer of too many digits. -/
def dump (value : Value) : Option Str := if value.printable then some (write 0 value) else none

/-- A pair of surrogates is written as an escaped code point is, and read as that. -/
def joinPairs : Str → Str
  | high :: low :: rest =>
    if isHigh high ∧ isLow low then paired high low :: joinPairs rest else high :: joinPairs (low :: rest)
  | s => s

/-- The two halves of a surrogate pair stand side by side. -/
def Paired (s : Str) : Prop :=
  ∃ before high low after, s = before ++ high :: low :: after ∧ isHigh high = true ∧ isLow low = true

/-- A string as `joinPairs` reads it. -/
theorem joinPairs_induction {motive : Str → Prop} (nil : motive []) (one : ∀ c, motive [c])
    (joined : ∀ high low rest, isHigh high ∧ isLow low → motive rest → motive (high :: low :: rest))
    (apart : ∀ high low rest, ¬(isHigh high ∧ isLow low) → motive (low :: rest) → motive (high :: low :: rest))
    (s : Str) : motive s := by
  induction size : s.length using Nat.strong_induction_on generalizing s with
  | _ size ih =>
    subst size
    rcases s with _ | ⟨high,_ | ⟨low,rest⟩⟩
    · exact nil
    · exact one high
    · by_cases both : isHigh high ∧ isLow low
      · exact joined high low rest both (ih _ (by simp only [List.length_cons]; omega) rest rfl)
      · exact apart high low rest both (ih _ (by simp only [List.length_cons]; omega) (low :: rest) rfl)

theorem joinPairs_length (s : Str) : (joinPairs s).length ≤ s.length := by
  induction s using joinPairs_induction with
  | nil => exact Nat.le_refl _
  | one c => exact Nat.le_refl _
  | joined high low rest both ih =>
    rw [joinPairs,if_pos both]
    simp only [List.length_cons]
    omega
  | apart high low rest apart ih =>
    rw [joinPairs,if_neg apart]
    simp only [List.length_cons] at ih ⊢
    omega

/-- A string without such a pair is read back as it is. -/
theorem joinPairs_unpaired {s : Str} (unpaired : ¬Paired s) : joinPairs s = s := by
  induction s using joinPairs_induction with
  | nil => rfl
  | one c => rfl
  | joined high low rest both ih => exact absurd ⟨[],high,low,rest,rfl,both⟩ unpaired
  | apart high low rest apart ih =>
    rw [joinPairs,if_neg apart,ih]
    rintro ⟨before,first,second,after,split,both⟩
    exact unpaired ⟨high :: before,first,second,after,by rw [split]; rfl,both⟩

/-- A string with such a pair is read back shorter. -/
theorem joinPairs_paired {s : Str} (paired : Paired s) : (joinPairs s).length < s.length := by
  induction s using joinPairs_induction with
  | nil =>
    obtain ⟨before,first,second,after,split,-⟩ := paired
    simp at split
  | one c =>
    obtain ⟨before,first,second,after,split,-⟩ := paired
    have lengths := congrArg List.length split
    simp only [List.length_append,List.length_cons,List.length_nil] at lengths
    omega
  | joined high low rest both ih =>
    have := joinPairs_length rest
    rw [joinPairs,if_pos both]
    simp only [List.length_cons]
    omega
  | apart high low rest apart ih =>
    rw [joinPairs,if_neg apart]
    obtain ⟨before,first,second,after,split,both⟩ := paired
    cases before with
    | nil =>
      cases split
      exact absurd both apart
    | cons c before =>
      exact Nat.succ_lt_succ (ih ⟨before,first,second,after,(List.cons.inj split).2,both⟩)

theorem joinPairs_plain {s : Str} (plain : ∀ c ∈ s, isHigh c = false) : joinPairs s = s := by
  refine joinPairs_unpaired ?_
  rintro ⟨before,high,low,after,rfl,first,-⟩
  rw [plain high (by simp)] at first
  cases first

theorem hexDigit_hexChar : ∀ n < 16, hexDigit (hexChar n) = some n := by decide

theorem decodeHex_writeHex {n : Nat} (small : n < 0x10000) (rest : Str) :
    decodeHex ((writeHex n).drop 2 ++ rest) = some n := by
  simp only [writeHex,List.drop_succ_cons,List.drop_zero,List.cons_append,List.nil_append,decodeHex,
    hexDigit_hexChar _ (Nat.mod_lt _ (show 0 < 16 by decide)),Option.bind_eq_bind,Option.bind_some,Option.pure_def,
    Option.some.injEq]
  omega

theorem readString_skip (head rest : Str) : readString head.length (head ++ rest) = readString 0 rest := by
  induction head with
  | nil => rfl
  | cons c head ih => rw [List.length_cons,List.cons_append,readString,ih]

theorem lowHalf_writeHex {n : Nat} (small : n < 0x10000) (rest : Str) :
    lowHalf (writeHex n ++ rest) = if isLow (point n) then some (point n) else none := by
  have read := decodeHex_writeHex small rest
  rw [writeHex] at read ⊢
  simp only [List.drop_succ_cons,List.drop_zero,List.cons_append,List.nil_append] at read ⊢
  rw [lowHalf,if_pos ⟨rfl,rfl⟩,read]
  cases low : isLow (point n) <;> simp [low,Option.filter]

/-- The four ways to write a code point. -/
inductive Escaped (c : CodePoint) : Str → Prop
  | short {letter : CodePoint} (apart : letter ≠ char 'u') (known : backslash.lookup letter = some c)
      (scalar : isSurrogate c = false) : Escaped c [char '\\',letter]
  | plain (quote : c ≠ char '"') (solidus : c ≠ char '\\') (low : 0x20 ≤ c.val) (high : c.val ≤ 0x7E) : Escaped c [c]
  | hex (small : c.val < 0x10000) : Escaped c (writeHex c.val)
  | pair {high low : Nat} (first : 0xD800 ≤ high ∧ high ≤ 0xDBFF) (second : 0xDC00 ≤ low ∧ low ≤ 0xDFFF)
      (whole : 0x10000 + (high - 0xD800) * 0x400 + (low - 0xDC00) = c.val) : Escaped c (writeHex high ++ writeHex low)

theorem escape_escaped (c : CodePoint) : Escaped c (escape c) := by
  have below := c.isLt
  rw [escape]
  cases short : escapes.lookup c with
  | some letter =>
    have known : escapes.all (fun entry =>
        entry.2 ≠ char 'u' ∧ backslash.lookup entry.2 = some entry.1 ∧ isSurrogate entry.1 = false) = true := by decide
    obtain ⟨before,after,split,-⟩ := List.lookup_eq_some_iff.mp short
    have inside : (c,letter) ∈ escapes := by rw [split]; simp
    obtain ⟨apart,same,scalar⟩ := of_decide_eq_true (List.all_eq_true.mp known _ inside)
    exact .short apart same scalar
  | none =>
    have missing := List.lookup_eq_none_iff.mp short
    dsimp only
    split_ifs with printable small
    · refine .plain ?_ ?_ printable.1 printable.2
      · rintro rfl
        exact absurd (missing (char '"',char '"') (by decide)) (by decide)
      · rintro rfl
        exact absurd (missing (char '\\',char '\\') (by decide)) (by decide)
    · exact .hex small
    · exact .pair (by omega) (by omega) (by omega)

/-- An escaped low surrogate is seen where a low surrogate is written, and nowhere else. -/
theorem lowHalf_escape (c : CodePoint) (rest : Str) :
    lowHalf (escape c ++ rest) = if isLow c then some c else none := by
  have written := escape_escaped c
  generalize escape c = text at written ⊢
  cases written with
  | short apart known scalar =>
    simp only [isSurrogate,Bool.or_eq_false_iff] at scalar
    cases rest with
    | nil => simp [lowHalf,apart,scalar]
    | cons d rest => simp [lowHalf,apart,scalar]
  | plain quote solidus low high =>
    have apart : isLow c = false := by
      rw [← Bool.not_eq_true,isLow_iff]
      omega
    cases rest with
    | nil => simp [lowHalf,apart]
    | cons d rest => simp [lowHalf,apart,solidus]
  | hex small =>
    rw [lowHalf_writeHex small,show point c.val = c from Fin.ext (point_val c.isLt)]
  | @pair high low first second whole =>
    rw [List.append_assoc,lowHalf_writeHex (by omega)]
    have apart : isLow (point high) = false := by
      rw [← Bool.not_eq_true,isLow_iff,point_val (by omega)]
      omega
    have apart' : isLow c = false := by
      rw [← Bool.not_eq_true,isLow_iff]
      omega
    rw [apart,apart']
    rfl

theorem readEscape_writeHex {n : Nat} (small : n < 0x10000) (rest : Str) :
    readEscape ((writeHex n).tail ++ rest) = some (match lowHalf rest with
      | some low => if isHigh (point n) then (paired (point n) low,11) else (point n,5)
      | none => (point n,5)) := by
  have read := decodeHex_writeHex small rest
  rw [writeHex] at read ⊢
  simp only [List.drop_succ_cons,List.drop_zero,List.tail_cons,List.cons_append,List.nil_append] at read ⊢
  rw [readEscape,if_pos rfl,read]
  rfl

theorem readString_writeHex (n : Nat) (rest : Str) :
    readString 0 (writeHex n ++ rest) = (readEscape ((writeHex n).tail ++ rest)).bind fun (found,more) =>
      (readString more ((writeHex n).tail ++ rest)).map fun (s,after) => (found :: s,after) := by
  rw [writeHex,List.cons_append,readString,if_neg (by decide),if_pos rfl]
  rfl

/-- An escape is read alone unless the halves of a pair meet. -/
theorem readString_hex {n : Nat} (small : n < 0x10000) {rest : Str}
    (alone : isHigh (point n) = true → lowHalf rest = none) :
    readString 0 (writeHex n ++ rest) = (readString 0 rest).map fun (s,after) => (point n :: s,after) := by
  have read : readEscape ((writeHex n).tail ++ rest) = some (point n,5) := by
    rw [readEscape_writeHex small]
    cases low : lowHalf rest with
    | none => rfl
    | some half =>
      dsimp only
      rw [if_neg fun high => by cases low.symm.trans (alone high)]
  rw [readString_writeHex,read,Option.bind_some]
  dsimp only
  rw [show 5 = (writeHex n).tail.length from rfl,readString_skip]

theorem readString_pair {high low : Nat} (first : 0xD800 ≤ high ∧ high ≤ 0xDBFF) (second : 0xDC00 ≤ low ∧ low ≤ 0xDFFF)
    (rest : Str) :
    readString 0 (writeHex high ++ (writeHex low ++ rest)) =
      (readString 0 rest).map fun (s,after) => (paired (point high) (point low) :: s,after) := by
  have isHalf : isLow (point low) = true := by rwa [isLow_iff,point_val (by omega)]
  have isHalf' : isHigh (point high) = true := by rwa [isHigh_iff,point_val (by omega)]
  rw [readString_writeHex,readEscape_writeHex (by omega),lowHalf_writeHex (by omega),if_pos isHalf]
  dsimp only
  rw [if_pos isHalf',Option.bind_some]
  dsimp only
  rw [← List.append_assoc,show 11 = ((writeHex high).tail ++ writeHex low).length from rfl,readString_skip]

theorem paired_eq {high low : Nat} {c : CodePoint} (first : 0xD800 ≤ high ∧ high ≤ 0xDBFF)
    (second : 0xDC00 ≤ low ∧ low ≤ 0xDFFF) (whole : 0x10000 + (high - 0xD800) * 0x400 + (low - 0xDC00) = c.val) :
    paired (point high) (point low) = c := by
  rw [paired,point_val (show high < 0x110000 by omega),point_val (show low < 0x110000 by omega),whole]
  exact Fin.ext (point_val c.isLt)

theorem readString_escape {c : CodePoint} {rest : Str} (alone : isHigh c = true → lowHalf rest = none) :
    readString 0 (escape c ++ rest) = (readString 0 rest).map fun (s,after) => (c :: s,after) := by
  have written := escape_escaped c
  generalize escape c = text at written ⊢
  cases written with
  | short apart known scalar =>
    rw [List.cons_append,List.cons_append,List.nil_append,readString,if_neg (by decide),if_pos rfl,readEscape,
      if_neg apart,known]
    rfl
  | plain quote solidus low high =>
    rw [List.cons_append,List.nil_append,readString,if_neg quote,if_neg solidus,if_neg (by omega)]
  | hex small =>
    have same : point c.val = c := Fin.ext (point_val c.isLt)
    have read : readString 0 (writeHex c.val ++ rest) = _ := readString_hex small (by rwa [same])
    rwa [same] at read
  | pair first second whole =>
    rw [List.append_assoc,readString_pair first second,paired_eq first second whole]

/-- A surrogate is written by its own number. -/
theorem escape_surrogate {c : CodePoint} (surrogate : 0xD800 ≤ c.val ∧ c.val ≤ 0xDFFF) : escape c = writeHex c.val := by
  have written := escape_escaped c
  generalize escape c = text at written ⊢
  cases written with
  | short apart known scalar =>
    simp only [isSurrogate,isHigh,isLow,Bool.or_eq_false_iff,Bool.and_eq_false_iff,decide_eq_false_iff_not] at scalar
    omega
  | plain quote solidus low high => omega
  | hex small => rfl
  | pair first second whole => omega

/-- A string is read back with its surrogate pairs joined. -/
theorem readString_writeString (s after : Str) :
    readString 0 (s.flatMap escape ++ char '"' :: after) = some (joinPairs s,after) := by
  have stop : readString 0 (char '"' :: after) = some ([],after) := by rw [readString,if_pos rfl]
  have unpaired : lowHalf (char '"' :: after) = none := by
    cases after with
    | nil => rfl
    | cons c after => rw [lowHalf,if_neg fun both => absurd both.1 (by decide)]
  induction s using joinPairs_induction with
  | nil => exact stop
  | one c =>
    rw [List.flatMap_singleton,readString_escape fun _ => unpaired,stop]
    rfl
  | joined high low rest both ih =>
    have first := isHigh_iff.mp both.1
    have second := isLow_iff.mp both.2
    have same (c : CodePoint) : point c.val = c := Fin.ext (point_val c.isLt)
    rw [List.flatMap_cons,List.flatMap_cons,escape_surrogate (by omega),escape_surrogate (by omega),List.append_assoc,
      List.append_assoc,readString_pair first second,ih,same,same,joinPairs,if_pos both]
    rfl
  | apart high low rest apart ih =>
    rw [List.flatMap_cons,List.append_assoc,readString_escape,ih,joinPairs,if_neg apart]
    · rfl
    · intro first
      rw [List.flatMap_cons,List.append_assoc,lowHalf_escape,if_neg fun second => apart ⟨first,second⟩]

theorem isDigit_char {c : Char} (digit : c.isDigit = true) : isDigit (char c) = true ∧ (char c).val = c.toNat := by
  have bounds : 48 ≤ c.toNat ∧ c.toNat ≤ 57 := by
    simpa [Char.isDigit,UInt32.le_iff_toNat_le] using digit
  have value : (char c).val = c.toNat := point_val (by omega)
  refine ⟨?_,value⟩
  simp only [isDigit,value,Bool.and_eq_true,decide_eq_true_eq]
  exact bounds

theorem decimal_digits (n : Nat) : ∀ c ∈ decimal n, isDigit c = true := by
  intro c inside
  obtain ⟨d,member,rfl⟩ := List.mem_map.mp inside
  exact (isDigit_char (Nat.isDigit_of_mem_toDigits (by decide) (by decide) member)).1

theorem ofDigits_decimal (n : Nat) : ofDigits (decimal n) = n := by
  have folded (digits : List Char) (all : ∀ d ∈ digits, d.isDigit = true) (start : Nat) :
      (digits.map char).foldl (fun n c => 10 * n + (c.val - 0x30)) start = Nat.ofDigitChars 10 digits start := by
    induction digits generalizing start with
    | nil => rfl
    | cons d digits ih =>
      rw [List.map_cons,List.foldl_cons,Nat.ofDigitChars_cons,(isDigit_char (all d List.mem_cons_self)).2]
      exact ih (fun e inside => all e (List.mem_cons_of_mem _ inside)) _
  rw [ofDigits,decimal,folded _ fun d inside => Nat.isDigit_of_mem_toDigits (by decide) (by decide) inside]
  exact Nat.ofDigitChars_ten_toDigits

/-- No number but zero begins with a zero. -/
theorem decimal_cons (n : Nat) : ∃ c rest, decimal n = c :: rest ∧ (c = char '0' → rest = []) := by
  induction n using Nat.strongRecOn with
  | ind n ih =>
    by_cases small : n < 10
    · refine ⟨char n.digitChar,[],?_,fun _ => rfl⟩
      rw [decimal,Nat.toDigits_of_lt_base small]
      rfl
    · obtain ⟨c,rest,split,alone⟩ := ih (n / 10) (by omega)
      refine ⟨c,rest ++ [char (n % 10).digitChar],?_,?_⟩
      · rw [decimal,Nat.toDigits_of_base_le (by decide) (by omega),List.map_append]
        rw [decimal] at split
        rw [split]
        rfl
      · rintro rfl
        have zero := ofDigits_decimal (n / 10)
        rw [split,alone rfl] at zero
        have : (0 : Nat) = n / 10 := zero
        omega

/-- What can follow a value: a blank, a comma, or a closing bracket. -/
def Follows : Str → Prop
  | [] => True
  | c :: _ => isBlank c = true ∨ c = char ',' ∨ c = char ']' ∨ c = char '\x7d'

theorem Follows.plain {c : CodePoint} {rest : Str} (follows : Follows (c :: rest)) :
    isDigit c = false ∧ c ≠ char '.' ∧ c ≠ char 'e' ∧ c ≠ char 'E' := by
  rcases follows with blank | rfl | rfl | rfl
  · have : isBlank c = true := blank
    simp only [isBlank,Bool.or_eq_true,beq_iff_eq] at this
    refine ⟨?_,?_,?_,?_⟩
    · simp only [isDigit,Bool.and_eq_false_iff,decide_eq_false_iff_not]
      omega
    all_goals
      rintro rfl
      revert this
      decide
  all_goals decide

theorem readFraction_follows {rest : Str} (follows : Follows rest) : readFraction rest = ([],rest) := by
  match rest,follows with
  | [],_ | [_],_ => rfl
  | c :: d :: rest,follows =>
    rw [readFraction,if_neg fun both => follows.plain.2.1 both.1]

theorem readExponent_follows {rest : Str} (follows : Follows rest) : readExponent rest = ([],rest) := by
  match rest,follows with
  | [],_ | [_],_ => rfl
  | c :: d :: rest,follows =>
    unfold readExponent
    dsimp only
    rw [if_neg]
    rintro (e | e)
    · exact follows.plain.2.2.1 e
    · exact follows.plain.2.2.2 e

theorem span_digits {digits rest : Str} (all : ∀ c ∈ digits, isDigit c = true) (follows : Follows rest) :
    (digits ++ rest).takeWhile isDigit = digits ∧ (digits ++ rest).dropWhile isDigit = rest := by
  rw [List.takeWhile_append_of_pos all,List.dropWhile_append_of_pos all]
  cases rest with
  | nil => simp
  | cons c rest => simp [follows.plain.1]

theorem readInteger_decimal (n : Nat) {rest : Str} (follows : Follows rest) :
    readInteger (decimal n ++ rest) = some (decimal n,rest) := by
  obtain ⟨c,digits,split,alone⟩ := decimal_cons n
  have all := decimal_digits n
  rw [split] at all ⊢
  rw [List.cons_append,readInteger]
  by_cases zero : c = char '0'
  · rw [if_pos zero,alone zero]
    rfl
  · obtain ⟨taken,dropped⟩ := span_digits (fun d inside => all d (List.mem_cons_of_mem _ inside)) follows
    rw [if_neg zero,if_pos (all c List.mem_cons_self),taken,dropped]

theorem readNumber_writeInt {n : Int} (short : Printable n) {rest : Str} (follows : Follows rest) :
    readNumber (writeInt n ++ rest) = .ok (.int n,rest) := by
  cases n with
  | ofNat n =>
    have enough : ¬maxStrDigits < (decimal n).length := Nat.not_lt.mpr short
    have unsigned : (decimal n ++ rest).head? ≠ some (char '-') := by
      obtain ⟨c,digits,split,-⟩ := decimal_cons n
      have digit := decimal_digits n c (by rw [split]; exact List.mem_cons_self)
      rw [split,List.cons_append,List.head?_cons]
      rintro same
      cases same
      revert digit
      decide
    rw [writeInt,readNumber,decide_eq_false unsigned]
    refine bind_ok.mpr ⟨_,orDecode_ok.mpr (readInteger_decimal n follows),?_⟩
    simp only [readFraction_follows follows,readExponent_follows follows,and_self,if_true]
    refine bind_ok.mpr ⟨n,?_,rfl⟩
    rw [toInt,if_neg enough,ofDigits_decimal]
    rfl
  | negSucc n =>
    have enough : ¬maxStrDigits < (decimal (n + 1)).length := Nat.not_lt.mpr short
    rw [writeInt,readNumber,decide_eq_true (by rfl)]
    refine bind_ok.mpr ⟨_,orDecode_ok.mpr (readInteger_decimal (n + 1) follows),?_⟩
    simp only [readFraction_follows follows,readExponent_follows follows,and_self,if_true]
    refine bind_ok.mpr ⟨Int.negSucc n,?_,rfl⟩
    rw [toInt,if_neg enough,ofDigits_decimal]
    rfl

/-! ## Values read back -/

theorem skipBlanks_cons {c : CodePoint} (visible : isBlank c = false) (s : Str) : skipBlanks (c :: s) = c :: s := by
  rw [skipBlanks,List.dropWhile_cons,visible]
  rfl

theorem skipBlanks_indent (level : Nat) (s : Str) : skipBlanks (indent level ++ s) = skipBlanks s := by
  refine List.dropWhile_append_of_pos fun c inside => ?_
  rcases List.mem_cons.mp inside with rfl | spaces
  · decide
  · rw [List.eq_of_mem_replicate spaces]
    decide

/-- What begins a value or a key: no blank, and no closing bracket. -/
def Begins (text : Str) : Prop :=
  ∃ c rest, text = c :: rest ∧ isBlank c = false ∧ c ≠ char ']' ∧ c ≠ char '\x7d'

theorem Begins.skip {text : Str} (begins : Begins text) (s : Str) : skipBlanks (text ++ s) = text ++ s := by
  obtain ⟨c,rest,rfl,visible,-⟩ := begins
  exact skipBlanks_cons visible _

theorem begins_quote (s : Str) : Begins (char '"' :: s) := ⟨_,s,rfl,by decide,by decide,by decide⟩

/-- The text is read as the item, whatever can follow it. -/
structure ReadAs {α : Type} (read : Str → Except JsonError (α × Str)) (text : Str) (item : α) : Prop where
  begins : Begins text
  reads : ∀ rest, Follows rest → read (text ++ rest) = .ok (item,rest)

/-- The text is read as the value, which nests at most so deep. -/
def Stands (deep : Nat) (text : Str) (value : Value) : Prop := ∀ depth ≥ deep, ReadAs (readValue depth) text value

theorem Stands.deeper {deep deeper : Nat} {text : Str} {value : Value} (stands : Stands deep text value) (more : deep ≤ deeper) :
    Stands deeper text value :=
  fun depth enough => stands depth (Nat.le_trans more enough)

theorem Begins.intercalate {text : Str} (begins : Begins text) (gap : Str) (texts : List Str) (s : Str) :
    skipBlanks (gap.intercalate (text :: texts) ++ s) = gap.intercalate (text :: texts) ++ s := by
  cases texts with
  | nil => rw [List.intercalate_singleton,begins.skip]
  | cons next texts => rw [List.intercalate_cons_cons,List.append_assoc,List.append_assoc,begins.skip]

theorem follows_indent (level : Nat) (s : Str) : Follows (indent level ++ s) :=
  Or.inl (show isBlank (char '\n') = true by decide)

theorem follows_comma (s : Str) : Follows (char ',' :: s) := Or.inr (Or.inl rfl)

/-- The brackets that close. -/
def Closes (last : CodePoint) : Prop := last = char ']' ∨ last = char '\x7d'

/-- The last thing before a closing bracket. -/
theorem readSeparated_last {α : Type} {read : Str → Except JsonError (α × Str)} (shrinks : Shrinks read) {last : CodePoint}
    {s rest after : Str} {item : α} (first : read s = .ok (item,rest)) (ends : skipBlanks rest = last :: after) :
    readSeparated read last s = .ok ([item],after) := by
  rw [readSeparated_eq shrinks]
  refine bind_ok.mpr ⟨_,first,?_⟩
  simp [ends]

section
variable {α : Type} {read : Str → Except JsonError (α × Str)} {last : CodePoint} (closes : Closes last)
include closes

theorem Closes.visible : isBlank last = false := by
  rcases closes with rfl | rfl <;> decide

theorem Closes.skip (level : Nat) (rest : Str) : skipBlanks (indent level ++ last :: rest) = last :: rest := by
  rw [skipBlanks_indent,skipBlanks_cons closes.visible]

theorem Closes.comma : char ',' ≠ last := by
  rcases closes with rfl | rfl <;> decide

/-- Things are read back behind their first bracket. -/
theorem readEnclosed_some {s : Str} {items : List α} {rest : Str} {text : Str} (begins : Begins text) (after : Str)
    (shape : skipBlanks s = text ++ after) (read' : readSeparated read last (text ++ after) = .ok (items,rest)) :
    readEnclosed read last s = .ok (items,rest) := by
  obtain ⟨c,tail,rfl,visible,square,curly⟩ := begins
  have apart : c ≠ last := by rcases closes with rfl | rfl <;> assumption
  rw [readEnclosed,shape,List.cons_append]
  dsimp only
  rw [if_neg apart]
  exact read'

variable (shrinks : Shrinks read)
include shrinks

/-- A thing before a comma, and what comes after it. -/
theorem readSeparated_comma {s rest more after : Str} {item : α} {items : List α} (first : read s = .ok (item,rest))
    (goesOn : skipBlanks rest = char ',' :: more) (later : readSeparated read last (skipBlanks more) = .ok (items,after)) :
    readSeparated read last s = .ok (item :: items,after) := by
  rw [readSeparated_eq shrinks]
  refine bind_ok.mpr ⟨_,first,?_⟩
  simp only [goesOn,if_neg closes.comma,if_true]
  exact bind_ok.mpr ⟨_,later,rfl⟩

theorem readSeparated_texts (gap level : Nat) {text : Str} {texts : List Str} {item : α} {items : List α}
    (first : ReadAs read text item) (later : List.Forall₂ (ReadAs read) texts items) (rest : Str) :
    readSeparated read last ((char ',' :: indent gap).intercalate (text :: texts) ++ (indent level ++ last :: rest)) =
      .ok (item :: items,rest) := by
  induction later generalizing text item with
  | nil =>
    rw [List.intercalate_singleton]
    exact readSeparated_last shrinks (first.reads _ (follows_indent ..)) (closes.skip level rest)
  | @cons next item' texts items second later ih =>
    have split : (char ',' :: indent gap).intercalate (text :: next :: texts) ++ (indent level ++ last :: rest) =
        text ++ char ',' :: (indent gap ++ ((char ',' :: indent gap).intercalate (next :: texts) ++
          (indent level ++ last :: rest))) := by
      rw [List.intercalate_cons_cons]
      simp only [List.append_assoc,List.cons_append]
    rw [split]
    apply readSeparated_comma closes shrinks (first.reads _ (follows_comma _)) (skipBlanks_cons (by decide) _)
    rw [skipBlanks_indent,second.begins.intercalate]
    exact ih second

/-- What `block` writes is read back behind its first bracket. -/
theorem readEnclosed_block (opening : CodePoint) (level : Nat) {texts : List Str} {items : List α}
    (each : List.Forall₂ (ReadAs read) texts items) (rest : Str) :
    readEnclosed read last ((block opening last level texts).tail ++ rest) = .ok (items,rest) := by
  cases each with
  | nil =>
    show readEnclosed read last (last :: rest) = _
    rw [readEnclosed,skipBlanks_cons closes.visible]
    dsimp only
    rw [if_pos rfl]
  | @cons text item texts items first later =>
    have split : (block opening last level (text :: texts)).tail ++ rest =
        indent (level + 1) ++ ((char ',' :: indent (level + 1)).intercalate (text :: texts) ++
          (indent level ++ last :: rest)) := by
      simp only [block,List.tail_cons,List.append_assoc,List.cons_append,List.nil_append]
    obtain ⟨tail,begun⟩ : ∃ tail, (char ',' :: indent (level + 1)).intercalate (text :: texts) ++
        (indent level ++ last :: rest) = text ++ tail := by
      cases texts with
      | nil => exact ⟨_,by rw [List.intercalate_singleton]⟩
      | cons next texts => exact ⟨_,by rw [List.intercalate_cons_cons,List.append_assoc,List.append_assoc]⟩
    have read' := readSeparated_texts closes shrinks (level + 1) level first later rest
    rw [begun] at read'
    apply readEnclosed_some closes first.begins tail _ read'
    rw [split,skipBlanks_indent,first.begins.intercalate,begun]

end

/-- A value that is read alike at every depth. -/
theorem stands_scanned {text : Str} {value : Value} (begins : Begins text)
    (scans : ∀ inside rest, Follows rest → scanOnce inside (text ++ rest) = .ok (value,rest)) : Stands 0 text value := by
  intro depth _
  refine ⟨begins,fun rest follows => ?_⟩
  cases depth with
  | zero => exact scans _ rest follows
  | succ depth => exact scans _ rest follows

theorem stands_str (s : Str) : Stands 0 (writeString s) (.str (joinPairs s)) := by
  refine stands_scanned (begins_quote _) fun inside rest follows => ?_
  show scanOnce inside (char '"' :: ((s.flatMap escape ++ [char '"']) ++ rest)) = _
  rw [scanOnce,if_pos rfl,List.append_assoc,List.singleton_append,readString_writeString]
  rfl

/-- A number begins with a digit, or with a sign and a digit. -/
theorem writeInt_begins (n : Int) :
    (∃ c rest, writeInt n = c :: rest ∧ isDigit c = true) ∨
      ∃ c rest, writeInt n = char '-' :: c :: rest ∧ isDigit c = true := by
  have starts (n : Nat) : ∃ c rest, decimal n = c :: rest ∧ isDigit c = true := by
    obtain ⟨c,rest,split,-⟩ := decimal_cons n
    exact ⟨c,rest,split,decimal_digits n c (by rw [split]; exact List.mem_cons_self)⟩
  cases n with
  | ofNat n => exact Or.inl (starts n)
  | negSucc n =>
    obtain ⟨c,rest,split,digit⟩ := starts (n + 1)
    exact Or.inr ⟨c,rest,by rw [writeInt,split],digit⟩

theorem readWord_writeInt (n : Int) (rest : Str) : readWord (writeInt n ++ rest) = none := by
  rw [readWord,List.findSome?_eq_none_iff]
  rintro ⟨word,value⟩ member
  dsimp only
  rw [if_neg]
  intro starts
  obtain ⟨after,whole⟩ := List.isPrefixOf_iff_prefix.mp starts
  have heads : ∀ entry ∈ words, ∃ c d tail, entry.1 = c :: d :: tail ∧ isDigit c = false ∧ isDigit d = false := by
    simp only [words,List.forall_mem_cons]
    refine ⟨?_,?_,?_,?_,?_,?_,?_⟩
    · exact ⟨_,_,_,rfl,by decide,by decide⟩
    · exact ⟨_,_,_,rfl,by decide,by decide⟩
    · exact ⟨_,_,_,rfl,by decide,by decide⟩
    · exact ⟨_,_,_,rfl,by decide,by decide⟩
    · exact ⟨_,_,_,rfl,by decide,by decide⟩
    · exact ⟨_,_,_,rfl,by decide,by decide⟩
    · exact List.forall_mem_nil _
  obtain ⟨c,d,tail,split,first,second⟩ := heads _ member
  rw [show word = c :: d :: tail from split] at whole
  rcases writeInt_begins n with ⟨e,digits,written,digit⟩ | ⟨e,digits,written,digit⟩
  · rw [written] at whole
    obtain ⟨rfl,-⟩ := List.cons.inj whole
    exact Bool.false_ne_true (first.symm.trans digit)
  · rw [written] at whole
    obtain ⟨rfl,-⟩ := List.cons.inj (List.cons.inj whole).2
    exact Bool.false_ne_true (second.symm.trans digit)

theorem stands_int {n : Int} (short : Printable n) : Stands 0 (writeInt n) (.int n) := by
  have opened : ∃ c text, writeInt n = c :: text ∧ (c.val = 0x2D ∨ (0x30 ≤ c.val ∧ c.val ≤ 0x39)) := by
    rcases writeInt_begins n with ⟨c,text,split,digit⟩ | ⟨c,text,split,digit⟩
    · simp only [isDigit,Bool.and_eq_true,decide_eq_true_eq] at digit
      exact ⟨c,text,split,Or.inr digit⟩
    · exact ⟨_,_,split,Or.inl (by decide)⟩
  obtain ⟨c,text,split,bounds⟩ := opened
  have apart {d : Char} (other : ¬((char d).val = 0x2D ∨ (0x30 ≤ (char d).val ∧ (char d).val ≤ 0x39))) : c ≠ char d := by
    rintro rfl
    exact other bounds
  have begins : Begins (writeInt n) := by
    refine ⟨c,text,split,?_,apart (by decide),apart (by decide)⟩
    rw [isBlank,← Bool.not_eq_true]
    simp only [Bool.or_eq_true,beq_iff_eq]
    omega
  refine stands_scanned begins fun inside rest follows => ?_
  have wordless := readWord_writeInt n rest
  have number := readNumber_writeInt short follows
  rw [split,List.cons_append] at wordless number ⊢
  rw [scanOnce,if_neg (apart (by decide)),if_neg (apart (by decide)),if_neg (apart (by decide)),wordless]
  exact number

theorem stands_list (level : Nat) {deep : Nat} {texts : List Str} {items : List Value}
    (each : List.Forall₂ (Stands deep) texts items) :
    Stands (deep + 1) (block (char '[') (char ']') level texts) (.list items) := by
  obtain ⟨tail,split⟩ : ∃ tail, block (char '[') (char ']') level texts = char '[' :: tail := by
    cases texts <;> exact ⟨_,rfl⟩
  intro depth enough
  refine ⟨⟨_,tail,split,by decide,by decide,by decide⟩,fun rest follows => ?_⟩
  obtain ⟨depth,rfl⟩ : ∃ n, depth = n + 1 := ⟨depth - 1,by omega⟩
  have read := readEnclosed_block (Or.inl rfl) (readValue_shrinks depth) (char '[') level
    (each.imp fun text item stands => stands depth (by omega)) rest
  rw [split,List.tail_cons] at read
  rw [split,List.cons_append,readValue,scanOnce,if_neg (by decide),if_pos rfl]
  exact bind_ok.mpr ⟨_,rfl,bind_ok.mpr ⟨_,read,rfl⟩⟩

/-- A written member is read as its key and its value. -/
theorem readMember_writeMember {deep depth : Nat} {key text : Str} {item : Value} (stands : Stands deep text item)
    (enough : deep ≤ depth) : ReadAs (readMember (readValue depth)) (writeMember (key,text)) (joinPairs key,item) := by
  refine ⟨begins_quote _,fun rest follows => ?_⟩
  have colon : str ": " = [char ':',char ' '] := rfl
  have split : writeMember (key,text) ++ rest =
      char '"' :: (key.flatMap escape ++ char '"' :: char ':' :: char ' ' :: (text ++ rest)) := by
    simp only [writeMember,writeString,colon,List.append_assoc,List.cons_append,List.nil_append]
  have item := stands depth enough
  rw [split,readMember,if_pos rfl]
  refine bind_ok.mpr ⟨_,orDecode_ok.mpr (readString_writeString key _),?_⟩
  dsimp only
  rw [skipBlanks_cons (by decide)]
  dsimp only
  rw [if_pos rfl,show skipBlanks (char ' ' :: (text ++ rest)) = skipBlanks (text ++ rest) from rfl,item.begins.skip]
  exact bind_ok.mpr ⟨_,item.reads rest follows,rfl⟩

theorem stands_dict (level : Nat) {deep : Nat} {members : List (Str × Str)} {items : List (Str × Value)}
    (each : List.Forall₂ (fun member item => joinPairs member.1 = item.1 ∧ Stands deep member.2 item.2) members items) :
    Stands (deep + 1) (block (char '\x7b') (char '\x7d') level (members.map writeMember)) (.dict (toDict items)) := by
  obtain ⟨tail,split⟩ : ∃ tail, block (char '\x7b') (char '\x7d') level (members.map writeMember) = char '\x7b' :: tail := by
    cases members <;> exact ⟨_,rfl⟩
  intro depth enough
  refine ⟨⟨_,tail,split,by decide,by decide,by decide⟩,fun rest follows => ?_⟩
  obtain ⟨depth,rfl⟩ : ∃ n, depth = n + 1 := ⟨depth - 1,by omega⟩
  have written : List.Forall₂ (ReadAs (readMember (readValue depth))) (members.map writeMember) items := by
    rw [List.forall₂_map_left_iff]
    refine each.imp fun member item both => ?_
    obtain ⟨key,text⟩ := member
    obtain ⟨key',item⟩ := item
    obtain ⟨rfl,stands⟩ := both
    exact readMember_writeMember stands (by omega)
  have read := readEnclosed_block (Or.inr rfl) (readMember_shrinks (readValue_shrinks depth)) (char '\x7b') level written rest
  rw [split,List.tail_cons] at read
  rw [split,List.cons_append,readValue,scanOnce,if_neg (by decide),if_neg (by decide),if_pos rfl]
  exact bind_ok.mpr ⟨_,rfl,bind_ok.mpr ⟨_,read,rfl⟩⟩

theorem loads_stands {room : Nesting} {text rest : Str} {value : Value} (stands : Stands room.val text value)
    (follows : Follows rest) (blank : skipBlanks rest = []) : loads room (text ++ rest) = .ok value := by
  have read := stands room.val (Nat.le_refl _)
  rw [loads,read.begins.skip]
  refine bind_ok.mpr ⟨_,read.reads rest follows,?_⟩
  simp [blank]

/-- What stands for a value is loaded as that value, with a line break behind it. -/
theorem loads_line {room : Nesting} {text : Str} {value : Value} (stands : Stands room.val text value) :
    loads room (text ++ [char '\n']) = .ok value :=
  loads_stands stands (follows_indent 0 []) rfl

end JsonText
