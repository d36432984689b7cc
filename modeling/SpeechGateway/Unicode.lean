import Mathlib.Data.List.DropRight
import Mathlib.Data.List.Lex
import Mathlib.Order.Fin.Basic

/-!
Python strings, which are code points with the surrogates among them, and UTF-8: what
`bytes.decode` reads strictly, and what `os.fsdecode` makes of a file name, where each
byte that is no part of UTF-8 becomes a low surrogate.
-/
namespace Unicode

abbrev CodePoint := Fin 0x110000
/-- A Python `str`. -/
abbrev Str := List CodePoint
abbrev Bytes := List UInt8

/-- The code point with a number below 0x110000. -/
def point (n : Nat) : CodePoint := Fin.ofNat 0x110000 n

/-- A character of a literal. -/
def char (c : Char) : CodePoint := point c.toNat

/-- A literal. -/
def str (literal : String) : Str := literal.toList.map char

theorem point_val {n : Nat} (small : n < 0x110000) : (point n).val = n := Nat.mod_eq_of_lt small

/-- The first half of a surrogate pair. -/
def isHigh (c : CodePoint) : Bool := 0xD800 ≤ c.val && c.val ≤ 0xDBFF

/-- The second half of a surrogate pair. -/
def isLow (c : CodePoint) : Bool := 0xDC00 ≤ c.val && c.val ≤ 0xDFFF

theorem isHigh_iff {c : CodePoint} : isHigh c = true ↔ 0xD800 ≤ c.val ∧ c.val ≤ 0xDBFF := by simp [isHigh]

theorem isLow_iff {c : CodePoint} : isLow c = true ↔ 0xDC00 ≤ c.val ∧ c.val ≤ 0xDFFF := by simp [isLow]

/-- `b` continues a sequence of several bytes. -/
def continues (b : UInt8) : Bool := 0x80 ≤ b.toNat && b.toNat ≤ 0xBF

/-- The code point that a well-formed sequence at the head stands for, and how many bytes
    continue it. Overlong forms and surrogates are not well formed. -/
def decodeHead : Bytes → Option (CodePoint × Nat)
  | [] => none
  | a :: rest =>
    if a.toNat < 0x80 then some (point a.toNat,0) else
    match rest with
    | [] => none
    | b :: rest =>
      if !continues b then none else
      let two := (a.toNat - 0xC0) * 0x40 + (b.toNat - 0x80)
      if 0xC2 ≤ a.toNat ∧ a.toNat ≤ 0xDF then some (point two,1) else
      match rest with
      | [] => none
      | c :: rest =>
        if !continues c then none else
        let three := (a.toNat - 0xE0) * 0x1000 + (b.toNat - 0x80) * 0x40 + (c.toNat - 0x80)
        if 0xE0 ≤ a.toNat ∧ a.toNat ≤ 0xEF then
          if 0x800 ≤ three ∧ ¬(0xD800 ≤ three ∧ three ≤ 0xDFFF) then some (point three,2) else none else
        match rest with
        | [] => none
        | d :: _ =>
          if !continues d then none else
          let four := (a.toNat - 0xF0) * 0x40000 + (b.toNat - 0x80) * 0x1000 + (c.toNat - 0x80) * 0x40 +
            (d.toNat - 0x80)
          if 0xF0 ≤ a.toNat ∧ a.toNat ≤ 0xF4 ∧ 0x10000 ≤ four ∧ four ≤ 0x10FFFF then some (point four,3) else none

/-- UTF-8 for one code point. -/
def encodePoint (c : CodePoint) : Bytes :=
  if c.val < 0x80 then [.ofNat c.val] else
  if c.val < 0x800 then [.ofNat (0xC0 + c.val / 0x40),.ofNat (0x80 + c.val % 0x40)] else
  if c.val < 0x10000 then
    [.ofNat (0xE0 + c.val / 0x1000),.ofNat (0x80 + c.val / 0x40 % 0x40),.ofNat (0x80 + c.val % 0x40)] else
  [.ofNat (0xF0 + c.val / 0x40000),.ofNat (0x80 + c.val / 0x1000 % 0x40),.ofNat (0x80 + c.val / 0x40 % 0x40),
    .ofNat (0x80 + c.val % 0x40)]

/-- A surrogate, either half. -/
def isSurrogate (c : CodePoint) : Bool := isHigh c || isLow c

theorem isSurrogate_point {n : Nat} (small : n < 0x110000) :
    isSurrogate (point n) = false ↔ ¬(0xD800 ≤ n ∧ n ≤ 0xDFFF) := by
  simp only [isSurrogate,isHigh,isLow,point_val small,Bool.or_eq_false_iff,Bool.and_eq_false_iff,decide_eq_false_iff_not]
  omega

theorem continues_iff {b : UInt8} : continues b = true ↔ 0x80 ≤ b.toNat ∧ b.toNat ≤ 0xBF := by
  simp [continues]

theorem byte_eq {n : Nat} {b : UInt8} (same : n = b.toNat) : UInt8.ofNat n = b := by
  rw [same,UInt8.ofNat_toNat]

theorem encode_one {n : Nat} {a : UInt8} (low : n < 0x80) (first : n = a.toNat) : encodePoint (point n) = [a] := by
  rw [encodePoint,point_val (by omega),if_pos low,byte_eq first]

theorem encode_two {n : Nat} {a b : UInt8} (low : 0x80 ≤ n) (high : n < 0x800) (first : 0xC0 + n / 0x40 = a.toNat)
    (second : 0x80 + n % 0x40 = b.toNat) : encodePoint (point n) = [a,b] := by
  rw [encodePoint,point_val (by omega),if_neg (by omega),if_pos high,byte_eq first,byte_eq second]

theorem encode_three {n : Nat} {a b c : UInt8} (low : 0x800 ≤ n) (high : n < 0x10000)
    (first : 0xE0 + n / 0x1000 = a.toNat) (second : 0x80 + n / 0x40 % 0x40 = b.toNat)
    (third : 0x80 + n % 0x40 = c.toNat) : encodePoint (point n) = [a,b,c] := by
  rw [encodePoint,point_val (by omega),if_neg (by omega),if_neg (by omega),if_pos high,byte_eq first,byte_eq second,
    byte_eq third]

theorem encode_four {n : Nat} {a b c d : UInt8} (low : 0x10000 ≤ n) (high : n < 0x110000)
    (first : 0xF0 + n / 0x40000 = a.toNat) (second : 0x80 + n / 0x1000 % 0x40 = b.toNat)
    (third : 0x80 + n / 0x40 % 0x40 = c.toNat) (fourth : 0x80 + n % 0x40 = d.toNat) :
    encodePoint (point n) = [a,b,c,d] := by
  rw [encodePoint,point_val high,if_neg (by omega),if_neg (by omega),if_neg (by omega),byte_eq first,byte_eq second,
    byte_eq third,byte_eq fourth]

theorem decodeHead_ascii {a : UInt8} {rest : Bytes} (ascii : a.toNat < 0x80) :
    decodeHead (a :: rest) = some (point a.toNat,0) := by
  simp only [decodeHead,if_pos ascii]

/-- What is decoded at the head encodes back to the bytes it was read from, and is no surrogate. -/
theorem decodeHead_encodes {a : UInt8} {rest : Bytes} {c : CodePoint} {more : Nat}
    (read : decodeHead (a :: rest) = some (c,more)) :
    encodePoint c ++ rest.drop more = a :: rest ∧ isSurrogate c = false := by
  simp only [decodeHead] at read
  by_cases one : a.toNat < 0x80
  · rw [if_pos one] at read
    simp only [Option.some.injEq,Prod.mk.injEq] at read
    obtain ⟨rfl,rfl⟩ := read
    exact ⟨by rw [encode_one one rfl]; rfl,(isSurrogate_point (by omega)).mpr (by omega)⟩
  rw [if_neg one] at read
  match rest,read with
  | b :: rest,read =>
  by_cases second : continues b = true
  swap
  · simp [second] at read
  simp only [second,Bool.not_true,Bool.false_eq_true,if_false] at read
  rw [continues_iff] at second
  by_cases two : 0xC2 ≤ a.toNat ∧ a.toNat ≤ 0xDF
  · rw [if_pos two] at read
    simp only [Option.some.injEq,Prod.mk.injEq] at read
    obtain ⟨rfl,rfl⟩ := read
    refine ⟨?_,(isSurrogate_point (by omega)).mpr (by omega)⟩
    rw [encode_two (a := a) (b := b) (by omega) (by omega) (by omega) (by omega)]
    rfl
  rw [if_neg two] at read
  match rest,read with
  | c :: rest,read =>
  by_cases third : continues c = true
  swap
  · simp [third] at read
  simp only [third,Bool.not_true,Bool.false_eq_true,if_false] at read
  rw [continues_iff] at third
  by_cases three : 0xE0 ≤ a.toNat ∧ a.toNat ≤ 0xEF
  · rw [if_pos three] at read
    split at read
    · rename_i proper
      simp only [Option.some.injEq,Prod.mk.injEq] at read
      obtain ⟨rfl,rfl⟩ := read
      refine ⟨?_,(isSurrogate_point (by omega)).mpr proper.2⟩
      rw [encode_three (a := a) (b := b) (c := c) (by omega) (by omega) (by omega) (by omega) (by omega)]
      rfl
    · cases read
  rw [if_neg three] at read
  match rest,read with
  | d :: rest,read =>
  by_cases fourth : continues d = true
  swap
  · simp [fourth] at read
  simp only [fourth,Bool.not_true,Bool.false_eq_true,if_false] at read
  rw [continues_iff] at fourth
  split at read
  · rename_i four
    simp only [Option.some.injEq,Prod.mk.injEq] at read
    obtain ⟨rfl,rfl⟩ := read
    refine ⟨?_,(isSurrogate_point (by omega)).mpr (by omega)⟩
    rw [encode_four (a := a) (b := b) (c := c) (d := d) (by omega) (by omega) (by omega) (by omega) (by omega)
      (by omega)]
    rfl
  · cases read
/-- A code point that is no surrogate is decoded from its encoding, whatever follows. -/
theorem decodeHead_encodePoint {c : CodePoint} (scalar : isSurrogate c = false) (rest : Bytes) :
    decodeHead (encodePoint c ++ rest) = some (c,(encodePoint c).length - 1) := by
  have apart : ¬(0xD800 ≤ c.val ∧ c.val ≤ 0xDFFF) := by
    rw [← isSurrogate_point c.isLt,show point c.val = c from Fin.ext (point_val c.isLt)]
    exact scalar
  have below := c.isLt
  have byte (n : Nat) (small : n < 256) : (UInt8.ofNat n).toNat = n := UInt8.toNat_ofNat_of_lt' small
  have same {n : Nat} (equal : n = c.val) : point n = c := Fin.ext (by rw [equal,point_val below])
  rw [encodePoint]
  by_cases one : c.val < 0x80
  · rw [if_pos one]
    simp only [List.cons_append,decodeHead,byte _ (show c.val < 256 by omega),if_pos one,same rfl]
    rfl
  by_cases two : c.val < 0x800
  · rw [if_neg one,if_pos two]
    have first := byte (0xC0 + c.val / 0x40) (by omega)
    have second := byte (0x80 + c.val % 0x40) (by omega)
    have tail : continues (UInt8.ofNat (0x80 + c.val % 0x40)) = true := continues_iff.mpr (by omega)
    simp only [List.cons_append,decodeHead,tail,first,second]
    rw [if_neg (by omega),if_neg (by simp),if_pos (by omega),same (by omega)]
    rfl
  by_cases three : c.val < 0x10000
  · rw [if_neg one,if_neg two,if_pos three]
    have first := byte (0xE0 + c.val / 0x1000) (by omega)
    have second := byte (0x80 + c.val / 0x40 % 0x40) (by omega)
    have third := byte (0x80 + c.val % 0x40) (by omega)
    have tail : continues (UInt8.ofNat (0x80 + c.val / 0x40 % 0x40)) = true := continues_iff.mpr (by omega)
    have tail' : continues (UInt8.ofNat (0x80 + c.val % 0x40)) = true := continues_iff.mpr (by omega)
    simp only [List.cons_append,decodeHead,tail,tail',first,second,third]
    rw [if_neg (by omega),if_neg (by simp),if_neg (by omega),if_neg (by simp),if_pos (by omega),if_pos (by omega),
      same (by omega)]
    rfl
  · rw [if_neg one,if_neg two,if_neg three]
    have first := byte (0xF0 + c.val / 0x40000) (by omega)
    have second := byte (0x80 + c.val / 0x1000 % 0x40) (by omega)
    have third := byte (0x80 + c.val / 0x40 % 0x40) (by omega)
    have fourth := byte (0x80 + c.val % 0x40) (by omega)
    have tail : continues (UInt8.ofNat (0x80 + c.val / 0x1000 % 0x40)) = true := continues_iff.mpr (by omega)
    have tail' : continues (UInt8.ofNat (0x80 + c.val / 0x40 % 0x40)) = true := continues_iff.mpr (by omega)
    have tail'' : continues (UInt8.ofNat (0x80 + c.val % 0x40)) = true := continues_iff.mpr (by omega)
    simp only [List.cons_append,decodeHead,tail,tail',tail'',first,second,third,fourth]
    rw [if_neg (by omega),if_neg (by simp),if_neg (by omega),if_neg (by simp),if_neg (by omega),if_neg (by simp),
      if_pos (by omega),same (by omega)]
    rfl

/-! ## Strings -/

/-- What a decoder finds from left to right: a code point, or a byte that is no part of
    UTF-8. The number counts the bytes that continue a sequence already read. -/
def units : Nat → Bytes → List (CodePoint ⊕ UInt8)
  | _,[] => []
  | more + 1,_ :: rest => units more rest
  | 0,b :: rest =>
    match decodeHead (b :: rest) with
    | some (c,more) => .inl c :: units more rest
    | none => .inr b :: units 0 rest

/-- `bytes.decode("utf-8")`: a byte that is no part of UTF-8 is an error. -/
def decode (bytes : Bytes) : Option Str := (units 0 bytes).mapM (Sum.elim some fun _ => none)

/-- `str.encode("utf-8")`: a surrogate is an error. -/
def encode : Str → Option Bytes
  | [] => some []
  | c :: rest => if isSurrogate c then none else (encode rest).map (encodePoint c ++ ·)

/-- `os.fsdecode`: a byte that is no part of UTF-8 is escaped by a low surrogate. -/
def fsdecode (bytes : Bytes) : Str := (units 0 bytes).map (Sum.elim id fun b => point (0xDC00 + b.toNat))

/-- `os.fsencode`: the inverse of `fsdecode`, which yields no other surrogates. -/
def fsencode (s : Str) : Bytes :=
  s.flatMap fun c => if 0xDC80 ≤ c.val ∧ c.val ≤ 0xDCFF then [.ofNat (c.val - 0xDC00)] else encodePoint c

theorem units_skip (head rest : Bytes) : units head.length (head ++ rest) = units 0 rest := by
  induction head with
  | nil => rfl
  | cons b head ih => simpa only [List.length_cons,List.cons_append,units] using ih

theorem encodePoint_ne_nil (c : CodePoint) : encodePoint c ≠ [] := by
  unfold encodePoint
  split_ifs <;> simp

theorem units_encodePoint {c : CodePoint} (scalar : isSurrogate c = false) (rest : Bytes) :
    units 0 (encodePoint c ++ rest) = .inl c :: units 0 rest := by
  have read := decodeHead_encodePoint scalar rest
  obtain ⟨b,tail,split⟩ := List.exists_cons_of_ne_nil (encodePoint_ne_nil c)
  rw [split,List.cons_append] at read ⊢
  rw [units,read]
  simp only [List.length_cons,Nat.add_sub_cancel,units_skip]

/-- What is encoded decodes back. -/
theorem decode_encode {s : Str} {bytes : Bytes} (encoded : encode s = some bytes) : decode bytes = some s := by
  induction s generalizing bytes with
  | nil =>
    cases encoded
    rfl
  | cons c rest ih =>
    rw [encode] at encoded
    by_cases scalar : isSurrogate c = true
    · simp [scalar] at encoded
    · rw [if_neg scalar] at encoded
      obtain ⟨tail,later,rfl⟩ := Option.map_eq_some_iff.mp encoded
      have := ih later
      rw [decode] at this ⊢
      rw [units_encodePoint (by simpa using scalar),List.mapM_cons,this]
      rfl

/-- What stands in `units`: code points that are no surrogates, and bytes above ASCII. -/
theorem units_sound {bytes : Bytes} {more : Nat} {found : CodePoint ⊕ UInt8} (inside : found ∈ units more bytes) :
    found.elim (fun c => isSurrogate c = false) fun b => 0x80 ≤ b.toNat := by
  induction bytes generalizing more with
  | nil => cases more <;> cases inside
  | cons b rest ih =>
    cases more with
    | succ more => exact ih inside
    | zero =>
      rw [units] at inside
      cases read : decodeHead (b :: rest) with
      | some result =>
        rw [read] at inside
        rcases List.mem_cons.mp inside with rfl | later
        · exact (decodeHead_encodes read).2
        · exact ih later
      | none =>
        rw [read] at inside
        rcases List.mem_cons.mp inside with rfl | later
        · by_contra small
          rw [decodeHead_ascii (Nat.lt_of_not_le small)] at read
          cases read
        · exact ih later

theorem units_encode (bytes : Bytes) (more : Nat) :
    (units more bytes).flatMap (Sum.elim encodePoint fun b => [b]) = bytes.drop more := by
  induction bytes generalizing more with
  | nil => cases more <;> rfl
  | cons b rest ih =>
    cases more with
    | succ more => exact ih more
    | zero =>
      rw [units]
      cases read : decodeHead (b :: rest) with
      | some result =>
        rw [List.flatMap_cons,ih]
        exact (decodeHead_encodes read).1
      | none => rw [List.flatMap_cons,ih]; rfl

theorem fsencode_fsdecode (bytes : Bytes) : fsencode (fsdecode bytes) = bytes := by
  have whole := units_encode bytes 0
  rw [List.drop_zero] at whole
  conv_rhs => rw [← whole]
  rw [fsencode,fsdecode,List.flatMap_map]
  refine List.flatMap_congr fun found inside => ?_
  have sound := units_sound inside
  cases found with
  | inl c =>
    have apart : ¬(0xDC80 ≤ c.val ∧ c.val ≤ 0xDCFF) := by
      simp only [Sum.elim_inl,isSurrogate,isHigh,isLow,Bool.or_eq_false_iff,Bool.and_eq_false_iff,
        decide_eq_false_iff_not] at sound
      omega
    exact if_neg apart
  | inr b =>
    have below := b.toNat_lt
    have value : (point (0xDC00 + b.toNat)).val = 0xDC00 + b.toNat := point_val (by omega)
    simp only [Sum.elim_inr] at sound
    show (if 0xDC80 ≤ (point (0xDC00 + b.toNat)).val ∧ (point (0xDC00 + b.toNat)).val ≤ 0xDCFF then
      [UInt8.ofNat ((point (0xDC00 + b.toNat)).val - 0xDC00)] else encodePoint (point (0xDC00 + b.toNat))) = [b]
    rw [if_pos (by omega),value,byte_eq (Nat.add_sub_cancel_left ..)]

theorem fsdecode_injective : Function.Injective fsdecode := Function.LeftInverse.injective fsencode_fsdecode

theorem fsdecode_no_high {bytes : Bytes} {c : CodePoint} (inside : c ∈ fsdecode bytes) : isHigh c = false := by
  obtain ⟨found,member,rfl⟩ := List.mem_map.mp inside
  have sound := units_sound member
  cases found with
  | inl c =>
    simp only [Sum.elim_inl,isSurrogate,Bool.or_eq_false_iff] at sound
    exact sound.1
  | inr b =>
    have below := b.toNat_lt
    have value : (point (0xDC00 + b.toNat)).val = 0xDC00 + b.toNat := point_val (by omega)
    show isHigh (point (0xDC00 + b.toNat)) = false
    rw [← Bool.not_eq_true,isHigh_iff]
    omega

theorem encodePoint_high {c : CodePoint} (high : 0x80 ≤ c.val) : ∀ b ∈ encodePoint c, 0x80 ≤ b.toNat := by
  have below := c.isLt
  unfold encodePoint
  split_ifs
  · omega
  all_goals
    simp only [List.forall_mem_cons,List.not_mem_nil,false_implies,implies_true,and_true,UInt8.toNat_ofNat']
    omega

/-- An ASCII character stands in a decoded name exactly where its byte does. -/
theorem mem_fsdecode {bytes : Bytes} {n : Nat} (ascii : n < 0x80) :
    point n ∈ fsdecode bytes ↔ UInt8.ofNat n ∈ bytes := by
  have value : (point n).val = n := point_val (by omega)
  constructor
  · intro inside
    rw [← fsencode_fsdecode bytes]
    refine List.mem_flatMap.mpr ⟨point n,inside,?_⟩
    rw [if_neg (by omega),encodePoint,value,if_pos ascii]
    exact List.mem_singleton.mpr rfl
  · intro inside
    rw [← fsencode_fsdecode bytes] at inside
    obtain ⟨c,member,byte⟩ := List.mem_flatMap.mp inside
    have small : (UInt8.ofNat n).toNat = n := UInt8.toNat_ofNat_of_lt' (by show n < 256; omega)
    by_cases escaped : 0xDC80 ≤ c.val ∧ c.val ≤ 0xDCFF
    · rw [if_pos escaped] at byte
      have same := congrArg UInt8.toNat (List.mem_singleton.mp byte)
      rw [small,UInt8.toNat_ofNat_of_lt' (by show c.val - 0xDC00 < 256; omega)] at same
      omega
    · rw [if_neg escaped] at byte
      by_cases low : c.val < 0x80
      · rw [encodePoint,if_pos low] at byte
        have same := congrArg UInt8.toNat (List.mem_singleton.mp byte)
        rw [small,UInt8.toNat_ofNat_of_lt' (by show c.val < 256; omega)] at same
        rwa [show point n = c from Fin.ext (value.trans same)]
      · have := encodePoint_high (Nat.le_of_not_lt low) _ byte
        omega

/-- `str.isspace` on one code point. -/
def isSpace (c : CodePoint) : Bool :=
  (9 ≤ c.val && c.val ≤ 13) || (0x1C ≤ c.val && c.val ≤ 0x20) || c.val == 0x85 || c.val == 0xA0 || c.val == 0x1680 ||
    (0x2000 ≤ c.val && c.val ≤ 0x200A) || c.val == 0x2028 || c.val == 0x2029 || c.val == 0x202F || c.val == 0x205F ||
    c.val == 0x3000

/-- `str.strip()`. -/
def strip (s : Str) : Str := ((s.dropWhile isSpace).reverse.dropWhile isSpace).reverse

theorem strip_eq (s : Str) : strip s = (s.dropWhile isSpace).rdropWhile isSpace := rfl

theorem strip_length (s : Str) : (strip s).length ≤ s.length :=
  Nat.le_trans (List.rdropWhile_prefix ..).length_le (List.dropWhile_sublist _).length_le

/-- Nothing is left to strip. -/
theorem strip_strip (s : Str) : strip (strip s) = strip s := by
  have front : (strip s).dropWhile isSpace = strip s := by
    rw [strip_eq]
    have idempotent := List.dropWhile_idempotent isSpace s
    have front : (s.dropWhile isSpace).rdropWhile isSpace <+: s.dropWhile isSpace := List.rdropWhile_prefix ..
    generalize s.dropWhile isSpace = t at idempotent front ⊢
    cases stripped : t.rdropWhile isSpace with
    | nil => rfl
    | cons c rest =>
      rw [stripped] at front
      obtain ⟨tail,rfl⟩ := front
      rw [List.cons_append,List.dropWhile_cons] at idempotent
      rw [List.dropWhile_cons]
      split_ifs at idempotent ⊢ with space
      · have := congrArg List.length idempotent
        have := (List.dropWhile_sublist isSpace (l := rest ++ tail)).length_le
        simp only [List.length_cons] at *
        omega
      · rfl
  conv_lhs => rw [strip_eq,front,strip_eq]
  exact List.rdropWhile_idempotent ..

end Unicode
