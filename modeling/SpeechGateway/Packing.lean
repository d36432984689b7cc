import Mathlib.Tactic.IntervalCases

/-!
Numbers and bytes as they are written down: a number as a fixed count of little-endian bytes,
and bytes as pairs of hexadecimal digits. What is written is read back.
-/
namespace Packing

/-- The lowest `count` bytes of a number, the lowest one first. -/
def toLittleEndian : Nat → Nat → List UInt8
  | 0, _ => []
  | count+1, value => UInt8.ofNat value :: toLittleEndian count (value / 256)

def ofLittleEndian : List UInt8 → Nat
  | [] => 0
  | byte :: rest => byte.toNat + 256 * ofLittleEndian rest

@[simp] theorem length_toLittleEndian (count value : Nat) : (toLittleEndian count value).length = count := by
  induction count generalizing value with
  | zero => rfl
  | succ count ih => rw [toLittleEndian,List.length_cons,ih]

theorem ofLittleEndian_toLittleEndian {count value : Nat} (fits : value < 256 ^ count) :
    ofLittleEndian (toLittleEndian count value) = value := by
  induction count generalizing value with
  | zero => exact (Nat.lt_one_iff.mp fits).symm
  | succ count ih =>
    have lower : value / 256 < 256 ^ count := by
      rw [Nat.pow_succ] at fits
      exact Nat.div_lt_of_lt_mul (by omega)
    have byte : (UInt8.ofNat value).toNat = value % 256 := UInt8.toNat_ofNat
    rw [toLittleEndian,ofLittleEndian,ih lower,byte]
    omega

/-- A hexadecimal digit. -/
def hexDigit (value : Nat) : Char :=
  if value < 10 then Char.ofNat ('0'.toNat + value) else Char.ofNat ('a'.toNat + (value - 10))

def hexValue (digit : Char) : Option Nat :=
  if '0' ≤ digit ∧ digit ≤ '9' then some (digit.toNat - '0'.toNat)
  else if 'a' ≤ digit ∧ digit ≤ 'f' then some (digit.toNat - 'a'.toNat + 10)
  else if 'A' ≤ digit ∧ digit ≤ 'F' then some (digit.toNat - 'A'.toNat + 10)
  else none

/-- White space between two bytes, in ASCII. -/
def isBlank (c : Char) : Bool := c = ' ' || 9 ≤ c.toNat && c.toNat ≤ 13

def toHex : List UInt8 → List Char
  | [] => []
  | byte :: rest => hexDigit (byte.toNat / 16) :: hexDigit (byte.toNat % 16) :: toHex rest

/-- Reads bytes, with blanks before, between and behind them. -/
def ofHex : List Char → Option (List UInt8)
  | [] => some []
  | [c] => if isBlank c then some [] else none
  | c :: d :: rest =>
    if isBlank c then ofHex (d :: rest) else do
      let high ← hexValue c
      let low ← hexValue d
      let bytes ← ofHex rest
      return UInt8.ofNat (high * 16 + low) :: bytes

theorem hexValue_hexDigit {value : Nat} (small : value < 16) : hexValue (hexDigit value) = some value := by
  interval_cases value <;> rfl

theorem isBlank_hexDigit {value : Nat} (small : value < 16) : isBlank (hexDigit value) = false := by
  interval_cases value <;> rfl

theorem ofHex_toHex (bytes : List UInt8) : ofHex (toHex bytes) = some bytes := by
  induction bytes with
  | nil => rfl
  | cons byte rest ih =>
    have below := byte.toNat_lt
    have high : byte.toNat / 16 < 16 := by omega
    have low : byte.toNat % 16 < 16 := by omega
    have whole : UInt8.ofNat (byte.toNat / 16 * 16 + byte.toNat % 16) = byte := by
      rw [show byte.toNat / 16 * 16 + byte.toNat % 16 = byte.toNat by omega,UInt8.ofNat_toNat]
    rw [toHex,ofHex,isBlank_hexDigit high,if_neg Bool.false_ne_true,hexValue_hexDigit high,hexValue_hexDigit low,ih]
    exact congrArg (fun first => some (first :: rest)) whole

end Packing
