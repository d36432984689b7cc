import Mathlib.Data.List.TakeDrop

/-!
Python values that every part of the gateway passes around: `str`, sample-aligned
`bytes`, clock readings, and the exceptions that its methods raise.
-/
namespace SpeechGateway

/-- A Python `str`, as its code points. -/
abbrev Text := List Char
/-- Python `bytes` holding little-endian 16-bit samples. -/
abbrev Pcm := List UInt8
/-- A clock reading or a duration, in seconds. -/
abbrev Time := Rat

abbrev SessionId := Text
abbrev WorkerId := Text

/-- Samples in a second; no caller divides by zero. -/
abbrev SampleRate := { rate : Nat // 0 < rate }

/-- Complete samples in a byte string, `len(pcm) // 2`. -/
def sampleCount (pcm : Pcm) : Nat := pcm.length / 2

/-- What the Unicode tables behind `str` answer about one code point, and case folding. -/
structure Alphabet where
  isDigit : Char → Bool
  isAlnum : Char → Bool
  isAlpha : Char → Bool
  isUpper : Char → Bool
  isSpace : Char → Bool
  lower : Text → Text

/-- The tables restricted to ASCII, for evaluating the model. -/
def ascii : Alphabet where
  isDigit := Char.isDigit
  isAlnum := Char.isAlphanum
  isAlpha := Char.isAlpha
  isUpper := Char.isUpper
  isSpace := Char.isWhitespace
  lower := List.map Char.toLower

/-- `str.strip()`: whitespace removed at both ends. -/
def strip (chars : Alphabet) (text : Text) : Text :=
  ((text.dropWhile chars.isSpace).reverse.dropWhile chars.isSpace).reverse

/-- The characters of `text[start:stop]`. -/
def slice (text : Text) (start stop : Nat) : Text := (text.take stop).drop start

/-- The limits that a `CapacityBufferError` can name. -/
inductive CapacityReason
  | sessionPcmLimit
  | schedulerReadyJobLimit
  | schedulerQueuedAudioLimit
  | adapterUtteranceLimit
  deriving DecidableEq, Repr

/-- The exceptions raised by the modelled methods, and those of an adapter, which
    carry only their type name. -/
inductive PyError
  | valueError (message : String)
  | runtimeError (message : String)
  | keyError (message : String)
  | timeoutError (message : String)
  | capacity (reason : CapacityReason) (limit current incoming : Int) (message : String)
  | confirmedPrefixConflict (message : String)
  | staleResult (message : String)
  | foreign (typeName : String)
  deriving DecidableEq, Repr

/-- `type(exc).__name__`. -/
def PyError.typeName : PyError → String
  | .valueError _ => "ValueError"
  | .runtimeError _ => "RuntimeError"
  | .keyError _ => "KeyError"
  | .timeoutError _ => "TimeoutError"
  | .capacity .. => "CapacityBufferError"
  | .confirmedPrefixConflict _ => "ConfirmedPrefixConflict"
  | .staleResult _ => "StaleResultError"
  | .foreign typeName => typeName

/-- `round`: to the nearest integer, and to the even one of two nearest. -/
def roundHalfEven (value : Rat) : Int :=
  let rest := value - value.floor
  if rest < 1/2 ∨ (rest = 1/2 ∧ value.floor % 2 = 0) then value.floor else value.floor + 1

/-- The values of a call that returned; a call that raised delivers none. -/
def returned {α : Type} : Except PyError (List α) → List α
  | .ok values => values
  | .error _ => []

end SpeechGateway
