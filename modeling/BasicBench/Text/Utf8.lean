/-!
Decoding UTF-8. Text that is not well formed is refused with the place and the length of the
first bad piece: a byte that cannot start a character, the bytes of a character before one that
cannot continue it, or the bytes of a character that the end cuts off.
-/

set_option autoImplicit false

namespace BasicBench.Text

inductive Utf8Fault where
  | badStart | badContinuation | cutOff
  deriving DecidableEq, Repr

def Utf8Fault.reason : Utf8Fault → String
  | .badStart => "invalid start byte"
  | .badContinuation => "invalid continuation byte"
  | .cutOff => "unexpected end of data"

/-- A bad piece: the offset and the value of its first byte, and its length. -/
structure Utf8Error where
  fault : Utf8Fault
  offset : Nat
  first : Nat
  length : Nat
  deriving DecidableEq, Repr

/-- The bytes that may follow a first byte: how many, and the bounds of the first of them. -/
def continuation? (first : Nat) : Option (Nat × Nat × Nat) :=
  if first < 0xC2 then none
  else if first < 0xE0 then some (1, 0x80, 0xBF)
  else if first = 0xE0 then some (2, 0xA0, 0xBF)
  else if first = 0xED then some (2, 0x80, 0x9F)
  else if first < 0xF0 then some (2, 0x80, 0xBF)
  else if first = 0xF0 then some (3, 0x90, 0xBF)
  else if first = 0xF4 then some (3, 0x80, 0x8F)
  else if first < 0xF4 then some (3, 0x80, 0xBF)
  else none

/-- The bits that a first byte contributes. -/
def leadBits (first : Nat) : Nat :=
  if first < 0xE0 then first - 0xC0 else if first < 0xF0 then first - 0xE0 else first - 0xF0

/-- Characters of UTF-8 text. `pending` is a character of which `count` bytes are read, with
the bits read so far, the number of bytes missing and the bounds of the next byte. -/
structure Pending where
  first : Nat
  count : Nat
  bits : Nat
  missing : Nat
  low : Nat
  high : Nat

def decodeFrom (offset : Nat) (pending : Option Pending) :
    List UInt8 → Except Utf8Error (List Char)
  | [] => match pending with
      | none => .ok []
      | some part => .error ⟨.cutOff, offset - part.count, part.first, part.count⟩
  | byte :: rest =>
      let value := byte.toNat
      match pending with
      | none =>
          if value < 0x80 then
            (decodeFrom (offset + 1) none rest).map (Char.ofNat value :: ·)
          else match continuation? value with
            | none => .error ⟨.badStart, offset, value, 1⟩
            | some (missing, low, high) =>
                decodeFrom (offset + 1) (some ⟨value, 1, leadBits value, missing, low, high⟩) rest
      | some part =>
          if part.low ≤ value && value ≤ part.high then
            let bits := part.bits * 64 + (value - 0x80)
            if part.missing = 1 then
              (decodeFrom (offset + 1) none rest).map (Char.ofNat bits :: ·)
            else decodeFrom (offset + 1) (some { part with
              count := part.count + 1, bits := bits, missing := part.missing - 1, low := 0x80,
              high := 0xBF }) rest
          else .error ⟨.badContinuation, offset - part.count, part.first, part.count⟩

def decodeUtf8 (bytes : List UInt8) : Except Utf8Error (List Char) := decodeFrom 0 none bytes

def hexByte (value : Nat) : String :=
  let digit (n : Nat) : Char := if n < 10 then Char.ofNat (48 + n) else Char.ofNat (87 + n)
  String.ofList [digit (value / 16), digit (value % 16)]

def Utf8Error.message (error : Utf8Error) : String :=
  let reason := error.fault.reason
  let offset := error.offset
  if error.length = 1 then
    let first := hexByte error.first
    s!"'utf-8' codec can't decode byte 0x{first} in position {offset}: {reason}"
  else
    let last := offset + error.length - 1
    s!"'utf-8' codec can't decode bytes in position {offset}-{last}: {reason}"

/-- Line ends as one character: a carriage return, alone or before a line feed, becomes a line
feed. -/
def unifyLineEnds : List Char → List Char
  | [] => []
  | '\r' :: '\n' :: rest => '\n' :: unifyLineEnds rest
  | '\r' :: rest => '\n' :: unifyLineEnds rest
  | c :: rest => c :: unifyLineEnds rest

end BasicBench.Text
