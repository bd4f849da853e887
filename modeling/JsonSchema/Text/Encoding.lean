import JsonSchema.Unicode.Category
import JsonSchema.Unicode.Property

/-!
# Encoded texts

Bytes are naturals below 256. Decoding UTF-8 never fails: each longest stretch of bytes that starts a
character but cannot be completed, and each byte that can start none, becomes U+FFFD. A byte that is
percent encoded is a percent sign and two hexadecimal digits; decoding takes every complete triple and
leaves all else as it is. A text that is quoted in a message can be seen whole: quotes, backslashes and
the common controls have short escapes, and any other character that would not print, or would join
the one before it, is written by its code point.
-/

namespace JsonSchema

/-! ## UTF-8 -/

namespace Utf8

/-- The bytes of one character. -/
def encodeChar (c : Char) : List Nat :=
  let n := c.toNat
  if n < 0x80 then [n]
  else if n < 0x800 then [0xC0 + n / 0x40, 0x80 + n % 0x40]
  else if n < 0x10000 then [0xE0 + n / 0x1000, 0x80 + n / 0x40 % 0x40, 0x80 + n % 0x40]
  else [0xF0 + n / 0x40000, 0x80 + n / 0x1000 % 0x40, 0x80 + n / 0x40 % 0x40, 0x80 + n % 0x40]

/-- The bytes of a text. -/
def encode (cs : List Char) : List Nat := cs.flatMap encodeChar

/-- The number of bytes of a text. -/
def byteLength (s : String) : Nat := (encode s.toList).length

def replacement : Char := '\uFFFD'

/-- A byte that continues a character. -/
def isContinuation (b : Nat) : Bool := 0x80 ≤ b && b < 0xC0

/-- The bounds of the byte after a leading byte, which keep out overlong forms, surrogates and
code points past the last one. -/
def secondBounds (lead : Nat) : Nat × Nat :=
  if lead = 0xE0 then (0xA0, 0xBF)
  else if lead = 0xED then (0x80, 0x9F)
  else if lead = 0xF0 then (0x90, 0xBF)
  else if lead = 0xF4 then (0x80, 0x8F)
  else (0x80, 0xBF)

/-- How many bytes follow a leading byte, and the bits it contributes. -/
def leadBits? (b : Nat) : Option (Nat × Nat) :=
  if 0xC2 ≤ b ∧ b < 0xE0 then some (1, b - 0xC0)
  else if 0xE0 ≤ b ∧ b < 0xF0 then some (2, b - 0xE0)
  else if 0xF0 ≤ b ∧ b < 0xF5 then some (3, b - 0xF0)
  else none

/-- Where a decoder stands inside a character: bytes still needed, bits so far, and the bounds of
the next byte. -/
structure Pending where
  needed : Nat
  bits : Nat
  low : Nat
  high : Nat

/-- One byte outside any character. -/
def begin (b : Nat) : List Char × Option Pending :=
  if b < 0x80 then ([Char.ofNat b], none)
  else match leadBits? b with
    | some (needed, bits) =>
      let (low, high) := secondBounds b
      ([], some ⟨needed, bits, low, high⟩)
    | none => ([replacement], none)

/-- One more byte: the characters it completes and the new state. -/
def step (state : Option Pending) (b : Nat) : List Char × Option Pending :=
  match state with
  | none => begin b
  | some p =>
    if p.low ≤ b ∧ b ≤ p.high then
      let bits := p.bits * 0x40 + b % 0x40
      if p.needed = 1 then ([Char.ofNat bits], none) else ([], some ⟨p.needed - 1, bits, 0x80, 0xBF⟩)
    else
      let (out, next) := begin b
      (replacement :: out, next)

/-- Decodes bytes from a state on. -/
def decodeFrom (state : Option Pending) : List Nat → List Char
  | [] => if state.isSome then [replacement] else []
  | b :: rest =>
    let (out, next) := step state b
    out ++ decodeFrom next rest

/-- The text of some bytes. -/
def decodeLossy (bytes : List Nat) : List Char := decodeFrom none bytes

end Utf8

/-! ## Percent encoding -/

namespace Percent

/-- The value of a hexadecimal digit of either case. -/
def hexValue? (n : Nat) : Option Nat :=
  if 0x30 ≤ n ∧ n ≤ 0x39 then some (n - 0x30)
  else if 0x41 ≤ n ∧ n ≤ 0x46 then some (n - 0x41 + 10)
  else if 0x61 ≤ n ∧ n ≤ 0x66 then some (n - 0x61 + 10)
  else none

/-- The bytes with every triple decoded. -/
def decodeBytes : List Nat → List Nat
  | 0x25 :: a :: b :: rest =>
    match hexValue? a, hexValue? b with
    | some high, some low => (16 * high + low) :: decodeBytes rest
    | _, _ => 0x25 :: decodeBytes (a :: b :: rest)
  | b :: rest => b :: decodeBytes rest
  | [] => []

/-- The decoded text. -/
def decode (s : String) : String :=
  String.ofList (Utf8.decodeLossy (decodeBytes (Utf8.encode s.toList)))

/-- An upper-case hexadecimal digit. -/
def hexDigit (n : Nat) : Char := (Nat.digitChar n).toUpper

/-- The triple of one byte. -/
def encodeByte (b : Nat) : List Char := ['%', hexDigit (b / 16), hexDigit (b % 16)]

/-- A character, its bytes encoded if it belongs to the set to be escaped. -/
def encodeChar (escaped : Char → Bool) (c : Char) : List Char :=
  if escaped c then (Utf8.encodeChar c).flatMap encodeByte else [c]

/-- A text with the characters of a set encoded. -/
def encode (escaped : Char → Bool) (cs : List Char) : List Char := cs.flatMap (encodeChar escaped)

end Percent

/-! ## Quoted texts -/

namespace Quoted

/-- The characters that do not print or that combine with the one before. -/
def invisible : CharSet :=
  CharSet.unions
    (Unicode.unassigned :: ((Unicode.property? "graphemeextend").getD .empty) ::
      (["Cc", "Cf", "Co", "Zl", "Zp", "Zs"].map Unicode.category))
    |>.difference (.single ' ')

/-- The code point of a character between braces. -/
def codePoint (c : Char) : List Char := '\\' :: 'u' :: '\x7b' :: Nat.toDigits 16 c.toNat ++ ['\x7d']

/-- A character as it stands in a quoted text. -/
def escape (c : Char) : List Char :=
  match c with
  | '\x00' => ['\\', '0']
  | '\t' => ['\\', 't']
  | '\r' => ['\\', 'r']
  | '\n' => ['\\', 'n']
  | '"' => ['\\', '"']
  | '\\' => ['\\', '\\']
  | c =>
    if 0x20 ≤ c.toNat ∧ c.toNat < 0x7F then [c]
    else if invisible.contains c then codePoint c
    else [c]

/-- A text between quotes. -/
def quote (s : String) : String := String.ofList ('"' :: s.toList.flatMap escape ++ ['"'])

end Quoted

end JsonSchema
