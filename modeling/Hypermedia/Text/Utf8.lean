/-!
# UTF-8

Texts as bytes. Bytes that are no text are either refused, or each longest broken start of a character
is replaced by the replacement character.
-/

namespace Hypermedia.Text

/-- The lower six bits of a continuation byte in this range, and what follows. -/
def continuation (lo hi : Nat) : List UInt8 → Option (Nat × List UInt8)
  | [] => none
  | b :: rest => if lo ≤ b.toNat ∧ b.toNat ≤ hi then some (b.toNat % 64, rest) else none

/-- Further continuation bytes after the value so far: the value of all, or what follows the last byte
that belongs to it. -/
def continued : Nat → Nat → List UInt8 → Option Nat × List UInt8
  | 0, value, rest => (some value, rest)
  | n + 1, value, rest =>
    match continuation 0x80 0xBF rest with
    | some (x, rest) => continued n (value * 64 + x) rest
    | none => (none, rest)

/-- A character of several bytes: its first bits, the range of its second byte, and how many more there
are. -/
def multibyte (bits lo hi more : Nat) (rest : List UInt8) : Option Char × List UInt8 :=
  match continuation lo hi rest with
  | none => (none, rest)
  | some (x, rest) =>
    let (value, rest) := continued more (bits * 64 + x) rest
    (value.map Char.ofNat, rest)

/-- The character that begins with a byte, or none for a broken start, and what follows. -/
def nextChar (b : UInt8) (rest : List UInt8) : Option Char × List UInt8 :=
  let n := b.toNat
  if n < 0x80 then (some (Char.ofNat n), rest)
  else if n < 0xC2 then (none, rest)
  else if n < 0xE0 then multibyte (n - 0xC0) 0x80 0xBF 0 rest
  else if n = 0xE0 then multibyte 0 0xA0 0xBF 1 rest
  else if n = 0xED then multibyte 13 0x80 0x9F 1 rest
  else if n < 0xF0 then multibyte (n - 0xE0) 0x80 0xBF 1 rest
  else if n = 0xF0 then multibyte 0 0x90 0xBF 2 rest
  else if n < 0xF4 then multibyte (n - 0xF0) 0x80 0xBF 2 rest
  else if n = 0xF4 then multibyte 4 0x80 0x8F 2 rest
  else (none, rest)

/-- The characters of bytes, none for each broken one; every step takes a byte, so the fuel need not
exceed their number. -/
def decodeParts : Nat → List UInt8 → List (Option Char)
  | 0, _ => []
  | _, [] => []
  | fuel + 1, b :: rest =>
    let (c, rest) := nextChar b rest
    c :: decodeParts fuel rest

def decode? (bytes : List UInt8) : Option String :=
  let parts := decodeParts bytes.length bytes
  if parts.all Option.isSome then some (String.ofList (parts.filterMap id)) else none

/-- The text of bytes with the replacement character for what is broken. -/
def decodeLossy (bytes : List UInt8) : String :=
  String.ofList ((decodeParts bytes.length bytes).map fun c => c.getD (Char.ofNat 0xFFFD))

end Hypermedia.Text
