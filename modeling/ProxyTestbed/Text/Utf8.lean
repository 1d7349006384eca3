/-!
# Reading UTF-8

Bytes are read as text in two ways. `decodeLossy` never fails: every maximal part of an ill-formed
sequence is read as one replacement character. `decode` reports the first ill-formed part instead.
-/

namespace ProxyTestbed

/-- A sequence of bytes, as it comes over a wire or out of a file. -/
abbrev Bytes := List UInt8

namespace Text.Utf8

/-- Why a sequence of bytes is no text. -/
inductive Defect
  /-- No character begins with this byte. -/
  | start
  /-- The character is broken off by a byte that does not continue it. -/
  | continuation
  /-- The bytes end inside a character. -/
  | ending
  deriving DecidableEq, Repr

/-- How many bytes follow a first byte, which values the second byte may have, and the bits that the
first byte contributes. -/
private def leadOf (b : Nat) : Option (Nat × Nat × Nat × Nat) :=
  if b < 0x80 then some (0, 0x80, 0xBF, b)
  else if b < 0xC2 then none
  else if b < 0xE0 then some (1, 0x80, 0xBF, b - 0xC0)
  else if b < 0xF0 then
    some (2, if b = 0xE0 then 0xA0 else 0x80, if b = 0xED then 0x9F else 0xBF, b - 0xE0)
  else if b < 0xF5 then
    some (3, if b = 0xF0 then 0x90 else 0x80, if b = 0xF4 then 0x8F else 0xBF, b - 0xF0)
  else none

/-- Reads up to `count` continuation bytes, the first of them between `lo` and `hi`. Answers the code
point, or the defect, and how many bytes were read. -/
private def continueWith (code lo hi : Nat) : Nat → Bytes → Except Defect Nat × Nat
  | 0, _ => (.ok code, 0)
  | _ + 1, [] => (.error .ending, 0)
  | count + 1, b :: r =>
    if lo ≤ b.toNat && b.toNat ≤ hi then
      let (result, used) := continueWith (code * 64 + (b.toNat - 0x80)) 0x80 0xBF count r
      (result, used + 1)
    else (.error .continuation, 0)

/-- The first character of a sequence of bytes, or the defect there, with the number of bytes that
follow the first and belong to it. -/
private def first (b : UInt8) (r : Bytes) : Except Defect Char × Nat :=
  match leadOf b.toNat with
  | none => (.error .start, 0)
  | some (count, lo, hi, code) =>
    let (result, used) := continueWith code lo hi count r
    (result.map Char.ofNat, used)

/-- The text of the bytes; `skip` bytes at the front belong to a character already read. -/
private def decodeLossyFrom : Nat → Bytes → List Char
  | _, [] => []
  | skip + 1, _ :: r => decodeLossyFrom skip r
  | 0, b :: r =>
    match first b r with
    | (.ok c, used) => c :: decodeLossyFrom used r
    | (.error _, used) => '\uFFFD' :: decodeLossyFrom used r

/-- The text of the bytes, with one replacement character for each maximal ill-formed part. -/
def decodeLossy (bytes : Bytes) : List Char :=
  decodeLossyFrom 0 bytes

/-- The first ill-formed part of a sequence of bytes. -/
structure Problem where
  defect : Defect
  /-- Where the part begins. -/
  position : Nat
  /-- The bytes of the part; never empty. -/
  bytes : Bytes
  deriving DecidableEq, Repr

private def decodeFrom (position : Nat) : Nat → Bytes → Except Problem (List Char)
  | _, [] => .ok []
  | skip + 1, _ :: r => decodeFrom (position + 1) skip r
  | 0, b :: r =>
    match first b r with
    | (.ok c, used) => (decodeFrom (position + 1) used r).map (c :: ·)
    | (.error .ending, used) =>
      -- a reader that waits for more bytes counts from the character it still waits for
      .error ⟨.ending, 0, b :: r.take used⟩
    | (.error defect, used) => .error ⟨defect, position, b :: r.take used⟩

/-- The text of the bytes, if they are well formed. The position of a character that the bytes end in
is counted from that character. -/
def decode (bytes : Bytes) : Except Problem (List Char) :=
  decodeFrom 0 0 bytes

/-- Two lower-case hexadecimal digits. -/
def hexByte (b : UInt8) : String :=
  String.ofList [Nat.digitChar (b.toNat / 16), Nat.digitChar (b.toNat % 16)]

def Defect.message : Defect → String
  | .start => "invalid start byte"
  | .continuation => "invalid continuation byte"
  | .ending => "unexpected end of data"

def Problem.message (p : Problem) : String :=
  match p.bytes with
  | [b] =>
    s!"'utf-8' codec can't decode byte 0x{hexByte b} in position {p.position}: {p.defect.message}"
  | bytes =>
    let last := p.position + bytes.length - 1
    s!"'utf-8' codec can't decode bytes in position {p.position}-{last}: {p.defect.message}"

end Text.Utf8

def Text.utf8 (s : String) : Bytes :=
  s.toUTF8.toList

/-- The text of some bytes, ill-formed parts replaced. -/
def Text.ofBytes (bytes : Bytes) : String :=
  String.ofList (Utf8.decodeLossy bytes)

/-- The text of some bytes, if all of them are ASCII. -/
def Text.ofAscii? (bytes : Bytes) : Option String :=
  if bytes.all (· < 128) then some (ofBytes bytes) else none

end ProxyTestbed
