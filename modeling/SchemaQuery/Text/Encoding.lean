import SchemaQuery.Text.Utf8

/-!
# The encoding of a document that arrives as bytes

A document sent as bytes says by its first bytes how it is encoded: a byte order mark, or the
position of zero bytes among the first four, since a document begins with two ASCII characters.
Without either it is UTF-8. Lone surrogates pass in every encoding.
-/

namespace SchemaQuery

inductive ByteOrder where
  | bigEndian
  | littleEndian

inductive Encoding where
  | utf8
  | utf16 (order : ByteOrder)
  | utf32 (order : ByteOrder)

namespace Encoding

/-- The encoding of some bytes and what is left of them after a byte order mark. -/
def detect : Bytes → Encoding × Bytes
  | 0x00 :: 0x00 :: 0xFE :: 0xFF :: rest => (utf32 .bigEndian, rest)
  | 0xFF :: 0xFE :: 0x00 :: 0x00 :: rest => (utf32 .littleEndian, rest)
  | 0xFE :: 0xFF :: rest => (utf16 .bigEndian, rest)
  | 0xFF :: 0xFE :: rest => (utf16 .littleEndian, rest)
  | 0xEF :: 0xBB :: 0xBF :: rest => (utf8, rest)
  | [a, b] =>
    if a = 0 then (utf16 .bigEndian, [a, b])
    else if b = 0 then (utf16 .littleEndian, [a, b])
    else (utf8, [a, b])
  | a :: b :: c :: d :: rest =>
    let bytes := a :: b :: c :: d :: rest
    if a = 0 then (if b = 0 then utf32 .bigEndian else utf16 .bigEndian, bytes)
    else if b = 0 then
      (if c = 0 ∧ d = 0 then utf32 .littleEndian else utf16 .littleEndian, bytes)
    else (utf8, bytes)
  | bytes => (utf8, bytes)

def unit16 : ByteOrder → UInt8 → UInt8 → Nat
  | .bigEndian, a, b => a.toNat * 256 + b.toNat
  | .littleEndian, a, b => b.toNat * 256 + a.toNat

/-- The 16-bit units of the bytes; none when one byte is left over. -/
def units16? (order : ByteOrder) : Bytes → Option (List Nat)
  | [] => some []
  | [_] => none
  | a :: b :: rest => (units16? order rest).map (unit16 order a b :: ·)

/-- Joins each high surrogate with a low one that follows it. -/
def joinPairs : List Nat → Text
  | [] => []
  | [u] => [.ofNat u]
  | u :: v :: rest =>
    if 0xD800 ≤ u ∧ u < 0xDC00 ∧ 0xDC00 ≤ v ∧ v < 0xE000 then
      .ofNat (0x10000 + (u - 0xD800) * 1024 + (v - 0xDC00)) :: joinPairs rest
    else .ofNat u :: joinPairs (v :: rest)

/-- The code points of the bytes, four bytes each. -/
def points32? (order : ByteOrder) : Bytes → Option Text
  | [] => some []
  | a :: b :: c :: d :: rest =>
    let n := match order with
      | .bigEndian => unit16 order a b * 65536 + unit16 order c d
      | .littleEndian => unit16 order c d * 65536 + unit16 order a b
    if n < 0x110000 then (points32? order rest).map (.ofNat n :: ·) else none
  | _ => none

/-- The text of a document's bytes, if they are well formed in the encoding they announce. -/
def decode? (bytes : Bytes) : Option Text :=
  match detect bytes with
  | (utf8, rest) => Text.ofUtf8? .passed rest
  | (utf16 order, rest) => (units16? order rest).map joinPairs
  | (utf32 order, rest) => points32? order rest

end Encoding

end SchemaQuery
