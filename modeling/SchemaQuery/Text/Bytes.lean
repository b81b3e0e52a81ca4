import SchemaQuery.Text.Utf8

/-!
# Bytes shown as text

The names of files are bytes, and need not be UTF-8. In a text, a byte that is no part of
well-formed UTF-8 is shown as one of the surrogates U+DC80 to U+DCFF. Such a surrogate stands for
its byte again where a text serves as a name, so two texts may be spellings of one name.
-/

namespace SchemaQuery

namespace CodePoint

/-- The surrogate that shows a byte beyond ASCII. -/
def ofByte (b : UInt8) : CodePoint := .ofNat (0xDC00 + b.toNat)

/-- The bytes that a code point stands for; none for a surrogate that shows no byte. -/
def bytes? : CodePoint → Option Bytes
  | scalar c => some (utf8 c.toNat)
  | surrogate unit =>
    if 0x480 ≤ unit.val ∧ unit.val < 0x500 then some [.ofNat (unit.val - 0x400)] else none

end CodePoint

namespace Text

/-- The bytes that a text stands for; none when it holds a surrogate that shows no byte. -/
def bytes? : Text → Option Bytes
  | [] => some []
  | c :: t =>
    match c.bytes?, bytes? t with
    | some lead, some rest => some (lead ++ rest)
    | _, _ => none

/-- The first code point of bytes that begin with well-formed UTF-8, and the number of its bytes. -/
def leading? (bytes : Bytes) : Option (CodePoint × Nat) :=
  [1, 2, 3, 4].findSome? fun n =>
    match ofUtf8? .refused (bytes.take n) with
    | some [c] => some (c, n)
    | _ => none

/-- The text that shows some bytes. -/
def ofBytes : Bytes → Text
  | [] => []
  | b :: rest =>
    match leading? (b :: rest) with
    | some (c, n) => c :: ofBytes (rest.drop (n - 1))
    | none => .ofByte b :: ofBytes rest
termination_by bytes => bytes.length
decreasing_by
  · simp only [List.length_drop, List.length_cons]
    omega
  · exact Nat.lt_succ_self _

/-- The spelling that shows a name; a text that stands for no bytes is left as it is. -/
def asName (t : Text) : Text := (t.bytes?.map ofBytes).getD t

/-- The number of bytes of a name. -/
def sizeInBytes (t : Text) : Nat := (t.bytes?.getD []).length

end Text

end SchemaQuery
