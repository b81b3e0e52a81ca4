import SchemaQuery.Text

/-!
# UTF-8

Files and bodies are bytes. Writing refuses lone surrogates. Reading refuses every ill-formed
sequence; a reader of foreign documents may let three-byte forms of surrogates pass.
-/

namespace SchemaQuery

abbrev Bytes := List UInt8

namespace CodePoint

/-- The one to four bytes of a code point number. -/
def utf8 (n : Nat) : Bytes :=
  if n < 0x80 then [.ofNat n]
  else if n < 0x800 then [.ofNat (0xC0 + n / 64), .ofNat (0x80 + n % 64)]
  else if n < 0x10000 then
    [.ofNat (0xE0 + n / 4096), .ofNat (0x80 + n / 64 % 64), .ofNat (0x80 + n % 64)]
  else
    [.ofNat (0xF0 + n / 262144), .ofNat (0x80 + n / 4096 % 64), .ofNat (0x80 + n / 64 % 64),
      .ofNat (0x80 + n % 64)]

end CodePoint

namespace Text

/-- The bytes of a text; none when it holds a surrogate. -/
def utf8? : Text → Option Bytes
  | [] => some []
  | .surrogate _ :: _ => none
  | .scalar c :: t => (utf8? t).map (CodePoint.utf8 c.toNat ++ ·)

/-- What may stand in three bytes although it is no scalar value. -/
inductive Surrogates where
  | refused
  | passed
  deriving DecidableEq

def isContinuation (b : UInt8) : Bool := 0x80 ≤ b.toNat && b.toNat < 0xC0

/-- The text of well-formed bytes: each code point in its shortest form, none above U+10FFFF. -/
def ofUtf8? (surrogates : Surrogates) : Bytes → Option Text
  | [] => some []
  | a :: rest =>
    if a.toNat < 0x80 then (ofUtf8? surrogates rest).map (.ofNat a.toNat :: ·)
    else
      match rest with
      | [] => none
      | b :: rest =>
        if !isContinuation b then none
        else if 0xC2 ≤ a.toNat ∧ a.toNat < 0xE0 then
          (ofUtf8? surrogates rest).map (.ofNat ((a.toNat - 0xC0) * 64 + (b.toNat - 0x80)) :: ·)
        else
          match rest with
          | [] => none
          | c :: rest =>
            if !isContinuation c then none
            else if 0xE0 ≤ a.toNat ∧ a.toNat < 0xF0 then
              let n := (a.toNat - 0xE0) * 4096 + (b.toNat - 0x80) * 64 + (c.toNat - 0x80)
              if n < 0x800 ∨ (surrogates = .refused ∧ 0xD800 ≤ n ∧ n < 0xE000) then none
              else (ofUtf8? surrogates rest).map (.ofNat n :: ·)
            else
              match rest with
              | [] => none
              | d :: rest =>
                let n := (a.toNat - 0xF0) * 262144 + (b.toNat - 0x80) * 4096 +
                  (c.toNat - 0x80) * 64 + (d.toNat - 0x80)
                if isContinuation d && 0xF0 ≤ a.toNat && 0x10000 ≤ n && n < 0x110000 then
                  (ofUtf8? surrogates rest).map (.ofNat n :: ·)
                else none

end Text

end SchemaQuery
