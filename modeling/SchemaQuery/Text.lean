/-!
# Text as a list of code points

Documents may escape one half of a surrogate pair without the other, and such a half is carried
along unharmed until some encoder refuses it. A text is therefore a list of code points, each either
a Unicode scalar value or a lone surrogate; literals are coerced from strings.
-/

namespace SchemaQuery

-- Powers keep this meaning where a library brings powers of its own.
attribute [scoped instance (high), default_instance high] instPowNat

/-- One code point: a scalar value, or one of the 2048 surrogates standing alone. -/
inductive CodePoint where
  | scalar (c : Char)
  | surrogate (unit : Fin 2048)
  deriving DecidableEq

instance : Coe Char CodePoint := ⟨.scalar⟩

instance : Inhabited CodePoint := ⟨.scalar ' '⟩

namespace CodePoint

def value : CodePoint → Nat
  | scalar c => c.toNat
  | surrogate unit => 0xD800 + unit.val

def ofNat (n : Nat) : CodePoint :=
  if h : 0xD800 ≤ n ∧ n < 0xE000 then .surrogate ⟨n - 0xD800, by omega⟩ else .scalar (Char.ofNat n)

def isScalar : CodePoint → Bool
  | scalar _ => true
  | surrogate _ => false

/-- Whether the code point is a scalar value with a given property. -/
def is (p : Char → Bool) : CodePoint → Bool
  | scalar c => p c
  | surrogate _ => false

@[simp] theorem is_scalar (p : Char → Bool) (c : Char) : (scalar c).is p = p c := rfl

@[simp] theorem is_surrogate (p : Char → Bool) (s : Fin 2048) : (surrogate s).is p = false := rfl

def digit? : CodePoint → Option Nat
  | scalar c => if c.isDigit then some (c.toNat - '0'.toNat) else none
  | surrogate _ => none

def hexDigit? : CodePoint → Option Nat
  | scalar c =>
    if c.isDigit then some (c.toNat - '0'.toNat)
    else if 'a' ≤ c ∧ c ≤ 'f' then some (c.toNat - 'a'.toNat + 10)
    else if 'A' ≤ c ∧ c ≤ 'F' then some (c.toNat - 'A'.toNat + 10)
    else none
  | surrogate _ => none

end CodePoint

abbrev Text := List CodePoint

namespace Text

def ofString (s : String) : Text := s.toList.map .scalar

instance : Coe String Text := ⟨ofString⟩

/-- The text as a string, for a caller that can show scalar values only. -/
def toString (t : Text) : String :=
  String.ofList (t.map fun
    | .scalar c => c
    | .surrogate _ => '\uFFFD')

/-- Every code point is a scalar value, so the text has an encoding in bytes. -/
def isScalar (t : Text) : Bool := t.all CodePoint.isScalar

/-- What follows `lead` when the text begins with it. -/
def after? : (lead t : Text) → Option Text
  | [], t => some t
  | _ :: _, [] => none
  | a :: lead, b :: t => if a = b then after? lead t else none

@[simp] theorem after?_nil (t : Text) : after? [] t = some t := rfl

theorem after?_append (lead t : Text) : after? lead (lead ++ t) = some t := by
  induction lead with
  | nil => rfl
  | cons a lead ih => simpa [after?] using ih

theorem after?_cons_eq_none {c : CodePoint} {t : Text} (h : ∀ d ∈ t.head?, d ≠ c) (lead : Text) :
    after? (c :: lead) t = none := by
  cases t with
  | nil => rfl
  | cons d t => exact if_neg (h d rfl).symm

theorem eq_append_of_after? {lead t rest : Text} (h : after? lead t = some rest) :
    t = lead ++ rest := by
  induction lead generalizing t with
  | nil => simpa using h
  | cons a lead ih =>
    cases t with
    | nil => simp [after?] at h
    | cons b t =>
      by_cases hab : a = b
      · simp [after?, hab] at h
        simp [hab, ih h]
      · simp [after?, hab] at h

def startsWith (t lead : Text) : Bool := (after? lead t).isSome

/-- The text without `lead` in front, if it is there. -/
def without (lead t : Text) : Text := (after? lead t).getD t

/-- Whether `needle` occurs somewhere in the text. -/
def includes (needle : Text) : Text → Bool
  | [] => needle.isEmpty
  | c :: t => startsWith (c :: t) needle || includes needle t

/-- Removes the code points with a property from both ends. -/
def trim (p : CodePoint → Bool) (t : Text) : Text :=
  ((t.dropWhile p).reverse.dropWhile p).reverse

/-- Removes the code points with a property from the end. -/
def trimRight (p : CodePoint → Bool) (t : Text) : Text := (t.reverse.dropWhile p).reverse

def join (separator : Text) (parts : List Text) : Text := List.intercalate separator parts

/-- The pieces between the occurrences of a mark; there is always at least one. -/
def splitAtMark (mark : CodePoint) : Text → List Text
  | [] => [[]]
  | c :: t =>
    if c = mark then [] :: splitAtMark mark t
    else
      match splitAtMark mark t with
      | [] => [[c]]
      | piece :: pieces => (c :: piece) :: pieces

def ofNat (n : Nat) : Text := (Nat.toDigits 10 n).map .scalar

/-- Decimal notation of an integer, with a minus sign below zero. -/
def ofInt : Int → Text
  | .ofNat n => ofNat n
  | .negSucc n => .scalar '-' :: ofNat (n + 1)

/-- Decimal notation filled up with zeros on the left. -/
def padded (width n : Nat) : Text :=
  let digits := ofNat n
  List.replicate (width - digits.length) (.scalar '0') ++ digits

/-- Lower-case hexadecimal notation filled up with zeros on the left. -/
def hexadecimal (width n : Nat) : Text :=
  let digits : Text := (Nat.toDigits 16 n).map .scalar
  List.replicate (width - digits.length) (.scalar '0') ++ digits

/-- The number that a row of digit values denotes. -/
def number (digits : List Nat) : Nat := digits.foldl (fun n d => 10 * n + d) 0

/-- The longest row of ASCII digits in front, as values, and the rest. -/
def spanDigits : Text → List Nat × Text
  | [] => ([], [])
  | c :: t =>
    match c.digit? with
    | some d => (d :: (spanDigits t).1, (spanDigits t).2)
    | none => ([], c :: t)

/-- A fixed number of ASCII digits in front, as a number, and the rest. -/
def digits? (count : Nat) (t : Text) : Option (Nat × Text) :=
  let lead := t.take count
  if lead.length = count then
    (lead.mapM CodePoint.digit?).map fun ds => (number ds, t.drop count)
  else none

/-- Order by code point number, the shorter of two first when one begins the other. -/
def le : Text → Text → Bool
  | [], _ => true
  | _ :: _, [] => false
  | a :: s, b :: t => if a.value = b.value then le s t else a.value < b.value

end Text

end SchemaQuery
