import SchemaQuery.Text

/-!
# Case mappings

A case mapping sends a code point to one or more code points. Images of one code point are kept in
runs, since neighbours mostly move by the same distance; images of several are listed one by one.
-/

namespace SchemaQuery

/-- The code points `first`, `first + step`, … up to `last`, sent to `image`, `image + step`, …. -/
structure CaseRun where
  first : Nat
  last : Nat
  step : Nat
  image : Nat

namespace CaseRun

def holds (run : CaseRun) (n : Nat) : Bool :=
  run.first ≤ n && n ≤ run.last && (n - run.first) % run.step == 0

def apply (run : CaseRun) (n : Nat) : Nat := run.image + (n - run.first)

end CaseRun

/-- A case mapping; whatever it does not list stays as it is. -/
structure CaseMap where
  single : List CaseRun
  several : List (Nat × List Nat)

namespace CaseMap

variable (m : CaseMap)

/-- The image of one code point. Surrogates have no case. -/
def image : CodePoint → Text
  | .surrogate unit => [.surrogate unit]
  | .scalar c =>
    match m.single.find? (·.holds c.toNat) with
    | some run => [.ofNat (run.apply c.toNat)]
    | none =>
      match m.several.lookup c.toNat with
      | some images => images.map .ofNat
      | none => [.scalar c]

def apply (t : Text) : Text := t.flatMap m.image

@[simp] theorem apply_nil : m.apply [] = [] := rfl

@[simp] theorem apply_append (s t : Text) : m.apply (s ++ t) = m.apply s ++ m.apply t :=
  List.flatMap_append

end CaseMap

end SchemaQuery
