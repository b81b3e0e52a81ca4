import SchemaQuery.Json

/-!
# Issues of a document

A document that was decoded is checked against a shape. The check does not stop at the first fault:
it lists every issue with the place where it was found, the fields in the order of their declaration
and unexpected members last.
-/

namespace SchemaQuery

/-- What is wrong in one place. -/
inductive Fault where
  | missing
  | unexpected
  | notText
  /-- A text holds a lone surrogate. -/
  | notEncodable
  | emptyText
  | notObject
  | notList
  | notTable
  | notOptions
  | notOneOf
  | notMoment
  | unreadableMoment
  | momentOutOfRange
  | notNumber
  | notPositive
  deriving DecidableEq

inductive Step where
  | key (name : Text)
  | index (i : Nat)
  deriving DecidableEq

structure Issue where
  fault : Fault
  place : List Step
  deriving DecidableEq

/-- A value, or all that is wrong with the document it was to be read from. -/
inductive Checked (α : Type) where
  | valid (a : α)
  | invalid (issues : List Issue)

namespace Checked

variable {α β : Type}

def map (f : α → β) : Checked α → Checked β
  | valid a => valid (f a)
  | invalid issues => invalid issues

/-- Both sides are checked, and the issues of both are kept. -/
def apply : Checked (α → β) → Checked α → Checked β
  | valid f, x => x.map f
  | invalid issues, valid _ => invalid issues
  | invalid issues, invalid more => invalid (issues ++ more)

instance : Functor Checked := ⟨map, fun a => map fun _ => a⟩

instance : Applicative Checked where
  pure := valid
  seq f x := apply f (x ())

def fault (f : Fault) : Checked α := invalid [⟨f, []⟩]

/-- The same check, seen from one step further out. -/
def within (step : Step) : Checked α → Checked α
  | valid a => valid a
  | invalid issues => invalid (issues.map fun i => { i with place := step :: i.place })

def list : List (Checked α) → Checked (List α)
  | [] => valid []
  | x :: xs => apply (x.map List.cons) (list xs)

def items (check : Json → Checked α) (xs : List Json) : Checked (List α) :=
  list ((xs.zipIdx).map fun (x, i) => (check x).within (.index i))

/-- Checks the member under a key, which must be there. -/
def required (key : Text) (check : Json → Checked α) (entries : Entries Json) : Checked α :=
  match entries.find? key with
  | some v => (check v).within (.key key)
  | none => (fault .missing).within (.key key)

/-- Checks the member under a key if it is there. -/
def optional (key : Text) (absent : α) (check : Json → Checked α) (entries : Entries Json) :
    Checked α :=
  match entries.find? key with
  | some v => (check v).within (.key key)
  | none => valid absent

/-- Checks the member under the first of two keys that is there. -/
def either (key other : Text) (check : Json → Checked α) (entries : Entries Json) : Checked α :=
  match entries.find? key, entries.find? other with
  | none, some v => (check v).within (.key other)
  | _, _ => required key check entries

/-- Refuses every member whose key is not among the known ones. -/
def noOthers (known : List Text) (entries : Entries Json) : Checked Unit :=
  (list ((entries.keys.filter (!known.contains ·)).map fun key =>
    ((fault .unexpected).within (.key key) : Checked Unit))).map fun _ => ()

end Checked

/-- Any text. -/
def Json.checkText : Json → Checked Text
  | .string t => .valid t
  | _ => .fault .notText

def reportIssues (kind : Text) (issues : List Issue) : Text :=
  List.flatten [Text.ofNat issues.length,
    if issues.length = 1 then " validation error for " else " validation errors for ", kind]

end SchemaQuery
