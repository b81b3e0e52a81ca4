import SchemaQuery.Proofs.Query.Compile

/-!
# The operand of an upcoming week

A date filter that asks for the upcoming week comes with an operand that means nothing. Nobody looks
at it: the schema is only asked about texts that are compared with an option, and the leaf is found
from the moment alone. So two requests that differ in such operands come to the same, down to what
is reported on the way.
-/

namespace SchemaQuery

namespace FilterSpec

variable {f g : FilterSpec}

/-- Two filters that ask the same: they differ at most in the operand of an upcoming week. -/
inductive AsksAlike : FilterSpec → FilterSpec → Prop
  | same (f : FilterSpec) : AsksAlike f f
  | upcoming {f : FilterSpec} (v : Json) : f.filterType = "date" → f.operator = nextWeek →
    AsksAlike f { f with value := v }

theorem AsksAlike.leaf (h : f.AsksAlike g) (now : Moment) : f.leaf now = g.leaf now := by
  cases h with
  | same => rfl
  | upcoming v hdate hoperator =>
    rw [leaf_of_date hdate, leaf_of_date (f := { f with value := v }) hdate, dateLeaf, dateLeaf,
      if_pos hoperator, if_pos hoperator]

/-- The upcoming week is not compared with an option, so no schema asks for its operand. -/
theorem comparedOption?_of_nextWeek (h : f.operator = nextWeek) : f.comparedOption? = none := by
  apply if_neg
  rw [h]
  decide

theorem AsksAlike.check (h : f.AsksAlike g) (schema : DatabaseSchema) :
    f.check schema = g.check schema := by
  cases h with
  | same => rfl
  | upcoming v hdate hoperator =>
    have hoption (p : Property) : f.checkOption p = checkOption { f with value := v } p := by
      unfold checkOption
      rw [comparedOption?_of_nextWeek hoperator,
        comparedOption?_of_nextWeek (f := { f with value := v }) hoperator]
    unfold FilterSpec.check
    simp only [hoption]

end FilterSpec

open FilterSpec (AsksAlike)

variable {filters others : List FilterSpec}

theorem DatabaseSchema.checkRequest_congr (h : List.Forall₂ AsksAlike filters others)
    (schema : DatabaseSchema) (sort : Option SortSpec) :
    schema.checkRequest filters sort = schema.checkRequest others sort := by
  have hfilters :
      filters.forM (FilterSpec.check schema) = others.forM (FilterSpec.check schema) := by
    induction h with
    | nil => rfl
    | cons hf _ ih => rw [Except.forM_cons, Except.forM_cons, hf.check schema, ih]
  unfold checkRequest
  rw [hfilters]

namespace Compiler

variable {c : Compiler} {name : Text} {sort : Option SortSpec} {now : Moment}

theorem check_congr (h : List.Forall₂ AsksAlike filters others) :
    c.check name filters sort = c.check name others sort := by
  unfold check
  simp only [DatabaseSchema.checkRequest_congr h]

theorem leaves_congr (h : List.Forall₂ AsksAlike filters others) :
    leaves now filters = leaves now others := by
  induction h with
  | nil => rfl
  | cons hf _ ih =>
    unfold leaves
    rw [hf.leaf now, ih]

/-- Requests that ask the same come to the same query or to the same error, with the same reports.
-/
theorem compile_eq_of_asksAlike (h : List.Forall₂ AsksAlike filters others) :
    c.compile name filters sort now = c.compile name others sort now := by
  unfold compile
  simp only [check_congr h, leaves_congr h]

/-- The filters of `missingLast`, with words about another week beside the upcoming one. -/
def phrasedFirst : List FilterSpec :=
  [⟨"Due", "date", FilterSpec.nextWeek, .string "week of 3 May"⟩,
    ⟨"Owner", "people", "contains", .string "me"⟩]

theorem compile_eq_of_asksAlike_phrasedFirst :
    List.Forall₂ AsksAlike missingLast phrasedFirst ∧
      (dueDates.compile "tasks" missingLast none default).value =
        .error (.misfit (.unknownProperty "Owner" "Tasks")) ∧
      dueDates.compile "tasks" missingLast none default =
        dueDates.compile "tasks" phrasedFirst none default := by
  have halike : List.Forall₂ AsksAlike missingLast phrasedFirst :=
    .cons (.upcoming (.string "week of 3 May") rfl rfl) (.cons (.same _) .nil)
  exact ⟨halike, rfl, compile_eq_of_asksAlike halike⟩

end Compiler

end SchemaQuery
