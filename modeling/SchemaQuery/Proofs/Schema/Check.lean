import SchemaQuery.Proofs.Outcome
import SchemaQuery.Proofs.Table
import SchemaQuery.Schema.Check

/-!
# Requests that fit a schema

A request fits a schema when every filter does and the property to sort by is there. One that does
not is refused for its first filter that does not fit, and for its order only if all filters fit.
-/

namespace SchemaQuery.DatabaseSchema

variable {schema : DatabaseSchema} {filters : List FilterSpec} {sort : Option SortSpec}
  {e : FitError}

structure Accepts (schema : DatabaseSchema) (filters : List FilterSpec) (sort : Option SortSpec) :
    Prop where
  filters : ∀ f ∈ filters, f.check schema = .ok ()
  sort : ∀ s ∈ sort, s.property ∈ schema.properties.keys

inductive Refuses (schema : DatabaseSchema) (filters : List FilterSpec) (sort : Option SortSpec) :
    FitError → Prop
  | filter (before after : List FilterSpec) {f : FilterSpec} {e : FitError} :
    filters = before ++ f :: after → (∀ g ∈ before, g.check schema = .ok ()) →
    f.check schema = .error e → Refuses schema filters sort e
  | sort {s : SortSpec} : (∀ f ∈ filters, f.check schema = .ok ()) → sort = some s →
    s.property ∉ schema.properties.keys →
    Refuses schema filters sort (.unknownSort s.property schema.title)

theorem checkRequest_of_filters (h : ∀ f ∈ filters, f.check schema = .ok ()) :
    schema.checkRequest filters sort =
      match sort with
      | some s =>
        if schema.properties.contains s.property then .ok ()
        else .error (.unknownSort s.property schema.title)
      | none => .ok () := by
  unfold checkRequest
  rw [Except.forM_eq_ok.2 h]
  rfl

theorem checkRequest_eq_ok : schema.checkRequest filters sort = .ok () ↔
    schema.Accepts filters sort := by
  constructor
  · intro h
    obtain ⟨⟨⟩, hfilters, -⟩ := Except.bind_eq_ok.1 h
    rw [Except.forM_eq_ok] at hfilters
    refine ⟨hfilters, ?_⟩
    rw [checkRequest_of_filters hfilters] at h
    rintro s ⟨⟩
    simp only at h
    split at h
    · rename_i hcontains
      exact schema.properties.contains_iff.1 hcontains
    · cases h
  · rintro ⟨hfilters, hsort⟩
    rw [checkRequest_of_filters hfilters]
    cases sort with
    | none => rfl
    | some s => exact if_pos (schema.properties.contains_iff.2 (hsort s rfl))

theorem checkRequest_eq_error : schema.checkRequest filters sort = .error e ↔
    schema.Refuses filters sort e := by
  constructor
  · intro h
    cases hfilters : filters.forM (FilterSpec.check schema) with
    | error d =>
      unfold checkRequest at h
      rw [hfilters] at h
      cases h
      obtain ⟨before, f, after, heq, hbefore, hf⟩ := Except.forM_eq_error.1 hfilters
      exact .filter before after heq hbefore hf
    | ok _ =>
      rw [Except.forM_eq_ok] at hfilters
      rw [checkRequest_of_filters hfilters] at h
      split at h
      · split at h
        · cases h
        · rename_i hcontains
          cases h
          exact .sort hfilters rfl fun hmem => hcontains (schema.properties.contains_iff.2 hmem)
      · cases h
  · intro h
    cases h with
    | filter _ _ heq hbefore hf =>
      unfold checkRequest
      rw [Except.forM_eq_error.2 ⟨_, _, _, heq, hbefore, hf⟩]
      rfl
    | sort hfilters hsort hmissing =>
      subst hsort
      rw [checkRequest_of_filters hfilters]
      exact if_neg fun hcontains => hmissing (schema.properties.contains_iff.1 hcontains)

end SchemaQuery.DatabaseSchema
