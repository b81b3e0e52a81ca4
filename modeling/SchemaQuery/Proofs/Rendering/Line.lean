import SchemaQuery.Proofs.Outcome
import SchemaQuery.Rendering

/-!
# Lines of pages

A page is looked through down to its title and its status. Where something is missing on the way, it
is shown without them. But three parts of a page have to be objects unless they are absent: its
properties, the value of its title property and the first fragment of its title. One page in which
one of these is something else leaves all pages unshown.
-/

namespace SchemaQuery

namespace Json

/-- An object, or nothing that would be looked through. -/
def IsSearchable (v : Json) : Prop := v.isAbsent = true ∨ ∃ entries, v = object entries

def present? (key : Text) (v : Json) : Option Json := (v.member? key).filter fun w => !w.isAbsent

variable {v : Json} {key : Text}

theorem isSearchable_null : null.IsSearchable := .inl rfl

theorem get_eq (key : Text) (entries : Entries Json) :
    get key entries = ((object entries).member? key).getD null := rfl

theorem present?_object (key : Text) (entries : Entries Json) :
    (object entries).present? key =
      if (get key entries).isAbsent then none else some (get key entries) := by
  rw [present?, get_eq]
  cases (object entries).member? key with
  | none => rfl
  | some v => cases habsent : v.isAbsent <;> simp [Option.filter, habsent]

theorem IsSearchable.members (h : v.IsSearchable) :
    ∃ entries, v.members = .ok entries ∧
      ∀ key, (object entries).member? key = v.member? key := by
  unfold Json.members
  by_cases habsent : v.isAbsent = true
  · refine ⟨[], if_pos habsent, ?_⟩
    intro key
    cases v with
    | object entries =>
      rw [isAbsent, List.isEmpty_iff] at habsent
      rw [habsent]
    | null | bool | int | float | string | array => rfl
  · obtain ⟨entries, rfl⟩ := h.resolve_left habsent
    exact ⟨entries, if_neg habsent, fun _ => rfl⟩

theorem members_of_not_isSearchable (h : ¬v.IsSearchable) : v.members = .error .notObject := by
  rw [IsSearchable, not_or] at h
  unfold Json.members
  rw [if_neg h.1]
  cases v with
  | object entries => exact absurd ⟨entries, rfl⟩ h.2
  | null | bool | int | float | string | array => rfl

end Json

namespace Page

variable {titleProperty : Option Text} {page v : Json} {entries : Entries Json}

/-! ### What is looked for -/

def titleValue? (titleProperty : Option Text) (page : Json) : Option Json :=
  match titleProperty.getD [] with
  | [] => none
  | key => (page.member? "properties").bind (·.member? key)

def fragment? (value : Json) : Option Json :=
  match value.member? "title" with
  | some (.array (first :: _)) => some first
  | _ => none

def shownTitle? (titleProperty : Option Text) (page : Json) : Option Json :=
  ((titleValue? titleProperty page).bind fragment?).bind (·.present? "plain_text")

def shownStatus? (page : Json) : Option Json :=
  ((page.member? "properties").bind (·.member? statusProperty)).bind fun property =>
    ((property.member? "select").bind (·.present? "name")).orElse fun _ =>
      (property.member? "status").bind (·.present? "name")

def suffix (name : Option Json) : Text := name.elim [] fun name => " (" ++ name.shown ++ ")"

/-- The title of a page, and its status behind it if it has one. -/
def shownLine (titleProperty : Option Text) (page : Json) : Text :=
  bullet ++ (shownTitle? titleProperty page).elim untitled Json.shown ++ suffix (shownStatus? page)

/-- What of a page is looked through as if it were an object. -/
inductive IsSearched (titleProperty : Option Text) (page : Json) : Json → Prop
  | properties {v : Json} : page.member? "properties" = some v → IsSearched titleProperty page v
  | titleValue {v : Json} : titleValue? titleProperty page = some v →
    IsSearched titleProperty page v
  | fragment {value v : Json} : titleValue? titleProperty page = some value →
    fragment? value = some v → IsSearched titleProperty page v

/-- Whatever is looked through can be. -/
def IsRegular (titleProperty : Option Text) (page : Json) : Prop :=
  ∀ v, IsSearched titleProperty page v → v.IsSearchable

/-! ### The status -/

theorem choiceName?_eq (property : Entries Json) (type : Text) :
    choiceName? property type =
      ((Json.object property).member? type).bind (·.present? "name") := by
  unfold choiceName?
  rw [Json.get_eq]
  cases (Json.object property).member? type with
  | none => rfl
  | some value =>
    cases value with
    | object fields => exact (Json.present?_object "name" fields).symm
    | null | bool | int | float | string | array => rfl

theorem isSearchable_get {key : Text}
    (h : ∀ v, (Json.object entries).member? key = some v → v.IsSearchable) :
    (Json.get key entries).IsSearchable := by
  rw [Json.get_eq]
  cases hv : (Json.object entries).member? key with
  | none => exact Json.isSearchable_null
  | some v => exact h v hv

theorem status_of_isSearchable
    (h : ∀ v, (Json.object entries).member? "properties" = some v → v.IsSearchable) :
    status entries = .ok (shownStatus? (.object entries)) := by
  obtain ⟨properties, hproperties, hmember⟩ := (isSearchable_get h).members
  have hlook : ((Json.object entries).member? "properties").bind (·.member? statusProperty) =
      (Json.object properties).member? statusProperty := by
    rw [hmember, Json.get_eq]
    cases (Json.object entries).member? "properties" <;> rfl
  unfold status shownStatus?
  rw [hproperties, hlook]
  simp only [bind, Except.bind, Json.get_eq]
  cases (Json.object properties).member? statusProperty with
  | none => rfl
  | some property =>
    cases property with
    | object fields =>
      simp only [Option.getD_some, choiceName?_eq, Option.bind_some]
      rfl
    | null | bool | int | float | string | array => rfl

theorem status_of_not_isSearchable (hv : (Json.object entries).member? "properties" = some v)
    (h : ¬v.IsSearchable) : status entries = .error .notObject := by
  have hget : Json.get "properties" entries = v := by
    rw [Json.get_eq, hv, Option.getD_some]
  unfold status
  rw [hget, Json.members_of_not_isSearchable h]
  rfl

/-! ### The title -/

def titleOf (value : Json) : Except Misuse Text := do
  match Json.get "title" (← value.members) with
  | .array (first :: _) =>
    let text := Json.get "plain_text" (← first.members)
    return if text.isAbsent then untitled else text.shown
  | _ => return untitled

theorem title_eq (titleProperty : Option Text) (entries : Entries Json) :
    title titleProperty entries =
      (titleValue? titleProperty (.object entries)).elim (.ok untitled) titleOf := by
  unfold title titleValue?
  cases titleProperty.getD [] with
  | nil => rfl
  | cons c key =>
    simp only [Json.get_eq]
    cases (Json.object entries).member? "properties" with
    | none => rfl
    | some properties =>
      cases properties with
      | object properties =>
        simp only [Option.getD_some, Option.bind_some]
        cases (Json.object properties).member? (c :: key) with
        | none => rfl
        | some value => rfl
      | null | bool | int | float | string | array => rfl

theorem exists_properties {value : Json} (h : titleValue? titleProperty page = some value) :
    ∃ properties, page.member? "properties" = some (.object properties) := by
  unfold titleValue? at h
  split at h
  · cases h
  · obtain ⟨properties, hproperties, hvalue⟩ := Option.bind_eq_some_iff.1 h
    cases properties with
    | object properties => exact ⟨properties, hproperties⟩
    | null | bool | int | float | string | array => cases hvalue

theorem titleOf_of_isSearchable {value : Json} (hvalue : value.IsSearchable)
    (hfirst : ∀ v, fragment? value = some v → v.IsSearchable) :
    titleOf value =
      .ok (((fragment? value).bind (·.present? "plain_text")).elim untitled Json.shown) := by
  obtain ⟨fields, hfields, hmember⟩ := hvalue.members
  have hfragment : fragment? value = fragment? (.object fields) := by
    rw [fragment?, ← hmember]
    rfl
  rw [hfragment] at hfirst ⊢
  unfold titleOf
  rw [hfields]
  unfold fragment? at hfirst ⊢
  simp only [bind, Except.bind, Json.get_eq]
  cases htitle : (Json.object fields).member? "title" with
  | none => rfl
  | some title =>
    rw [htitle] at hfirst
    cases title with
    | array items =>
      cases items with
      | nil => rfl
      | cons first rest =>
        obtain ⟨members, hmembers, hsame⟩ := (hfirst first rfl).members
        have hpresent :
            first.present? "plain_text" = (Json.object members).present? "plain_text" := by
          rw [Json.present?, ← hsame]
          rfl
        simp only [Option.getD_some, Option.bind_some, hmembers, hpresent, Json.present?_object,
          ← Json.get_eq]
        split <;> rfl
    | null | bool | int | float | string | object => rfl

theorem titleOf_of_not_isSearchable {value : Json} (h : ¬value.IsSearchable) :
    titleOf value = .error .notObject := by
  unfold titleOf
  rw [Json.members_of_not_isSearchable h]
  rfl

theorem titleOf_of_fragment? {value first : Json} (hvalue : value.IsSearchable)
    (hfirst : fragment? value = some first) (h : ¬first.IsSearchable) :
    titleOf value = .error .notObject := by
  obtain ⟨fields, hfields, hmember⟩ := hvalue.members
  unfold titleOf
  rw [hfields]
  unfold fragment? at hfirst
  rw [← hmember] at hfirst
  simp only [bind, Except.bind, Json.get_eq]
  split at hfirst
  · rename_i htitle
    cases hfirst
    rw [htitle]
    simp only [Option.getD_some, Json.members_of_not_isSearchable h]
  · cases hfirst

/-! ### The line -/

theorem shownLine_of_member?_eq_none (titleProperty : Option Text)
    (h : page.member? "properties" = none) :
    shownLine titleProperty page = bullet ++ untitled := by
  have hvalue : titleValue? titleProperty page = none := by
    rw [Option.eq_none_iff_forall_ne_some]
    intro value hvalue
    obtain ⟨properties, hproperties⟩ := exists_properties hvalue
    rw [h] at hproperties
    cases hproperties
  rw [shownLine, shownTitle?, shownStatus?, hvalue, h]
  rfl

theorem line_of_member?_eq_none (h : (Json.object entries).member? "properties" = none) :
    line titleProperty (.object entries) = .ok (bullet ++ untitled) := by
  rw [Json.member?] at h
  unfold line Json.holds
  simp only [h]
  rfl

theorem line_of_member? (h : (Json.object entries).member? "properties" = some v) :
    line titleProperty (.object entries) = do
      let name ← status entries
      let title ← title titleProperty entries
      return bullet ++ title ++ suffix name := by
  rw [Json.member?] at h
  unfold line Json.holds
  simp only [h]
  cases status entries with
  | error e => rfl
  | ok name => cases name <;> rfl

theorem line_of_isRegular (h : IsRegular titleProperty (.object entries)) :
    line titleProperty (.object entries) = .ok (shownLine titleProperty (.object entries)) := by
  cases hproperties : (Json.object entries).member? "properties" with
  | none =>
    rw [line_of_member?_eq_none hproperties, shownLine_of_member?_eq_none _ hproperties]
  | some v =>
    have hstatus : status entries = .ok (shownStatus? (.object entries)) :=
      status_of_isSearchable fun w hw => h w (.properties hw)
    have htitle : title titleProperty entries =
        .ok ((shownTitle? titleProperty (.object entries)).elim untitled Json.shown) := by
      rw [title_eq, shownTitle?]
      cases hvalue : titleValue? titleProperty (.object entries) with
      | none => rfl
      | some value =>
        exact titleOf_of_isSearchable (h value (.titleValue hvalue))
          fun w hw => h w (.fragment hvalue hw)
    rw [line_of_member? hproperties, hstatus, htitle]
    rfl

theorem line_of_titleOf {value : Json}
    (hvalue : titleValue? titleProperty (.object entries) = some value)
    (h : titleOf value = .error .notObject) :
    line titleProperty (.object entries) = .error .notObject := by
  obtain ⟨properties, hproperties⟩ := exists_properties hvalue
  have hstatus : status entries = .ok (shownStatus? (.object entries)) := by
    apply status_of_isSearchable
    intro v hv
    rw [hproperties] at hv
    cases hv
    exact .inr ⟨properties, rfl⟩
  rw [line_of_member? hproperties, hstatus, title_eq, hvalue, Option.elim_some, h]
  rfl

theorem line_of_not_isRegular (h : ¬IsRegular titleProperty (.object entries)) :
    line titleProperty (.object entries) = .error .notObject := by
  simp only [IsRegular, not_forall] at h
  obtain ⟨v, hv, hforeign⟩ := h
  cases hv with
  | properties hproperties =>
    rw [line_of_member? hproperties, status_of_not_isSearchable hproperties hforeign]
    rfl
  | titleValue hvalue => exact line_of_titleOf hvalue (titleOf_of_not_isSearchable hforeign)
  | @fragment value _ hvalue hfirst =>
    by_cases hsearchable : value.IsSearchable
    · exact line_of_titleOf hvalue (titleOf_of_fragment? hsearchable hfirst hforeign)
    · exact line_of_titleOf hvalue (titleOf_of_not_isSearchable hsearchable)

theorem line_of_notObject (h : ∀ entries, page ≠ .object entries) {l : Text}
    (hline : line titleProperty page = .ok l) : l = bullet ++ untitled := by
  unfold line at hline
  obtain ⟨found, -, hline⟩ := Except.bind_eq_ok.1 hline
  cases found with
  | false =>
    cases hline
    rfl
  | true =>
    cases page with
    | object entries => exact absurd rfl (h entries)
    | null | bool | int | float | string | array => cases hline

/-- Whenever a page has a line, it is the one with the title and the status that are there. -/
theorem eq_shownLine {l : Text} (h : line titleProperty page = .ok l) :
    l = shownLine titleProperty page := by
  by_cases hobject : ∃ entries, page = .object entries
  · obtain ⟨entries, rfl⟩ := hobject
    by_cases hregular : IsRegular titleProperty (.object entries)
    · rw [line_of_isRegular hregular] at h
      exact (Except.ok.inj h).symm
    · rw [line_of_not_isRegular hregular] at h
      cases h
  · rw [line_of_notObject (not_exists.1 hobject) h]
    have hproperties : page.member? "properties" = none := by
      cases page with
      | object entries => exact absurd ⟨entries, rfl⟩ hobject
      | null | bool | int | float | string | array => rfl
    exact (shownLine_of_member?_eq_none _ hproperties).symm

end Page

/-! ### All lines -/

variable {schema : DatabaseSchema} {t : Text}

theorem renderPages_eq_ok {pages : List Json} :
    renderPages schema pages = .ok t ↔
      ∃ lines,
        List.Forall₂ (fun page l => Page.line schema.titleProperty? page = .ok l) pages lines ∧
        Text.join "\n" lines = t := by
  rw [renderPages, Except.map_eq_ok]
  simp only [Except.mapM_eq_ok]

theorem renderPages_of_isRegular {pages : List (Entries Json)}
    (h : ∀ page ∈ pages, Page.IsRegular schema.titleProperty? (.object page)) :
    renderPages schema (pages.map .object) = .ok (Text.join "\n" (pages.map fun page =>
      Page.shownLine schema.titleProperty? (.object page))) := by
  refine renderPages_eq_ok.2 ⟨_, ?_, rfl⟩
  rw [List.forall₂_map_left_iff, List.forall₂_map_right_iff, List.forall₂_same]
  intro page hpage
  exact Page.line_of_isRegular (h page hpage)

theorem renderPages_of_not_isRegular {pages : List (Entries Json)} {page : Entries Json}
    (hpage : page ∈ pages) (h : ¬Page.IsRegular schema.titleProperty? (.object page)) :
    renderPages schema (pages.map .object) = .error .notObject := by
  cases hlines : (pages.map Json.object).mapM (Page.line schema.titleProperty?) with
  | ok lines =>
    have hline := (List.forall₂_map_left_iff.1 (Except.mapM_eq_ok.1 hlines)).flip
    obtain ⟨l, -, hl⟩ := exists_of_forall₂ hline page hpage
    rw [Page.line_of_not_isRegular h] at hl
    cases hl
  | error e =>
    obtain ⟨v, hv, he⟩ := Except.exists_of_mapM_eq_error hlines
    obtain ⟨other, -, rfl⟩ := List.mem_map.1 hv
    by_cases hregular : Page.IsRegular schema.titleProperty? (.object other)
    · rw [Page.line_of_isRegular hregular] at he
      cases he
    · rw [Page.line_of_not_isRegular hregular] at he
      cases he
      rw [renderPages, hlines]
      rfl

/-- Pages are shown just when whatever is looked through in them can be, and then each of them by
its own title and status. Otherwise none of them is. -/
theorem renderPages_eq_iff_isRegular (schema : DatabaseSchema) (pages : List (Entries Json)) :
    (∀ t, renderPages schema (pages.map .object) = .ok t ↔
      (∀ page ∈ pages, Page.IsRegular schema.titleProperty? (.object page)) ∧
        t = Text.join "\n" (pages.map fun page =>
          Page.shownLine schema.titleProperty? (.object page))) ∧
    ∀ e, renderPages schema (pages.map .object) = .error e ↔
      e = .notObject ∧ ∃ page ∈ pages, ¬Page.IsRegular schema.titleProperty? (.object page) := by
  by_cases hregular : ∀ page ∈ pages, Page.IsRegular schema.titleProperty? (.object page)
  · rw [renderPages_of_isRegular hregular]
    constructor
    · intro t
      rw [Except.ok.injEq, eq_comm]
      exact (and_iff_right hregular).symm
    · intro e
      constructor
      · intro h
        cases h
      · rintro ⟨-, page, hpage, hodd⟩
        exact absurd (hregular page hpage) hodd
  · obtain ⟨page, hpage, hodd⟩ : ∃ page ∈ pages,
        ¬Page.IsRegular schema.titleProperty? (.object page) := by
      simpa only [not_forall, exists_prop] using hregular
    rw [renderPages_of_not_isRegular hpage hodd]
    constructor
    · intro t
      constructor
      · intro h
        cases h
      · rintro ⟨h, -⟩
        exact absurd h hregular
    · intro e
      rw [Except.error.injEq, eq_comm]
      exact (and_iff_left ⟨page, hpage, hodd⟩).symm

def namedTasks : DatabaseSchema where
  id := "t1"
  title := "Tasks"
  properties := ⟨[("Name", ⟨"n", "title", "Name", none⟩)], by decide⟩
  lastUpdated := ⟨.first, .midnight, none⟩

def taskPage (title : Text) : Entries Json :=
  [("properties", .object
    [("Name", .object [("title", .array [.object [("plain_text", .string title)]])])])]

/-- A list stands where the properties of this page should be. -/
def listPage : Entries Json := [("properties", .array [.int 1])]

/-- The page alone would be untitled, and the other page has a line without it. -/
theorem renderPages_listPage :
    renderPages namedTasks ([taskPage "Tea"].map .object) = .ok "• Tea" ∧
      Page.shownLine namedTasks.titleProperty? (.object listPage) = "• Untitled" ∧
      renderPages namedTasks ([taskPage "Tea", listPage].map .object) = .error .notObject :=
  ⟨rfl, rfl, rfl⟩

end SchemaQuery
