import SchemaQuery.Proofs.Json.Decoded
import SchemaQuery.Proofs.Schema.Conversion

/-!
# Schemas that keep everything

A schema keeps a database object when it has its id, every property under its key and in its place,
and every option of a property of an enumerated type. A conversion has no other result: it succeeds
with the schema that keeps everything, and fails when there is none. So what cannot be used is never
left out. Main statement: `schema_eq_ok_iff_keeps`.
-/

namespace SchemaQuery

/-- The values of a property of such a type are chosen from options. -/
def Property.IsEnumeratedType (type : Text) : Prop :=
  type = "select" ∨ type = "multi_select" ∨ type = "status"

theorem Property.contains_enumeratedTypes_iff {type : Text} :
    enumeratedTypes.contains type = true ↔ IsEnumeratedType type := by
  simp [enumeratedTypes, IsEnumeratedType]

namespace Json

/-- A value has a row under a key. The row is there in its form, or it is empty because nothing is
there, or only what counts as absent. -/
inductive Lists {α : Type} (form : List α → Json) (v : Json) (key : Text) : List α → Prop
  | absent : (∀ w ∈ v.member? key, w.isAbsent = true) → Lists form v key []
  | present {row : List α} : v.member? key = some (form row) → Lists form v key row

def property? (raw : Json) (key : Text) : Option Json :=
  (raw.member? "properties").bind (member? key)

/-- No property stands twice in a database object. -/
def HasDistinctProperties (raw : Json) : Prop :=
  ∀ members, raw.member? "properties" = some (.object members) → (Entries.keys members).Nodup

/-- An item among the options of a property of an enumerated type. -/
def HasOption (entry item : Json) : Prop :=
  ∃ type items, entry.member? "type" = some (.string type) ∧ Property.IsEnumeratedType type ∧
    (entry.member? type).bind (member? "options") = some (.array items) ∧ item ∈ items

def isTitle (entry : Json) : Bool :=
  match entry.member? "type" with
  | some (string type) => type = "title"
  | _ => false

theorem IsDecoded.hasDistinctProperties {raw : Json} (h : raw.IsDecoded) :
    raw.HasDistinctProperties := by
  intro members hmembers
  cases h with
  | object _ hvalues =>
    cases hvalues _ (Entries.mem_of_find? hmembers) with
    | object hnodup _ => exact hnodup
  | null | bool | int | float | string | array => cases hmembers

theorem Lists.find?_eq_some {v w : Json} {key inner : Text} {members : Entries Json}
    (h : v.Lists object key members) (hw : (v.member? key).bind (member? inner) = some w) :
    Entries.find? inner members = some w := by
  obtain ⟨u, hu, hw⟩ := Option.bind_eq_some_iff.1 hw
  cases h with
  | absent habsent =>
    have hempty := habsent u hu
    cases u with
    | object entries =>
      obtain rfl : entries = [] := by simpa [isAbsent] using hempty
      cases hw
    | null | bool | int | float | string | array => cases hw
  | present hmembers =>
    rw [hmembers] at hu
    cases hu
    exact hw

theorem Lists.eq_of_member? {v : Json} {key : Text} {items row : List Json}
    (h : v.Lists array key row) (hitems : v.member? key = some (array items)) : row = items := by
  cases h with
  | absent habsent =>
    have hempty := habsent _ hitems
    exact (List.isEmpty_iff.1 hempty).symm
  | present hrow =>
    rw [hrow] at hitems
    cases hitems
    rfl

variable {entries members : Entries Json} {items : List Json} {key : Text} {v : Json}

@[simp]
theorem member?_object : (object entries).member? key = Entries.find? key entries :=
  rfl

theorem get_of_member? (h : (object entries).member? key = some v) : get key entries = v := by
  rw [member?_object] at h
  rw [get, h, Option.getD_some]

theorem member?_of_present_get (h : ¬(get key entries).isAbsent = true) :
    (object entries).member? key = some (get key entries) := by
  rw [member?_object, get]
  rw [get] at h
  cases hfind : Entries.find? key entries with
  | none =>
    rw [hfind] at h
    exact absurd rfl h
  | some v => rfl

theorem isAbsent_get_iff : (get key entries).isAbsent = true ↔
    ∀ w ∈ (object entries).member? key, w.isAbsent = true := by
  rw [member?_object, get]
  cases Entries.find? key entries with
  | none => exact iff_of_true rfl (by simp)
  | some v => simp

theorem members_get_eq_ok_iff :
    (get key entries).members = .ok members ↔ (object entries).Lists object key members := by
  constructor
  · intro h
    unfold Json.members at h
    split at h
    · rename_i habsent
      cases h
      exact .absent (isAbsent_get_iff.1 habsent)
    · rename_i hpresent
      split at h <;> cases h
      rename_i hget
      exact .present (hget ▸ member?_of_present_get hpresent)
  · intro h
    unfold Json.members
    cases h with
    | absent habsent => rw [if_pos (isAbsent_get_iff.2 habsent)]
    | present hmember =>
      rw [get_of_member? hmember]
      cases members <;> rfl

theorem presentItems_get_of_lists (h : (object entries).Lists array key items) :
    (get key entries).presentItems = .ok items := by
  unfold presentItems
  cases h with
  | absent habsent => rw [if_pos (isAbsent_get_iff.2 habsent)]
  | present hmember =>
    rw [get_of_member? hmember]
    cases items <;> rfl

/-- What is gone through item by item is a list, or its items are texts. -/
theorem lists_of_presentItems_get (h : (get key entries).presentItems = .ok items) :
    (object entries).Lists array key items ∨ ∃ texts ≠ [], items = texts.map string := by
  unfold presentItems at h
  split at h
  · rename_i habsent
    cases h
    exact .inl (.absent (isAbsent_get_iff.1 habsent))
  rename_i hpresent
  have hmember := member?_of_present_get hpresent
  generalize get key entries = v at h hpresent hmember
  cases v with
  | array row =>
    cases h
    exact .inl (.present hmember)
  | object members =>
    cases h
    refine .inr ⟨Entries.keys members, ?_, by simp [Entries.keys]⟩
    simpa [isAbsent, Entries.keys] using hpresent
  | string t =>
    cases h
    refine .inr ⟨t.map fun c => [c], ?_, by simp⟩
    simpa [isAbsent] using hpresent
  | null | bool | int | float => cases h

end Json

/-! ### Options -/

namespace PropertyOption

/-- An option has the id and the name of an item, and its color if that has one. -/
structure Keeps (o : PropertyOption) (item : Json) : Prop where
  id : item.member? "id" = some (.string o.id)
  name : item.member? "name" = some (.string o.name)
  color : (item.member? "color").getD (.string "default") = .string o.color

theorem check_eq_valid_iff {item : Json} {o : PropertyOption} :
    check item = .valid o ↔ o.Keeps item := by
  cases item with
  | object entries =>
    simp only [check, Checked.seq_eq_valid, Checked.map_eq_valid, Checked.required_eq_valid,
      Checked.optional_eq_valid, checkText_eq_valid]
    constructor
    · rintro ⟨_, color, ⟨_, name, ⟨id, ⟨_, hid, rfl⟩, rfl⟩, ⟨_, hname, rfl⟩, rfl⟩, hcolor, rfl⟩
      refine ⟨hid, hname, Option.getD_eq_iff.2 ?_⟩
      rcases hcolor with ⟨hnone, rfl⟩ | ⟨_, hcolor, rfl⟩
      · exact .inr ⟨hnone, rfl⟩
      · exact .inl hcolor
    · rintro ⟨hid, hname, hcolor⟩
      refine ⟨_, o.color, ⟨_, o.name, ⟨o.id, ⟨_, hid, rfl⟩, rfl⟩, ⟨_, hname, rfl⟩, rfl⟩, ?_, rfl⟩
      rcases Option.getD_eq_iff.1 hcolor with hcolor | ⟨hnone, hdefault⟩
      · exact .inr ⟨_, hcolor, rfl⟩
      · exact .inl ⟨hnone, Json.string.inj hdefault⟩
  | null | bool | int | float | string | array =>
    constructor
    · intro h
      cases h
    · intro h
      cases h.id

end PropertyOption

namespace Conversion

theorem eq_nil_of_forall₂_string {texts : List Text} {options : List PropertyOption}
    (h : List.Forall₂ (fun item o => PropertyOption.Keeps o item) (texts.map Json.string) options) :
    texts = [] := by
  cases texts with
  | nil => rfl
  | cons t texts =>
    obtain ⟨o, _, hkeeps, -⟩ := List.forall₂_cons_left_iff.1 h
    cases hkeeps.id

theorem mapM_check_eq_ok_iff {items : List Json} {options : List PropertyOption} :
    items.mapM (fun item => ensure "PropertyOption" (PropertyOption.check item)) = .ok options ↔
      List.Forall₂ (fun item o => o.Keeps item) items options := by
  simp only [Except.mapM_eq_ok, ensure_eq_ok, PropertyOption.check_eq_valid_iff]

theorem options_eq_ok_iff {config : Json} {options : List PropertyOption} :
    Conversion.options config = .ok options ↔ ∃ members items, config.members = .ok members ∧
      (Json.object members).Lists .array "options" items ∧
      List.Forall₂ (fun item o => o.Keeps item) items options := by
  unfold Conversion.options
  simp only [Except.bind_eq_ok, use_eq_ok, mapM_check_eq_ok_iff]
  constructor
  · rintro ⟨members, hmembers, items, hitems, hkeeps⟩
    rcases Json.lists_of_presentItems_get hitems with hlists | ⟨texts, hne, rfl⟩
    · exact ⟨members, items, hmembers, hlists, hkeeps⟩
    · exact absurd (eq_nil_of_forall₂_string hkeeps) hne
  · rintro ⟨members, items, hmembers, hlists, hkeeps⟩
    exact ⟨members, hmembers, items, Json.presentItems_get_of_lists hlists, hkeeps⟩

end Conversion

/-! ### Properties -/

/-- Options are those that an entry lists under the name of a type, each in its place. -/
def PropertyOption.AreListed (options : List PropertyOption) (entry : Json) (type : Text) : Prop :=
  ∃ config items, entry.Lists .object type config ∧
    (Json.object config).Lists .array "options" items ∧
    List.Forall₂ (fun item o => PropertyOption.Keeps o item) items options

/-- A property has what the entry under a key says of it. Its name is the key unless the entry gives
one, and it has options when its type is an enumerated one. -/
structure Property.Keeps (p : Property) (key : Text) (entry : Json) : Prop where
  object : ∃ members, entry = .object members
  id : (entry.member? "id").getD (.string []) = .string p.id
  type : (entry.member? "type").getD (.string []) = .string p.type
  name : (entry.member? "name").getD (.string key) = .string p.name
  enumerated : p.options.isSome = true ↔ Property.IsEnumeratedType p.type
  options : ∀ options, p.options = some options → PropertyOption.AreListed options entry p.type

namespace Conversion

theorem optionsOfType_eq_ok_iff {entries : Entries Json} {type : Text}
    {options : Option (List PropertyOption)} :
    optionsOfType entries (.string type) = .ok options ↔
      (options.isSome = true ↔ Property.IsEnumeratedType type) ∧
        ∀ kept, options = some kept → PropertyOption.AreListed kept (.object entries) type := by
  have hcontains : Property.enumeratedTypes.contains type = true ↔ Property.IsEnumeratedType type :=
    Property.contains_enumeratedTypes_iff
  have hvalue : optionsOfType entries (.string type) =
      if Property.enumeratedTypes.contains type then
        some <$> Conversion.options (Json.get type entries)
      else .ok none := rfl
  rw [hvalue]
  split
  · rename_i htype
    simp only [Except.map_eq_ok, options_eq_ok_iff, Json.members_get_eq_ok_iff]
    constructor
    · rintro ⟨kept, hkept, rfl⟩
      refine ⟨iff_of_true rfl (hcontains.1 htype), ?_⟩
      rintro _ ⟨⟩
      exact hkept
    · rintro ⟨hsome, hkept⟩
      obtain ⟨kept, rfl⟩ := Option.isSome_iff_exists.1 (hsome.2 (hcontains.1 htype))
      exact ⟨kept, hkept kept rfl, rfl⟩
  · rename_i htype
    constructor
    · rintro ⟨⟩
      exact ⟨iff_of_false (by simp) (mt hcontains.2 htype), by simp⟩
    · rintro ⟨hsome, -⟩
      cases options with
      | none => rfl
      | some kept => exact absurd (hcontains.2 (hsome.1 rfl)) htype

/-- A type that is no text makes the conversion fail, if not as a type then as a text. -/
theorem property_object_eq_ok_iff {key : Text} {entries : Entries Json} {p : Property} :
    property key (.object entries) = .ok p ↔
      (Entries.find? "id" entries).getD (.string []) = .string p.id ∧
      (Entries.find? "type" entries).getD (.string []) = .string p.type ∧
      (Entries.find? "name" entries).getD (.string key) = .string p.name ∧
      optionsOfType entries (.string p.type) = .ok p.options := by
  unfold property
  simp only [Except.bind_eq_ok, ensure_eq_ok, Checked.seq_eq_valid, Checked.map_eq_valid,
    Checked.within_eq_valid, checkText_eq_valid]
  constructor
  · rintro ⟨_, hoptions, _, _,
      ⟨_, name, ⟨_, type, ⟨id, hid, rfl⟩, htype, rfl⟩, hname, rfl⟩, ⟨⟩, rfl⟩
    rw [htype] at hoptions
    exact ⟨hid, htype, hname, hoptions⟩
  · rintro ⟨hid, htype, hname, hoptions⟩
    rw [htype]
    exact ⟨p.options, hoptions, _, p.options, ⟨_, p.name, ⟨_, p.type, ⟨p.id, hid, rfl⟩, rfl, rfl⟩,
      hname, rfl⟩, rfl, rfl⟩

theorem property_eq_ok_iff {key : Text} {entry : Json} {p : Property} :
    property key entry = .ok p ↔ p.Keeps key entry := by
  cases entry with
  | object entries =>
    rw [property_object_eq_ok_iff, optionsOfType_eq_ok_iff]
    constructor
    · rintro ⟨hid, htype, hname, henumerated, hoptions⟩
      exact ⟨⟨entries, rfl⟩, hid, htype, hname, henumerated, hoptions⟩
    · intro h
      exact ⟨h.id, h.type, h.name, h.enumerated, h.options⟩
  | null | bool | int | float | string | array =>
    constructor
    · intro h
      cases h
    · rintro ⟨⟨_, ⟨⟩⟩⟩

end Conversion

/-! ### Schemas -/

theorem Property.Keeps.isTitle_eq {p : Property} {key : Text} {entry : Json}
    (h : p.Keeps key entry) : entry.isTitle = decide (p.type = "title") := by
  unfold Json.isTitle
  rcases Option.getD_eq_iff.1 h.type with hmember | ⟨hmember, htype⟩
  · rw [hmember]
  · rw [hmember, ← Json.string.inj htype]
    rfl

/-- The properties keep the members of an object, each of them the one in its place. -/
def Property.KeepEach (properties : Entries Property) (members : Entries Json) : Prop :=
  List.Forall₂ (fun e d => e.1 = d.1 ∧ Property.Keeps d.2 e.1 e.2) members properties

namespace DatabaseSchema

/-- A schema has the keys of the entries in their order, and under each of them the property that
its entry describes. The titles of pages are under the first key of an entry with that type. -/
structure KeepsMembers (s : DatabaseSchema) (members : Entries Json) : Prop where
  keys : s.properties.keys = Entries.keys members
  properties : ∀ key entry, (key, entry) ∈ members →
    ∃ p, s.properties.find? key = some p ∧ p.Keeps key entry
  titleProperty : s.titleProperty? = (List.find? (fun e => e.2.isTitle) members).map Prod.fst

/-- A schema keeps all of a database object. -/
structure Keeps (s : DatabaseSchema) (name : Text) (raw : Json) (fetchedAt : Moment) : Prop where
  id : raw.member? "id" = some (.string s.id)
  title : s.title = name
  lastUpdated : s.lastUpdated = fetchedAt
  properties : ∃ members, raw.Lists .object "properties" members ∧ s.KeepsMembers members

variable {s : DatabaseSchema} {members : Entries Json}

theorem find?_isTitle {properties : Entries Property}
    (h : Property.KeepEach properties members) :
    (List.find? (fun d => decide (Property.type d.2 = "title")) properties).map Prod.fst =
      (List.find? (fun e => e.2.isTitle) members).map Prod.fst := by
  unfold Property.KeepEach at h
  induction h with
  | nil => rfl
  | @cons e d _ _ hhead _ ih =>
    obtain ⟨hkey, hkeeps⟩ := hhead
    rw [List.find?_cons, List.find?_cons, hkeeps.isTitle_eq]
    split
    · exact congrArg some hkey.symm
    · exact ih

/-- What the members of a database object are converted to, one by one, is what is kept of them. -/
theorem keepsMembers_iff :
    s.KeepsMembers members ↔ Property.KeepEach s.properties.entries members := by
  have hfound : Property.KeepEach s.properties.entries members ↔
      s.properties.keys = Entries.keys members ∧ ∀ key entry, (key, entry) ∈ members →
        ∃ p, s.properties.find? key = some p ∧ Property.Keeps p key entry :=
    Entries.forall₂_iff_find? (R := fun key v p => Property.Keeps p key v) s.properties.nodup
  constructor
  · intro h
    exact hfound.2 ⟨h.keys, h.properties⟩
  · intro h
    obtain ⟨hkeys, hproperties⟩ := hfound.1 h
    exact ⟨hkeys, hproperties, find?_isTitle h⟩

end DatabaseSchema

namespace Conversion

variable {name : Text} {raw : Json} {fetchedAt : Moment} {s : DatabaseSchema}

theorem mapM_property_eq_ok_iff {members : Entries Json} {properties : Entries Property} :
    members.mapM (fun (key, v) => Prod.mk key <$> property key v) = .ok properties ↔
      Property.KeepEach properties members := by
  have hstep (e : Text × Json) (d : Text × Property) :
      Prod.mk e.1 <$> property e.1 e.2 = .ok d ↔ e.1 = d.1 ∧ Property.Keeps d.2 e.1 e.2 := by
    simp only [Except.map_eq_ok, property_eq_ok_iff]
    constructor
    · rintro ⟨p, hp, rfl⟩
      exact ⟨rfl, hp⟩
    · rintro ⟨hkey, hp⟩
      exact ⟨d.2, hp, Prod.ext hkey rfl⟩
  rw [Except.mapM_eq_ok, Property.KeepEach]
  simp only [hstep]

/-- A conversion succeeds when everything in the object can be used. -/
theorem schema_eq_ok_iff : schema name raw fetchedAt = .ok s ↔
    ∃ members properties, raw.Lists .object "properties" members ∧
      Property.KeepEach properties members ∧ raw.member? "id" = some (.string s.id) ∧
      s.title = name ∧ s.lastUpdated = fetchedAt ∧
      s.properties = Table.ofList properties := by
  constructor
  · intro h
    obtain ⟨entries, members, properties, id, rfl, hmembers, hproperties, hid, rfl⟩ :=
      schema_eq_ok h
    exact ⟨members, properties, Json.members_get_eq_ok_iff.1 hmembers,
      mapM_property_eq_ok_iff.1 hproperties, hid, rfl, rfl, rfl⟩
  · obtain ⟨id, title, table, lastUpdated⟩ := s
    rintro ⟨members, properties, hlists, hkept, hid, rfl, rfl, rfl⟩
    cases raw with
    | object entries =>
      have hfind : Entries.find? "id" entries = some (.string id) := hid
      unfold schema
      rw [Except.bind_eq_ok]
      refine ⟨members, use_eq_ok.2 (Json.members_get_eq_ok_iff.2 hlists), ?_⟩
      rw [Except.bind_eq_ok]
      refine ⟨properties, mapM_property_eq_ok_iff.2 hkept, ?_⟩
      rw [hfind]
      rfl
    | null | bool | int | float | string | array => cases hid

theorem keeps_of_schema (hraw : raw.HasDistinctProperties)
    (h : schema name raw fetchedAt = .ok s) : s.Keeps name raw fetchedAt := by
  obtain ⟨members, properties, hlists, hkept, hid, htitle, htime, htable⟩ := schema_eq_ok_iff.1 h
  refine ⟨hid, htitle, htime, members, hlists, ?_⟩
  have hkeys : Entries.keys members = Entries.keys properties :=
    Entries.Related.keys_eq (R := fun _ _ => True) (hkept.imp fun _ _ he => ⟨he.1, trivial⟩)
  have hnodup : (Entries.keys members).Nodup := by
    cases hlists with
    | absent => exact List.nodup_nil
    | present hmembers => exact hraw members hmembers
  have hentries : s.properties.entries = properties := by
    rw [hkeys] at hnodup
    rw [htable]
    exact Entries.ofList_of_nodup hnodup
  rw [DatabaseSchema.keepsMembers_iff, hentries]
  exact hkept

theorem schema_of_keeps (h : s.Keeps name raw fetchedAt) : schema name raw fetchedAt = .ok s := by
  obtain ⟨members, hlists, hkept⟩ := h.properties
  exact schema_eq_ok_iff.2 ⟨members, s.properties.entries, hlists,
    DatabaseSchema.keepsMembers_iff.1 hkept, h.id, h.title, h.lastUpdated,
    s.properties.ofList_entries.symm⟩

/-- A property of a schema that keeps an object is what the entry under its key is converted to. -/
theorem keeps_of_property? {key : Text} {entry : Json} (hraw : raw.HasDistinctProperties)
    (h : schema name raw fetchedAt = .ok s) (hentry : raw.property? key = some entry) :
    ∃ p, s.properties.find? key = some p ∧ p.Keeps key entry := by
  obtain ⟨members, hlists, hkept⟩ := (keeps_of_schema hraw h).properties
  exact hkept.properties key entry (Entries.mem_of_find? (hlists.find?_eq_some hentry))

/-- An item among the options of an entry is one of the options of the property. -/
theorem exists_keeps_of_hasOption {key : Text} {entry item : Json} {p : Property}
    (h : p.Keeps key entry) (hitem : entry.HasOption item) :
    ∃ options, p.options = some options ∧ ∃ o ∈ options, o.Keeps item := by
  obtain ⟨type, items, htype, henumerated, hitems, hmem⟩ := hitem
  obtain rfl : type = p.type := by
    have hkept := h.type
    rw [htype] at hkept
    exact Json.string.inj hkept
  obtain ⟨options, hoptions⟩ := Option.isSome_iff_exists.1 (h.enumerated.2 henumerated)
  obtain ⟨config, row, hconfig, hrow, hkept⟩ := h.options options hoptions
  obtain rfl := hrow.eq_of_member? (hconfig.find?_eq_some hitems)
  refine ⟨options, hoptions, ?_⟩
  exact exists_of_forall₂ hkept.flip item hmem

/-- A schema is converted from a database object exactly when it keeps all of it. A property is the
same in all schemas that are converted from its entry. An entry or an option that cannot be used
makes the conversion fail. -/
theorem schema_eq_ok_iff_keeps (hraw : raw.HasDistinctProperties) (name : Text)
    (fetchedAt : Moment) :
    (∀ s, schema name raw fetchedAt = .ok s ↔ s.Keeps name raw fetchedAt) ∧
    (∀ (raw' : Json) (name' : Text) (fetchedAt' : Moment) (s s' : DatabaseSchema) (key : Text)
      (entry : Json), raw'.HasDistinctProperties →
      schema name raw fetchedAt = .ok s → schema name' raw' fetchedAt' = .ok s' →
      raw.property? key = some entry → raw'.property? key = some entry →
      s.properties.find? key = s'.properties.find? key) ∧
    (∀ key entry, raw.property? key = some entry → (∀ p : Property, ¬p.Keeps key entry) →
      ∃ e, schema name raw fetchedAt = .error e) ∧
    ∀ key entry item, raw.property? key = some entry → entry.HasOption item →
      (∀ o : PropertyOption, ¬o.Keeps item) → ∃ e, schema name raw fetchedAt = .error e := by
  have hfails {key : Text} {entry : Json} (hentry : raw.property? key = some entry)
      (hnone : ∀ p : Property, ¬p.Keeps key entry) : ∃ e, schema name raw fetchedAt = .error e := by
    cases hresult : schema name raw fetchedAt with
    | error e => exact ⟨e, rfl⟩
    | ok s =>
      obtain ⟨p, -, hp⟩ := keeps_of_property? hraw hresult hentry
      exact absurd hp (hnone p)
  refine ⟨fun s => ⟨keeps_of_schema hraw, schema_of_keeps⟩, ?_, fun _ _ => hfails, ?_⟩
  · intro raw' name' fetchedAt' s s' key entry hraw' hs hs' hentry hentry'
    obtain ⟨p, hfind, hp⟩ := keeps_of_property? hraw hs hentry
    obtain ⟨p', hfind', hp'⟩ := keeps_of_property? hraw' hs' hentry'
    have hsame : p = p' :=
      Except.ok.inj ((property_eq_ok_iff.2 hp).symm.trans (property_eq_ok_iff.2 hp'))
    rw [hfind, hfind', hsame]
  · intro key entry item hentry hitem hnone
    refine hfails hentry fun p hp => ?_
    obtain ⟨_, -, o, -, ho⟩ := exists_keeps_of_hasOption hp hitem
    exact hnone o ho

/-- A database of teas. One of the kinds has a color. -/
def teaDatabase : Json :=
  .record [("id", .string "t"), ("properties", .record [
    ("Kind", .record [("type", .string "select"), ("select", .record [("options", .array [
      .record [("id", .string "1"), ("name", .string "Green"), ("color", .string "green")],
      .record [("id", .string "2"), ("name", .string "White")]])])]),
    ("Name", .record [("type", .string "title")])])]

theorem schema_eq_ok_iff_keeps_tea : teaDatabase.HasDistinctProperties ∧ ∃ s : DatabaseSchema,
    schema "Teas" teaDatabase default = .ok s ∧ s.Keeps "Teas" teaDatabase default ∧
    s.properties.keys = (["Kind", "Name"] : List Text) ∧ s.titleProperty? = some "Name" ∧
    (s.properties.find? "Kind").bind Property.options =
      some [⟨"1", "Green", "green"⟩, ⟨"2", "White", "default"⟩] := by
  have hread : Json.read (teaDatabase.write .controls) = .ok teaDatabase := rfl
  have hraw := (Json.isDecoded_of_read hread).hasDistinctProperties
  obtain ⟨hkeeps, -, -, -⟩ := schema_eq_ok_iff_keeps hraw "Teas" default
  have hconverted : ∃ s, schema "Teas" teaDatabase default = .ok s := ⟨_, rfl⟩
  obtain ⟨s, hs⟩ := hconverted
  refine ⟨hraw, s, hs, (hkeeps s).1 hs, ?_⟩
  cases hs
  exact ⟨rfl, rfl, rfl⟩

end Conversion

end SchemaQuery
