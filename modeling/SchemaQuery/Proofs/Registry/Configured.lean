import SchemaQuery.Proofs.Json.Spelled
import SchemaQuery.Proofs.Query.Compile
import SchemaQuery.Registry.File

/-!
# Registries as they are configured

The members of a configuration that name an id make up the registry, in the order in which their
names were spelled first; of several members with one name the last one counts, whether it names an
id or not. Every name then leads to one of them, by its own spelling or else up to letter case, or
it is refused.
-/

namespace SchemaQuery.Registry

variable {r : Registry} {name other key id : Text} {top members : Entries Json}

/-- The value of a member is an object, in which the id that was spelled last is a text. -/
def NamesId (v : Json) (id : Text) : Prop :=
  ∃ fields : Entries Json, v = .object fields ∧ fields.last? "id" = some (.string id)

/-- The registry holds the members that name an id, each of them where its name was spelled first.
-/
structure Holds (r : Registry) (members : Entries Json) : Prop where
  mem_iff (name id : Text) :
    (name, id) ∈ r.ids.entries ↔ ∃ v, members.last? name = some v ∧ NamesId v id
  ordered : r.ids.keys.Pairwise fun a b => members.keys.idxOf a < members.keys.idxOf b

/-! ### What is held -/

def idOf? (v : Json) : Option Text :=
  match v.member? "id" with
  | some (.string id) => some id
  | _ => none

theorem ofJson?_of_member? {config : Json} {databases : Table Json}
    (h : config.member? "databases" = some (.object databases.entries)) :
    ofJson? config = some ⟨databases.filterMap fun _ v => idOf? v⟩ := by
  have hids : ofJson? config =
      some ⟨Table.ofList (databases.filterMap fun _ v => idOf? v).entries⟩ := by
    unfold ofJson?
    rw [h]
    refine congrArg (fun writes => some (Registry.mk (Table.ofList writes))) ?_
    apply List.filterMap_congr
    intro e _
    simp only [idOf?]
    cases e.2.member? "id" with
    | none => rfl
    | some v => cases v <;> rfl
  rw [hids, Table.ofList_entries]

theorem member?_settled (members : Entries Json) (key : Text) :
    (Json.object members).settled.member? key = (members.last? key).map Json.settled := by
  rw [Json.settled_object, Json.record, Json.member?, Entries.find?_ofList, Entries.last?_map]

theorem idOf?_eq_some_iff {v : Json} : idOf? v = some id ↔ v.member? "id" = some (.string id) := by
  unfold idOf?
  cases v.member? "id" with
  | none => simp
  | some w => cases w <;> simp

theorem idOf?_settled_eq_some_iff {v : Json} : idOf? v.settled = some id ↔ NamesId v id := by
  rw [idOf?_eq_some_iff]
  unfold NamesId
  cases v with
  | object fields =>
    have hstring (w : Json) : w.settled = .string id ↔ w = .string id := by
      cases w <;> simp [Json.settled, Json.record]
    rw [member?_settled]
    simp [hstring]
  | array items => simp [Json.member?]
  | _ => simp [Json.settled, Json.member?]

theorem exists_ofJson?_settled (h : top.last? "databases" = some (.object members)) :
    ∃ r, ofJson? (Json.object top).settled = some r ∧ r.Holds members := by
  let databases : Table Json := Table.ofList (members.map fun m => (m.1, m.2.settled))
  have hmember : (Json.object top).settled.member? "databases" =
      some (.object databases.entries) := by
    rw [member?_settled, h, Option.map_some, Json.settled_object]
    rfl
  refine ⟨_, ofJson?_of_member? hmember, ?_, ?_⟩
  · intro name id
    have hfind (v : Json) : (name, v) ∈ databases.entries ↔
        ∃ w, members.last? name = some w ∧ w.settled = v := by
      have hentries : databases.find? name =
          Entries.last? name (members.map fun m => (m.1, m.2.settled)) :=
        Entries.find?_ofList _ _
      rw [← databases.find?_eq_some_iff, hentries, Entries.last?_map, Option.map_eq_some_iff]
    rw [Table.mem_filterMap]
    constructor
    · rintro ⟨v, hv, hid⟩
      obtain ⟨w, hw, rfl⟩ := (hfind v).1 hv
      exact ⟨w, hw, idOf?_settled_eq_some_iff.1 hid⟩
    · rintro ⟨w, hw, hid⟩
      exact ⟨w.settled, (hfind _).2 ⟨w, hw, rfl⟩, idOf?_settled_eq_some_iff.2 hid⟩
  · have hkeys : Entries.keys (members.map fun m => (m.1, m.2.settled)) = members.keys := by
      simp [Entries.keys, Function.comp_def]
    have hordered := Entries.pairwise_idxOf_ofList (members.map fun m => (m.1, m.2.settled))
    rw [hkeys] at hordered
    exact hordered.sublist (Entries.keys_filterMap_sublist (fun _ v => idOf? v) databases.entries)

theorem exists_ofText_of_spells {t : Text}
    (hspells : Json.Spells (JsonToken.ofText t) (.object top))
    (hdatabases : top.last? "databases" = some (.object members)) (path : Text) :
    ∃ r, ofText path t = .ok r ∧ r.Holds members := by
  obtain ⟨r, hr, hholds⟩ := exists_ofJson?_settled hdatabases
  have hread : Json.read t = .ok (Json.object top).settled :=
    Json.read_eq_ok_iff_spells.2 ⟨_, hspells, rfl⟩
  refine ⟨r, ?_, hholds⟩
  simp only [ofText, hread, ofJson, hr]

/-! ### What a name leads to -/

theorem Finds.caseFold_eq (h : r.Finds name key id) : key.caseFold = name.caseFold := by
  cases h with
  | exact _ => rfl
  | folded _ _ _ _ hfold _ _ => exact hfold

/-- No two names are the same up to letter case. -/
def IsUnambiguous (r : Registry) : Prop :=
  ∀ a ∈ r.ids.keys, ∀ b ∈ r.ids.keys, a.caseFold = b.caseFold → a = b

theorem IsUnambiguous.resolve?_eq (h : r.IsUnambiguous) (hfold : other.caseFold = name.caseFold) :
    r.resolve? other = r.resolve? name := by
  cases hname : r.resolve? name with
  | none =>
    rw [resolve?_eq_none_iff] at hname ⊢
    rwa [hfold]
  | some found =>
    obtain ⟨key, id⟩ := found
    have hfinds := resolve?_eq_some_iff.1 hname
    have hkey : key ∈ r.ids.keys := List.mem_map_of_mem (f := Prod.fst) hfinds.mem
    cases hother : r.resolve? other with
    | none =>
      have hnone := resolve?_eq_none_iff.1 hother key hkey
      exact absurd (hfinds.caseFold_eq.trans hfold.symm) hnone
    | some found =>
      obtain ⟨key', id'⟩ := found
      have hfinds' := resolve?_eq_some_iff.1 hother
      have hkey' : key' ∈ r.ids.keys := List.mem_map_of_mem (f := Prod.fst) hfinds'.mem
      have hsame : key' = key :=
        h key' hkey' key hkey ((hfinds'.caseFold_eq.trans hfold).trans hfinds.caseFold_eq.symm)
      subst hsame
      have hid := r.ids.find?_eq_some_iff.2 hfinds.mem
      rw [r.ids.find?_eq_some_iff.2 hfinds'.mem] at hid
      rw [Option.some.inj hid]

theorem canonicalName?_eq_some_iff :
    r.canonicalName? name = some key ↔ ∃ id, r.resolve? name = some (key, id) := by
  simp only [resolve?_eq_some_iff_canonicalName?]
  constructor
  · intro hkey
    obtain ⟨⟨_, id⟩, hmem, rfl⟩ := List.mem_map.1 (mem_of_canonicalName? hkey)
    exact ⟨id, hkey, hmem⟩
  · rintro ⟨_, hkey, _⟩
    exact hkey

theorem finds_of_canonicalName? (h : r.canonicalName? name = some key) :
    ∃ id, r.resolve? name = some (key, id) ∧ r.resolve? key = some (key, id) := by
  obtain ⟨id, hid⟩ := canonicalName?_eq_some_iff.1 h
  exact ⟨id, hid, resolve?_of_resolve? hid⟩

/-- Where no schemas are at hand, a request is refused for a name just when the registry has none
like it, and the refusal has the name as it was given. -/
theorem compile_eq_unknownDatabase_iff (r : Registry) (name other : Text)
    (filters : List FilterSpec) (sort : Option SortSpec) (now : Moment) :
    (Compiler.compile ⟨r, none⟩ name filters sort now).value = .error (.unknownDatabase other) ↔
      other = name ∧ ∀ key ∈ r.ids.keys, key.caseFold ≠ name.caseFold := by
  have hresolve : Compiler.resolve? ⟨r, none⟩ name = r.resolve? name := by
    unfold Compiler.resolve?
    cases r.resolve? name <;> rfl
  rw [Compiler.compile_value, hresolve, ← resolve?_eq_none_iff]
  cases r.resolve? name with
  | none => simp [eq_comm]
  | some found =>
    simp only [Compiler.check, Logged.pure_value]
    cases (Compiler.leaves now filters).value <;> simp

/-- A configuration with databases has a registry, and every name leads to one of them or is
refused, whatever spellings and entries the configuration has. -/
theorem exists_ofText_resolve? {t : Text}
    (hspells : Json.Spells (JsonToken.ofText t) (.object top))
    (hdatabases : top.last? "databases" = some (.object members)) (path : Text) :
    ∃ r, ofText path t = .ok r ∧ r.Holds members ∧
      (∀ name key id, r.resolve? name = some (key, id) ↔ r.Finds name key id) ∧
      (∀ name, r.resolve? name = none ↔ ∀ key ∈ r.ids.keys, key.caseFold ≠ name.caseFold) ∧
      (∀ name other filters sort now,
        (Compiler.compile ⟨r, none⟩ name filters sort now).value =
            .error (.unknownDatabase other) ↔
          other = name ∧ ∀ key ∈ r.ids.keys, key.caseFold ≠ name.caseFold) ∧
      (∀ name key, r.canonicalName? name = some key →
        ∃ id, r.resolve? name = some (key, id) ∧ r.resolve? key = some (key, id)) ∧
      (r.IsUnambiguous → ∀ name other, other.caseFold = name.caseFold →
        r.resolve? other = r.resolve? name) := by
  obtain ⟨r, hr, hholds⟩ := exists_ofText_of_spells hspells hdatabases path
  refine ⟨r, hr, hholds, ?_, ?_, ?_, ?_, ?_⟩
  · intro name key id
    exact resolve?_eq_some_iff
  · intro name
    exact resolve?_eq_none_iff
  · intro name other filters sort now
    exact r.compile_eq_unknownDatabase_iff name other filters sort now
  · intro name key
    exact finds_of_canonicalName?
  · intro hunambiguous name other hfold
    exact hunambiguous.resolve?_eq hfold

/-- Two spellings that fold alike, one of them with two ids, and a member without an id. -/
def streets : Text :=
  "\x7b\"databases\": \x7b\"Straße\": \x7b\"id\": \"1\"\x7d, \"x\": [], " ++
    "\"STRASSE\": \x7b\"id\": \"2\"\x7d, \"Straße\": \x7b\"id\": \"3\"\x7d\x7d\x7d"

def withId (id : Text) : Json := .object [("id", .string id)]

def withIdTokens (id : Text) : List JsonToken :=
  [.openObject, .string "id", .colon, .string id, .closeObject]

def streetMembers : Entries Json :=
  [("Straße", withId "1"), ("x", .array []), ("STRASSE", withId "2"), ("Straße", withId "3")]

def streetRegistry : Registry := ⟨⟨[("Straße", "3"), ("STRASSE", "2")], by decide⟩⟩

theorem spells_withId (id : Text) : Json.Spells (withIdTokens id) (withId id) :=
  @Json.Spells.object [] "id" [.string id] (.string id) (by simp) (.string id)

def streetStart : List (Text × List JsonToken × Json) :=
  [("Straße", withIdTokens "1", withId "1"), ("x", [.openArray, .closeArray], .array []),
    ("STRASSE", withIdTokens "2", withId "2")]

def streetTokens : List JsonToken :=
  .openObject :: (Json.memberTokens streetStart ++
    .string "Straße" :: .colon :: (withIdTokens "3" ++ [.closeObject]))

theorem spells_streetTokens : Json.Spells streetTokens (.object streetMembers) := by
  have hstart : ∀ m ∈ streetStart, Json.Spells m.2.1 m.2.2 := by
    rw [streetStart, List.forall_mem_cons, List.forall_mem_cons, List.forall_mem_singleton]
    exact ⟨spells_withId "1", .emptyArray, spells_withId "2"⟩
  exact @Json.Spells.object streetStart "Straße" _ _ hstart (spells_withId "3")

theorem spells_streets :
    Json.Spells (JsonToken.ofText streets) (.object [("databases", .object streetMembers)]) := by
  have htokens : JsonToken.ofText streets =
      .openObject :: .string "databases" :: .colon :: (streetTokens ++ [.closeObject]) := by
    set_option maxRecDepth 4000 in
    rfl
  rw [htokens]
  exact @Json.Spells.object [] "databases" _ _ (by simp) spells_streetTokens

theorem exists_ofText_resolve?_streets :
    Json.Spells (JsonToken.ofText streets) (.object [("databases", .object streetMembers)]) ∧
      ofText "databases.json" streets = .ok streetRegistry ∧ streetRegistry.Holds streetMembers ∧
      streetRegistry.resolve? "Straße" = some (("Straße" : Text), ("3" : Text)) ∧
      streetRegistry.resolve? "straße" = some (("STRASSE" : Text), ("2" : Text)) ∧
      streetRegistry.resolve? "x" = none := by
  have htext : ofText "databases.json" streets = .ok streetRegistry := rfl
  have hdatabases : Entries.last? "databases" [("databases", Json.object streetMembers)] =
      some (.object streetMembers) := rfl
  obtain ⟨r, hr, hholds, hfinds, hnone, -⟩ :=
    exists_ofText_resolve? spells_streets hdatabases "databases.json"
  obtain rfl : streetRegistry = r := Except.ok.inj (htext.symm.trans hr)
  have hexact : streetRegistry.Finds "Straße" "Straße" "3" := .exact List.mem_cons_self
  have hfolded : streetRegistry.Finds "straße" "STRASSE" "2" := by
    have hnot : Text.ofString "straße" ∉ streetRegistry.ids.keys := by decide +kernel
    have hfold : ("STRASSE" : Text).caseFold = ("straße" : Text).caseFold := by decide +kernel
    have hkeys : streetRegistry.ids.keys =
        [Text.ofString "Straße"] ++ Text.ofString "STRASSE" :: [] := rfl
    have hlast : ∀ later ∈ ([] : List Text), later.caseFold ≠ ("straße" : Text).caseFold := by simp
    have hmem : (Text.ofString "STRASSE", Text.ofString "2") ∈ streetRegistry.ids.entries :=
      List.mem_cons_of_mem _ List.mem_cons_self
    exact .folded [Text.ofString "Straße"] [] hnot hkeys hfold hlast hmem
  have hother : ∀ key ∈ streetRegistry.ids.keys, key.caseFold ≠ ("x" : Text).caseFold := by
    decide +kernel
  exact ⟨spells_streets, htext, hholds, (hfinds _ _ _).2 hexact, (hfinds _ _ _).2 hfolded,
    (hnone _).2 hother⟩

end SchemaQuery.Registry
