import SchemaQuery.Proofs.Store.Persistence
import SchemaQuery.Proofs.Store.Refresh

/-!
# A refresh replaces everything

When the file can be written, a refresh leaves the databases that were fetched and converted, each
with the schema of its own answer, and nothing else: not in the result, not at hand and not in the
file. What the store and the file held before plays no part, nor does the order in which the fetches
end, and what becomes of one database has no effect on the others.

The stored form of a moment has no seconds of the offset. So the file gives back what was refreshed
exactly when the clock shows offsets of whole minutes, or none.
-/

namespace SchemaQuery

/-- No registered name and no answer about a registered database holds a surrogate. -/
structure Circumstances.IsScalar (c : Circumstances) (client : ApiConfig) (ids : Table Text) :
    Prop where
  names : ∀ e ∈ ids.entries, e.1.isScalar = true
  answers : ∀ e ∈ ids.entries, ∀ raw,
    (client.retrieve (c.server e.1) e.2).result = .ok raw → raw.IsScalar

namespace SchemaStore

variable {s : SchemaStore} {client : ApiConfig} {c c' : Circumstances} {files : FileSystem}
  {ids : Table Text} {name id : Text} {schema : DatabaseSchema}

/-! ### One database -/

theorem fetchOne_eq_some_iff :
    fetchOne client c name id = some schema ↔
      ∃ raw, (client.retrieve (c.server name) id).result = .ok raw ∧
        Conversion.schema name raw (c.clock name) = .ok schema := by
  unfold fetchOne exchange
  cases hresult : (client.retrieve (c.server name) id).result with
  | error e => simp
  | ok raw => cases hschema : Conversion.schema name raw (c.clock name) <;>
      simp [hschema, Except.toOption]

theorem fetchOne_congr (hserver : c'.server name = c.server name)
    (hclock : c'.clock name = c.clock name) :
    fetchOne client c' name id = fetchOne client c name id := by
  simp only [fetchOne, exchange, hserver, hclock]

theorem title_of_fetchOne (h : fetchOne client c name id = some schema) :
    schema.title = name ∧ schema.lastUpdated = c.clock name := by
  obtain ⟨raw, -, hschema⟩ := fetchOne_eq_some_iff.1 h
  exact Conversion.title_of_schema_eq_ok hschema

/-! ### All databases -/

theorem mem_fetchAll :
    (name, schema) ∈ (fetchAll client c ids).entries ↔
      ∃ id, (name, id) ∈ ids.entries ∧ fetchOne client c name id = some schema :=
  ids.mem_filterMap

theorem find?_fetchAll (name : Text) :
    (fetchAll client c ids).find? name = (ids.find? name).bind (fetchOne client c name) :=
  ids.find?_filterMap _ name

theorem isScalar_fetchAll (h : c.IsScalar client ids) : (fetchAll client c ids).IsScalar where
  names := by
    rintro ⟨name, schema⟩ he
    obtain ⟨id, hid, -⟩ := mem_fetchAll.1 he
    exact h.names _ hid
  schemas := by
    rintro ⟨name, schema⟩ he
    obtain ⟨id, hid, hfetch⟩ := mem_fetchAll.1 he
    obtain ⟨raw, hraw, hschema⟩ := fetchOne_eq_some_iff.1 hfetch
    exact Conversion.isScalar_schema (h.names _ hid) (h.answers _ hid raw hraw) hschema

theorem isStorable_fetchAll :
    (fetchAll client c ids).IsStorable ↔
      ∀ e ∈ (fetchAll client c ids).entries, (c.clock e.1).IsStorable := by
  refine forall₂_congr fun e he => ?_
  obtain ⟨id, -, hfetch⟩ := mem_fetchAll.1 he
  rw [(title_of_fetchOne hfetch).2]

def omitted (ids : Table Text) (snapshot : Snapshot) : Entries Text :=
  ids.entries.filter fun e => !snapshot.contains e.1

theorem fetchEvents_eq :
    fetchEvents client c ids = (c.ended ids.entries).map fun (name, id) =>
      fetchEvent name id ((fetchAll client c ids).find? name) := by
  apply List.map_congr_left
  rintro ⟨name, id⟩ he
  have hmem : (name, id) ∈ ids.entries := (c.ended_perm _).mem_iff.1 he
  simp only [fetchAll, ids.find?_filterMap_of_mem hmem]

theorem incompleteEvents_eq :
    incompleteEvents ids (fetchAll client c ids) =
      if omitted ids (fetchAll client c ids) = [] then []
      else [.refreshIncomplete (fetchAll client c ids).size
        (omitted ids (fetchAll client c ids)).length] := by
  have hsize : (fetchAll client c ids).size + (omitted ids (fetchAll client c ids)).length =
      ids.size :=
    ids.size_filterMap_add (fetchOne client c)
  have hlost : ids.size - (fetchAll client c ids).size =
      (omitted ids (fetchAll client c ids)).length := by omega
  rw [incompleteEvents, hlost]
  split <;> split <;> simp_all

/-- What becomes of one database has no effect on the others, nor on their order. -/
theorem fetchAll_beside {changed : Text}
    (hserver : ∀ name, name ≠ changed → c'.server name = c.server name)
    (hclock : ∀ name, name ≠ changed → c'.clock name = c.clock name) :
    (fetchAll client c' ids).entries.filter (fun e => e.1 ≠ changed) =
      (fetchAll client c ids).entries.filter (fun e => e.1 ≠ changed) := by
  apply Entries.filterMap_beside
  intro name hname
  funext id
  exact fetchOne_congr (hserver name hname) (hclock name hname)

/-! ### The refresh -/

/-- What a refresh comes to that can write the file under a path. -/
structure IsReplacement (client : ApiConfig) (c : Circumstances) (ids : Table Text)
    (path : FilePath) (run : Logged Refresh) (snapshot : Snapshot) : Prop where
  result : run.value.result = .ok snapshot
  /-- The names of the databases that have a schema, in the order of registration. -/
  entries : snapshot.entries = ids.entries.filterMap fun (name, id) =>
    (fetchOne client c name id).map fun schema => (name, schema)
  /-- A schema is converted from the answer about its own database. -/
  converted : ∀ name schema, (name, schema) ∈ snapshot.entries ↔
    ∃ id raw, (name, id) ∈ ids.entries ∧
      (client.retrieve (c.server name) id).result = .ok raw ∧
      Conversion.schema name raw (c.clock name) = .ok schema
  titles : ∀ e ∈ snapshot.entries, e.2.title = e.1
  /-- The store finds what was refreshed and nothing from before. -/
  find : ∀ name, run.value.store.find? name = snapshot.find? name ∧
    snapshot.find? name = (ids.find? name).bind (fetchOne client c name)
  /-- Whatever store reads the file has the same snapshot, if the moments have a stored form. -/
  file : ∀ reader : SchemaStore, reader.path = path →
    ((reader.load run.value.files).value.2 = .ok (some snapshot) ↔
      ∀ e ∈ snapshot.entries, (c.clock e.1).IsStorable)
  /-- Every database is reported once, when its fetch ends; then how many there are if some are left
  out, then the file. -/
  events : run.events =
    ((c.ended ids.entries).map fun (name, id) => fetchEvent name id (snapshot.find? name)) ++
      ((if omitted ids snapshot = [] then []
        else [.refreshIncomplete snapshot.size (omitted ids snapshot).length]) ++
      [.persisted path.text snapshot.size])

theorem IsReplacement.entries_eq {path : FilePath} {run : Logged Refresh} {snapshot : Snapshot}
    (h : IsReplacement client c ids path run snapshot) :
    snapshot.entries = (fetchAll client c ids).entries :=
  h.entries

theorem isReplacement_fetchAll (hclient : s.client = some client)
    (hwritable : s.IsWritable c.refused files) (hscalar : c.IsScalar client ids) :
    IsReplacement client c ids s.path (s.refreshUnder c files ids) (fetchAll client c ids) := by
  have hsnapshot := isScalar_fetchAll hscalar
  obtain ⟨files', hreplace⟩ := keep_of_isWritable hwritable hsnapshot
  have hkeep := keep_of_replaceFile hreplace
  obtain ⟨bytes, hbytes, hread⟩ := read_of_keep (congrArg Logged.value hkeep)
  obtain ⟨calls, hvalue⟩ := refreshUnder_value hclient c files ids
  rw [hkeep] at hvalue
  exact {
    result := by rw [hvalue]; rfl
    entries := rfl
    converted := by
      intro name schema
      simp only [mem_fetchAll, fetchOne_eq_some_iff]
      constructor
      · rintro ⟨id, hid, raw, hraw⟩
        exact ⟨id, raw, hid, hraw⟩
      · rintro ⟨id, raw, hid, hraw⟩
        exact ⟨id, hid, raw, hraw⟩
    titles := by
      rintro ⟨name, schema⟩ he
      obtain ⟨id, -, hfetch⟩ := mem_fetchAll.1 he
      exact (title_of_fetchOne hfetch).1
    find := by
      intro name
      rw [hvalue]
      exact ⟨rfl, find?_fetchAll name⟩
    file := by
      intro reader hpath
      rw [hvalue, ← isStorable_fetchAll]
      rw [← hpath] at hread
      constructor
      · exact isStorable_of_load
      · intro hstorable
        exact congrArg Prod.snd (load_of_read hread hbytes hsnapshot hstorable)
    events := by
      rw [refreshUnder_events hclient, fetchEvents_eq, incompleteEvents_eq, hkeep]
      rfl }

/-- A refresh that can write the file replaces everything. A refresh of the same databases by
whatever store, on whatever files, differs at most in the databases that are answered otherwise. -/
theorem refreshUnder_replaces (hclient : s.client = some client)
    (hwritable : s.IsWritable c.refused files) (hscalar : c.IsScalar client ids) :
    ∃ snapshot, IsReplacement client c ids s.path (s.refreshUnder c files ids) snapshot ∧
      ∀ (s' : SchemaStore) (c' : Circumstances) (files' : FileSystem) (changed : Text),
        s'.client = some client → s'.IsWritable c'.refused files' → c'.IsScalar client ids →
        (∀ name, name ≠ changed → c'.server name = c.server name) →
        (∀ name, name ≠ changed → c'.clock name = c.clock name) →
          ∃ snapshot', (s'.refreshUnder c' files' ids).value.result = .ok snapshot' ∧
            snapshot'.entries.filter (fun e => e.1 ≠ changed) =
              snapshot.entries.filter (fun e => e.1 ≠ changed) := by
  refine ⟨fetchAll client c ids, isReplacement_fetchAll hclient hwritable hscalar, ?_⟩
  intro s' c' files' changed hclient' hwritable' hscalar' hserver hclock
  have hreplacement := isReplacement_fetchAll hclient' hwritable' hscalar'
  exact ⟨fetchAll client c' ids, hreplacement.result, fetchAll_beside hserver hclock⟩

def fetchingStore (client : ApiConfig) : SchemaStore := .ofPath (.ofText "s.json") (some client)

def exampleClient : ApiConfig := ⟨"key", "http://db.test", "v1", .whole 30⟩

def exampleIds : Table Text where
  entries := [("a", "x"), ("b", "y")]
  nodup := by decide

def exampleText : Text := "\x7b\"id\": \"x\"\x7d"

def exampleBody : Bytes := [123, 34, 105, 100, 34, 58, 32, 34, 120, 34, 125]

/-- The first database answers and the second, which is done sooner, does not. -/
def halfAnswered (offset : UtcOffset) : Circumstances where
  server name _ := if name = "a" then .body exampleBody else .unreachable
  clock _ := ⟨{ Date.first with
      year := 2024, month := 6, year_pos := by decide, year_le := by decide, day_le := by decide },
    { TimeOfDay.midnight with
      hour := 9, minute := 30, hour_lt := by decide, minute_lt := by decide }, some offset⟩
  refused := .none
  toSchedule := .backwards

theorem isWritable_fetchingStore :
    (fetchingStore exampleClient).IsWritable .none .empty := by
  unfold IsWritable
  decide +kernel

theorem resultOf_of_utf8? {t : Text} {body : Bytes} {entries : Entries Json}
    (hbytes : Text.utf8? t = some body) (hdetect : Encoding.detect body = (.utf8, body))
    (hread : Json.read t = .ok (.object entries)) :
    ApiConfig.resultOf (.body body) = .ok (.object entries) := by
  have hdecode : Encoding.decode? body = some t := by
    simp only [Encoding.decode?, hdetect]
    exact Text.ofUtf8?_of_utf8? .passed hbytes
  simp only [ApiConfig.resultOf, hdecode, hread]

theorem resultOf_exampleBody :
    ApiConfig.resultOf (.body exampleBody) = .ok (.object [("id", .string "x")]) :=
  resultOf_of_utf8? (t := exampleText) (by rfl) rfl (by rfl)

theorem retrieve_of_resultOf (path : Text) {answer : Http.Outcome} {id : Text} {raw : Json}
    (hpath : ApiConfig.databasePath? id = some path)
    (hscheme : Http.hasScheme
      (Http.unwrapped (client.apiBase.trimRight (· = .scalar '/') ++ path)) = true)
    (hanswer : ApiConfig.resultOf answer = .ok raw) :
    (client.retrieve (fun _ => answer) id).result = .ok raw := by
  rw [ApiConfig.retrieve, hpath]
  simp only [ApiConfig.call, if_pos hscheme, hanswer]

theorem retrieve_answered (offset : UtcOffset) :
    (exampleClient.retrieve ((halfAnswered offset).server "a") "x").result =
      .ok (.object [("id", .string "x")]) :=
  retrieve_of_resultOf "/databases/x" (by rfl) (by rfl) resultOf_exampleBody

theorem retrieve_unanswered (offset : UtcOffset) :
    (exampleClient.retrieve ((halfAnswered offset).server "b") "y").result =
      .error (.api .unreachable) := by
  rfl

theorem fetchAll_halfAnswered (offset : UtcOffset) :
    (fetchAll exampleClient (halfAnswered offset) exampleIds).entries =
      ([("a", ⟨"x", "a", .empty, (halfAnswered offset).clock "a"⟩)] :
        List (Text × DatabaseSchema)) := by
  have ha : fetchOne exampleClient (halfAnswered offset) "a" "x" =
      some ⟨"x", "a", .empty, (halfAnswered offset).clock "a"⟩ := by
    rw [fetchOne, exchange, retrieve_answered]
    rfl
  have hb : fetchOne exampleClient (halfAnswered offset) "b" "y" = none := by
    rw [fetchOne, exchange, retrieve_unanswered]
  simp [fetchAll, Table.filterMap, exampleIds, ha, hb]

theorem isScalar_halfAnswered (offset : UtcOffset) :
    (halfAnswered offset).IsScalar exampleClient exampleIds where
  names := by simp [exampleIds]
  answers := by
    intro e he raw hraw
    simp only [exampleIds, List.mem_cons, List.not_mem_nil, or_false] at he
    rcases he with rfl | rfl
    · rw [retrieve_answered] at hraw
      cases hraw
      refine .object ?_ ?_ <;> simp [Json.IsScalar.string]
    · rw [retrieve_unanswered] at hraw
      cases hraw

theorem isReplacement_halfAnswered (offset : UtcOffset) :
    IsReplacement exampleClient (halfAnswered offset) exampleIds (.ofText "s.json")
      ((fetchingStore exampleClient).refreshUnder (halfAnswered offset) .empty exampleIds)
      (fetchAll exampleClient (halfAnswered offset) exampleIds) :=
  isReplacement_fetchAll (s := fetchingStore exampleClient) rfl isWritable_fetchingStore
    (isScalar_halfAnswered offset)

theorem find?_halfAnswered (offset : UtcOffset) :
    (fetchAll exampleClient (halfAnswered offset) exampleIds).find? "a" =
      some ⟨"x", "a", .empty, (halfAnswered offset).clock "a"⟩ := by
  rw [Table.find?_eq_some_iff, fetchAll_halfAnswered]
  exact List.mem_singleton_self _

/-- Whatever store is opened on the file has what was refreshed by a clock that shows UTC. -/
theorem load_halfAnswered (reader : SchemaStore) (hpath : reader.path = .ofText "s.json") :
    (reader.load ((fetchingStore exampleClient).refreshUnder (halfAnswered .utc) .empty
      exampleIds).value.files).value.2 =
        .ok (some (fetchAll exampleClient (halfAnswered .utc) exampleIds)) := by
  apply ((isReplacement_halfAnswered .utc).file reader hpath).2
  rw [fetchAll_halfAnswered]
  intro e he
  obtain rfl := List.mem_singleton.1 he
  exact Timestamp.isStorable_utc _ _

theorem refreshUnder_replaces_halfAnswered : ∃ snapshot,
    IsReplacement exampleClient (halfAnswered .utc) exampleIds (.ofText "s.json")
      ((fetchingStore exampleClient).refreshUnder (halfAnswered .utc) .empty exampleIds)
      snapshot ∧
    snapshot.keys = (["a"] : List Text) ∧
    ((fetchingStore exampleClient).load ((fetchingStore exampleClient).refreshUnder
      (halfAnswered .utc) .empty exampleIds).value.files).value.2 = .ok (some snapshot) := by
  obtain ⟨snapshot, hreplacement, -⟩ := refreshUnder_replaces (s := fetchingStore exampleClient)
    (c := halfAnswered .utc) rfl isWritable_fetchingStore (isScalar_halfAnswered .utc)
  have hentries := hreplacement.entries_eq
  rw [fetchAll_halfAnswered] at hentries
  refine ⟨snapshot, hreplacement, ?_, ?_⟩
  · rw [Table.keys, hentries]
    rfl
  · apply (hreplacement.file (fetchingStore exampleClient) rfl).2
    rw [hentries]
    intro e he
    obtain rfl := List.mem_singleton.1 he
    exact Timestamp.isStorable_utc _ _

def halfMinute : UtcOffset := ⟨30000000, by decide, by decide⟩

/-- With half a minute in the offset of the clock, the file does not give back what was
refreshed. -/
theorem refreshUnder_halfMinute : ∃ snapshot,
    (fetchingStore exampleClient).IsWritable (halfAnswered halfMinute).refused .empty ∧
    (halfAnswered halfMinute).IsScalar exampleClient exampleIds ∧
    ((fetchingStore exampleClient).refreshUnder (halfAnswered halfMinute) .empty
      exampleIds).value.result = .ok snapshot ∧
    ((fetchingStore exampleClient).load ((fetchingStore exampleClient).refreshUnder
      (halfAnswered halfMinute) .empty exampleIds).value.files).value.2 ≠ .ok (some snapshot) := by
  have hscalar := isScalar_halfAnswered halfMinute
  have hreplacement := isReplacement_fetchAll (s := fetchingStore exampleClient) rfl
    isWritable_fetchingStore hscalar
  refine ⟨_, isWritable_fetchingStore, hscalar, hreplacement.result, ?_⟩
  intro hload
  have hstorable := (hreplacement.file (fetchingStore exampleClient) rfl).1 hload
  rw [fetchAll_halfAnswered] at hstorable
  have hwhole : (60000000 : Int) ∣ 30000000 := hstorable _ List.mem_cons_self _ rfl
  omega

end SchemaStore

end SchemaQuery
