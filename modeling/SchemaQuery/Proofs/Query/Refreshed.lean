import SchemaQuery.Proofs.Query.Execution
import SchemaQuery.Proofs.Store.Replacement

/-!
# Queries after a refresh

A refresh fetches the schema of every registered database under its registered name. A request gives
its database in some spelling, and the registry leads from there to the registered name and its id.
So after a refresh every spelling leads to the schema that was fetched under the name that it stands
for, in the store that was refreshed as in one that has loaded the file.

All that the file may give back otherwise is the moment of the last update, which has no part in
what requests come to.
-/

namespace SchemaQuery

namespace DatabaseSchema

variable {schema loaded : DatabaseSchema} {name id : Text} {filters : List FilterSpec}
  {sort : Option SortSpec} {now : Moment}

def compiled (schema : DatabaseSchema) (id : Text) (filters : List FilterSpec)
    (sort : Option SortSpec) (now : Moment) : Except CompileError CompiledQuery :=
  match schema.checkRequest filters sort with
  | .error e => .error (.misfit e)
  | .ok () =>
    match (Compiler.leaves now filters).value with
    | none => .error .pastCalendar
    | some kept => .ok ⟨id, kept, sort⟩

def executed (schema : DatabaseSchema) (name id : Text) (client : ApiConfig) (server : Http.Server)
    (r : QueryRequest) (now : Moment) : Execution :=
  match schema.compiled id r.filters r.sort now with
  | .error e => ⟨none, .error (.compile e)⟩
  | .ok q =>
    ⟨(client.query server id q.requestBody).request,
      Compiler.answered schema name q.filters.length (client.query server id q.requestBody).result⟩

theorem compiled_ne_unknown (other : Text) :
    schema.compiled id filters sort now ≠ .error (.unknownDatabase other) := by
  intro h
  unfold compiled at h
  split at h
  · cases h
  · split at h <;> cases h

theorem databaseId_of_compiled {q : CompiledQuery}
    (h : schema.compiled id filters sort now = .ok q) : q.databaseId = id := by
  unfold compiled at h
  split at h
  · cases h
  · split at h <;> cases h
    rfl

theorem answered_ne_compile (count : Nat) (result : Except CallError Json) (e : CompileError) :
    Compiler.answered schema name count result ≠ .error (.compile e) := by
  intro h
  cases result with
  | error e => cases h
  | ok answer =>
    cases hpages : Compiler.pagesOf answer with
    | error m =>
      simp only [Compiler.answered, Compiler.renderAnswer, hpages, Logged.pure_value] at h
      cases h
    | ok pages =>
      cases hrender : renderPages schema pages with
      | error m =>
        simp only [Compiler.answered, Compiler.renderAnswer, hpages, hrender, Logged.withEvent] at h
        cases h
      | ok formatted =>
        simp only [Compiler.answered, Compiler.renderAnswer, hpages, hrender, Logged.withEvent] at h
        cases h

theorem executed_ne_unknown (client : ApiConfig) (server : Http.Server) (r : QueryRequest)
    (other : Text) :
    (schema.executed name id client server r now).result ≠
      .error (.compile (.unknownDatabase other)) := by
  intro h
  unfold executed at h
  split at h
  · rename_i hcompiled
    cases h
    exact compiled_ne_unknown other hcompiled
  · exact answered_ne_compile _ _ _ h

theorem Restores.compiled_eq (h : loaded.Restores schema) :
    loaded.compiled id filters sort now = schema.compiled id filters sort now := by
  obtain ⟨m, rfl⟩ := h.upToMoment
  rfl

theorem Restores.executed_eq (h : loaded.Restores schema) (client : ApiConfig)
    (server : Http.Server) (r : QueryRequest) :
    loaded.executed name id client server r now = schema.executed name id client server r now := by
  obtain ⟨m, rfl⟩ := h.upToMoment
  rfl

end DatabaseSchema

/-! ### One database at hand -/

namespace Compiler

variable {c : Compiler} {spelling name id : Text} {schema loaded : DatabaseSchema}

/-- Under a spelling, requests are for the database of a name and an id, with a schema of its own.
-/
structure LeadsTo (c : Compiler) (spelling name id : Text) (schema : DatabaseSchema) : Prop where
  compile : ∀ filters sort now,
    (c.compile spelling filters sort now).value = schema.compiled id filters sort now
  execute : ∀ (client : ApiConfig) (server : Http.Server) (r : QueryRequest) (now : Moment),
    r.database = spelling →
    (c.execute client server r now).value = schema.executed name id client server r now
  found : ∀ filters sort now other,
    (c.compile spelling filters sort now).value ≠ .error (.unknownDatabase other)
  answered : ∀ (client : ApiConfig) (server : Http.Server) (r : QueryRequest) (now : Moment) other,
    r.database = spelling →
    (c.execute client server r now).value.result ≠ .error (.compile (.unknownDatabase other))

theorem check_of_cached? {filters : List FilterSpec} {sort : Option SortSpec}
    (h : c.cached? name = some schema) :
    (c.check name filters sort).value = schema.checkRequest filters sort := by
  obtain ⟨cache, hcache, hschema⟩ := Option.bind_eq_some_iff.1 h
  simp only [check, hcache, hschema, Logged.pure_value]

theorem compile_of_cached? {filters : List FilterSpec} {sort : Option SortSpec} {now : Moment}
    (hresolve : c.resolve? spelling = some (name, id)) (hcached : c.cached? name = some schema) :
    (c.compile spelling filters sort now).value = schema.compiled id filters sort now := by
  rw [compile_value, hresolve]
  simp only [check_of_cached? hcached]
  rfl

theorem execute_of_cached? {client : ApiConfig} {server : Http.Server} {r : QueryRequest}
    {now : Moment} (hresolve : c.resolve? r.database = some (name, id))
    (hcached : c.cached? name = some schema) :
    (c.execute client server r now).value = schema.executed name id client server r now := by
  rw [execute_value, hresolve]
  simp only [hcached, compile_of_cached? hresolve hcached, DatabaseSchema.executed]
  cases hcompiled : schema.compiled id r.filters r.sort now with
  | error e => rfl
  | ok q => simp only [DatabaseSchema.databaseId_of_compiled hcompiled]

/-- A spelling leads to the database whose name it resolves to, with the schema that is at hand
under that name. -/
theorem leadsTo_of_cached? (hresolve : c.resolve? spelling = some (name, id))
    (hcached : c.cached? name = some loaded) (hloaded : loaded.Restores schema) :
    c.LeadsTo spelling name id schema where
  compile := by
    intro filters sort now
    rw [compile_of_cached? hresolve hcached, hloaded.compiled_eq]
  execute := by
    rintro client server r now rfl
    rw [execute_of_cached? hresolve hcached, hloaded.executed_eq]
  found := by
    intro filters sort now other
    rw [compile_of_cached? hresolve hcached]
    exact DatabaseSchema.compiled_ne_unknown other
  answered := by
    rintro client server r now other rfl
    rw [execute_of_cached? hresolve hcached]
    exact DatabaseSchema.executed_ne_unknown client server r other

end Compiler

/-! ### The stores -/

namespace SchemaStore

variable {s store after : SchemaStore} {client : ApiConfig} {c : Circumstances}
  {files files' : FileSystem} {ids : Table Text} {name id : Text} {schema : DatabaseSchema}
  {snapshot loaded : Snapshot} {refused : Refusals}

/-- A store that a refresh has served: the one that was refreshed, or another one that has loaded
the file that the refresh has written, as long as nobody has changed that. -/
inductive IsServed (s : SchemaStore) (c : Circumstances) (files : FileSystem) (ids : Table Text) :
    SchemaStore → Prop
  | refreshed : IsServed s c files ids (s.refreshUnder c files ids).value.store
  | loaded {reader after : SchemaStore} {refused : Refusals} {files' : FileSystem}
      {loaded : Snapshot} :
    reader.path = s.path →
    files'.read s.path = (s.refreshUnder c files ids).value.files.read s.path →
    (reader.loadUnder refused files').value = (after, .ok (some loaded)) →
    IsServed s c files ids after

theorem keep_of_refreshUnder (hclient : s.client = some client)
    (h : (s.refreshUnder c files ids).value.result = .ok snapshot) :
    snapshot = fetchAll client c ids ∧
      (s.keep c.refused files snapshot).value = ((s.refreshUnder c files ids).value.files,
        (s.refreshUnder c files ids).value.store, .ok snapshot) := by
  obtain ⟨calls, hvalue⟩ := refreshUnder_value hclient c files ids
  rw [hvalue] at h ⊢
  have hkeep : (s.keep c.refused files (fetchAll client c ids)).value = (_, _, .ok snapshot) :=
    Prod.ext rfl (Prod.ext rfl h)
  obtain ⟨-, -, rfl⟩ := keep_eq_ok hkeep
  exact ⟨rfl, hkeep⟩

theorem related_of_loadUnder {kept : SchemaStore} (hscalar : snapshot.IsScalar)
    (hkeep : (s.keep refused files snapshot).value = (files', kept, .ok snapshot))
    {reader : SchemaStore} {refused' : Refusals} {later : FileSystem} (hpath : reader.path = s.path)
    (hsame : later.read s.path = files'.read s.path)
    (hload : (reader.loadUnder refused' later).value = (after, .ok (some loaded))) :
    Entries.Related DatabaseSchema.Restores loaded.entries snapshot.entries := by
  obtain ⟨bytes, t, hattempt, hdecode, hcontent⟩ :=
    readSnapshot_eq_some_iff.1 (readSnapshot_of_loadUnder hload)
  obtain ⟨written, hwritten, hread⟩ := read_of_keep hkeep
  have hbytes := read_of_attempt hattempt
  rw [hpath, hsame, hread] at hbytes
  cases hbytes
  rw [Text.ofUtf8?_of_utf8? .refused hwritten] at hdecode
  cases hdecode
  have hdocument : Json.read (fileText snapshot) = .ok snapshot.toJson :=
    snapshot.isReadable_toJson.read_writeAt (.indented 2)
  rw [readContent, hdocument] at hcontent
  simp only at hcontent
  split at hcontent
  · rename_i hjson
    cases hcontent
    exact Snapshot.related_of_ofJson_toJson hscalar hjson
  · cases hcontent

theorem IsServed.exists_find? (h : IsServed s c files ids store) (hclient : s.client = some client)
    (hscalar : c.IsScalar client ids)
    (hrefresh : (s.refreshUnder c files ids).value.result = .ok snapshot)
    (hfind : snapshot.find? name = some schema) :
    ∃ found, store.find? name = some found ∧ found.Restores schema := by
  obtain ⟨hsnapshot, hkeep⟩ := keep_of_refreshUnder hclient hrefresh
  cases h with
  | refreshed =>
    obtain ⟨-, hstore, -⟩ := keep_eq_ok hkeep
    rw [hstore]
    exact ⟨schema, hfind, .refl schema⟩
  | loaded hpath hsame hload =>
    have hall : snapshot.IsScalar := by
      rw [hsnapshot]
      exact isScalar_fetchAll hscalar
    have hrelated := related_of_loadUnder hall hkeep hpath hsame hload
    have hread := loadUnder_of_readSnapshot (readSnapshot_of_loadUnder hload)
    rw [hload] at hread
    cases hread
    exact hrelated.exists_find? hfind

end SchemaStore

namespace Registry

open SchemaStore (IsServed fetchOne fetchAll)

variable {r : Registry} {s : SchemaStore} {client : ApiConfig} {c : Circumstances}
  {files : FileSystem} {spelling name : Text} {schema : DatabaseSchema} {snapshot : Snapshot}

/-- After a refresh, every spelling of a name in its result leads to the database that is registered
under the name: requests are checked and rendered with the schema that was fetched for it, and go to
its id. -/
theorem leadsTo_after_refresh (hclient : s.client = some client)
    (hscalar : c.IsScalar client r.ids)
    (hrefresh : (s.refreshUnder c files r.ids).value.result = .ok snapshot)
    (hfind : snapshot.find? name = some schema)
    (hspelling : r.canonicalName? spelling = some name) :
    ∃ id, (name, id) ∈ r.ids.entries ∧ fetchOne client c name id = some schema ∧
      ∀ store, IsServed s c files r.ids store →
        (∃ found, store.find? name = some found ∧ found.Restores schema) ∧
        Compiler.LeadsTo ⟨r, some store.cache⟩ spelling name id schema := by
  obtain ⟨hsnapshot, -⟩ := SchemaStore.keep_of_refreshUnder hclient hrefresh
  have hfetched := hfind
  rw [hsnapshot, SchemaStore.find?_fetchAll] at hfetched
  obtain ⟨id, hid, hfetch⟩ := Option.bind_eq_some_iff.1 hfetched
  have hentry := r.ids.find?_eq_some_iff.1 hid
  refine ⟨id, hentry, hfetch, ?_⟩
  intro store hserved
  obtain ⟨found, hfound, hsame⟩ := hserved.exists_find? hclient hscalar hrefresh hfind
  have hresolve : Compiler.resolve? ⟨r, some store.cache⟩ spelling = some (name, id) := by
    unfold Compiler.resolve?
    rw [resolve?_eq_some_iff_canonicalName?.2 ⟨hspelling, hentry⟩]
  exact ⟨⟨found, hfound, hsame⟩, Compiler.leadsTo_of_cached? hresolve hfound hsame⟩

open SchemaStore (fetchingStore exampleClient exampleIds halfAnswered)

def exampleRegistry : Registry := ⟨exampleIds⟩

theorem ids_exampleRegistry : exampleRegistry.ids = exampleIds := rfl

/-- A store that is opened on the file of the refresh leads to the database in another spelling. -/
theorem leadsTo_after_refresh_capital : ∃ reader loaded,
    ((SchemaStore.ofPath (.ofText "s.json") none).loadUnder .none
        ((fetchingStore exampleClient).refreshUnder (halfAnswered .utc) .empty
          exampleRegistry.ids).value.files).value = (reader, .ok (some loaded)) ∧
      exampleRegistry.canonicalName? "A" = some ("a" : Text) ∧
      (Compiler.compile ⟨exampleRegistry, some reader.cache⟩ "A" [] none default).value =
        .ok ⟨"x", [], none⟩ := by
  have hload := SchemaStore.load_halfAnswered (.ofPath (.ofText "s.json") none) rfl
  rw [SchemaStore.load, SchemaStore.loadUnder_snd] at hload
  have hscalar := SchemaStore.isScalar_halfAnswered .utc
  have hrefresh := (SchemaStore.isReplacement_halfAnswered .utc).result
  have hfind := SchemaStore.find?_halfAnswered .utc
  rw [← ids_exampleRegistry] at hload hscalar hrefresh hfind
  have hspelling : exampleRegistry.canonicalName? "A" = some ("a" : Text) := by decide
  obtain ⟨id, hid, -, hleads⟩ :=
    leadsTo_after_refresh rfl hscalar hrefresh hfind hspelling
  have hx : (("a", "x") : Text × Text) ∈ exampleRegistry.ids.entries := List.mem_cons_self
  rw [← Table.find?_eq_some_iff] at hid hx
  obtain rfl := Option.some.inj (hx.symm.trans hid)
  have hreader := SchemaStore.loadUnder_of_readSnapshot hload
  have hpath : (SchemaStore.ofPath (.ofText "s.json") none).path =
      (fetchingStore exampleClient).path := rfl
  refine ⟨_, _, hreader, hspelling, ?_⟩
  rw [(hleads _ (.loaded hpath rfl hreader)).2.compile]
  rfl

end Registry

end SchemaQuery
