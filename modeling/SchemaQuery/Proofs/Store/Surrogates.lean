import Mathlib.Logic.Basic
import SchemaQuery.Proofs.Json.Ascii
import SchemaQuery.Proofs.Store.Replacement

/-!
# What stops a refresh

A refresh with a client that can write the file goes through, whatever the servers answer, as long
as the schemas that were fetched have bytes. One that has none, because a lone surrogate stands in
its document or in its name, is fetched like any other and then keeps all of them from the file.
-/

namespace SchemaQuery

/-- The name and the document of a schema hold no surrogate. -/
def DatabaseSchema.HasBytes (s : DatabaseSchema) (name : Text) : Prop :=
  name.isScalar = true ∧ s.toJson.IsScalar

theorem Snapshot.isScalar_toJson_iff {s : Snapshot} :
    s.toJson.IsScalar ↔ ∀ e ∈ s.entries, e.2.HasBytes e.1 := by
  rw [toJson_eq]
  constructor
  · rintro (_ | _ | _ | _ | _ | _ | ⟨hnames, hschemas⟩) e he
    have hmem := List.mem_map_of_mem (f := fun e => (e.1, e.2.toJson)) he
    exact ⟨hnames _ hmem, hschemas _ hmem⟩
  · intro h
    refine .object (fun e he => ?_) fun e he => ?_
    all_goals obtain ⟨d, hd, rfl⟩ := List.mem_map.1 he
    · exact (h d hd).1
    · exact (h d hd).2

namespace FileSystem

variable {fs fs' : FileSystem} {refused : Refusals} {p : FilePath} {content content' : Text}

/-- A content without bytes fails where another one can be written. -/
theorem replaceFile_of_encode_eq_error {e : FileError}
    (h : fs.replaceFile refused p content = (fs', none)) (hencode : encode content' = .error e) :
    ∃ reason, (fs.replaceFile refused p content').2 = some reason ∧
      (reason = .failed e ∨
        ∃ t e', reason = .notRemoved t e' ∧ refused .removeTemporary = some e') := by
  obtain ⟨made, t, -, -, hthrough⟩ := replaceFile_eq_none h
  rw [hthrough] at h
  obtain ⟨⟨hwrite, -, -⟩, -⟩ := replaceThrough_eq_none.1 h
  have habandon : made.replaceThrough refused p t content' =
      (made.put t (.file [])).abandon refused t e := by
    simp only [replaceThrough, Refusals.attempt, hwrite, hencode]
  rw [hthrough, habandon]
  rcases abandon_eq (Prod.eta ((made.put t (.file [])).abandon refused t e)).symm with
    ⟨-, hreason⟩ | ⟨-, ⟨-, hreason⟩ | ⟨e', hremove, hreason⟩⟩
  · exact ⟨_, hreason, .inl rfl⟩
  · exact ⟨_, hreason, .inl rfl⟩
  · exact ⟨_, hreason, .inr ⟨t, e', rfl, hremove⟩⟩

end FileSystem

/-- The system did not let a temporary file be removed. -/
def RefreshError.IsNotRemoved (refused : Refusals) (e : RefreshError) : Prop :=
  ∃ temporary reason, e = .notRemoved temporary reason ∧ refused .removeTemporary = some reason

namespace SchemaStore

variable {s : SchemaStore} {client : ApiConfig} {c : Circumstances} {files : FileSystem}
  {refused : Refusals} {ids : Table Text} {snapshot : Snapshot}

theorem isScalar_fileText_iff :
    (fileText snapshot).isScalar = true ↔ ∀ e ∈ snapshot.entries, e.2.HasBytes e.1 := by
  rw [← Snapshot.isScalar_toJson_iff]
  exact ⟨Json.isScalar_of_writeAt _ 0, fun h => h.isScalar_writeAt 0⟩

theorem keep_of_hasBytes (h : s.IsWritable refused files)
    (hbytes : ∀ e ∈ snapshot.entries, e.2.HasBytes e.1) :
    (s.keep refused files snapshot).value.2 =
      ({ s with cache := ⟨some snapshot⟩ }, .ok snapshot) := by
  have hsome := isScalar_fileText_iff.2 hbytes
  rw [← Text.utf8?_isSome, Option.isSome_iff_exists] at hsome
  obtain ⟨bytes, hutf8⟩ := hsome
  have hencode : FileSystem.encode (fileText snapshot) = .ok bytes := by
    rw [FileSystem.encode, hutf8]
  obtain ⟨files', hreplace⟩ := FileSystem.replaceFile_of_replaceFile (Prod.ext rfl h) hencode
  rw [keep_of_replaceFile hreplace]
  rfl

theorem keep_of_not_hasBytes (h : s.IsWritable refused files)
    (hbytes : ¬ ∀ e ∈ snapshot.entries, e.2.HasBytes e.1) :
    ∃ e, (s.keep refused files snapshot).value.2 = (s, .error e) ∧
      (e = .notWritten s.path.text .notEncodable ∨ e.IsNotRemoved refused) := by
  rw [← isScalar_fileText_iff, ← Text.utf8?_isSome, Option.not_isSome_iff_eq_none] at hbytes
  have hencode : FileSystem.encode (fileText snapshot) = .error .notEncodable := by
    rw [FileSystem.encode, hbytes]
  obtain ⟨reason, hfailed, hreason⟩ :=
    FileSystem.replaceFile_of_encode_eq_error (Prod.ext rfl h) hencode
  refine ⟨.ofReplace s.path.text reason, ?_, ?_⟩
  · unfold keep
    split <;> rename_i hreplace <;> rw [hreplace] at hfailed <;> cases hfailed
    rfl
  · rcases hreason with rfl | ⟨t, e, rfl, hremove⟩
    · exact .inl rfl
    · exact .inr ⟨_, e, rfl, hremove⟩

theorem notWritten_of_keep {e : RefreshError}
    (h : (s.keep refused files snapshot).value.2.2 = .error e) :
    (∃ reason, e = .notWritten s.path.text reason) ∨ e.IsNotRemoved refused := by
  unfold keep at h
  split at h
  · cases h
  · rename_i reason hreplace
    cases h
    cases reason with
    | failed e => exact .inl ⟨e, rfl⟩
    | notRemoved t e => exact .inr ⟨_, e, rfl, FileSystem.removeTemporary_of_replaceFile hreplace⟩

/-- The schema of a registered database was fetched and has no bytes. -/
def IsSpoilt (client : ApiConfig) (c : Circumstances) (ids : Table Text) : Prop :=
  ∃ name id schema, (name, id) ∈ ids.entries ∧ fetchOne client c name id = some schema ∧
    ¬ schema.HasBytes name

theorem isSpoilt_iff :
    IsSpoilt client c ids ↔ ¬ ∀ e ∈ (fetchAll client c ids).entries, e.2.HasBytes e.1 := by
  constructor
  · rintro ⟨name, id, schema, hid, hfetch, hnot⟩ hbytes
    exact hnot (hbytes _ (mem_fetchAll.2 ⟨id, hid, hfetch⟩))
  · intro hnot
    simp only [not_forall, exists_prop] at hnot
    obtain ⟨⟨name, schema⟩, he, hlost⟩ := hnot
    obtain ⟨id, hid, hfetch⟩ := mem_fetchAll.1 he
    exact ⟨name, id, schema, hid, hfetch, hlost⟩

/-- A refresh without a client fails, and one with a client can only fail to write the file, or to
remove what it has written when the system does not let it. On a path that can be written it comes
to all schemas that were fetched, unless one of them has no bytes: then nothing is written and the
store stays as it was. -/
theorem refreshUnder_outcome (s : SchemaStore) (c : Circumstances) (files : FileSystem)
    (ids : Table Text) :
    (s.client = none → (s.refreshUnder c files ids).value.result = .error .cannotFetch) ∧
      ∀ client, s.client = some client →
        (∀ e, (s.refreshUnder c files ids).value.result = .error e →
          (∃ reason, e = .notWritten s.path.text reason) ∨ e.IsNotRemoved c.refused) ∧
        (s.IsWritable c.refused files →
          (¬ IsSpoilt client c ids →
            (s.refreshUnder c files ids).value.result = .ok (fetchAll client c ids)) ∧
          (IsSpoilt client c ids →
            (s.refreshUnder c files ids).value.store = s ∧
              ∃ e, (s.refreshUnder c files ids).value.result = .error e ∧
                (e = .notWritten s.path.text .notEncodable ∨ e.IsNotRemoved c.refused))) := by
  refine ⟨fun h => by rw [refreshUnder_cannotFetch h]; rfl, fun client hclient => ?_⟩
  obtain ⟨calls, hvalue⟩ := refreshUnder_value hclient c files ids
  rw [hvalue]
  refine ⟨fun e => notWritten_of_keep, fun hwritable => ⟨fun hunspoilt => ?_, fun hspoilt => ?_⟩⟩
  · rw [isSpoilt_iff, not_not] at hunspoilt
    simp only [keep_of_hasBytes hwritable hunspoilt]
  · obtain ⟨e, hkeep, he⟩ := keep_of_not_hasBytes hwritable (isSpoilt_iff.1 hspoilt)
    rw [hkeep]
    exact ⟨rfl, e, rfl, he⟩

theorem refreshUnder_outcome_halfAnswered :
    ((fetchingStore exampleClient).refreshUnder (halfAnswered .utc) .empty
      exampleIds).value.result = .ok (fetchAll exampleClient (halfAnswered .utc) exampleIds) := by
  obtain ⟨-, hclient⟩ :=
    refreshUnder_outcome (fetchingStore exampleClient) (halfAnswered .utc) .empty exampleIds
  refine ((hclient exampleClient rfl).2 isWritable_fetchingStore).1 ?_
  have hscalar := (isScalar_fetchAll (isScalar_halfAnswered .utc)).toJson
  rw [isSpoilt_iff, not_not, ← Snapshot.isScalar_toJson_iff]
  exact hscalar

def spoiltText : Text := "\x7b\"id\": \"x\", \"properties\": \x7b\"\\ud800\": \x7b\x7d\x7d\x7d"

def spoiltBody : Bytes :=
  [123, 34, 105, 100, 34, 58, 32, 34, 120, 34, 44, 32, 34, 112, 114, 111, 112, 101, 114, 116, 105,
    101, 115, 34, 58, 32, 123, 34, 92, 117, 100, 56, 48, 48, 34, 58, 32, 123, 125, 125, 125]

/-- Both databases answer, the first with the object above. -/
def spoilt : Circumstances where
  server name := if name = "a" then fun _ => .body spoiltBody else fun _ => .body exampleBody
  clock _ := ⟨.first, .midnight, some .utc⟩
  refused := .none
  toSchedule := .inOrder

theorem retrieve_spoilt :
    (exampleClient.retrieve (spoilt.server "a") "x").result = .ok (.object [("id", .string "x"),
      ("properties", .object [([.surrogate 0], .object [])])]) :=
  retrieve_of_resultOf "/databases/x" (by rfl) (by rfl)
    (resultOf_of_utf8? (t := spoiltText) (by rfl) rfl (by rfl))

theorem isSpoilt_spoilt : IsSpoilt exampleClient spoilt exampleIds := by
  refine ⟨"a", "x", ⟨"x", "a", ⟨[([.surrogate 0], ⟨[], [], [.surrogate 0], none⟩)], by decide⟩,
    ⟨.first, .midnight, some .utc⟩⟩, List.mem_cons_self, ?_, ?_⟩
  · rw [fetchOne, exchange, retrieve_spoilt]
    rfl
  · intro hbytes
    have htext : (Json.writeAt .controls .oneLine 0 _).isScalar = true :=
      hbytes.2.isScalar_writeAt 0
    revert htext
    decide

/-- The surrogate in one answer keeps a refresh from its end, though the file can be written and the
other database has a schema. -/
theorem refreshUnder_spoilt : ∃ schema e,
    (fetchingStore exampleClient).IsWritable spoilt.refused .empty ∧
      fetchOne exampleClient spoilt "b" "y" = some schema ∧ schema.HasBytes "b" ∧
      ((fetchingStore exampleClient).refreshUnder spoilt .empty exampleIds).value.result =
        .error e ∧
      e = .notWritten "s.json" .notEncodable ∧ e.message? = none := by
  obtain ⟨calls, hvalue⟩ :=
    refreshUnder_value (s := fetchingStore exampleClient) rfl spoilt .empty exampleIds
  have hwritable : (fetchingStore exampleClient).IsWritable spoilt.refused .empty :=
    isWritable_fetchingStore
  obtain ⟨e, hkeep, he⟩ := keep_of_not_hasBytes hwritable (isSpoilt_iff.1 isSpoilt_spoilt)
  have hfetch : fetchOne exampleClient spoilt "b" "y" =
      some ⟨"x", "b", .empty, ⟨.first, .midnight, some .utc⟩⟩ := by
    have hretrieve : (exampleClient.retrieve (spoilt.server "b") "y").result =
        .ok (.object [("id", .string "x")]) :=
      retrieve_of_resultOf "/databases/y" (by rfl) (by rfl) resultOf_exampleBody
    rw [fetchOne, exchange, hretrieve]
    rfl
  have hscalar : DatabaseSchema.IsScalar ⟨"x", "b", .empty, ⟨.first, .midnight, some .utc⟩⟩ :=
    ⟨rfl, rfl, by simp [Table.empty], by simp [Table.empty]⟩
  have hpath : (fetchingStore exampleClient).path.text = "s.json" := by rfl
  rw [hpath] at he
  obtain rfl : e = .notWritten "s.json" .notEncodable := by
    rcases he with he | ⟨_, _, -, hremove⟩
    · exact he
    · cases hremove
  refine ⟨_, _, hwritable, hfetch, ⟨rfl, hscalar.toJson⟩, ?_, rfl, rfl⟩
  simp only [hvalue, hkeep]

end SchemaStore

end SchemaQuery
