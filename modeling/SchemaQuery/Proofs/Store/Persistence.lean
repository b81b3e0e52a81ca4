import SchemaQuery.Proofs.Json.Ascii
import SchemaQuery.Proofs.FileSystem.Replace
import SchemaQuery.Proofs.Schema.Conversion
import SchemaQuery.Proofs.Schema.RoundTrip
import SchemaQuery.Proofs.Store.Load

/-!
# Snapshots outlive the store that wrote them

A snapshot that was written is loaded by every store on the same path as it was, and the loaded one
is written in the same bytes. This holds for all snapshots that the program can come by: their
moments are read from documents, or taken from a clock that shows UTC.
-/

namespace SchemaQuery

/-- A schema that the program can come by. -/
inductive DatabaseSchema.Arises : DatabaseSchema → Prop
  /-- It was converted when the clock showed UTC. -/
  | converted {name : Text} {raw : Json} {fetchedAt : Moment} {s : DatabaseSchema} :
    fetchedAt.offset = some .utc → Conversion.schema name raw fetchedAt = .ok s → Arises s
  /-- It belongs to a snapshot that was read from a document. -/
  | accepted {document : Json} {snapshot : Snapshot} {e : Text × DatabaseSchema} :
    Snapshot.ofJson document = .ok snapshot → e ∈ snapshot.entries → Arises e.2

theorem DatabaseSchema.Arises.isStorable {s : DatabaseSchema} (h : s.Arises) :
    s.lastUpdated.IsStorable := by
  cases h with
  | converted hutc hschema =>
    obtain ⟨-, hmoment⟩ := Conversion.title_of_schema_eq_ok hschema
    simp [Moment.IsStorable, hmoment, hutc, UtcOffset.utc]
  | accepted hdocument he => exact Snapshot.isStorable_of_ofJson hdocument _ he

namespace SchemaStore

variable {store : SchemaStore} {refused : Refusals} {files files' : FileSystem} {s : Snapshot}

/-- A file can be put on the path of the store. -/
def IsWritable (store : SchemaStore) (refused : Refusals) (files : FileSystem) : Prop :=
  (files.replaceFile refused store.path []).2 = none

theorem readContent_fileText (h : s.IsScalar) (ht : s.IsStorable) :
    readContent (fileText s) = .ok s := by
  have hread : Json.read (fileText s) = .ok s.toJson :=
    s.isReadable_toJson.read_writeAt (.indented 2)
  simp [readContent, hread, Snapshot.ofJson_toJson h ht]

theorem keep_eq_ok {after : SchemaStore} {kept : Snapshot}
    (h : (store.keep refused files s).value = (files', after, .ok kept)) :
    files.replaceFile refused store.path (fileText s) = (files', none) ∧
      after = { store with cache := ⟨some s⟩ } ∧ kept = s := by
  unfold keep at h
  split at h
  · rename_i hreplace
    simp only [Logged.withEvent, Prod.mk.injEq, Except.ok.injEq] at h
    obtain ⟨rfl, rfl, rfl⟩ := h
    exact ⟨hreplace, rfl, rfl⟩
  · simp at h

theorem exists_utf8?_fileText (h : s.IsScalar) :
    ∃ bytes, Text.utf8? (fileText s) = some bytes := by
  rw [← Option.isSome_iff_exists, Text.utf8?_isSome]
  exact h.toJson.isScalar_writeAt 0

theorem keep_of_isWritable (h : store.IsWritable refused files) (hs : s.IsScalar) :
    ∃ files', files.replaceFile refused store.path (fileText s) = (files', none) := by
  obtain ⟨bytes, hbytes⟩ := exists_utf8?_fileText hs
  have hencode : FileSystem.encode (fileText s) = .ok bytes := by
    rw [FileSystem.encode, hbytes]
  exact FileSystem.replaceFile_of_replaceFile (Prod.ext rfl h) hencode

theorem keep_of_replaceFile
    (h : files.replaceFile refused store.path (fileText s) = (files', none)) :
    store.keep refused files s = .withEvent (.persisted store.path.text s.size)
      (files', { store with cache := ⟨some s⟩ }, .ok s) := by
  rw [keep, h]

theorem read_of_keep {after : SchemaStore} {kept : Snapshot}
    (h : (store.keep refused files s).value = (files', after, .ok kept)) :
    ∃ bytes, Text.utf8? (fileText s) = some bytes ∧ files'.read store.path = .ok bytes := by
  obtain ⟨bytes, hencode, hread⟩ := FileSystem.read_of_replaceFile (keep_eq_ok h).1
  refine ⟨bytes, ?_, hread⟩
  unfold FileSystem.encode at hencode
  split at hencode
  · rename_i hbytes
    rw [hbytes, Except.ok.inj hencode]
  · cases hencode

theorem load_of_read {bytes : Bytes} (hread : files.read store.path = .ok bytes)
    (hbytes : Text.utf8? (fileText s) = some bytes) (h : s.IsScalar) (ht : s.IsStorable) :
    (store.load files).value = ({ store with cache := ⟨some s⟩ }, .ok (some s)) := by
  apply loadUnder_of_readSnapshot
  rw [readSnapshot_eq_some_iff]
  exact ⟨bytes, fileText s, hread, Text.ofUtf8?_of_utf8? .refused hbytes, readContent_fileText h ht⟩

theorem isStorable_of_load (h : (store.load files).value.2 = .ok (some s)) : s.IsStorable := by
  rw [load, loadUnder_snd, readSnapshot_eq_some_iff] at h
  obtain ⟨bytes, t, -, -, hcontent⟩ := h
  unfold readContent at hcontent
  split at hcontent
  · cases hcontent
  · cases hcontent
  split at hcontent
  · rename_i hdocument
    cases hcontent
    exact Snapshot.isStorable_of_ofJson hdocument
  · cases hcontent

/-- After a snapshot was written, whatever store stands on the path loads it, and has it at hand.
Written again, to any file, what was loaded gives the same bytes. -/
theorem load_keep {after : SchemaStore} {kept : Snapshot} (hscalar : s.IsScalar)
    (harises : ∀ e ∈ s.entries, e.2.Arises)
    (hkeep : (store.keep refused files s).value = (files', after, .ok kept)) :
    ∃ bytes, files'.read store.path = .ok bytes ∧
      ∀ reader : SchemaStore, reader.path = store.path →
        (reader.load files').value = ({ reader with cache := ⟨some s⟩ }, .ok (some s)) ∧
        ∀ (loaded : Snapshot), (reader.load files').value.2 = .ok (some loaded) →
          ∀ (writer : SchemaStore) (refused' : Refusals) (earlier later : FileSystem)
            (after' : SchemaStore) (kept' : Snapshot),
            (writer.keep refused' earlier loaded).value = (later, after', .ok kept') →
              later.read writer.path = .ok bytes := by
  have hstorable : s.IsStorable := fun e he => (harises e he).isStorable
  obtain ⟨bytes, hbytes, hread⟩ := read_of_keep hkeep
  refine ⟨bytes, hread, fun reader hpath => ?_⟩
  rw [← hpath] at hread
  have hload := load_of_read hread hbytes hscalar hstorable
  refine ⟨hload, fun loaded hloaded writer refused' earlier later after' kept' hwrite => ?_⟩
  obtain rfl : s = loaded := by simpa [hload] using hloaded
  obtain ⟨bytes', hbytes', hread'⟩ := read_of_keep hwrite
  rw [hread', ← hbytes'.symm.trans hbytes |> Option.some.inj]

def tasksStore : SchemaStore := .ofPath (.ofText "schemas.json") none

def tasksObject : Json := .object [("id", .string "db-1"), ("properties", .object [
  ("Status", .object [("id", .string "s"), ("type", .string "status"), ("status", .object [
    ("options", .array [.object [("id", .string "o"), ("name", .string "Done"),
      ("color", .string "green")]])])])])]

def tasksSchema : DatabaseSchema where
  id := "db-1"
  title := "tasks"
  properties := .ofList [("Status", ⟨"s", "status", "Status", some [⟨"o", "Done", "green"⟩]⟩)]
  lastUpdated := ⟨.first, .midnight, some .utc⟩

def tasksSnapshot : Snapshot := .ofList [("tasks", tasksSchema)]

theorem isScalar_tasksSchema : tasksSchema.IsScalar where
  id := rfl
  title := rfl
  keys := by
    intro e he
    obtain rfl := List.mem_singleton.1 he
    rfl
  properties := by
    intro e he
    obtain rfl := List.mem_singleton.1 he
    refine ⟨rfl, rfl, rfl, ?_⟩
    rintro options ⟨⟩ o ho
    obtain rfl := List.mem_singleton.1 ho
    exact ⟨rfl, rfl, rfl⟩

theorem isScalar_tasksSnapshot : tasksSnapshot.IsScalar where
  names := by
    intro e he
    obtain rfl := List.mem_singleton.1 he
    rfl
  schemas := by
    intro e he
    obtain rfl := List.mem_singleton.1 he
    exact isScalar_tasksSchema

theorem load_keep_tasks : ∃ files' bytes,
    (tasksStore.keep .none .empty tasksSnapshot).value =
      (files', { tasksStore with cache := ⟨some tasksSnapshot⟩ }, .ok tasksSnapshot) ∧
    files'.read tasksStore.path = .ok bytes ∧
    (tasksStore.load files').value.2 = .ok (some tasksSnapshot) := by
  have hwritable : tasksStore.IsWritable .none .empty := by
    unfold IsWritable
    decide +kernel
  have hschema : Conversion.schema "tasks" tasksObject ⟨.first, .midnight, some .utc⟩ =
      .ok tasksSchema := rfl
  have harises : ∀ e ∈ tasksSnapshot.entries, e.2.Arises := by
    intro e he
    obtain rfl := List.mem_singleton.1 he
    exact .converted rfl hschema
  obtain ⟨files', hreplace⟩ := keep_of_isWritable hwritable isScalar_tasksSnapshot
  have hkeep := congrArg Logged.value (keep_of_replaceFile hreplace)
  obtain ⟨bytes, hread, hload⟩ := load_keep isScalar_tasksSnapshot harises hkeep
  exact ⟨files', bytes, hkeep, hread, congrArg Prod.snd (hload tasksStore rfl).1⟩

end SchemaStore

end SchemaQuery
