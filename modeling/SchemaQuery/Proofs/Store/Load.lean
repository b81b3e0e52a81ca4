import SchemaQuery.Proofs.FileSystem.Entries
import SchemaQuery.Proofs.Outcome
import SchemaQuery.Proofs.Text.Utf8
import SchemaQuery.Store

/-!
# What a load reads

A load gives what the file under the path of the store holds, if the system does not refuse to read
it. A snapshot that was read is at hand afterwards. A file that is there is loaded as a snapshot or
named as invalid, as long as its bytes are those of a text; other bytes are no text to find fault
with, and the load fails for them in a way of its own.
-/

namespace SchemaQuery.SchemaStore

variable {store after : SchemaStore} {refused : Refusals} {files : FileSystem} {s : Snapshot}
  {result : Except LoadError (Option Snapshot)}

theorem loadUnder_snd (store : SchemaStore) (refused : Refusals) (files : FileSystem) :
    (store.loadUnder refused files).value.2 = store.readSnapshot refused files := by
  unfold loadUnder
  split
  all_goals
    rename_i hread
    rw [hread]
    rfl

theorem readSnapshot_of_loadUnder (h : (store.loadUnder refused files).value = (after, result)) :
    store.readSnapshot refused files = result := by
  rw [← loadUnder_snd, h]

theorem loadUnder_of_readSnapshot (h : store.readSnapshot refused files = .ok (some s)) :
    (store.loadUnder refused files).value = ({ store with cache := ⟨some s⟩ }, .ok (some s)) := by
  unfold loadUnder
  rw [h]
  rfl

theorem readSnapshot_eq_some_iff : store.readSnapshot refused files = .ok (some s) ↔
    ∃ bytes t, refused.attempt .read (files.read store.path) = .ok bytes ∧
      Text.ofUtf8? .refused bytes = some t ∧ readContent t = .ok s := by
  constructor
  · intro h
    unfold readSnapshot at h
    split at h
    · cases h
    · cases h
    rename_i bytes hread
    split at h
    · cases h
    rename_i t hdecode
    split at h
    · rename_i hcontent
      cases h
      exact ⟨bytes, t, hread, hdecode, hcontent⟩
    · cases h
  · rintro ⟨bytes, t, hread, hdecode, hcontent⟩
    simp only [readSnapshot, hread, hdecode, hcontent]

theorem read_of_attempt {bytes : Bytes}
    (h : refused.attempt .read (files.read store.path) = .ok bytes) :
    files.read store.path = .ok bytes := by
  unfold Refusals.attempt at h
  split at h
  · cases h
  · exact h

/-! ### The content of a file -/

variable {bytes : Bytes}

/-- A snapshot was loaded, or the content of the file is said to be invalid. -/
inductive IsSettled (store : SchemaStore) : Except LoadError (Option Snapshot) → Prop
  | snapshot (s : Snapshot) : IsSettled store (.ok (some s))
  | invalid (e : ContentError) : IsSettled store (.error (.content store.path.text e))

inductive Loads (store : SchemaStore) (bytes : Bytes) : Except LoadError (Option Snapshot) → Prop
  | snapshot {t : Text} {s : Snapshot} : Text.utf8? t = some bytes → readContent t = .ok s →
    Loads store bytes (.ok (some s))
  | invalid {t : Text} {e : ContentError} : Text.utf8? t = some bytes → readContent t = .error e →
    Loads store bytes (.error (.content store.path.text e))
  | undecodable : (∀ t, Text.utf8? t ≠ some bytes) → Loads store bytes (.error .undecodable)

theorem loads_readSnapshot (h : refused.attempt .read (files.read store.path) = .ok bytes) :
    store.Loads bytes (store.readSnapshot refused files) := by
  unfold readSnapshot
  rw [h]
  simp only
  cases hdecode : Text.ofUtf8? .refused bytes with
  | none =>
    apply Loads.undecodable
    intro t ht
    rw [Text.ofUtf8?_eq_some_iff.2 ht] at hdecode
    cases hdecode
  | some t =>
    have ht := Text.ofUtf8?_eq_some_iff.1 hdecode
    cases hcontent : readContent t with
    | ok s =>
      simp only [hcontent]
      exact .snapshot ht hcontent
    | error e =>
      simp only [hcontent]
      exact .invalid ht hcontent

theorem Loads.isSettled_iff (h : store.Loads bytes result) :
    store.IsSettled result ↔ ∃ t, Text.utf8? t = some bytes := by
  cases h with
  | snapshot ht => exact iff_of_true (.snapshot _) ⟨_, ht⟩
  | invalid ht => exact iff_of_true (.invalid _) ⟨_, ht⟩
  | undecodable hnone =>
    apply iff_of_false
    · intro hsettled
      cases hsettled
    · rintro ⟨t, ht⟩
      exact hnone t ht

/-- The content of a file that is read decides what comes of a load, and the load is settled exactly
when the content is the UTF-8 of a text. -/
theorem isSettled_load_iff (h : refused.attempt .read (files.read store.path) = .ok bytes) :
    store.Loads bytes (store.loadUnder refused files).value.2 ∧
      (store.IsSettled (store.loadUnder refused files).value.2 ↔
        ∃ t, Text.utf8? t = some bytes) := by
  rw [loadUnder_snd]
  have hloads := loads_readSnapshot h
  exact ⟨hloads, hloads.isSettled_iff⟩

/-- A store whose file has some content. -/
def onFile : SchemaStore := .ofPath (.ofText "s.json") none

def holding (content : Bytes) : FileSystem := ⟨[(["s.json"], .file content)]⟩

theorem attempt_read_holding (content : Bytes) :
    Refusals.none.attempt .read ((holding content).read onFile.path) = .ok content := by
  have hadvance : FileSystem.advance [] "s.json" = .ok ["s.json"] :=
    Except.eq_ok_of_toOption (by decide +kernel)
  have hlocate : (holding content).locate onFile.path.steps = .ok ["s.json"] :=
    FileSystem.locate_eq_ok.2 ⟨rfl, FileSystem.follow_cons.2 ⟨rfl, _, hadvance, rfl⟩⟩
  unfold FileSystem.read
  rw [hlocate]
  rfl

/-- A brace that is not closed is invalid content. -/
theorem isSettled_load_iff_brace :
    (holding [0x7B]).read onFile.path = .ok [0x7B] ∧
      onFile.IsSettled (onFile.load (holding [0x7B])).value.2 := by
  have hread := attempt_read_holding [0x7B]
  exact ⟨read_of_attempt hread, (isSettled_load_iff hread).2.2 ⟨"\x7b", rfl⟩⟩

/-- A byte that is no text is not said to be invalid. -/
theorem not_isSettled_load_byte :
    (holding [0xFF]).read onFile.path = .ok [0xFF] ∧
      ¬ onFile.IsSettled (onFile.load (holding [0xFF])).value.2 := by
  have hread := attempt_read_holding [0xFF]
  have hloads := loads_readSnapshot hread
  rw [← loadUnder_snd] at hloads
  refine ⟨read_of_attempt hread, ?_⟩
  intro hsettled
  obtain ⟨t, ht⟩ := hloads.isSettled_iff.1 hsettled
  have hnone : Text.ofUtf8? .refused [0xFF] = none := by rfl
  rw [Text.ofUtf8?_eq_some_iff.2 ht] at hnone
  cases hnone

end SchemaQuery.SchemaStore
