import SchemaQuery.Proofs.FileSystem.Entries
import SchemaQuery.Proofs.Outcome
import SchemaQuery.Proofs.Text.Numeral
import SchemaQuery.Proofs.Text.Utf8

/-!
# Replacing a file

Once a file has been replaced, reading it gives what was written.
-/

namespace SchemaQuery

theorem Refusals.attempt_eq_ok {α : Type} {refused : Refusals} {step : FileStep}
    {outcome : Except FileError α} {a : α} :
    refused.attempt step outcome = .ok a ↔ refused step = .none ∧ outcome = .ok a := by
  unfold attempt
  cases refused step <;> simp

namespace FileSystem

variable {fs fs' : FileSystem} {refused : Refusals} {p : FilePath} {content : Text}

/-! ### The temporary file -/

theorem temporaryName_eq (n : Nat) :
    temporaryName n =
      (".schemas_".toList ++ (Text.paddedDigits 8 n ++ ".json".toList)).map .scalar := by
  simp [temporaryName, Text.padded_eq, Text.ofString]

theorem asName_temporaryName (n : Nat) : (temporaryName n).asName = temporaryName n := by
  rw [temporaryName_eq]
  have hdigit (c : Char) (h : c.isDigit = true) : c.toNat < 0x80 := by
    simp only [Char.isDigit, Bool.and_eq_true, decide_eq_true_iff, UInt32.le_iff_toNat_le] at h
    exact Nat.lt_of_le_of_lt h.2 (by decide)
  have hstart : (".schemas_".toList.all fun c => c.toNat < 0x80) = true := by decide
  have hend : (".json".toList.all fun c => c.toNat < 0x80) = true := by decide
  simp only [List.all_eq_true, decide_eq_true_iff] at hstart hend
  apply Text.asName_ascii
  simp only [List.mem_append]
  rintro c (hc | hc | hc)
  · exact hstart c hc
  · exact hdigit c (Text.isDigit_of_mem_paddedDigits hc)
  · exact hend c hc

theorem exists_temporaryName (fs : FileSystem) (directory : Location) :
    ∃ n, fs.freshName directory = temporaryName n := by
  unfold freshName
  simp only
  cases hfind : List.find? (fun name => (fs.entry? (directory ++ [name])).isNone)
    ((List.range (fs.entries.length + 1)).map temporaryName) with
  | none => exact ⟨0, rfl⟩
  | some name =>
    obtain ⟨n, -, hn⟩ := List.mem_map.1 (List.mem_of_find?_eq_some hfind)
    exact ⟨n, hn.symm⟩

theorem temporaryName_eq_cons (n : Nat) :
    ∃ t : Text, temporaryName n = .scalar '.' :: .scalar 's' :: t :=
  ⟨_, rfl⟩

theorem temporaryName_ne (n : Nat) :
    temporaryName n ≠ FilePath.root ∧ temporaryName n ≠ FilePath.here ∧
      temporaryName n ≠ FilePath.above := by
  obtain ⟨t, ht⟩ := temporaryName_eq_cons n
  rw [ht]
  refine ⟨?_, ?_, ?_⟩ <;> simp [FilePath.root, FilePath.here, FilePath.above, Text.ofString]

theorem eq_of_advance_temporaryName {l next : Location} {n : Nat}
    (h : advance l (temporaryName n) = .ok next) : next = l ++ [temporaryName n] := by
  obtain ⟨hroot, hhere, habove⟩ := temporaryName_ne n
  rw [advance, if_neg hroot, if_neg hhere, if_neg habove] at h
  split at h
  · cases h
  · rw [asName_temporaryName] at h
    exact (Except.ok.inj h).symm

theorem locateFresh_eq_ok {steps : List Text} {t : Location} (h : fs.locateFresh steps = .ok t) :
    ∃ directory, fs.locate steps = .ok directory ∧ fs.entry? directory = some .directory ∧
      t = directory ++ [fs.freshName directory] := by
  obtain ⟨directory, hdirectory, hfresh⟩ := Except.bind_eq_ok.1 h
  obtain ⟨between, hbetween, hname⟩ := follow_append.1 (locate_eq_ok.1 hfresh).2
  obtain rfl : directory = between := by
    rw [(locate_eq_ok.1 hdirectory).2] at hbetween
    exact Except.ok.inj hbetween
  obtain ⟨hentry, next, hnext, hfollow⟩ := follow_cons.1 hname
  obtain ⟨n, hn⟩ := exists_temporaryName fs directory
  rw [hn] at hnext
  refine ⟨directory, hdirectory, hentry, ?_⟩
  rw [hn, ← eq_of_advance_temporaryName hnext]
  exact (Except.ok.inj hfollow).symm

theorem isGiven_temporary (directory : Location) (n : Nat) :
    isGiven (directory ++ [temporaryName n]) = false := by
  obtain ⟨hroot, -, habove⟩ := temporaryName_ne n
  simp [isGiven, habove, hroot, List.append_eq_singleton_iff]

theorem isGiven_of_locateFresh {steps : List Text} {t : Location}
    (h : fs.locateFresh steps = .ok t) : isGiven t = false := by
  obtain ⟨directory, -, -, rfl⟩ := locateFresh_eq_ok h
  obtain ⟨n, hn⟩ := exists_temporaryName fs directory
  rw [hn, isGiven_temporary]

/-! ### Moving -/

/-- The last step of a path is a name, not the directory itself or another one. -/
def EndsInName (p : FilePath) : Prop :=
  ∃ last, p.steps.getLast? = some last ∧
    ¬ (last = FilePath.root ∨ last = FilePath.here ∨ last = FilePath.above)

theorem moveFile_eq_ok {source : Location} :
    fs.moveFile source p = .ok fs' ↔ checkSpelling p.text = .ok () ∧ EndsInName p ∧
      ∃ target e, fs.locate p.steps = .ok target ∧ fs.entry? target ≠ some .directory ∧
        fs.entry? source = some e ∧ fs' = (fs.remove source).put target e := by
  constructor
  · intro h
    obtain ⟨_, hspelling, h⟩ := Except.bind_eq_ok.1 h
    obtain ⟨target, htarget, h⟩ := Except.bind_eq_ok.1 h
    split at h
    · cases h
    rename_i last hlast
    split at h
    · cases h
    rename_i hname
    split at h
    · cases h
    · rename_i hsource hdirectory
      exact ⟨hspelling, ⟨last, hlast, hname⟩, target, _, htarget, hdirectory, hsource,
        (Except.ok.inj h).symm⟩
    · cases h
  · rintro ⟨hspelling, ⟨last, hlast, hname⟩, target, e, htarget, hdirectory, hsource, rfl⟩
    unfold moveFile
    rw [Except.bind_eq_ok]
    refine ⟨(), hspelling, Except.bind_eq_ok.2 ⟨target, htarget, ?_⟩⟩
    simp only [hlast, hname, if_false, hsource]
    cases hentry : fs.entry? target with
    | none => rfl
    | some old =>
      cases old with
      | file bytes => rfl
      | directory => exact absurd hentry hdirectory

theorem read_of_moveFile {source : Location} {bytes : Bytes}
    (hsource : fs.entry? source = some (.file bytes)) (h : fs.moveFile source p = .ok fs') :
    fs'.read p = .ok bytes := by
  obtain ⟨hspelling, -, target, e, hlocate, htarget, he, rfl⟩ := moveFile_eq_ok.1 h
  rw [hsource, Option.some.injEq] at he
  subst he
  have hkeep : ∀ l, ¬ source <+: l → fs.entry? l = some .directory →
      entry? ((fs.remove source).put target (.file bytes)) l = some .directory := by
    intro l hl hentry
    have hne : l ≠ target := by
      rintro rfl
      exact htarget hentry
    rw [entry?_put_of_ne hne, entry?_remove_beside hl, hentry]
  obtain ⟨hsteps, hfollow⟩ := locate_eq_ok.1 hlocate
  have hlocate' := locate_eq_ok.2 ⟨hsteps,
    follow_of_directories (by simp [hsource]) hkeep hfollow⟩
  have hput : entry? ((fs.remove source).put target (.file bytes)) target = some (.file bytes) :=
    entry?_put_self (isGiven_eq_false htarget) _
  simp [read, hspelling, hlocate', hput, bind, Except.bind, pure, Except.pure]

/-- What the temporary file holds does not decide whether it can be moved. -/
theorem moveFile_put {t : Location} (ht : isGiven t = false) {bytes : Bytes}
    (h : (fs.put t (.file bytes)).moveFile t p = .ok fs') (bytes' : Bytes) :
    ∃ moved, (fs.put t (.file bytes')).moveFile t p = .ok moved := by
  obtain ⟨hspelling, hname, target, e, hlocate, htarget, -, -⟩ := moveFile_eq_ok.1 h
  have hsame {l : Location} (hl : l ≠ t) :
      entry? (fs.put t (.file bytes')) l = entry? (fs.put t (.file bytes)) l := by
    rw [entry?_put_of_ne hl, entry?_put_of_ne hl]
  have hfile {content : Bytes} : entry? (fs.put t (.file content)) t ≠ some .directory := by
    rw [entry?_put_self ht]
    simp
  have hkeep : ∀ l, ¬ t <+: l → entry? (fs.put t (.file bytes)) l = some .directory →
      entry? (fs.put t (.file bytes')) l = some .directory := by
    intro l hl hentry
    rwa [hsame fun heq => hl (heq ▸ List.prefix_rfl)]
  obtain ⟨hsteps, hfollow⟩ := locate_eq_ok.1 hlocate
  have hlocate' := locate_eq_ok.2
    ⟨hsteps, follow_of_directories hfile hkeep hfollow⟩
  refine ⟨_, moveFile_eq_ok.2
    ⟨hspelling, hname, target, _, hlocate', ?_, entry?_put_self ht _, rfl⟩⟩
  by_cases heq : target = t
  · rw [heq]
    exact hfile
  · rwa [hsame heq]

/-! ### Giving up -/

/-- A replacement that is given up leaves the temporary file only where it cannot be found or
removed. -/
theorem abandon_eq {t : Location} {e : FileError} {reason : Option ReplaceError}
    (h : fs.abandon refused t e = (fs', reason)) :
    fs' = fs.remove t ∧ reason = some (.failed e) ∨
      fs' = fs ∧ (refused .findTemporary ≠ none ∧ reason = some (.failed e) ∨
        ∃ e', refused .removeTemporary = some e' ∧ reason = some (.notRemoved t e')) := by
  unfold abandon discard at h
  cases hfind : refused .findTemporary with
  | some blocked =>
    rw [hfind] at h
    cases h
    exact .inr ⟨rfl, .inl ⟨Option.some_ne_none blocked, rfl⟩⟩
  | none =>
    cases hremove : refused .removeTemporary with
    | some e' =>
      rw [hfind, hremove] at h
      cases h
      exact .inr ⟨rfl, .inr ⟨e', rfl, rfl⟩⟩
    | none =>
      rw [hfind, hremove] at h
      cases h
      exact .inl ⟨rfl, rfl⟩

theorem abandon_ne_none {t : Location} {e : FileError} :
    fs.abandon refused t e ≠ (fs', none) := by
  intro h
  rcases abandon_eq h with ⟨-, h⟩ | ⟨-, ⟨-, h⟩ | ⟨_, -, h⟩⟩ <;> cases h

theorem removeTemporary_of_abandon {t t' : Location} {e e' : FileError}
    (h : fs.abandon refused t e = (fs', some (.notRemoved t' e'))) :
    refused .removeTemporary = some e' := by
  rcases abandon_eq h with ⟨-, h⟩ | ⟨-, ⟨-, h⟩ | ⟨_, hremove, h⟩⟩ <;> cases h
  exact hremove

/-! ### Replacing -/

/-- The files with a temporary file that has been opened, and perhaps written. -/
inductive IsDraft (fs : FileSystem) (t : Location) : FileSystem → Prop
  | opened : IsDraft fs t (fs.put t (.file []))
  | written (bytes : Bytes) : IsDraft fs t ((fs.put t (.file [])).put t (.file bytes))

theorem IsDraft.entry?_self {t : Location} {draft : FileSystem} (h : IsDraft fs t draft)
    (hgiven : isGiven t = false) : ∃ bytes, draft.entry? t = some (.file bytes) := by
  cases h with
  | opened => exact ⟨[], entry?_put_self hgiven _⟩
  | written bytes => exact ⟨bytes, entry?_put_self hgiven _⟩

theorem IsDraft.entry?_of_ne {t l : Location} {draft : FileSystem} (h : IsDraft fs t draft)
    (hl : l ≠ t) : draft.entry? l = fs.entry? l := by
  cases h with
  | opened => rw [entry?_put_of_ne hl]
  | written bytes => rw [entry?_put_of_ne hl, entry?_put_of_ne hl]

/-- The temporary file is moved when it has been written, or it is given up. -/
theorem replaceThrough_cases {t : Location} {reason : Option ReplaceError}
    (h : fs.replaceThrough refused p t content = (fs', reason)) :
    (reason = none ∧ (refused .write = none ∧ refused .flush = none ∧ refused .move = none) ∧
      ∃ bytes, encode content = .ok bytes ∧
        ((fs.put t (.file [])).put t (.file bytes)).moveFile t p = .ok fs') ∨
    ∃ draft e, fs.IsDraft t draft ∧ draft.abandon refused t e = (fs', reason) := by
  unfold replaceThrough at h
  simp only at h
  split at h
  · exact .inr ⟨_, _, .opened, h⟩
  rename_i bytes hwrite
  split at h
  · exact .inr ⟨_, _, .written bytes, h⟩
  rename_i hflush
  split at h
  · exact .inr ⟨_, _, .written bytes, h⟩
  rename_i moved hmove
  cases h
  obtain ⟨hwrite, hbytes⟩ := Refusals.attempt_eq_ok.1 hwrite
  obtain ⟨hmove, hmoved⟩ := Refusals.attempt_eq_ok.1 hmove
  exact .inl ⟨rfl, ⟨hwrite, (Refusals.attempt_eq_ok.1 hflush).1, hmove⟩, bytes, hbytes, hmoved⟩

theorem replaceThrough_eq_none {t : Location} :
    fs.replaceThrough refused p t content = (fs', none) ↔
      (refused .write = none ∧ refused .flush = none ∧ refused .move = none) ∧
        ∃ bytes, encode content = .ok bytes ∧
          ((fs.put t (.file [])).put t (.file bytes)).moveFile t p = .ok fs' := by
  constructor
  · intro h
    rcases replaceThrough_cases h with ⟨-, hmoved⟩ | ⟨draft, e, -, habandon⟩
    · exact hmoved
    · exact absurd habandon abandon_ne_none
  · rintro ⟨⟨hwrite, hflush, hmove⟩, bytes, hbytes, hmoved⟩
    simp only [replaceThrough, Refusals.attempt, hwrite, hflush, hmove, hbytes, hmoved]

/-- Either directories are made and nothing more, or a file is replaced through a temporary one. -/
theorem replaceFile_cases {reason : Option ReplaceError}
    (h : fs.replaceFile refused p content = (fs', reason)) :
    (fs' = (fs.ensureDirectories refused p.parentSteps.reverse).1 ∧
      ∃ e, reason = some (.failed e)) ∨
    ∃ made t, fs.ensureDirectories refused p.parentSteps.reverse = (made, none) ∧
      made.locateFresh p.parentSteps = .ok t ∧
      made.replaceThrough refused p t content = (fs', reason) := by
  unfold replaceFile at h
  split at h
  · rename_i hmade
    cases h
    exact .inl ⟨by rw [hmade], _, rfl⟩
  rename_i made hmade
  split at h
  · cases h
    exact .inl ⟨by rw [hmade], _, rfl⟩
  rename_i t ht
  exact .inr ⟨made, t, hmade, (Refusals.attempt_eq_ok.1 ht).2, h⟩

/-- Directories and the temporary file are made before the content matters. -/
theorem replaceFile_eq_none (h : fs.replaceFile refused p content = (fs', none)) :
    ∃ made t, fs.ensureDirectories refused p.parentSteps.reverse = (made, none) ∧
      made.locateFresh p.parentSteps = .ok t ∧
      ∀ content', fs.replaceFile refused p content' = made.replaceThrough refused p t content' := by
  unfold replaceFile at h ⊢
  split at h
  · cases h
  rename_i made hmade
  split at h
  · cases h
  rename_i t ht
  exact ⟨made, t, hmade, (Refusals.attempt_eq_ok.1 ht).2, fun _ => rfl⟩

/-- Temporary files that are not removed are those that the system did not let be removed. -/
theorem removeTemporary_of_replaceFile {t : Location} {e : FileError}
    (h : fs.replaceFile refused p content = (fs', some (.notRemoved t e))) :
    refused .removeTemporary = some e := by
  rcases replaceFile_cases h with ⟨-, e', hfailed⟩ | ⟨made, t', -, -, hthrough⟩
  · cases hfailed
  rcases replaceThrough_cases hthrough with ⟨hnone, -⟩ | ⟨draft, e', -, habandon⟩
  · cases hnone
  · exact removeTemporary_of_abandon habandon

theorem read_of_replaceFile (h : fs.replaceFile refused p content = (fs', none)) :
    ∃ bytes, encode content = .ok bytes ∧ fs'.read p = .ok bytes := by
  obtain ⟨made, t, -, ht, hthrough⟩ := replaceFile_eq_none h
  rw [hthrough] at h
  obtain ⟨-, bytes, hbytes, hmove⟩ := replaceThrough_eq_none.1 h
  exact ⟨bytes, hbytes, read_of_moveFile (entry?_put_self (isGiven_of_locateFresh ht) _) hmove⟩

/-- Where one content can be written, every other one can be that has bytes. -/
theorem replaceFile_of_replaceFile {content' : Text} {bytes : Bytes}
    (h : fs.replaceFile refused p content = (fs', none)) (hbytes : encode content' = .ok bytes) :
    ∃ replaced, fs.replaceFile refused p content' = (replaced, none) := by
  obtain ⟨made, t, -, ht, hthrough⟩ := replaceFile_eq_none h
  rw [hthrough] at h
  obtain ⟨hrefused, _, -, hmove⟩ := replaceThrough_eq_none.1 h
  obtain ⟨replaced, hreplaced⟩ := moveFile_put (isGiven_of_locateFresh ht) hmove bytes
  refine ⟨replaced, ?_⟩
  rw [hthrough]
  exact replaceThrough_eq_none.2 ⟨hrefused, bytes, hbytes, hreplaced⟩

end FileSystem

end SchemaQuery
