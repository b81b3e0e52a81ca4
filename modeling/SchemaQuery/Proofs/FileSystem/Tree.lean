import Mathlib.Data.List.Induction
import Mathlib.Data.List.Nodup
import SchemaQuery.Proofs.FileSystem.Replace

/-!
# Trees of files

In a tree of files everything stands in a directory, and all operations keep that. There a new file
is always free to be made and taken away again. Replacing a file that fails leaves all entries as
they were. New are at most directories on the way to the file, and the temporary file where the
system keeps it from being found or removed.
-/

namespace SchemaQuery.FileSystem

/-- Whatever there is stands in a directory. -/
def IsTree (fs : FileSystem) : Prop :=
  ∀ l name, fs.entry? (l ++ [name]) ≠ none → fs.entry? l = some .directory

def HasParent (fs : FileSystem) (l : Location) : Prop :=
  ∀ d name, l = d ++ [name] → fs.entry? d = some .directory

variable {fs fs' : FileSystem} {refused : Refusals} {p : FilePath} {content : Text}

theorem IsTree.hasParent (h : fs.IsTree) {l : Location} (hl : fs.entry? l ≠ none) :
    fs.HasParent l := by
  rintro d name rfl
  exact h d name hl

theorem isGiven_of_isGiven_append {l : Location} {name : Text} (h : isGiven (l ++ [name]) = true) :
    isGiven l = true := by
  simp only [isGiven, Bool.or_eq_true, List.all_append, Bool.and_eq_true, decide_eq_true_iff,
    List.append_eq_singleton_iff] at h ⊢
  rcases h with ⟨hall, -⟩ | ⟨rfl, -⟩ | ⟨-, hnil⟩
  · exact Or.inl hall
  · exact Or.inl rfl
  · cases hnil

theorem isTree_empty : empty.IsTree := by
  intro l name h
  cases hgiven : isGiven (l ++ [name]) with
  | false => simp [entry?_eq hgiven, empty] at h
  | true => exact entry?_of_isGiven (isGiven_of_isGiven_append hgiven)

/-- Below what is no directory there is nothing. -/
theorem IsTree.entry?_below (h : fs.IsTree) {t l : Location} (ht : fs.entry? t ≠ some .directory)
    (hbelow : t <+: l) (hne : l ≠ t) : fs.entry? l = none := by
  obtain ⟨rest, rfl⟩ := hbelow
  induction rest using List.reverseRecOn with
  | nil => exact absurd (List.append_nil t) hne
  | append_singleton rest name ih =>
    rw [← List.append_assoc]
    cases hentry : fs.entry? (t ++ rest ++ [name]) with
    | none => rfl
    | some e =>
      have hdirectory := h (t ++ rest) name (by rw [hentry]; nofun)
      by_cases hrest : t ++ rest = t
      · rw [hrest] at hdirectory
        exact absurd hdirectory ht
      · rw [ih hrest] at hdirectory
        cases hdirectory

theorem IsTree.put (h : fs.IsTree) {l : Location} (hparent : fs.HasParent l) {e : FileEntry}
    (he : e = .directory ∨ fs.entry? l ≠ some .directory) : (fs.put l e).IsTree := by
  intro d name hentry
  have hdirectory : fs.entry? d = some .directory := by
    by_cases heq : d ++ [name] = l
    · exact hparent d name heq.symm
    · rw [entry?_put_of_ne heq] at hentry
      exact h d name hentry
  cases hgiven : isGiven d with
  | true => exact entry?_of_isGiven hgiven
  | false =>
    by_cases heq : d = l
    · subst heq
      rcases he with rfl | he
      · exact entry?_put_self hgiven _
      · exact absurd hdirectory he
    · rwa [entry?_put_of_ne heq]

theorem IsTree.remove (h : fs.IsTree) (t : Location) : (fs.remove t).IsTree := by
  intro d name hentry
  cases hgiven : isGiven (d ++ [name]) with
  | true => exact entry?_of_isGiven (isGiven_of_isGiven_append hgiven)
  | false =>
    by_cases hbelow : t <+: d ++ [name]
    · exact absurd (entry?_remove_below hgiven hbelow) hentry
    · have hoff : ¬ t <+: d := fun hd => hbelow (hd.trans (List.prefix_append d [name]))
      rw [entry?_remove_beside hbelow] at hentry
      rw [entry?_remove_beside hoff]
      exact h d name hentry

theorem IsTree.hasParent_of_advance (h : fs.IsTree) {l next : Location} {step : Text}
    (hl : fs.entry? l = some .directory) (hnext : advance l step = .ok next) :
    fs.HasParent next := by
  have hself : fs.HasParent l := h.hasParent (by rw [hl]; nofun)
  have hconcat (name : Text) : fs.HasParent (l ++ [name]) := by
    intro d other heq
    obtain ⟨rfl, -⟩ := List.append_inj' heq rfl
    exact hl
  unfold advance at hnext
  split at hnext
  · cases hnext
    intro d name heq
    obtain ⟨rfl, -⟩ := List.append_inj' (show [] ++ [FilePath.root] = d ++ [name] from heq) rfl
    rfl
  split at hnext
  · cases hnext
    exact hself
  split at hnext
  · cases hnext
    unfold up
    split
    · exact hself
    split
    · exact hconcat FilePath.above
    · rename_i hall
      rcases List.eq_nil_or_concat l with rfl | ⟨d, name, hconcat⟩
      · exact absurd rfl hall
      · rw [List.concat_eq_append] at hconcat
        subst hconcat
        have hd : fs.entry? d = some .directory := hself d name rfl
        rw [List.dropLast_concat]
        exact h.hasParent (by rw [hd]; nofun)
  split at hnext
  · cases hnext
  · cases hnext
    exact hconcat _

theorem IsTree.hasParent_of_follow (h : fs.IsTree) {steps : List Text} {l m : Location}
    (hl : fs.HasParent l) (hfollow : fs.follow l steps = .ok m) : fs.HasParent m := by
  induction steps generalizing l with
  | nil =>
    obtain rfl := Except.ok.inj hfollow
    exact hl
  | cons step steps ih =>
    obtain ⟨hentry, next, hnext, hfollow⟩ := follow_cons.1 hfollow
    exact ih (h.hasParent_of_advance hentry hnext) hfollow

theorem IsTree.hasParent_of_locate (h : fs.IsTree) {steps : List Text} {l : Location}
    (hl : fs.locate steps = .ok l) : fs.HasParent l :=
  h.hasParent_of_follow (fun _ _ hnil => by simp at hnil) (locate_eq_ok.1 hl).2

/-! ### A free name -/

theorem temporaryName_injective {m n : Nat} (h : temporaryName m = temporaryName n) : m = n := by
  simp only [temporaryName, List.flatten_cons, List.flatten_nil, List.append_nil] at h
  exact Text.padded_injective (List.append_cancel_right (List.append_cancel_left h))

/-- One of the first names is free, since there are fewer entries than names. -/
theorem entry?_freshName (fs : FileSystem) (directory : Location) :
    fs.entry? (directory ++ [fs.freshName directory]) = none := by
  unfold freshName
  simp only
  cases hfind : List.find? (fun name => (fs.entry? (directory ++ [name])).isNone)
    ((List.range (fs.entries.length + 1)).map temporaryName) with
  | some name =>
    rw [Option.getD_some]
    simpa using List.find?_some hfind
  | none =>
    have hnodup : ((List.range (fs.entries.length + 1)).map fun n =>
        directory ++ [temporaryName n]).Nodup := by
      refine List.Nodup.map ?_ List.nodup_range
      intro m n heq
      exact temporaryName_injective (List.singleton_inj.1 (List.append_cancel_left heq))
    have hsub : ((List.range (fs.entries.length + 1)).map fun n =>
        directory ++ [temporaryName n]) ⊆ fs.entries.map Prod.fst := by
      intro l hl
      obtain ⟨n, hn, rfl⟩ := List.mem_map.1 hl
      have htaken := List.find?_eq_none.1 hfind (temporaryName n) (List.mem_map_of_mem hn)
      rw [entry?_eq (isGiven_temporary directory n), Option.isNone_map, Option.isNone_iff_eq_none,
        List.find?_eq_none] at htaken
      push Not at htaken
      obtain ⟨e, he, hl⟩ := htaken
      exact List.mem_map.2 ⟨e, he, of_decide_eq_true hl⟩
    have hlength := hnodup.length_le_of_subset hsub
    simp only [List.length_map, List.length_range] at hlength
    omega

/-! ### Directories that were made -/

/-- Nothing is different except for directories that were missing on the way of a path. -/
def Extends (fs fs' : FileSystem) (path : List Text) : Prop :=
  ∀ l, fs'.entry? l = fs.entry? l ∨
    fs.entry? l = none ∧ fs'.entry? l = some .directory ∧
      ∃ steps, steps <+: path ∧ fs'.locate steps = .ok l

variable {path : List Text} {fs'' : FileSystem}

theorem Extends.directory (h : Extends fs fs' path) {l : Location}
    (hl : fs.entry? l = some .directory) : fs'.entry? l = some .directory := by
  rcases h l with heq | ⟨-, hnew, -⟩
  · rw [heq, hl]
  · exact hnew

theorem Extends.refl (fs : FileSystem) (path : List Text) : Extends fs fs path :=
  fun _ => Or.inl rfl

theorem Extends.trans (h : Extends fs fs' path) (h' : Extends fs' fs'' path) :
    Extends fs fs'' path := by
  intro l
  rcases h' l with heq' | ⟨hnone, hnew', hsteps'⟩
  · rcases h l with heq | ⟨hnone, hnew, steps, hpath, hlocate⟩
    · exact Or.inl (heq'.trans heq)
    · have hlocate' := locate_mono (fun _ => h'.directory) hlocate
      exact Or.inr ⟨hnone, heq'.trans hnew, steps, hpath, hlocate'⟩
  · rcases h l with heq | ⟨-, hnew, -⟩
    · exact Or.inr ⟨heq ▸ hnone, hnew', hsteps'⟩
    · rw [hnone] at hnew
      cases hnew

theorem Extends.mono (h : Extends fs fs' path) {longer : List Text} (hpath : path <+: longer) :
    Extends fs fs' longer :=
  fun l => (h l).imp_right fun ⟨hnone, hnew, steps, hsteps, hlocate⟩ =>
    ⟨hnone, hnew, steps, hsteps.trans hpath, hlocate⟩

theorem makeDirectory_eq_ok {steps : List Text} (h : fs.makeDirectory refused steps = .ok fs') :
    ∃ l, fs.locate steps = .ok l ∧ fs.entry? l = none ∧ fs' = fs.put l .directory := by
  obtain ⟨l, hl, h⟩ := Except.bind_eq_ok.1 h
  split at h
  · exact ⟨l, hl, ‹_›, (Except.ok.inj (Refusals.attempt_eq_ok.1 h).2).symm⟩
  · cases h

theorem IsTree.ensureDirectory (h : fs.IsTree) (refused : Refusals) (steps : List Text) :
    (fs.ensureDirectory refused steps).1.IsTree ∧
      Extends fs (fs.ensureDirectory refused steps).1 steps := by
  unfold FileSystem.ensureDirectory
  cases hmake : fs.makeDirectory refused steps with
  | error e => exact ⟨h, Extends.refl fs steps⟩
  | ok made =>
    obtain ⟨l, hl, hnone, rfl⟩ := makeDirectory_eq_ok hmake
    refine ⟨h.put (h.hasParent_of_locate hl) (Or.inl rfl), fun other => ?_⟩
    by_cases heq : other = l
    · subst heq
      have hput : entry? (fs.put other .directory) other = some .directory :=
        entry?_put_self (isGiven_eq_false (by rw [hnone]; nofun)) _
      refine Or.inr ⟨hnone, hput, steps, List.prefix_rfl, locate_mono (fun m hm => ?_) hl⟩
      by_cases heq : m = other
      · rw [heq, hput]
      · rw [entry?_put_of_ne heq, hm]
    · exact Or.inl (entry?_put_of_ne heq _)

theorem IsTree.ensureDirectories (h : fs.IsTree) (refused : Refusals) (steps : List Text) :
    (fs.ensureDirectories refused steps).1.IsTree ∧
      Extends fs (fs.ensureDirectories refused steps).1 steps.reverse := by
  induction steps with
  | nil => exact h.ensureDirectory refused []
  | cons step above ih =>
    unfold FileSystem.ensureDirectories
    split
    · split
      · rename_i made hmade
        rw [hmade] at ih
        obtain ⟨htree, hextends⟩ := ih
        obtain ⟨htree', hextends'⟩ := htree.ensureDirectory refused (step :: above).reverse
        refine ⟨htree', (hextends.mono ?_).trans hextends'⟩
        rw [List.reverse_cons]
        exact List.prefix_append _ _
      · refine ⟨ih.1, ih.2.mono ?_⟩
        rw [List.reverse_cons]
        exact List.prefix_append _ _
    · exact h.ensureDirectory refused (step :: above).reverse

/-! ### The temporary file comes and goes -/

theorem IsTree.entry?_remove_free (h : fs.IsTree) {t : Location} (hfree : fs.entry? t = none)
    (hsame : ∀ l, l ≠ t → fs'.entry? l = fs.entry? l) (l : Location) :
    entry? (fs'.remove t) l = fs.entry? l := by
  cases hgiven : isGiven l with
  | true => rw [entry?_of_isGiven hgiven, entry?_of_isGiven hgiven]
  | false =>
    by_cases hbelow : t <+: l
    · rw [entry?_remove_below hgiven hbelow]
      by_cases heq : l = t
      · rw [heq, hfree]
      · exact (h.entry?_below (by rw [hfree]; nofun) hbelow heq).symm
    · rw [entry?_remove_beside hbelow]
      exact hsame l fun heq => hbelow (heq ▸ List.prefix_rfl)

/-- A file at a free place is all that is new, and it stands there because it could not be found or
could not be removed. -/
structure IsLeft (refused : Refusals) (fs fs' : FileSystem) (reason : ReplaceError) (t : Location) :
    Prop where
  file : ∃ bytes, fs'.entry? t = some (.file bytes)
  same : ∀ l, l ≠ t → fs'.entry? l = fs.entry? l
  stays : refused .findTemporary ≠ none ∨
    ∃ e, refused .removeTemporary = some e ∧ reason = .notRemoved t e

/-- A file can be made at a place where nothing is yet. -/
structure IsFree (fs : FileSystem) (t : Location) : Prop where
  given : isGiven t = false
  free : fs.entry? t = none
  parent : fs.HasParent t

theorem isFree_of_locateFresh {steps : List Text} {t : Location}
    (h : fs.locateFresh steps = .ok t) : fs.IsFree t := by
  have hgiven := isGiven_of_locateFresh h
  obtain ⟨directory, -, hdirectory, rfl⟩ := locateFresh_eq_ok h
  refine ⟨hgiven, entry?_freshName fs directory, ?_⟩
  intro d name heq
  obtain ⟨rfl, -⟩ := List.append_inj' heq rfl
  exact hdirectory

theorem IsTree.abandon (h : fs.IsTree) {t : Location} {e : FileError}
    {reason : Option ReplaceError} (habandon : fs.abandon refused t e = (fs', reason)) :
    fs'.IsTree := by
  rcases abandon_eq habandon with ⟨rfl, -⟩ | ⟨rfl, -⟩
  · exact h.remove t
  · exact h

theorem IsTree.draft (h : fs.IsTree) {t : Location} (hfree : fs.IsFree t) {draft : FileSystem}
    (hdraft : fs.IsDraft t draft) : draft.IsTree := by
  have hput (bytes : Bytes) : entry? (fs.put t (.file bytes)) t = some (.file bytes) :=
    entry?_put_self hfree.given _
  have hopened : (fs.put t (.file [])).IsTree :=
    h.put hfree.parent (Or.inr (by rw [hfree.free]; nofun))
  cases hdraft with
  | opened => exact hopened
  | written bytes => refine hopened.put (hopened.hasParent ?_) (Or.inr ?_) <;> rw [hput] <;> simp

/-- A draft that is given up leaves everything as it was before, or is left. -/
theorem IsTree.abandon_draft (h : fs.IsTree) {t : Location} (hfree : fs.IsFree t)
    {draft : FileSystem} (hdraft : fs.IsDraft t draft) {e : FileError} {reason : ReplaceError}
    (habandon : draft.abandon refused t e = (fs', some reason)) :
    (∀ l, fs'.entry? l = fs.entry? l) ∨ IsLeft refused fs fs' reason t := by
  have hfile := hdraft.entry?_self hfree.given
  have hsame (l : Location) (hl : l ≠ t) : draft.entry? l = fs.entry? l := hdraft.entry?_of_ne hl
  rcases abandon_eq habandon with ⟨rfl, -⟩ | ⟨rfl, ⟨hfind, -⟩ | ⟨e', hremove, hreason⟩⟩
  · exact .inl (h.entry?_remove_free hfree.free hsame)
  · exact .inr ⟨hfile, hsame, .inl hfind⟩
  · exact .inr ⟨hfile, hsame, .inr ⟨e', hremove, Option.some.inj hreason⟩⟩

theorem IsTree.replaceThrough_error (h : fs.IsTree) {t : Location} (hfree : fs.IsFree t)
    {reason : ReplaceError}
    (herror : fs.replaceThrough refused p t content = (fs', some reason)) :
    (∀ l, fs'.entry? l = fs.entry? l) ∨ IsLeft refused fs fs' reason t := by
  rcases replaceThrough_cases herror with ⟨hnone, -⟩ | ⟨draft, e, hdraft, habandon⟩
  · cases hnone
  · exact h.abandon_draft hfree hdraft habandon

theorem IsTree.moveFile (h : fs.IsTree) {source : Location} {bytes : Bytes}
    (hsource : fs.entry? source = some (.file bytes)) (hmove : fs.moveFile source p = .ok fs') :
    fs'.IsTree := by
  obtain ⟨-, -, target, e, hlocate, htarget, -, rfl⟩ := moveFile_eq_ok.1 hmove
  have hfile : fs.entry? source ≠ some .directory := by
    rw [hsource]
    simp
  refine (h.remove source).put ?_ (Or.inr ?_)
  · intro d name heq
    have hd : fs.entry? d = some .directory := h.hasParent_of_locate hlocate d name heq
    have hoff : ¬ source <+: d := by
      intro hbelow
      by_cases heq : d = source
      · rw [heq] at hd
        exact hfile hd
      · rw [h.entry?_below hfile hbelow heq] at hd
        cases hd
    rw [entry?_remove_beside hoff, hd]
  · by_cases hbelow : source <+: target
    · rw [entry?_remove_below (isGiven_eq_false htarget) hbelow]
      nofun
    · rwa [entry?_remove_beside hbelow]

theorem IsTree.replaceThrough (h : fs.IsTree) {t : Location} (hfree : fs.IsFree t)
    {reason : Option ReplaceError}
    (hthrough : fs.replaceThrough refused p t content = (fs', reason)) : fs'.IsTree := by
  rcases replaceThrough_cases hthrough with ⟨-, -, bytes, -, hmove⟩ | ⟨draft, e, hdraft, habandon⟩
  · exact (h.draft hfree (.written bytes)).moveFile (entry?_put_self hfree.given _) hmove
  · exact (h.draft hfree hdraft).abandon habandon

/-! ### Replacing in a tree -/

/-- A temporary file is left beside the file of a path, under a name that was free once the missing
directories had been made. -/
def LeavesTemporary (refused : Refusals) (fs fs' : FileSystem) (path : List Text)
    (reason : ReplaceError) (t : Location) : Prop :=
  ∃ made, Extends fs made path ∧ made.locateFresh path = .ok t ∧ IsLeft refused made fs' reason t

theorem IsTree.replaceFile_error (h : fs.IsTree) {reason : ReplaceError}
    (herror : fs.replaceFile refused p content = (fs', some reason)) :
    Extends fs fs' p.parentSteps ∨ ∃ t, LeavesTemporary refused fs fs' p.parentSteps reason t := by
  have hmade := h.ensureDirectories refused p.parentSteps.reverse
  rw [List.reverse_reverse] at hmade
  rcases replaceFile_cases herror with ⟨rfl, -⟩ | ⟨made, t, hensure, hlocate, hthrough⟩
  · exact .inl hmade.2
  rw [hensure] at hmade
  obtain ⟨htree, hextends⟩ := hmade
  rcases htree.replaceThrough_error (isFree_of_locateFresh hlocate) hthrough with hsame | hleft
  · exact .inl (hextends.trans fun l => Or.inl (hsame l))
  · exact .inr ⟨t, made, hextends, hlocate, hleft⟩

theorem IsTree.replaceFile (h : fs.IsTree) {reason : Option ReplaceError}
    (hreplace : fs.replaceFile refused p content = (fs', reason)) : fs'.IsTree := by
  have hmade := (h.ensureDirectories refused p.parentSteps.reverse).1
  rcases replaceFile_cases hreplace with ⟨rfl, -⟩ | ⟨made, t, hensure, hlocate, hthrough⟩
  · exact hmade
  · rw [hensure] at hmade
    exact hmade.replaceThrough (isFree_of_locateFresh hlocate) hthrough

/-! ### What is new -/

variable {path : List Text} {reason : ReplaceError} {t l : Location}

theorem Extends.entry?_eq (h : Extends fs fs' path) {e : FileEntry} (hl : fs.entry? l = some e) :
    fs'.entry? l = some e := by
  rcases h l with hsame | ⟨hnone, -⟩
  · rw [hsame, hl]
  · rw [hl] at hnone
    cases hnone

/-- A directory is one on the way of a path. -/
def IsOnWay (fs : FileSystem) (path : List Text) (l : Location) : Prop :=
  fs.entry? l = some .directory ∧ ∃ steps, steps <+: path ∧ fs.locate steps = .ok l

theorem Extends.isOnWay (h : Extends fs fs' path) (hnone : fs.entry? l = none)
    (hnew : fs'.entry? l ≠ none) : IsOnWay fs' path l := by
  rcases h l with hsame | ⟨-, hdirectory, hsteps⟩
  · exact absurd (hsame.trans hnone) hnew
  · exact ⟨hdirectory, hsteps⟩

namespace LeavesTemporary

theorem stays (h : LeavesTemporary refused fs fs' path reason t) :
    refused .findTemporary ≠ none ∨
      ∃ e, refused .removeTemporary = some e ∧ reason = .notRemoved t e := by
  obtain ⟨made, -, -, hleft⟩ := h
  exact hleft.stays

theorem file (h : LeavesTemporary refused fs fs' path reason t) :
    ∃ bytes, fs'.entry? t = some (.file bytes) := by
  obtain ⟨made, -, -, hleft⟩ := h
  exact hleft.file

/-- The place of the temporary file was free before the directories were made, and after it. -/
theorem exists_free (h : LeavesTemporary refused fs fs' path reason t) :
    ∃ made, Extends fs made path ∧ made.entry? t = none ∧ fs.entry? t = none ∧
      (∀ l, l ≠ t → fs'.entry? l = made.entry? l) ∧ made.locateFresh path = .ok t := by
  obtain ⟨made, hextends, hlocate, hleft⟩ := h
  have hfree := (isFree_of_locateFresh hlocate).free
  refine ⟨made, hextends, hfree, ?_, hleft.same, hlocate⟩
  cases hentry : fs.entry? t with
  | none => rfl
  | some e =>
    rw [hextends.entry?_eq hentry] at hfree
    cases hfree

theorem entry?_eq (h : LeavesTemporary refused fs fs' path reason t) {e : FileEntry}
    (hl : fs.entry? l = some e) : fs'.entry? l = some e := by
  obtain ⟨made, hextends, hfree, -, hsame, -⟩ := h.exists_free
  have hmade := hextends.entry?_eq hl
  rw [hsame l, hmade]
  rintro rfl
  rw [hfree] at hmade
  cases hmade

/-- Where a path led before the temporary file came, it leads with it. -/
theorem locate_of_locate {made : FileSystem} (hfree : made.entry? t = none)
    (hsame : ∀ l, l ≠ t → fs'.entry? l = made.entry? l) {steps : List Text}
    (h : made.locate steps = .ok l) : fs'.locate steps = .ok l := by
  refine locate_mono (fun m hm => ?_) h
  rw [hsame m, hm]
  rintro rfl
  rw [hfree] at hm
  cases hm

theorem isOnWay (h : LeavesTemporary refused fs fs' path reason t) (hne : l ≠ t)
    (hnone : fs.entry? l = none) (hnew : fs'.entry? l ≠ none) : IsOnWay fs' path l := by
  obtain ⟨made, hextends, hfree, -, hsame, -⟩ := h.exists_free
  rw [hsame l hne] at hnew
  obtain ⟨hdirectory, steps, hsteps, hlocate⟩ := hextends.isOnWay hnone hnew
  exact ⟨(hsame l hne).trans hdirectory, steps, hsteps, locate_of_locate hfree hsame hlocate⟩

/-- It stands in the directory of the path under one of the names of temporary files. -/
theorem place (h : LeavesTemporary refused fs fs' path reason t) :
    ∃ directory n, fs'.locate path = .ok directory ∧ t = directory ++ [temporaryName n] := by
  obtain ⟨made, -, hfree, -, hsame, hlocate⟩ := h.exists_free
  obtain ⟨directory, hdirectory, -, hfresh⟩ := locateFresh_eq_ok hlocate
  obtain ⟨n, hname⟩ := exists_temporaryName made directory
  exact ⟨directory, n, locate_of_locate hfree hsame hdirectory, hname ▸ hfresh⟩

end LeavesTemporary

end SchemaQuery.FileSystem
