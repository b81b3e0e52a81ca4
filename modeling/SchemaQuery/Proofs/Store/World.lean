import SchemaQuery.Proofs.FileSystem.Tree
import SchemaQuery.Proofs.Store.Refresh

/-!
# Stores on one file system

Any number of stores stand on the same files, which other programs change as well. A call that
fails, at whatever step, leaves all stores and all that there was of files as they were. At most it
has made directories on the way to the file of its store, and has left its temporary file there when
the system did not let it look for that file or take it away.

A refresh touches files and stores only after its last fetch, in one go. So whatever happens while
it waits for answers counts as having happened before it.
-/

namespace SchemaQuery

structure World where
  files : FileSystem
  stores : List SchemaStore

namespace World

/-- What can happen to stores and files. Stores are known by the order in which they were opened. -/
inductive Action where
  | openStore (path : FilePath) (client : Option ApiConfig)
  | load (i : Nat) (refused : Refusals)
  | refresh (i : Nat) (c : Circumstances) (ids : Table Text)
  /-- Another program leaves other files behind. -/
  | change (files : FileSystem) (htree : files.IsTree)

inductive Reply where
  | nothing
  | loaded (result : Except LoadError (Option Snapshot))
  | refreshed (result : Except RefreshError Snapshot)

/-- The call was not carried out. -/
def Reply.IsFailure : Reply → Prop
  | nothing => False
  | loaded result => ∃ e, result = .error e
  | refreshed result => ∃ e, result = .error e

instance : DecidablePred Reply.IsFailure
  | .nothing => isFalse id
  | .loaded (.error e) => isTrue ⟨e, rfl⟩
  | .loaded (.ok _) => isFalse (by rintro ⟨_, h⟩; cases h)
  | .refreshed (.error e) => isTrue ⟨e, rfl⟩
  | .refreshed (.ok _) => isFalse (by rintro ⟨_, h⟩; cases h)

def Action.called? : Action → Option Nat
  | load i _ => some i
  | refresh i _ _ => some i
  | _ => none

def act (w : World) : Action → World × Reply
  | .openStore path client => ({ w with stores := w.stores ++ [.ofPath path client] }, .nothing)
  | .load i refused =>
    match w.stores[i]? with
    | none => (w, .nothing)
    | some s =>
      let (store, result) := (s.loadUnder refused w.files).value
      ({ w with stores := w.stores.set i store }, .loaded result)
  | .refresh i c ids =>
    match w.stores[i]? with
    | none => (w, .nothing)
    | some s =>
      let r := (s.refreshUnder c w.files ids).value
      (⟨r.files, w.stores.set i r.store⟩, .refreshed r.result)
  | .change files _ => ({ w with files }, .nothing)

/-- What can come about from a tree of files without stores. -/
inductive IsReachable : World → Prop
  | start {files : FileSystem} : files.IsTree → IsReachable ⟨files, []⟩
  | act {w : World} (c : Action) : IsReachable w → IsReachable (w.act c).1

end World

namespace SchemaStore

variable {s : SchemaStore} {c : Circumstances} {refused : Refusals} {files : FileSystem}
  {ids : Table Text}

theorem loadUnder_error {e : LoadError} (h : (s.loadUnder refused files).value.2 = .error e) :
    (s.loadUnder refused files).value.1 = s := by
  unfold loadUnder at h ⊢
  split
  · rename_i hread
    simp [hread] at h
  · rfl
  · rfl

theorem keep_isTree (h : files.IsTree) (snapshot : Snapshot) :
    (s.keep refused files snapshot).value.1.IsTree := by
  unfold keep
  split <;> rename_i hreplace <;> exact h.replaceFile hreplace

/-- What a failed replacement of the file of a store does to the files. -/
def Disturbs (s : SchemaStore) (refused : Refusals) (files files' : FileSystem) (e : RefreshError) :
    Prop :=
  FileSystem.Extends files files' s.path.parentSteps ∨
    ∃ reason t, e = .ofReplace s.path.text reason ∧
      FileSystem.LeavesTemporary refused files files' s.path.parentSteps reason t

theorem keep_error (h : files.IsTree) {snapshot : Snapshot} {e : RefreshError}
    (herror : (s.keep refused files snapshot).value.2.2 = .error e) :
    s.Disturbs refused files (s.keep refused files snapshot).value.1 e ∧
      (s.keep refused files snapshot).value.2.1 = s := by
  unfold keep at herror ⊢
  split
  · rename_i hreplace
    simp [hreplace, Logged.withEvent] at herror
  · rename_i fs reason hreplace
    rw [hreplace] at herror
    cases herror
    refine ⟨?_, rfl⟩
    rcases h.replaceFile_error hreplace with hextends | ⟨t, hleft⟩
    · exact .inl hextends
    · exact .inr ⟨reason, t, rfl, hleft⟩

theorem refreshUnder_isTree (h : files.IsTree) :
    (s.refreshUnder c files ids).value.files.IsTree := by
  cases hclient : s.client with
  | none => rwa [refreshUnder_cannotFetch hclient]
  | some client =>
    obtain ⟨calls, hvalue⟩ := refreshUnder_value hclient c files ids
    rw [hvalue]
    exact keep_isTree h _

theorem refreshUnder_error (h : files.IsTree) {e : RefreshError}
    (herror : (s.refreshUnder c files ids).value.result = .error e) :
    s.Disturbs c.refused files (s.refreshUnder c files ids).value.files e ∧
      (s.refreshUnder c files ids).value.store = s := by
  cases hclient : s.client with
  | none =>
    rw [refreshUnder_cannotFetch hclient]
    exact ⟨.inl (FileSystem.Extends.refl files _), rfl⟩
  | some client =>
    obtain ⟨calls, hvalue⟩ := refreshUnder_value hclient c files ids
    rw [hvalue] at herror ⊢
    exact keep_error h herror

end SchemaStore

namespace World

variable {w w' : World} {reply : Reply} {i : Nat} {s : SchemaStore}

theorem act_nobody {c : Action} (hcalled : c.called? = some i) (hstore : w.stores[i]? = none) :
    w.act c = (w, .nothing) := by
  cases c with
  | openStore path client => cases hcalled
  | change files htree => cases hcalled
  | load j refused =>
    cases hcalled
    simp only [act, hstore]
  | refresh j c ids =>
    cases hcalled
    simp only [act, hstore]

theorem act_load (hstore : w.stores[i]? = some s) (refused : Refusals) :
    w.act (.load i refused) =
      ({ w with stores := w.stores.set i (s.loadUnder refused w.files).value.1 },
        .loaded (s.loadUnder refused w.files).value.2) := by
  simp only [act, hstore]

theorem act_refresh (hstore : w.stores[i]? = some s) (c : Circumstances) (ids : Table Text) :
    w.act (.refresh i c ids) =
      (⟨(s.refreshUnder c w.files ids).value.files,
          w.stores.set i (s.refreshUnder c w.files ids).value.store⟩,
        .refreshed (s.refreshUnder c w.files ids).value.result) := by
  simp only [act, hstore]

theorem IsReachable.isTree (h : w.IsReachable) : w.files.IsTree := by
  induction h with
  | start htree => exact htree
  | @act w c _ ih =>
    cases c with
    | openStore path client => exact ih
    | load i refused =>
      cases hstore : w.stores[i]? with
      | none => rwa [act_nobody rfl hstore]
      | some s => rwa [act_load hstore]
    | refresh i c ids =>
      cases hstore : w.stores[i]? with
      | none => rwa [act_nobody rfl hstore]
      | some s =>
        rw [act_refresh hstore]
        exact SchemaStore.refreshUnder_isTree ih
    | change files htree => exact htree

theorem set_of_getElem? (h : w.stores[i]? = some s) : w.stores.set i s = w.stores := by
  obtain ⟨hi, rfl⟩ := List.getElem?_eq_some_iff.1 h
  exact List.set_getElem_self hi

theorem exists_called {c : Action} (hact : w.act c = (w', reply)) (hfailure : reply.IsFailure) :
    ∃ i s, c.called? = some i ∧ w.stores[i]? = some s := by
  cases hcalled : c.called? with
  | none =>
    -- Opening a store and changes from outside have nothing to fail at.
    cases c with
    | openStore path client =>
      cases hact
      exact hfailure.elim
    | change files htree =>
      cases hact
      exact hfailure.elim
    | load i refused => cases hcalled
    | refresh i c ids => cases hcalled
  | some i =>
    cases hstore : w.stores[i]? with
    | none =>
      rw [act_nobody hcalled hstore] at hact
      cases hact
      exact hfailure.elim
    | some s => exact ⟨i, s, rfl, hstore⟩

/-- A location is that of the temporary file of a refresh, which the system did not let it find or
did not let it remove. In the latter case this is what the refresh fails for. -/
structure IsLeftover (w w' : World) (a : Action) (reply : Reply) (t : Location) : Prop where
  free : w.files.entry? t = none
  file : ∃ bytes, w'.files.entry? t = some (.file bytes)
  call : ∃ i s c ids directory n, a = .refresh i c ids ∧ w.stores[i]? = some s ∧
    w'.files.locate s.path.parentSteps = .ok directory ∧
    t = directory ++ [FileSystem.temporaryName n] ∧
    (c.refused .findTemporary ≠ none ∨ ∃ e, c.refused .removeTemporary = some e ∧
      reply = .refreshed (.error (.notRemoved (FilePath.spelling t) e)))

/-- A location is that of a directory on the way to the file of the store that is called. -/
def IsOnCalledWay (w w' : World) (a : Action) (l : Location) : Prop :=
  ∃ i s, a.called? = some i ∧ w.stores[i]? = some s ∧ w'.files.IsOnWay s.path.parentSteps l

/-- What files are there after a call that failed. -/
def KeepsFiles (w w' : World) (a : Action) (reply : Reply) : Prop :=
  (∀ l e, w.files.entry? l = some e → w'.files.entry? l = some e) ∧
    ∃ left : Option Location, (∀ t ∈ left, w.IsLeftover w' a reply t) ∧
      ∀ l, w.files.entry? l = none → w'.files.entry? l ≠ none →
        l ∈ left ∨ w.IsOnCalledWay w' a l

theorem keepsFiles_of_extends {a : Action} (hcalled : a.called? = some i)
    (hstore : w.stores[i]? = some s)
    (h : FileSystem.Extends w.files w'.files s.path.parentSteps) : w.KeepsFiles w' a reply :=
  ⟨fun _ _ => h.entry?_eq, none, nofun, fun _ hnone hnew =>
    .inr ⟨i, s, hcalled, hstore, h.isOnWay hnone hnew⟩⟩

theorem keepsFiles_of_disturbs {c : Circumstances} {ids : Table Text} {e : RefreshError}
    (hstore : w.stores[i]? = some s) (h : s.Disturbs c.refused w.files w'.files e) :
    w.KeepsFiles w' (.refresh i c ids) (.refreshed (.error e)) := by
  rcases h with hextends | ⟨reason, t, rfl, hleft⟩
  · exact keepsFiles_of_extends rfl hstore hextends
  have hleftover : w.IsLeftover w' (.refresh i c ids)
      (.refreshed (.error (.ofReplace s.path.text reason))) t := by
    obtain ⟨-, -, -, hfree, -⟩ := hleft.exists_free
    obtain ⟨directory, n, hdirectory, hname⟩ := hleft.place
    refine ⟨hfree, hleft.file, i, s, c, ids, directory, n, rfl, hstore, hdirectory, hname, ?_⟩
    rcases hleft.stays with hfind | ⟨e, hremove, rfl⟩
    · exact .inl hfind
    · exact .inr ⟨e, hremove, rfl⟩
  refine ⟨fun _ _ => hleft.entry?_eq, some t, ?_, fun l hnone hnew => ?_⟩
  · intro t' ht
    obtain rfl := Option.mem_some_iff.1 ht
    exact hleftover
  · by_cases heq : l = t
    · exact .inl (congrArg some heq.symm)
    · exact .inr ⟨i, s, rfl, hstore, hleft.isOnWay heq hnone hnew⟩

/-- A call that fails leaves its store, and the files but for what it has made on the way. -/
theorem act_failure (h : w.files.IsTree) {a : Action} (hact : w.act a = (w', reply))
    (hfailure : reply.IsFailure) : w'.stores = w.stores ∧ w.KeepsFiles w' a reply := by
  obtain ⟨i, s, hcalled, hstore⟩ := exists_called hact hfailure
  cases a with
  | openStore path client => cases hcalled
  | change files htree => cases hcalled
  | load j refused =>
    cases hcalled
    rw [act_load hstore] at hact
    cases hact
    obtain ⟨e, he⟩ := hfailure
    refine ⟨?_, keepsFiles_of_extends rfl hstore (FileSystem.Extends.refl _ _)⟩
    rw [SchemaStore.loadUnder_error he, set_of_getElem? hstore]
  | refresh j c ids =>
    cases hcalled
    rw [act_refresh hstore] at hact
    cases hact
    obtain ⟨e, he⟩ := hfailure
    obtain ⟨hdisturbs, hsame⟩ := SchemaStore.refreshUnder_error h he
    rw [hsame, set_of_getElem? hstore, he]
    exact ⟨rfl, keepsFiles_of_disturbs hstore hdisturbs⟩

/-- After a call that failed, every store answers for every name as before, and all that was there
is there with its content. All that can be new are directories on the way to the file of the store
that was called, and one temporary file of a refresh, which the system kept from being found or
removed. -/
theorem failure_keeps {a : Action} (h : w.IsReachable) (hact : w.act a = (w', reply))
    (hfailure : reply.IsFailure) :
    (∀ (i : Nat) (name : Text), w'.stores[i]?.map (fun s => (s.find? name, s.get name)) =
      w.stores[i]?.map (fun s => (s.find? name, s.get name))) ∧
    (∀ l e, w.files.entry? l = some e → w'.files.entry? l = some e) ∧
    ∃ left : Option Location, (∀ t ∈ left, w.IsLeftover w' a reply t) ∧
      ∀ l, w.files.entry? l = none → w'.files.entry? l ≠ none →
        l ∈ left ∨ w.IsOnCalledWay w' a l := by
  obtain ⟨hstores, hfiles⟩ := act_failure h.isTree hact hfailure
  exact ⟨fun i name => by rw [hstores], hfiles⟩

/-- One entry is there when a store is opened. -/
def opened (l : Location) (e : FileEntry) (path : FilePath) : World :=
  (act ⟨FileSystem.empty.put l e, []⟩
    (.openStore path (some ⟨"key", "https://api.test", "v1", .whole 30⟩))).1

theorem isReachable_opened {name : Text} (h : FileSystem.isGiven [name] = false) (e : FileEntry)
    (path : FilePath) : (opened [name] e path).IsReachable := by
  refine .act _ (.start (FileSystem.isTree_empty.put ?_ (Or.inr ?_)))
  · intro d last heq
    obtain ⟨rfl, -⟩ := List.append_inj' (show [] ++ [_] = d ++ [last] from heq) rfl
    rfl
  · simp [FileSystem.entry?, h, FileSystem.empty]

/-- A store whose file lies in a directory that is not there yet, beside another file. -/
def emptyShelf : World := opened ["notes.txt"] (.file [104, 105]) (.ofText "shelf/schemas.json")

/-- Nobody answers, and the system refuses some steps. -/
def refusing (refused : Refusals) : Circumstances where
  server _ _ := .unreachable
  clock _ := ⟨.first, .midnight, some .utc⟩
  refused
  toSchedule := .inOrder

/-- The disk is full when the temporary file is flushed. -/
def fullDisk : Circumstances := refusing fun step => if step = .flush then some .noSpace else none

theorem fullDisk_fails :
    (emptyShelf.act (.refresh 0 fullDisk .empty)).2.IsFailure := by
  decide +kernel

theorem failure_keeps_fullDisk :
    ∃ w' reply, emptyShelf.act (.refresh 0 fullDisk .empty) = (w', reply) ∧ reply.IsFailure ∧
      (∀ (i : Nat) (name : Text), w'.stores[i]?.map (fun s => (s.find? name, s.get name)) =
        emptyShelf.stores[i]?.map (fun s => (s.find? name, s.get name))) ∧
      ∀ l e, emptyShelf.files.entry? l = some e → w'.files.entry? l = some e := by
  have hact := (Prod.eta (emptyShelf.act (.refresh 0 fullDisk .empty))).symm
  obtain ⟨hstores, hfiles, -⟩ := failure_keeps (isReachable_opened rfl _ _) hact fullDisk_fails
  exact ⟨_, _, hact, fullDisk_fails, hstores, hfiles⟩

/-- Files can be made in the directory, but none can be moved or removed. -/
def addingOnly : Circumstances := refusing fun step =>
  if step = .move ∨ step = .removeTemporary then some .notPermitted else none

/-- A directory stands where the file is to be, and the path passes through another one. -/
def detour : World := opened ["s.json"] .directory (.ofText "a/../s.json")

/-- A failed call may leave its temporary file, and a directory that is not above its file. -/
theorem failure_leaves :
    (∃ w' reply t content, emptyShelf.IsReachable ∧
      emptyShelf.act (.refresh 0 addingOnly .empty) = (w', reply) ∧ reply.IsFailure ∧
      emptyShelf.files.entry? t = none ∧ w'.files.entry? t = some (.file content)) ∧
    ∃ w' reply target, detour.IsReachable ∧
      detour.act (.refresh 0 (refusing .none) .empty) = (w', reply) ∧ reply.IsFailure ∧
      w'.files.locate (FilePath.ofText "a/../s.json").steps = .ok target ∧
      detour.files.entry? ["a"] = none ∧ w'.files.entry? ["a"] = some .directory ∧
      ¬ ([("a" : Text)] <+: target) := by
  constructor
  · exact ⟨_, _, ["shelf", ".schemas_00000000.json"], [123, 125], isReachable_opened rfl _ _,
      (Prod.eta _).symm, by decide +kernel, rfl, by decide +kernel⟩
  · exact ⟨_, _, ["s.json"], isReachable_opened rfl _ _, (Prod.eta _).symm, by decide +kernel,
      by decide +kernel, rfl, by decide +kernel, by decide⟩

end World

end SchemaQuery
