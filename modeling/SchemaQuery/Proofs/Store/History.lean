import SchemaQuery.Proofs.Store.Replacement
import SchemaQuery.Proofs.Store.World

/-!
# What lookups answer

A store answers from the last snapshot that a load or a refresh of its own has brought to it,
whatever happens to the files and to other stores in the meantime. After a load with a snapshot that
is the one that was loaded. A load that finds no file brings nothing and takes nothing away: the
store goes on with what an earlier call brought, although the load says that there is no snapshot.
-/

namespace SchemaQuery

namespace SchemaStore

variable {s : SchemaStore}

/-- A store answers with some entries: it knows their names and no others. -/
structure AnswersWith (s : SchemaStore) (entries : Entries DatabaseSchema) : Prop where
  known : ∀ name schema, (name, schema) ∈ entries →
    s.find? name = some schema ∧ s.get name = .ok schema
  unknown : ∀ name, name ∉ entries.keys →
    s.find? name = none ∧ s.get name = .error (.unknownDatabase name)

def listed : Option Snapshot → Entries DatabaseSchema
  | some snapshot => snapshot.entries
  | none => []

theorem get_of_find? {name : Text} {schema : DatabaseSchema} (h : s.find? name = some schema) :
    s.get name = .ok schema := by
  rw [get, h]

theorem get_of_find?_eq_none {name : Text} (h : s.find? name = none) :
    s.get name = .error (.unknownDatabase name) := by
  rw [get, h]

theorem answersWith_listed (s : SchemaStore) : s.AnswersWith (listed s.cache.snapshot) := by
  have hfind (name : Text) : s.find? name = (listed s.cache.snapshot).find? name := by
    unfold find? SchemaCache.find?
    cases s.cache.snapshot with
    | none => rfl
    | some snapshot => rfl
  have hnodup : (listed s.cache.snapshot).keys.Nodup := by
    cases s.cache.snapshot with
    | none => exact List.nodup_nil
    | some snapshot => exact snapshot.nodup
  constructor
  · intro name schema hentry
    have hknown := (hfind name).trans (Entries.find?_of_mem hnodup hentry)
    exact ⟨hknown, get_of_find? hknown⟩
  · intro name hname
    have hunknown := (hfind name).trans (Entries.find?_of_notMem hname)
    exact ⟨hunknown, get_of_find?_eq_none hunknown⟩

theorem AnswersWith.eq_nil {entries : Entries DatabaseSchema} (h : s.AnswersWith entries)
    (hnone : s.AnswersWith []) : entries = [] := by
  rw [List.eq_nil_iff_forall_not_mem]
  rintro ⟨name, schema⟩ hentry
  have hknown := (h.known name schema hentry).1
  rw [(hnone.unknown name List.not_mem_nil).1] at hknown
  cases hknown

end SchemaStore

namespace World

variable {w w' : World} {i : Nat}

def run : World → List Action → World
  | w, [] => w
  | w, a :: actions => run (w.act a).1 actions

def Reply.snapshot? : Reply → Option Snapshot
  | loaded (.ok snapshot) => snapshot
  | refreshed (.ok snapshot) => some snapshot
  | _ => none

def brought? (w : World) (i : Nat) (a : Action) : Option Snapshot :=
  if a.called? = some i then (w.act a).2.snapshot? else none

def lastBrought? (i : Nat) : World → List Action → Option Snapshot
  | _, [] => none
  | w, a :: actions => (lastBrought? i (w.act a).1 actions).or (w.brought? i a)

def atHand? (w : World) (i : Nat) : Option Snapshot := w.stores[i]?.bind fun s => s.cache.snapshot

end World

namespace SchemaStore

open World (Reply)

variable {s : SchemaStore}

theorem snapshot_loadUnder (s : SchemaStore) (refused : Refusals) (files : FileSystem) :
    (s.loadUnder refused files).value.1.cache.snapshot =
      (Reply.loaded (s.loadUnder refused files).value.2).snapshot?.or s.cache.snapshot := by
  unfold loadUnder
  split
  · rfl
  · rfl
  · rfl

theorem snapshot_keep (s : SchemaStore) (refused : Refusals) (files : FileSystem)
    (snapshot : Snapshot) :
    (s.keep refused files snapshot).value.2.1.cache.snapshot =
      (Reply.refreshed (s.keep refused files snapshot).value.2.2).snapshot?.or
        s.cache.snapshot := by
  unfold keep
  split
  · rfl
  · rfl

theorem path_keep (s : SchemaStore) (refused : Refusals) (files : FileSystem)
    (snapshot : Snapshot) :
    (s.keep refused files snapshot).value.2.1.path = s.path := by
  unfold keep
  split
  · rfl
  · rfl

theorem path_refreshUnder (s : SchemaStore) (c : Circumstances) (files : FileSystem)
    (ids : Table Text) : (s.refreshUnder c files ids).value.store.path = s.path := by
  cases hclient : s.client with
  | none =>
    rw [refreshUnder_cannotFetch hclient]
    rfl
  | some client =>
    obtain ⟨calls, hvalue⟩ := refreshUnder_value hclient c files ids
    rw [hvalue]
    exact path_keep s c.refused files _

theorem snapshot_refreshUnder (s : SchemaStore) (c : Circumstances) (files : FileSystem)
    (ids : Table Text) :
    (s.refreshUnder c files ids).value.store.cache.snapshot =
      (Reply.refreshed (s.refreshUnder c files ids).value.result).snapshot?.or
        s.cache.snapshot := by
  cases hclient : s.client with
  | none =>
    rw [refreshUnder_cannotFetch hclient]
    rfl
  | some client =>
    obtain ⟨calls, hvalue⟩ := refreshUnder_value hclient c files ids
    rw [hvalue]
    exact snapshot_keep s c.refused files _

end SchemaStore

namespace World

variable {w w' : World} {i : Nat}

theorem atHand?_set {s s' : SchemaStore} {j : Nat} (hstore : w.stores[j]? = some s)
    (files : FileSystem) :
    (World.mk files (w.stores.set j s')).atHand? i =
      if j = i then s'.cache.snapshot else w.atHand? i := by
  obtain ⟨hj, -⟩ := List.getElem?_eq_some_iff.1 hstore
  unfold atHand?
  rw [List.getElem?_set]
  by_cases hself : j = i
  · rw [if_pos hself, if_pos hself, if_pos (hself ▸ hj), Option.bind_some]
  · rw [if_neg hself, if_neg hself]

/-- A call changes no store but its own, which then has the snapshot at hand with which the call has
ended, if it has ended with one. -/
theorem exists_act_of_called {a : Action} {s : SchemaStore} (hcalled : a.called? = some i)
    (hstore : w.stores[i]? = some s) :
    ∃ files s' reply, w.act a = (⟨files, w.stores.set i s'⟩, reply) ∧
      s'.cache.snapshot = reply.snapshot?.or s.cache.snapshot := by
  cases a with
  | openStore path client => cases hcalled
  | change files htree => cases hcalled
  | load j refused =>
    cases hcalled
    exact ⟨_, _, _, act_load hstore refused, s.snapshot_loadUnder refused w.files⟩
  | refresh j c ids =>
    cases hcalled
    exact ⟨_, _, _, act_refresh hstore c ids, s.snapshot_refreshUnder c w.files ids⟩

theorem atHand?_openStore (w : World) (i : Nat) (path : FilePath) (client : Option ApiConfig) :
    (w.act (.openStore path client)).1.atHand? i = w.atHand? i := by
  unfold atHand? act
  rcases Nat.lt_trichotomy i w.stores.length with hold | rfl | hlater
  · rw [List.getElem?_append_left hold]
  · simp [SchemaStore.ofPath]
  · rw [List.getElem?_eq_none (by simpa using Nat.succ_le_of_lt hlater),
      List.getElem?_eq_none (Nat.le_of_lt hlater)]

/-- What a store has at hand after an action is what the action has brought to it, or else what it
had before. -/
theorem atHand?_act (w : World) (i : Nat) (a : Action) :
    (w.act a).1.atHand? i = (w.brought? i a).or (w.atHand? i) := by
  cases hcalled : a.called? with
  | none =>
    rw [brought?, hcalled, if_neg (by simp), Option.none_or]
    cases a with
    | openStore path client => exact w.atHand?_openStore i path client
    | change files htree => rfl
    | load j refused => cases hcalled
    | refresh j c ids => cases hcalled
  | some j =>
    cases hstore : w.stores[j]? with
    | none =>
      have hnothing : w.brought? i a = none := by
        rw [brought?, act_nobody hcalled hstore]
        exact ite_self none
      rw [hnothing, act_nobody hcalled hstore, Option.none_or]
    | some s =>
      obtain ⟨files, s', reply, hact, hsnapshot⟩ := exists_act_of_called hcalled hstore
      rw [brought?, hact, hcalled, atHand?_set hstore]
      by_cases hself : j = i
      · subst hself
        rw [if_pos rfl, if_pos rfl, hsnapshot, atHand?, hstore, Option.bind_some]
      · rw [if_neg hself, if_neg (by simpa using hself), Option.none_or]

/-- What a store has at hand after many actions is what the last of them that brought something has
brought to it. -/
theorem atHand?_run (i : Nat) (actions : List Action) (w : World) :
    (w.run actions).atHand? i = (lastBrought? i w actions).or (w.atHand? i) := by
  induction actions generalizing w with
  | nil => rfl
  | cons a actions ih => rw [run, ih, atHand?_act, lastBrought?, Option.or_assoc]

theorem run_append (w : World) (earlier later : List Action) :
    w.run (earlier ++ later) = (w.run earlier).run later := by
  induction earlier generalizing w with
  | nil => rfl
  | cons a earlier ih => exact ih _

theorem lastBrought?_of_uncalled {actions : List Action}
    (h : ∀ a ∈ actions, a.called? ≠ some i) : ∀ w, lastBrought? i w actions = none := by
  induction actions with
  | nil =>
    intro w
    rfl
  | cons a actions ih =>
    intro w
    obtain ⟨hhead, htail⟩ := List.forall_mem_cons.1 h
    rw [lastBrought?, ih htail, brought?, if_neg hhead]
    rfl

theorem length_act (w : World) (a : Action) : w.stores.length ≤ (w.act a).1.stores.length := by
  cases hcalled : a.called? with
  | none =>
    cases a with
    | openStore path client =>
      rw [act, List.length_append]
      exact Nat.le_add_right _ _
    | change files htree => exact Nat.le_refl _
    | load j refused => cases hcalled
    | refresh j c ids => cases hcalled
  | some j =>
    cases hstore : w.stores[j]? with
    | none => exact Nat.le_of_eq (by rw [act_nobody hcalled hstore])
    | some s =>
      obtain ⟨files, s', reply, hact, -⟩ := exists_act_of_called hcalled hstore
      exact Nat.le_of_eq (by rw [hact, List.length_set])

theorem length_run (actions : List Action) (w : World) :
    w.stores.length ≤ (w.run actions).stores.length := by
  induction actions generalizing w with
  | nil => exact Nat.le_refl _
  | cons a actions ih => exact Nat.le_trans (w.length_act a) (ih _)

/-- A call that was carried out has a store, which is still there after whatever comes later. -/
theorem exists_store_of_loaded {refused : Refusals} {result : Except LoadError (Option Snapshot)}
    (hload : w.act (.load i refused) = (w', .loaded result)) (later : List Action) :
    ∃ s, (w'.run later).stores[i]? = some s := by
  cases hstore : w.stores[i]? with
  | none =>
    rw [act_nobody rfl hstore] at hload
    cases hload
  | some s =>
    obtain ⟨hi, -⟩ := List.getElem?_eq_some_iff.1 hstore
    have hkept := Nat.le_trans (w.length_act (.load i refused)) (length_run later _)
    rw [hload] at hkept
    exact ⟨_, List.getElem?_eq_getElem (Nat.lt_of_lt_of_le hi hkept)⟩

theorem brought?_of_loaded {refused : Refusals} {R : Option Snapshot}
    (hload : w.act (.load i refused) = (w', .loaded (.ok R))) :
    w.brought? i (.load i refused) = R := by
  rw [brought?, hload]
  exact if_pos rfl

end World

open SchemaStore (listed)

namespace World

variable {w' : World} {i : Nat} {earlier later : List Action} {refused : Refusals}
  {R : Option Snapshot} {files : FileSystem}

/-- From a load that ends with a snapshot to the next call of its store, the store answers with just
that snapshot. After a load that ends without one it answers with the last snapshot that an earlier
call has brought to it; so then it agrees with the load only if there is no such snapshot, or none
with entries. -/
theorem answersWith_after_load
    (hload : (World.run ⟨files, []⟩ earlier).act (.load i refused) = (w', .loaded (.ok R)))
    (hlater : ∀ a ∈ later, a.called? ≠ some i) :
    ∃ s, (w'.run later).stores[i]? = some s ∧
      s.AnswersWith (listed (R.or (lastBrought? i ⟨files, []⟩ earlier))) ∧
      (s.AnswersWith (listed R) ↔
        (R = none → listed (lastBrought? i ⟨files, []⟩ earlier) = [])) := by
  obtain ⟨s, hstore⟩ := exists_store_of_loaded hload later
  have hearlier : (World.run ⟨files, []⟩ earlier).atHand? i = lastBrought? i ⟨files, []⟩ earlier :=
    (atHand?_run i earlier ⟨files, []⟩).trans Option.or_none
  have hloaded := atHand?_act (World.run ⟨files, []⟩ earlier) i (.load i refused)
  rw [brought?_of_loaded hload, hload, hearlier] at hloaded
  have hhand := atHand?_run i later w'
  rw [lastBrought?_of_uncalled hlater, Option.none_or, hloaded, atHand?, hstore,
    Option.bind_some] at hhand
  have hanswers := s.answersWith_listed
  rw [hhand] at hanswers
  refine ⟨s, hstore, hanswers, ?_⟩
  cases R with
  | some snapshot =>
    constructor
    · intro _ hnone
      cases hnone
    · intro _
      exact hanswers
  | none =>
    constructor
    · intro hagrees _
      exact hanswers.eq_nil hagrees
    · intro hempty
      rw [Option.none_or, hempty rfl] at hanswers
      exact hanswers

open SchemaStore (fetchingStore exampleClient exampleIds halfAnswered fetchAll)

/-- A store is opened on a file that is not there yet, and refreshes two databases; one answers. -/
def refreshing : List Action :=
  [.openStore (.ofText "s.json") (some exampleClient), .refresh 0 (halfAnswered .utc) exampleIds]

def refreshed : Logged Refresh :=
  (fetchingStore exampleClient).refreshUnder (halfAnswered .utc) .empty exampleIds

def fetched : Snapshot := fetchAll exampleClient (halfAnswered .utc) exampleIds

theorem path_refreshed : refreshed.value.store.path = .ofText "s.json" := by
  rw [refreshed, SchemaStore.path_refreshUnder, fetchingStore, SchemaStore.ofPath]

theorem load_refreshed :
    (refreshed.value.store.load refreshed.value.files).value.2 = .ok (some fetched) := by
  have hload := SchemaStore.load_halfAnswered refreshed.value.store path_refreshed
  rw [← refreshed, ← fetched] at hload
  exact hload

theorem find?_refreshed : refreshed.value.store.find? "a" =
    some ⟨"x", "a", .empty, (halfAnswered .utc).clock "a"⟩ := by
  rw [refreshed, ((SchemaStore.isReplacement_halfAnswered .utc).find "a").1]
  exact SchemaStore.find?_halfAnswered .utc

theorem run_refreshing :
    run ⟨.empty, []⟩ refreshing = ⟨refreshed.value.files, [refreshed.value.store]⟩ := by
  have hopen : act ⟨.empty, []⟩ (.openStore (.ofText "s.json") (some exampleClient)) =
      (⟨.empty, [fetchingStore exampleClient]⟩, .nothing) := rfl
  have hstore : (World.mk .empty [fetchingStore exampleClient]).stores[0]? =
      some (fetchingStore exampleClient) := rfl
  rw [refreshing, run, hopen, run, act_refresh hstore, run, List.set_cons_zero, refreshed]

theorem act_load_only (files : FileSystem) (s : SchemaStore) (refused : Refusals) :
    act ⟨files, [s]⟩ (.load 0 refused) =
      (⟨files, [(s.loadUnder refused files).value.1]⟩,
        .loaded (s.loadUnder refused files).value.2) :=
  act_load rfl refused

/-- The file was loaded, then another program takes it away and another store is opened. -/
theorem answersWith_after_load_refreshing : ∃ w' s,
    (run ⟨.empty, []⟩ refreshing).act (.load 0 .none) = (w', .loaded (.ok (some fetched))) ∧
      (w'.run
        [.change .empty FileSystem.isTree_empty, .openStore (.ofText "s.json") none]).stores[0]? =
        some s ∧
      s.AnswersWith fetched.entries ∧ fetched.keys = (["a"] : List Text) := by
  have hload := act_load_only refreshed.value.files refreshed.value.store .none
  have hresult := load_refreshed
  rw [SchemaStore.load] at hresult
  rw [hresult, ← run_refreshing] at hload
  have hlater : ∀ a ∈
      ([.change .empty FileSystem.isTree_empty, .openStore (.ofText "s.json") none] :
      List Action), a.called? ≠ some 0 := by simp [Action.called?]
  obtain ⟨s, hs, -, hagrees⟩ := answersWith_after_load hload hlater
  have hloaded : some fetched = none → listed (lastBrought? 0 ⟨.empty, []⟩ refreshing) = [] := by
    intro hnone
    cases hnone
  refine ⟨_, s, hload, hs, hagrees.2 hloaded, ?_⟩
  rw [fetched, Table.keys, SchemaStore.fetchAll_halfAnswered]
  rfl

/-- A load that finds the file gone says that there is no snapshot, but the store goes on to answer
from the one before. -/
theorem find?_after_load_deleted : ∃ w' s schema,
    (run ⟨.empty, []⟩ (refreshing ++ [.change .empty FileSystem.isTree_empty])).act
        (.load 0 .none) =
        (w', .loaded (.ok none)) ∧
      w'.stores[0]? = some s ∧ s.find? "a" = some schema ∧ ¬ s.AnswersWith (listed none) := by
  have hrun : run ⟨.empty, []⟩ (refreshing ++ [.change .empty FileSystem.isTree_empty]) =
      ⟨.empty, [refreshed.value.store]⟩ := by
    rw [run_append, run_refreshing]
    rfl
  have hgone : FileSystem.empty.read (.ofText "s.json") = .error .notFound := by decide +kernel
  have hread : (refreshed.value.store.loadUnder .none .empty).value =
      (refreshed.value.store, .ok none) := by
    simp [SchemaStore.loadUnder, SchemaStore.readSnapshot, Refusals.attempt, Refusals.none,
      path_refreshed, hgone, Logged.withEvent]
  refine ⟨⟨.empty, [refreshed.value.store]⟩, refreshed.value.store, _, ?_, rfl, find?_refreshed, ?_⟩
  · rw [hrun, act_load_only, hread]
  · intro hnone
    obtain ⟨hunknown, -⟩ := hnone.unknown "a" List.not_mem_nil
    rw [find?_refreshed] at hunknown
    cases hunknown

end World

end SchemaQuery
