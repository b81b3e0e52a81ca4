import SchemaQuery.CommandLine.Run

/-!
# Events that are no alarm

An event of the level `error` is an alarm. No part of a command raises one on its way, not even when
a database cannot be fetched: what a part cannot do is in its result, and whoever runs the command
has to report it.
-/

namespace SchemaQuery

def LogEvent.isAlarm (e : LogEvent) : Bool := e.level = .error

namespace Logged

variable {α β : Type}

/-- No alarm is raised on the way to a value. -/
def IsCalm (x : Logged α) : Prop := ∀ e ∈ x.events, e.isAlarm = false

theorem isCalm_pure (a : α) : (pure a : Logged α).IsCalm := by
  intro e he
  cases he

theorem isCalm_withEvent {e : LogEvent} (h : e.isAlarm = false) (a : α) :
    (withEvent e a).IsCalm := by
  intro event hevent
  obtain rfl := List.mem_singleton.1 hevent
  exact h

theorem isCalm_report {e : LogEvent} (h : e.isAlarm = false) : (report e).IsCalm :=
  isCalm_withEvent h ()

theorem IsCalm.bind {x : Logged α} {f : α → Logged β} (hx : x.IsCalm) (hf : (f x.value).IsCalm) :
    (x >>= f).IsCalm := by
  intro e he
  rcases List.mem_append.1 he with hbefore | hafter
  · exact hx e hbefore
  · exact hf e hafter

theorem IsCalm.map {x : Logged α} (hx : x.IsCalm) (f : α → β) : (f <$> x).IsCalm :=
  hx.bind (isCalm_pure _)

theorem isCalm_forM {f : α → Logged Unit} (h : ∀ a, (f a).IsCalm) (xs : List α) :
    (xs.forM f).IsCalm := by
  rw [List.forM_eq_forM]
  induction xs with
  | nil => exact isCalm_pure ()
  | cons a xs ih =>
    rw [List.forM_cons]
    exact (h a).bind ih

end Logged

open Logged (IsCalm isCalm_pure isCalm_withEvent isCalm_report isCalm_forM)

/-! ### Queries -/

theorem isCalm_resolveDate (text : Option Text) (now : Moment) : (resolveDate text now).IsCalm := by
  unfold resolveDate
  split
  · exact isCalm_withEvent rfl _
  · split
    · exact isCalm_pure _
    · exact isCalm_withEvent rfl _

theorem FilterSpec.isCalm_leaf (f : FilterSpec) (now : Moment) : (f.leaf now).IsCalm := by
  unfold leaf
  split
  · unfold dateLeaf
    split
    · exact isCalm_pure _
    split
    · exact isCalm_pure _
    · split
      · exact ((isCalm_resolveDate _ _).map _).map _
      · exact (isCalm_resolveDate _ _).map _
    · exact isCalm_pure _
  · split
    · exact isCalm_pure _
    · exact isCalm_pure _

namespace Compiler

variable (c : Compiler)

theorem isCalm_leaves (now : Moment) (filters : List FilterSpec) : (leaves now filters).IsCalm := by
  induction filters with
  | nil => exact isCalm_pure _
  | cons f filters ih =>
    refine (f.isCalm_leaf now).bind ?_
    split
    · exact isCalm_pure _
    · exact ih.bind (isCalm_pure _)

theorem isCalm_check (name : Text) (filters : List FilterSpec) (sort : Option SortSpec) :
    (c.check name filters sort).IsCalm := by
  unfold check
  split
  · exact isCalm_pure _
  · split
    · exact isCalm_withEvent rfl _
    · exact isCalm_pure _

theorem isCalm_compile (name : Text) (filters : List FilterSpec) (sort : Option SortSpec)
    (now : Moment) : (c.compile name filters sort now).IsCalm := by
  unfold compile
  split
  · exact isCalm_pure _
  refine (c.isCalm_check _ filters sort).bind ?_
  split
  · exact isCalm_pure _
  refine (isCalm_leaves now filters).bind ?_
  split
  · exact isCalm_pure _
  · exact isCalm_pure _

theorem isCalm_renderAnswer (schema : DatabaseSchema) (name : Text) (filters : Nat)
    (answer : Json) :
    (renderAnswer schema name filters answer).IsCalm := by
  unfold renderAnswer
  split
  · exact isCalm_pure _
  · exact isCalm_withEvent rfl _

theorem isCalm_execute (client : ApiConfig) (server : Http.Server) (r : QueryRequest)
    (now : Moment) : (c.execute client server r now).IsCalm := by
  unfold execute
  split
  · exact isCalm_pure _
  split
  · exact isCalm_pure _
  refine (c.isCalm_compile _ r.filters r.sort now).bind ?_
  split
  · exact isCalm_pure _
  simp only
  split
  · exact isCalm_pure _
  · exact (isCalm_renderAnswer _ _ _ _).bind (isCalm_pure _)

end Compiler

/-! ### The store -/

namespace SchemaStore

variable (s : SchemaStore)

theorem isCalm_loadUnder (refused : Refusals) (files : FileSystem) :
    (s.loadUnder refused files).IsCalm := by
  unfold loadUnder
  split
  · exact isCalm_pure _
  · exact isCalm_withEvent rfl _
  · exact isCalm_pure _

theorem isCalm_keep (refused : Refusals) (files : FileSystem) (snapshot : Snapshot) :
    (s.keep refused files snapshot).IsCalm := by
  unfold keep
  split
  · exact isCalm_withEvent rfl _
  · exact isCalm_pure _

theorem isAlarm_fetchEvent (name id : Text) (schema : Option DatabaseSchema) :
    (fetchEvent name id schema).isAlarm = false := by
  cases schema with
  | none => rfl
  | some schema => rfl

theorem isCalm_refreshUnder (c : Circumstances) (files : FileSystem) (ids : Table Text) :
    (s.refreshUnder c files ids).IsCalm := by
  unfold refreshUnder
  split
  · exact isCalm_pure _
  rename_i client _
  have hkeep := s.isCalm_keep c.refused files (fetchAll client c ids)
  refine (isCalm_forM (fun _ => isCalm_report (isAlarm_fetchEvent _ _ _)) _).bind ?_
  simp only
  split
  · exact (isCalm_report rfl).bind (hkeep.bind (isCalm_pure _))
  · exact hkeep.bind (isCalm_pure _)

end SchemaStore

/-! ### Commands -/

namespace Workspace

variable (w : Workspace) (s : Surroundings)

theorem isCalm_refresh : (w.refresh s).IsCalm := by
  unfold refresh
  split
  · exact isCalm_pure _
  refine (w.store.isCalm_refreshUnder _ _ _).bind ?_
  split
  · exact isCalm_pure _
  · exact (isCalm_report rfl).bind (isCalm_pure _)

theorem isCalm_prepare (path : Text) : (w.prepare s path).IsCalm := by
  unfold prepare
  split
  · exact isCalm_pure _
  refine (w.store.isCalm_loadUnder _ _).bind ?_
  split
  · exact isCalm_pure _
  · exact isCalm_pure _

theorem isCalm_compileText (source : RequestSource) : (w.compileText s source).IsCalm := by
  unfold compileText
  refine (w.isCalm_prepare s source.path).bind ?_
  split
  · exact isCalm_pure _
  split
  · exact isCalm_pure _
  refine (Compiler.isCalm_compile _ _ _ _ _).bind ?_
  split
  · exact isCalm_pure _
  · exact isCalm_pure _

theorem isCalm_query (source : RequestSource) : (w.query s source).IsCalm := by
  unfold query
  refine (w.isCalm_prepare s source.path).bind ?_
  split
  · exact isCalm_pure _
  split
  · exact isCalm_pure _
  · exact isCalm_pure _
  refine (Compiler.isCalm_execute _ _ _ _ _).bind ?_
  split
  · exact isCalm_pure _
  · exact isCalm_pure _

theorem isCalm_describe : (w.describe s).IsCalm := by
  unfold describe
  refine (w.store.isCalm_loadUnder _ _).bind ?_
  split
  · exact isCalm_pure _
  · exact isCalm_pure _
  · exact isCalm_pure _

/-- Whatever becomes of a command, it raises no alarm of its own. -/
theorem isCalm_perform (command : Command) : (w.perform s command).IsCalm := by
  cases command with
  | refreshSchemas => exact w.isCalm_refresh s
  | compile source => exact (w.isCalm_compileText s source).bind (isCalm_pure _)
  | query source => exact w.isCalm_query s source
  | describe => exact (w.isCalm_describe s).bind (isCalm_pure _)

end Workspace

end SchemaQuery
