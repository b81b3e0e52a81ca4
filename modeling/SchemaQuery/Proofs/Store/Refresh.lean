import SchemaQuery.Store

/-!
# What a refresh does

A refresh reports every database, then what is missing, and at last the file. Its files, its store
and its result are those of keeping the schemas that were fetched.
-/

namespace SchemaQuery

namespace Logged

@[simp] theorem report_events (e : LogEvent) : (report e).events = [e] := rfl

theorem events_forM {α : Type} (f : α → LogEvent) (xs : List α) :
    (xs.forM fun a => report (f a)).events = xs.map f := by
  rw [List.forM_eq_forM]
  induction xs with
  | nil => rfl
  | cons a xs ih => rw [List.forM_cons, bind_events, ih, report_events, List.map_cons,
      List.singleton_append]

end Logged

def Schedule.backwards : Schedule :=
  ⟨List.reverse, List.reverse, List.reverse_perm, List.reverse_perm⟩

namespace SchemaStore

variable {s : SchemaStore} {client : ApiConfig} {c : Circumstances} {files : FileSystem}
  {ids : Table Text}

def fetchEvents (client : ApiConfig) (c : Circumstances) (ids : Table Text) : List LogEvent :=
  (c.ended ids.entries).map fun (name, id) => fetchEvent name id (fetchOne client c name id)

def incompleteEvents (ids : Table Text) (snapshot : Snapshot) : List LogEvent :=
  if ids.size - snapshot.size ≠ 0 then
    [.refreshIncomplete snapshot.size (ids.size - snapshot.size)]
  else []

theorem refreshUnder_cannotFetch (h : s.client = none) :
    s.refreshUnder c files ids = pure ⟨[], files, s, .error .cannotFetch⟩ := by
  unfold refreshUnder
  rw [h]

theorem refreshUnder_events (h : s.client = some client) :
    (s.refreshUnder c files ids).events = fetchEvents client c ids ++
      (incompleteEvents ids (fetchAll client c ids) ++
        (s.keep c.refused files (fetchAll client c ids)).events) := by
  unfold refreshUnder
  rw [h]
  simp only [Logged.bind_events, fetchEvents, incompleteEvents]
  congr 1
  · exact Logged.events_forM
      (fun e : Text × Text => fetchEvent e.1 e.2 (fetchOne client c e.1 e.2)) _
  · split
    · simp
    · simp

theorem refreshUnder_value (h : s.client = some client) (c : Circumstances) (files : FileSystem)
    (ids : Table Text) :
    let kept := (s.keep c.refused files (fetchAll client c ids)).value
    ∃ calls, (s.refreshUnder c files ids).value = ⟨calls, kept.1, kept.2.1, kept.2.2⟩ := by
  unfold refreshUnder
  rw [h]
  simp only
  split <;> exact ⟨_, rfl⟩

end SchemaStore

end SchemaQuery
