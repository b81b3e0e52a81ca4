import SchemaQuery.CommandLine.Run
import SchemaQuery.Proofs.Query.Execution

/-!
# Runs that succeed

A run succeeds when its settings, its workspace and its command do. Two commands take a request.
Both compile it in the same way, under the name that it gives: executing it finds the registered
name first, but that one finds itself. One prints the query, the other one sends it.
-/

namespace SchemaQuery

variable {w : Workspace} {s : Surroundings} {source : RequestSource} {text : Text}

/-! ### Commands -/

namespace Workspace

theorem compileText_eq_ok (h : (w.compileText s source).value = .ok text) :
    ∃ r store now q, (w.prepare s source.path).value = .ok (r, store) ∧
      s.now source.now = .ok now ∧
      ((w.compiler store).compile r.database r.filters r.sort now).value = .ok q ∧
      text = q.toJson.writeIndented ++ "\n" := by
  unfold compileText at h
  rw [Logged.bind_value] at h
  split at h
  · cases h
  rename_i r store hprepare
  split at h
  · cases h
  rename_i now hnow
  rw [Logged.bind_value] at h
  split at h
  · cases h
  rename_i q hq
  cases h
  exact ⟨r, store, now, q, hprepare, hnow, hq, rfl⟩

theorem query_eq_ok (h : (w.query s source).value.result = .ok text) :
    ∃ r store client now q answer, (w.prepare s source.path).value = .ok (r, store) ∧
      w.client = some client ∧ s.now source.now = .ok now ∧
      ((w.compiler store).compile r.database r.filters r.sort now).value = .ok q ∧
      (client.query s.server q.databaseId q.requestBody).result = .ok answer ∧
      (w.query s source).value.calls =
        (client.query s.server q.databaseId q.requestBody).request.toList := by
  unfold query at h ⊢
  rw [Logged.bind_value] at h ⊢
  split at h
  · cases h
  rename_i r store hprepare
  split at h
  · cases h
  · cases h
  rename_i client now hclient hnow
  simp only [Logged.bind_value] at h ⊢
  split at h
  · cases h
  rename_i found hfound
  obtain ⟨q, answer, hq, hanswer, hcall⟩ := Compiler.execute_eq_ok hfound
  refine ⟨r, store, client, now, q, answer, hprepare, hclient, hnow, hq, hanswer, ?_⟩
  simp only [Logged.pure_value, hcall]

theorem prepare_eq_ok {path : Text} {r : QueryRequest} {store : SchemaStore}
    (h : (w.prepare s path).value = .ok (r, store)) :
    ∃ t, s.requestText path = .ok t ∧ Request.read t = .ok r := by
  unfold prepare Surroundings.request at h
  cases htext : s.requestText path with
  | error f =>
    rw [htext] at h
    cases h
  | ok t =>
    simp only [htext] at h
    cases hread : Request.read t with
    | error e =>
      rw [hread] at h
      cases h
    | ok r' =>
      simp only [hread, Logged.bind_value] at h
      split at h <;> cases h
      exact ⟨t, rfl, hread⟩

end Workspace

/-! ### Runs -/

/-- The program ends as it should. -/
def Ending.isSuccess : Ending → Bool
  | success => true
  | _ => false

theorem Ending.isSuccess_iff {e : Ending} : e.isSuccess = true ↔ e = .success := by
  cases e <;> simp [isSuccess]

theorem Run.ofDeed_success {setup : LogSetup} {done : Logged Deed}
    (h : (ofDeed setup done).ending = .success) :
    done.value.result = .ok (ofDeed setup done).output ∧
      (ofDeed setup done).calls = done.value.calls := by
  unfold ofDeed at h ⊢
  simp only at h ⊢
  split at h
  · rename_i text htext
    simp only [htext, and_self]
  · split at h <;> cases h

namespace Surroundings

variable {settings : Settings}

theorem run_of_read {arguments : List Text} {command : Command}
    (h : Arguments.read arguments = .ok (.command command)) :
    s.run arguments = s.runCommand command := by
  rw [run, h]

theorem load_of_settings {setup : LogSetup} (h : s.settings = .ok (settings, setup)) :
    Settings.load s.environment s.files = .ok settings := by
  unfold Surroundings.settings at h
  split at h
  · cases h
  rename_i hload
  split at h <;> cases h
  exact hload

theorem apiBase_of_workspace {client : ApiConfig} (h : s.workspace settings = .ok w)
    (hclient : w.client = some client) : client.apiBase = settings.apiBase := by
  unfold workspace at h
  simp only at h
  split at h <;> cases h
  obtain ⟨key, -, rfl⟩ := Option.map_eq_some_iff.1 hclient
  rfl

theorem runCommand_success {command : Command} (h : (s.runCommand command).ending = .success) :
    ∃ settings setup w, s.settings = .ok (settings, setup) ∧ s.workspace settings = .ok w ∧
      (w.perform s command).value.result = .ok (s.runCommand command).output ∧
      (s.runCommand command).calls = (w.perform s command).value.calls := by
  unfold runCommand at h ⊢
  cases hsettings : s.settings with
  | error f =>
    rw [hsettings] at h
    cases h
  | ok found =>
    obtain ⟨settings, setup⟩ := found
    simp only [hsettings] at h ⊢
    cases hw : s.workspace settings with
    | error f =>
      rw [hw] at h
      exact nomatch (Run.ofDeed_success h).1
    | ok w =>
      rw [hw] at h
      obtain ⟨hresult, hcalls⟩ := Run.ofDeed_success h
      exact ⟨settings, setup, w, rfl, hw, hresult, hcalls⟩

end Surroundings

end SchemaQuery
