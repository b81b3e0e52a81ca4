import SchemaQuery.Proofs.Client
import SchemaQuery.Proofs.CommandLine.Failure
import SchemaQuery.Proofs.Store.Refresh

/-!
# What commands touch

Compiling and describing stay with the files: no server is called, so it makes no difference which
one is there. Executing a request makes one call at most, and fetching the schemas makes one for
each registered name, in any order. Only the last one of these writes files. Nothing is printed
unless a command succeeds. Main statement: `run_touches`.
-/

namespace SchemaQuery

/-- A request for the properties of the database of an id. -/
structure Http.Request.Retrieves (base id : Text) (request : Http.Request) : Prop where
  method : request.method = .get
  url : ∃ segment, Http.segment? id = some segment ∧
    request.url = base.trimRight (· = .scalar '/') ++ ("/databases/" ++ segment)
  body : request.body = none

theorem Http.Request.Retrieves.segment_eq {base id other : Text} {request : Http.Request}
    (h : request.Retrieves base id) (hother : request.Retrieves base other) :
    Http.segment? id = Http.segment? other := by
  obtain ⟨segment, hsegment, hurl⟩ := h.url
  obtain ⟨segment', hsegment', hurl'⟩ := hother.url
  have hbelow := List.append_cancel_left (hurl.symm.trans hurl')
  rw [hsegment, hsegment', List.append_cancel_left hbelow]

def Command.isOffline : Command → Bool
  | compile _ | describe => true
  | refreshSchemas | query _ => false

/-! ### Calls of a refresh -/

namespace SchemaStore

variable {s : SchemaStore} {client : ApiConfig}

theorem refreshUnder_calls (h : s.client = some client) (c : Circumstances) (files : FileSystem)
    (ids : Table Text) : (s.refreshUnder c files ids).value.calls =
      (c.sent ids.entries).filterMap fun e => (exchange client c e.1 e.2).request := by
  unfold refreshUnder
  rw [h]
  simp only
  split <;> rfl

/-- At an address of the web every database with bytes in its id is asked for once. -/
theorem forall₂_retrieves (hbase : Http.IsWeb client.apiBase) (c : Circumstances)
    {ids : Entries Text} (hids : ∀ e ∈ ids, e.2.isScalar = true) :
    List.Forall₂ (fun e request => request.Retrieves client.apiBase e.2) ids
      (ids.filterMap fun e => (exchange client c e.1 e.2).request) := by
  induction ids with
  | nil => exact .nil
  | cons e ids ih =>
    obtain ⟨hid, hids⟩ := List.forall_mem_cons.1 hids
    obtain ⟨segment, hsegment⟩ := Http.exists_segment? hid
    rw [List.filterMap_cons, exchange, ApiConfig.retrieve_of_isWeb hbase hsegment]
    exact .cons ⟨rfl, ⟨segment, hsegment, rfl⟩, rfl⟩ (ih hids)

end SchemaStore

/-! ### Deeds -/

namespace Workspace

variable {w : Workspace} {s : Surroundings} {command : Command}

theorem calls_perform_of_isOffline (h : command.isOffline = true) :
    (w.perform s command).value.calls = [] := by
  cases command with
  | compile source => rfl
  | describe => rfl
  | refreshSchemas | query => cases h

theorem calls_query (w : Workspace) (s : Surroundings) (source : RequestSource) :
    (w.query s source).value.calls.length ≤ 1 ∧ (w.query s source).value.files = s.files := by
  unfold query
  rw [Logged.bind_value]
  split
  · exact ⟨Nat.zero_le 1, rfl⟩
  split
  · exact ⟨Nat.zero_le 1, rfl⟩
  · exact ⟨Nat.zero_le 1, rfl⟩
  rw [Logged.bind_value]
  split
  · exact ⟨Option.length_toList_le, rfl⟩
  · exact ⟨Option.length_toList_le, rfl⟩

theorem files_perform (h : command ≠ .refreshSchemas) :
    (w.perform s command).value.files = s.files := by
  cases command with
  | compile source => rfl
  | query source => exact (w.calls_query s source).2
  | describe => rfl
  | refreshSchemas => exact absurd rfl h

theorem calls_refresh {client : ApiConfig} (h : w.client = some client) :
    (w.refresh s).value.calls =
      (w.store.refreshUnder s.circumstances s.files w.registry.ids).value.calls := by
  unfold refresh
  rw [h]
  simp only [Logged.bind_value]
  split <;> rfl

end Workspace

/-! ### Runs -/

namespace Run

variable (setup : LogSetup) (done : Logged Deed)

theorem touches_ofDeed :
    (ofDeed setup done).calls = done.value.calls ∧
      (ofDeed setup done).files = done.value.files := by
  unfold ofDeed
  simp only
  split
  · exact ⟨rfl, rfl⟩
  · split <;> exact ⟨rfl, rfl⟩

theorem output_ofDeed (h : (ofDeed setup done).ending ≠ .success) :
    (ofDeed setup done).output = [] := by
  unfold ofDeed at h ⊢
  simp only at h ⊢
  split at h
  · exact absurd rfl h
  · split <;> rfl

end Run

namespace Surroundings

variable {s : Surroundings} {command : Command} {arguments : List Text} {settings : Settings}
  {registry : Registry}

/-- The program starts with a key of the service: there are settings and a registry. -/
structure StartsWithKey (s : Surroundings) (settings : Settings) (registry : Registry) : Prop where
  log : ∃ setup, s.settings = .ok (settings, setup)
  registry : Registry.load s.files settings.registryPath settings.registryPath.text = .ok registry
  key : ∃ key, settings.apiKey = some key ∧ key ≠ []

theorem StartsWithKey.exists_workspace (h : s.StartsWithKey settings registry) :
    ∃ setup w client, s.settings = .ok (settings, setup) ∧ s.workspace settings = .ok w ∧
      w.client = some client ∧ w.store.client = some client ∧ w.registry = registry := by
  obtain ⟨setup, hsettings⟩ := h.log
  obtain ⟨key, hkey, hne⟩ := h.key
  have hclient : settings.apiConfig? = some ⟨key, settings.apiBase, settings.version,
      .decimal settings.timeout⟩ := by
    simp [Settings.apiConfig?, hkey, hne]
  refine ⟨setup, ⟨settings.apiConfig?, registry, .ofPath settings.cachePath settings.apiConfig?⟩, _,
    hsettings, ?_, hclient, hclient, rfl⟩
  unfold workspace
  rw [h.registry]

theorem startsWithKey_of_workspace {setup : LogSetup} {w : Workspace} {client : ApiConfig}
    (hsettings : s.settings = .ok (settings, setup)) (hw : s.workspace settings = .ok w)
    (hclient : w.client = some client) : s.StartsWithKey settings w.registry := by
  unfold workspace at hw
  simp only at hw
  split at hw <;> cases hw
  rename_i hload
  obtain ⟨key, hkey, -⟩ := Option.map_eq_some_iff.1 hclient
  obtain ⟨hkey, hne⟩ := Option.filter_eq_some_iff.1 hkey
  exact ⟨⟨setup, hsettings⟩, hload, key, hkey, of_decide_eq_true hne⟩

theorem runCommand_touches (s : Surroundings) (command : Command) :
    ((s.runCommand command).calls = [] ∧ (s.runCommand command).files = s.files) ∨
      ∃ settings setup w, s.settings = .ok (settings, setup) ∧ s.workspace settings = .ok w ∧
        (s.runCommand command).calls = (w.perform s command).value.calls ∧
        (s.runCommand command).files = (w.perform s command).value.files := by
  cases hsettings : s.settings with
  | error f =>
    rw [runCommand_of_failsToStart (settings_eq_error_iff.1 hsettings)]
    exact .inl ⟨rfl, rfl⟩
  | ok started =>
    obtain ⟨settings, setup⟩ := started
    obtain ⟨hcalls, hfiles⟩ := Run.touches_ofDeed setup (s.deed settings command)
    rw [runCommand_of_settings hsettings, hcalls, hfiles]
    cases hw : s.workspace settings with
    | error f =>
      simp only [deed, hw]
      exact .inl ⟨rfl, rfl⟩
    | ok w =>
      simp only [deed, hw]
      exact .inr ⟨settings, setup, w, rfl, hw, rfl, rfl⟩

theorem output_runCommand (h : (s.runCommand command).ending ≠ .success) :
    (s.runCommand command).output = [] := by
  unfold runCommand at h ⊢
  split
  · rfl
  · rename_i hsettings
    rw [hsettings] at h
    exact Run.output_ofDeed _ _ h

theorem files_runCommand (h : command ≠ .refreshSchemas) :
    (s.runCommand command).files = s.files := by
  rcases s.runCommand_touches command with ⟨-, hfiles⟩ | ⟨_, _, w, -, -, -, hfiles⟩
  · exact hfiles
  · rw [hfiles, Workspace.files_perform h]

theorem calls_runCommand_of_isOffline (h : command.isOffline = true) :
    (s.runCommand command).calls = [] := by
  rcases s.runCommand_touches command with ⟨hcalls, -⟩ | ⟨_, _, w, -, -, hcalls, -⟩
  · exact hcalls
  · rw [hcalls, Workspace.calls_perform_of_isOffline h]

theorem runCommand_withServer (h : command.isOffline = true) (server : Http.Server) :
    runCommand { s with server } command = s.runCommand command := by
  cases command with
  | compile source => rfl
  | describe => rfl
  | refreshSchemas | query => cases h

theorem length_calls_query (source : RequestSource) :
    (s.runCommand (.query source)).calls.length ≤ 1 := by
  rcases s.runCommand_touches (.query source) with ⟨hcalls, -⟩ | ⟨_, _, w, -, -, hcalls, -⟩
  · rw [hcalls]
    exact Nat.zero_le 1
  · rw [hcalls]
    exact (w.calls_query s source).1

theorem calls_refresh_of_not_starts (h : ¬∃ settings registry, s.StartsWithKey settings registry) :
    (s.runCommand .refreshSchemas).calls = [] := by
  rcases s.runCommand_touches .refreshSchemas with ⟨hcalls, -⟩ | ⟨settings, _, w, hsettings, hw,
    hcalls, -⟩
  · exact hcalls
  rw [hcalls]
  cases hclient : w.client with
  | none => simp only [Workspace.perform, Workspace.refresh, hclient, Logged.pure_value, quietly]
  | some client =>
    exact absurd ⟨settings, w.registry, startsWithKey_of_workspace hsettings hw hclient⟩ h

/-- With a key, every registered database is asked for once, in the order of the schedule. -/
theorem StartsWithKey.calls_refresh (h : s.StartsWithKey settings registry)
    (hweb : Http.IsWeb settings.apiBase)
    (hids : ∀ e ∈ registry.ids.entries, e.2.isScalar = true) :
    List.Forall₂ (fun e request => request.Retrieves settings.apiBase e.2)
      (s.schedule.sent registry.ids.entries) (s.runCommand .refreshSchemas).calls := by
  obtain ⟨setup, w, client, hsettings, hw, hclient, hstore, rfl⟩ := h.exists_workspace
  have hbase := apiBase_of_workspace hw hclient
  rw [← hbase] at hweb ⊢
  have hcalls : (s.runCommand .refreshSchemas).calls = (w.refresh s).value.calls := by
    rw [runCommand_of_settings hsettings, (Run.touches_ofDeed setup _).1]
    simp only [deed, hw, Workspace.perform]
  rw [hcalls, Workspace.calls_refresh hclient, SchemaStore.refreshUnder_calls hstore]
  refine SchemaStore.forall₂_retrieves hweb _ fun e he => hids e ?_
  exact (s.schedule.sent_perm _).mem_iff.1 he

/-- On accepted arguments, compiling and describing call no server and do not depend on one, only
refreshing touches files, executing makes one call at most, and refreshing asks once for every
registered database, in some order, when the program has started with a key. What is printed is
printed by a run that succeeds. -/
theorem run_touches (h : Arguments.read arguments = .ok (.command command)) :
    (command.isOffline = true → (s.run arguments).calls = [] ∧
      ∀ server, Surroundings.run { s with server } arguments = s.run arguments) ∧
    (command ≠ .refreshSchemas → (s.run arguments).files = s.files) ∧
    (∀ source, command = .query source → (s.run arguments).calls.length ≤ 1) ∧
    (command = .refreshSchemas →
      ((¬∃ settings registry, s.StartsWithKey settings registry) → (s.run arguments).calls = []) ∧
      ∀ settings registry, s.StartsWithKey settings registry → Http.IsWeb settings.apiBase →
        (∀ e ∈ registry.ids.entries, e.2.isScalar = true) →
        ∃ order, order.Perm registry.ids.entries ∧
          List.Forall₂ (fun e request => request.Retrieves settings.apiBase e.2) order
            (s.run arguments).calls) ∧
    ((s.run arguments).ending ≠ .success → (s.run arguments).output = []) := by
  simp only [run_of_read h]
  refine ⟨?_, files_runCommand, ?_, ?_, output_runCommand⟩
  · intro hoffline
    exact ⟨calls_runCommand_of_isOffline hoffline, runCommand_withServer hoffline⟩
  · rintro source rfl
    exact length_calls_query source
  · rintro rfl
    refine ⟨calls_refresh_of_not_starts, fun _ registry hstarts hweb hids => ?_⟩
    exact ⟨_, s.schedule.sent_perm registry.ids.entries, hstarts.calls_refresh hweb hids⟩

/-- Databases are registered under their names, and nobody answers. -/
def registering (ids : List (Text × Text)) (schedule : Schedule) : Surroundings where
  environment := [("NOTION_API_KEY", "secret"), ("NOTION_API_BASE", "http://db.test/")]
  files := ⟨[(["notion-config.json"], .file ((Text.utf8? (Json.write .controls
    (.record [("databases", .record (ids.map fun e =>
      (e.1, .record [("id", .string e.2)])))]))).getD []))]⟩
  input := []
  server _ := .unreachable
  clock := default
  schedule

/-- The program starts with a key, a base address and registered ids. -/
def startsOn (s : Surroundings) (base : Text) (ids : List (Text × Text)) : Bool :=
  s.settings.toOption.any fun found =>
    found.1.apiKey == some ("secret" : Text) && found.1.apiBase == base &&
      (Registry.load s.files found.1.registryPath found.1.registryPath.text).toOption.any
        fun registry => registry.ids.entries == ids

theorem exists_startsWithKey (base : Text) (ids : List (Text × Text))
    (h : s.startsOn base ids = true) : ∃ settings registry,
      s.StartsWithKey settings registry ∧ settings.apiBase = base ∧ registry.ids.entries = ids := by
  obtain ⟨⟨settings, setup⟩, hsettings, hstated⟩ := (Option.any_eq_true _ _).1 h
  obtain ⟨hstated, hregistry⟩ := Bool.and_eq_true_iff.1 hstated
  obtain ⟨hkey, hbase⟩ := Bool.and_eq_true_iff.1 hstated
  obtain ⟨registry, hload, hentries⟩ := (Option.any_eq_true _ _).1 hregistry
  have hstarts : s.StartsWithKey settings registry :=
    ⟨⟨setup, Except.eq_ok_of_toOption hsettings⟩, Except.eq_ok_of_toOption hload, _,
      eq_of_beq hkey, by decide⟩
  exact ⟨settings, registry, hstarts, eq_of_beq hbase, eq_of_beq hentries⟩

/-- A program that starts asks for the registered ids in the order of the schedule. -/
theorem exists_asked {base : Text} (hweb : Http.IsWeb base) {ids : List (Text × Text)}
    (hids : ∀ e ∈ ids, e.2.isScalar = true) (h : s.startsOn base ids = true) :
    ∃ settings registry, s.StartsWithKey settings registry ∧ settings.apiBase = base ∧
      registry.ids.entries = ids ∧
      List.Forall₂ (fun e request => request.Retrieves base e.2) (s.schedule.sent ids)
        (s.runCommand .refreshSchemas).calls := by
  obtain ⟨settings, registry, hstarts, rfl, rfl⟩ := exists_startsWithKey base ids h
  exact ⟨settings, registry, hstarts, rfl, rfl, hstarts.calls_refresh hweb hids⟩

theorem isWeb_test : Http.IsWeb "http://db.test/" := ⟨"http", "//db.test/", rfl, .inl rfl⟩

def twoIds : List (Text × Text) := [("B", "b 1"), ("A", "a")]

theorem run_touches_twoDatabases :
    Arguments.read ["refresh-schemas"] = .ok (.command .refreshSchemas) ∧
    (∃ settings registry, (registering twoIds .inOrder).StartsWithKey settings registry ∧
      Http.IsWeb settings.apiBase ∧ registry.ids.entries = twoIds) ∧
    (∀ e ∈ twoIds, e.2.isScalar = true) ∧
    ∃ order, order.Perm twoIds ∧
      List.Forall₂ (fun e request => request.Retrieves "http://db.test/" e.2) order
        ((registering twoIds .inOrder).run ["refresh-schemas"]).calls := by
  have hread : Arguments.read ["refresh-schemas"] = .ok (.command .refreshSchemas) := rfl
  have hids : ∀ e ∈ twoIds, e.2.isScalar = true := by decide
  obtain ⟨settings, registry, hstarts, hbase, hentries⟩ :=
    exists_startsWithKey (s := registering twoIds .inOrder) "http://db.test/" twoIds
      (by decide +kernel)
  have hweb : Http.IsWeb settings.apiBase := hbase ▸ isWeb_test
  obtain ⟨-, -, -, hrefresh, -⟩ := run_touches (s := registering twoIds .inOrder) hread
  have hasked := (hrefresh rfl).2 settings registry hstarts hweb (hentries ▸ hids)
  rw [hentries, hbase] at hasked
  exact ⟨hread, ⟨settings, registry, hstarts, hweb, hentries⟩, hids, hasked⟩

/-- One database under two names. -/
def twoNames : List (Text × Text) := [("A", "x"), ("B", "x")]

/-- Requests need not be sent in the order of the registry, and one database may be asked for
twice. -/
theorem run_refreshSchemas_disordered_repeated :
    (∃ settings registry, (registering twoIds .backwards).StartsWithKey settings registry ∧
      Http.IsWeb settings.apiBase ∧ (∀ e ∈ registry.ids.entries, e.2.isScalar = true) ∧
      ¬List.Forall₂ (fun e request => request.Retrieves settings.apiBase e.2) registry.ids.entries
        ((registering twoIds .backwards).run ["refresh-schemas"]).calls) ∧
    ∃ settings registry first second,
      (registering twoNames .inOrder).StartsWithKey settings registry ∧
      Http.IsWeb settings.apiBase ∧ registry.ids.entries = twoNames ∧
      ((registering twoNames .inOrder).run ["refresh-schemas"]).calls = [first, second] ∧
      first.Retrieves settings.apiBase "x" ∧ second.Retrieves settings.apiBase "x" := by
  have hread : Arguments.read ["refresh-schemas"] = .ok (.command .refreshSchemas) := rfl
  simp only [run_of_read hread]
  constructor
  · have hids : ∀ e ∈ twoIds, e.2.isScalar = true := by decide
    obtain ⟨settings, registry, hstarts, hbase, hentries, hasked⟩ :=
      exists_asked (s := registering twoIds .backwards) isWeb_test hids (by decide +kernel)
    refine ⟨settings, registry, hstarts, hbase ▸ isWeb_test, hentries ▸ hids, fun hordered => ?_⟩
    rw [hbase, hentries] at hordered
    obtain ⟨first, calls, hfirst, -, hcalls⟩ := List.forall₂_cons_left_iff.1 hasked
    rw [hcalls] at hordered
    obtain ⟨hsecond, -⟩ := List.forall₂_cons.1 hordered
    exact absurd (hfirst.segment_eq hsecond) (by decide)
  · have hids : ∀ e ∈ twoNames, e.2.isScalar = true := by decide
    obtain ⟨settings, registry, hstarts, hbase, hentries, hasked⟩ :=
      exists_asked (s := registering twoNames .inOrder) isWeb_test hids (by decide +kernel)
    obtain ⟨first, calls, hfirst, hcalls, hall⟩ := List.forall₂_cons_left_iff.1 hasked
    obtain ⟨second, hsecond, rfl⟩ := forall₂_singleton_left_iff.1 hcalls
    rw [← hbase] at hfirst hsecond
    exact ⟨settings, registry, first, second, hstarts, hbase ▸ isWeb_test, hentries, hall, hfirst,
      hsecond⟩

end Surroundings

end SchemaQuery
