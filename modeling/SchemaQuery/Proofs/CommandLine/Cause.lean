import SchemaQuery.Proofs.CommandLine.Run
import SchemaQuery.Proofs.Store.Load

/-!
# Why commands fail

A command fails for the first cause that it meets. The causes that are not expected are few: they
are settings and levels that are none, files that are no UTF-8 text or have paths that cannot be
asked for, numbers that are too long, a week past the end of the calendar, calls without an address
or with a body that is undecodable, and pages that are not what they are used as.
-/

namespace SchemaQuery

/-- A path with such an error cannot be asked for. -/
def FileError.IsUnaskable (e : FileError) : Prop := e = .embeddedNul ∨ e = .notEncodable

namespace Failure

/-- A cause that ends the program without a report. -/
inductive IsUnexpected : Failure → Prop
  | settings (e : SettingsError) : IsUnexpected (.settings e)
  | logLevel (name : Text) : IsUnexpected (.logLevel name)
  | registryFile (path : Text) {e : FileError} : e.IsUnaskable →
    IsUnexpected (.registry (.file path e))
  | registryUndecodable : IsUnexpected (.registry .undecodable)
  | registryTooLong (digits : Nat) : IsUnexpected (.registry (.tooLong digits))
  | requestFile (path : Text) {e : FileError} : e.IsUnaskable → IsUnexpected (.requestFile path e)
  | requestUndecodable : IsUnexpected .requestUndecodable
  | requestTooLong (digits : Nat) : IsUnexpected (.request (.tooLong digits))
  | loadFile (path : Text) {e : FileError} : e.IsUnaskable → IsUnexpected (.load (.file path e))
  | loadUndecodable : IsUnexpected (.load .undecodable)
  | notWritten (path : Text) {e : FileError} : e.IsUnaskable →
    IsUnexpected (.refresh (.notWritten path e))
  | notRemoved (temporary : Text) {e : FileError} : e.IsUnaskable →
    IsUnexpected (.refresh (.notRemoved temporary e))
  | pastCalendar : IsUnexpected (.query (.compile .pastCalendar))
  | bodyUndecodable : IsUnexpected (.query (.call .undecodable))
  | bodyTooLong (digits : Nat) : IsUnexpected (.query (.call (.tooLong digits)))
  | noAddress : IsUnexpected (.query (.call .badId))
  | noScheme (url : Text) : IsUnexpected (.query (.call (.noScheme url)))
  | misuse (m : Misuse) : IsUnexpected (.query (.misuse m))

theorem ofFile?_eq_none_iff {path : Text} {e : FileError} :
    ofFile? path e = none ↔ e.IsUnaskable := by
  cases e <;> simp [ofFile?, FileError.message?, FileError.IsUnaskable]

theorem ofRefresh?_notWritten_eq_none_iff {path : Text} {e : FileError} :
    ofRefresh? (.notWritten path e) = none ↔ e.IsUnaskable := by
  cases e <;> simp [ofRefresh?, RefreshError.message?, FileError.IsUnaskable]

theorem isUnexpected_of_report? {f : Failure} (h : f.report? = none) : f.IsUnexpected := by
  cases f with
  | settings e => exact .settings e
  | logLevel name => exact .logLevel name
  | registry e =>
    cases e with
    | file path e => exact .registryFile path (ofFile?_eq_none_iff.1 h)
    | undecodable => exact .registryUndecodable
    | tooLong digits => exact .registryTooLong digits
    | notJson | wrongForm => cases h
  | requestFile path e => exact .requestFile path (ofFile?_eq_none_iff.1 h)
  | requestUndecodable => exact .requestUndecodable
  | request e =>
    cases e with
    | tooLong digits => exact .requestTooLong digits
    | notJson | invalid => cases h
  | load e =>
    cases e with
    | file path e => exact .loadFile path (ofFile?_eq_none_iff.1 h)
    | undecodable => exact .loadUndecodable
    | content => cases h
  | refresh e =>
    cases e with
    | notWritten path e => exact .notWritten path (ofRefresh?_notWritten_eq_none_iff.1 h)
    | notRemoved temporary e => exact .notRemoved temporary (ofFile?_eq_none_iff.1 h)
    | cannotFetch => cases h
  | keyRequired | unreadableNow | nothingCached => cases h
  | query e =>
    cases e with
    | compile e =>
      cases e with
      | pastCalendar => exact .pastCalendar
      | unknownDatabase | misfit => cases h
    | call e =>
      cases e with
      | undecodable => exact .bodyUndecodable
      | tooLong digits => exact .bodyTooLong digits
      | badId => exact .noAddress
      | noScheme url => exact .noScheme url
      | api | reset => cases h
    | misuse m => exact .misuse m

/-- Just the causes that are not expected have no message to be reported with. -/
theorem report?_eq_none_iff {f : Failure} : f.report? = none ↔ f.IsUnexpected := by
  constructor
  · exact isUnexpected_of_report?
  · intro h
    cases h with
    | registryFile path he | requestFile path he | loadFile path he | notRemoved path he =>
      exact ofFile?_eq_none_iff.2 he
    | notWritten path he => exact ofRefresh?_notWritten_eq_none_iff.2 he
    | settings | logLevel | registryUndecodable | registryTooLong | requestUndecodable |
      requestTooLong | loadUndecodable | pastCalendar | bodyUndecodable | bodyTooLong | noAddress |
      noScheme | misuse => rfl

end Failure

namespace Surroundings

variable {s : Surroundings} {path : Text} {f : Failure}

/-- The settings are at fault, or the level of the log that they name. -/
inductive FailsToStart (s : Surroundings) : Failure → Prop
  | settings {e : SettingsError} : Settings.load s.environment s.files = .error e →
    FailsToStart s (.settings e)
  | logLevel {settings : Settings} {name : Text} :
    Settings.load s.environment s.files = .ok settings →
    LogSetup.ofNames (some settings.logLevel) (s.environment.find? "LOG_LEVEL") = .error name →
    FailsToStart s (.logLevel name)

/-- The request cannot be read. -/
inductive FailsToRead (s : Surroundings) (path : Text) : Failure → Prop
  | file {e : FileError} : path ≠ "-" → s.files.read (.verbatim path) = .error e →
    FailsToRead s path (.requestFile path e)
  | undecodable {bytes : Bytes} : path ≠ "-" → s.files.read (.verbatim path) = .ok bytes →
    Text.ofUtf8? .refused bytes = none → FailsToRead s path .requestUndecodable
  | request {t : Text} {e : RequestError} : s.requestText path = .ok t →
    Request.read t = .error e → FailsToRead s path (.request e)

theorem settings_eq_error_iff : s.settings = .error f ↔ s.FailsToStart f := by
  constructor
  · intro h
    unfold settings at h
    cases hload : Settings.load s.environment s.files with
    | error e =>
      rw [hload] at h
      cases h
      exact .settings hload
    | ok settings =>
      simp only [hload] at h
      split at h <;> cases h
      rename_i hname
      exact .logLevel hload hname
  · intro h
    cases h with
    | settings hload => simp only [settings, hload]
    | logLevel hload hname => simp only [settings, hload, hname]

theorem failsToRead_of_requestText (h : s.requestText path = .error f) : s.FailsToRead path f := by
  unfold requestText at h
  split at h
  · cases h
  rename_i hpath
  cases hread : s.files.read (.verbatim path) with
  | error e =>
    rw [hread] at h
    cases h
    exact .file hpath hread
  | ok bytes =>
    simp only [hread] at h
    split at h <;> cases h
    rename_i hdecode
    exact .undecodable hpath hread hdecode

theorem request_eq_error_iff : s.request path = .error f ↔ s.FailsToRead path f := by
  constructor
  · intro h
    unfold request at h
    cases htext : s.requestText path with
    | error f =>
      rw [htext] at h
      cases h
      exact failsToRead_of_requestText htext
    | ok t =>
      simp only [htext] at h
      split at h <;> cases h
      rename_i hread
      exact .request htext hread
  · intro h
    cases h with
    | file hpath hread => simp only [request, requestText, if_neg hpath, hread]
    | undecodable hpath hread hdecode =>
      simp only [request, requestText, if_neg hpath, hread, hdecode]
    | request htext hread => simp only [request, htext, hread]

end Surroundings

namespace Workspace

variable {w : Workspace} {s : Surroundings} {path : Text} {command : Command} {f : Failure}

/-- The request or the cached schemas cannot be read. -/
inductive FailsToPrepare (w : Workspace) (s : Surroundings) (path : Text) : Failure → Prop
  | request {f : Failure} : s.FailsToRead path f → FailsToPrepare w s path f
  | load {r : QueryRequest} {e : LoadError} : s.request path = .ok r →
    w.store.readSnapshot .none s.files = .error e → FailsToPrepare w s path (.load e)

/-- The cause for which a command fails. -/
inductive Fails (w : Workspace) (s : Surroundings) : Command → Failure → Prop
  | refreshKey : w.client = none → Fails w s .refreshSchemas (.keyRequired .refreshing)
  | refresh {client : ApiConfig} {e : RefreshError} : w.client = some client →
    (w.store.refreshUnder s.circumstances s.files w.registry.ids).value.result = .error e →
    Fails w s .refreshSchemas (.refresh e)
  | compilePrepare {source : RequestSource} {f : Failure} : w.FailsToPrepare s source.path f →
    Fails w s (.compile source) f
  | compileNow {source : RequestSource} {r : QueryRequest} {store : SchemaStore} {f : Failure} :
    (w.prepare s source.path).value = .ok (r, store) → s.now source.now = .error f →
    Fails w s (.compile source) f
  | compile {source : RequestSource} {r : QueryRequest} {store : SchemaStore} {now : Moment}
      {e : CompileError} :
    (w.prepare s source.path).value = .ok (r, store) → s.now source.now = .ok now →
    ((w.compiler store).compile r.database r.filters r.sort now).value = .error e →
    Fails w s (.compile source) (.query (.compile e))
  | queryPrepare {source : RequestSource} {f : Failure} : w.FailsToPrepare s source.path f →
    Fails w s (.query source) f
  | queryKey {source : RequestSource} {r : QueryRequest} {store : SchemaStore} :
    (w.prepare s source.path).value = .ok (r, store) → w.client = none →
    Fails w s (.query source) (.keyRequired .querying)
  | queryNow {source : RequestSource} {r : QueryRequest} {store : SchemaStore} {client : ApiConfig}
      {f : Failure} :
    (w.prepare s source.path).value = .ok (r, store) → w.client = some client →
    s.now source.now = .error f → Fails w s (.query source) f
  | query {source : RequestSource} {r : QueryRequest} {store : SchemaStore} {client : ApiConfig}
      {now : Moment} {e : QueryError} :
    (w.prepare s source.path).value = .ok (r, store) → w.client = some client →
    s.now source.now = .ok now →
    ((w.compiler store).execute client s.server r now).value.result = .error e →
    Fails w s (.query source) (.query e)
  | describeLoad {e : LoadError} : w.store.readSnapshot .none s.files = .error e →
    Fails w s .describe (.load e)
  | nothingCached : w.store.readSnapshot .none s.files = .ok none →
    Fails w s .describe .nothingCached

theorem exists_load (store : SchemaStore) (files : FileSystem) :
    ∃ loaded, (store.load files).value = (loaded, store.readSnapshot .none files) :=
  ⟨_, Prod.ext rfl (store.loadUnder_snd .none files)⟩

theorem prepare_eq_error_iff :
    (w.prepare s path).value = .error f ↔ w.FailsToPrepare s path f := by
  constructor
  · intro h
    unfold prepare at h
    cases hrequest : s.request path with
    | error f =>
      rw [hrequest] at h
      cases h
      exact .request (Surroundings.request_eq_error_iff.1 hrequest)
    | ok r =>
      simp only [hrequest, Logged.bind_value] at h
      split at h <;> cases h
      rename_i store e hload
      exact .load hrequest (SchemaStore.readSnapshot_of_loadUnder hload)
  · intro h
    unfold prepare
    cases h with
    | request hread =>
      rw [Surroundings.request_eq_error_iff.2 hread]
      rfl
    | load hrequest hread =>
      obtain ⟨loaded, hload⟩ := exists_load w.store s.files
      rw [hread] at hload
      simp only [hrequest, Logged.bind_value, hload, Logged.pure_value]

theorem fails_of_refresh (h : (w.refresh s).value.result = .error f) :
    w.Fails s .refreshSchemas f := by
  unfold refresh at h
  cases hclient : w.client with
  | none =>
    rw [hclient] at h
    cases h
    exact .refreshKey hclient
  | some client =>
    simp only [hclient, Logged.bind_value] at h
    split at h <;> cases h
    rename_i hrefresh
    exact .refresh hclient hrefresh

theorem fails_of_compileText {source : RequestSource}
    (h : (w.compileText s source).value = .error f) : w.Fails s (.compile source) f := by
  unfold compileText at h
  rw [Logged.bind_value] at h
  split at h
  · cases h
    rename_i hprepare
    exact .compilePrepare (prepare_eq_error_iff.1 hprepare)
  rename_i hprepare
  split at h
  · cases h
    rename_i hnow
    exact .compileNow hprepare hnow
  rename_i hnow
  rw [Logged.bind_value] at h
  split at h <;> cases h
  rename_i hcompile
  exact .compile hprepare hnow hcompile

theorem fails_of_query {source : RequestSource}
    (h : (w.query s source).value.result = .error f) : w.Fails s (.query source) f := by
  unfold query at h
  rw [Logged.bind_value] at h
  split at h
  · cases h
    rename_i hprepare
    exact .queryPrepare (prepare_eq_error_iff.1 hprepare)
  rename_i hprepare
  split at h
  · cases h
    rename_i hclient
    exact .queryKey hprepare hclient
  · cases h
    rename_i hclient hnow
    exact .queryNow hprepare hclient hnow
  rename_i hclient hnow
  simp only [Logged.bind_value] at h
  split at h <;> cases h
  rename_i hexecute
  exact .query hprepare hclient hnow hexecute

theorem fails_of_describe (h : (w.describe s).value = .error f) : w.Fails s .describe f := by
  unfold describe at h
  rw [Logged.bind_value] at h
  split at h <;> cases h
  · rename_i hload
    exact .describeLoad (SchemaStore.readSnapshot_of_loadUnder hload)
  · rename_i hload
    exact .nothingCached (SchemaStore.readSnapshot_of_loadUnder hload)

/-- A command fails for one cause, the first one that it meets. -/
theorem perform_eq_error_iff :
    (w.perform s command).value.result = .error f ↔ w.Fails s command f := by
  constructor
  · intro h
    cases command with
    | refreshSchemas => exact fails_of_refresh h
    | compile source => exact fails_of_compileText h
    | query source => exact fails_of_query h
    | describe => exact fails_of_describe h
  · intro h
    cases h with
    | refreshKey hclient =>
      simp only [perform, refresh, hclient, Logged.pure_value, Surroundings.quietly]
    | refresh hclient hrefresh =>
      simp only [perform, refresh, hclient, Logged.bind_value, hrefresh, Logged.pure_value]
    | compilePrepare hprepare =>
      simp only [perform, compileText, Logged.bind_value, prepare_eq_error_iff.2 hprepare,
        Logged.pure_value, Surroundings.quietly]
    | compileNow hprepare hnow =>
      simp only [perform, compileText, Logged.bind_value, hprepare, hnow, Logged.pure_value,
        Surroundings.quietly]
    | compile hprepare hnow hcompile =>
      simp only [perform, compileText, Logged.bind_value, hprepare, hnow, hcompile,
        Logged.pure_value, Surroundings.quietly]
    | queryPrepare hprepare =>
      simp only [perform, query, Logged.bind_value, prepare_eq_error_iff.2 hprepare,
        Logged.pure_value, Surroundings.quietly]
    | queryKey hprepare hclient =>
      simp only [perform, query, Logged.bind_value, hprepare, hclient, Logged.pure_value,
        Surroundings.quietly]
    | queryNow hprepare hclient hnow =>
      simp only [perform, query, Logged.bind_value, hprepare, hclient, hnow, Logged.pure_value,
        Surroundings.quietly]
    | query hprepare hclient hnow hexecute =>
      simp only [perform, query, Logged.bind_value, hprepare, hclient, hnow, hexecute,
        Logged.pure_value]
    | describeLoad hread =>
      obtain ⟨loaded, hload⟩ := exists_load w.store s.files
      rw [hread] at hload
      simp only [perform, describe, Logged.bind_value, hload, Logged.pure_value,
        Surroundings.quietly]
    | nothingCached hread =>
      obtain ⟨loaded, hload⟩ := exists_load w.store s.files
      rw [hread] at hload
      simp only [perform, describe, Logged.bind_value, hload, Logged.pure_value,
        Surroundings.quietly]

end Workspace

end SchemaQuery
