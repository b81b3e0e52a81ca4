import SchemaQuery.Proofs.CommandLine.Cause
import SchemaQuery.Proofs.Log

/-!
# Runs that fail

A run fails for the cause for which its start or its command does. If that cause is expected, the
program reports it as its only alarm, prints nothing and ends in good order. Otherwise it comes to
an end without a word.
-/

namespace SchemaQuery

/-- The program comes to an end without a report. -/
def Ending.isBroken : Ending → Bool
  | broken _ => true
  | _ => false

theorem Ending.isBroken_iff {e : Ending} : e.isBroken = true ↔ ∃ f, e = .broken f := by
  cases e <;> simp [isBroken]

namespace Run

/-- What the log shows of the alarms. -/
def alarms (r : Run) : List LogEvent := r.events.filter LogEvent.isAlarm

variable {setup : LogSetup} {done : Logged Deed} {f : Failure}

/-- A calm computation shows no alarm, and then the one that is raised after it. -/
theorem alarms_shown (setup : LogSetup) (h : done.IsCalm) (later : List LogEvent)
    (hlater : ∀ e ∈ later, e.isAlarm = true) :
    ((done.events ++ later).filter setup.shows).filter LogEvent.isAlarm =
      later.filter setup.shows := by
  have hdone : done.events.filter LogEvent.isAlarm = [] := by
    rw [List.filter_eq_nil_iff]
    intro e he halarm
    rw [h e he] at halarm
    cases halarm
  rw [List.filter_filter, List.filter_congr (fun e _ => Bool.and_comm _ _), ← List.filter_filter,
    List.filter_append, hdone, List.nil_append, List.filter_eq_self.2 hlater]

/-- The command has succeeded. -/
structure Succeeds (r : Run) : Prop where
  ending : r.ending = .success
  alarms : r.alarms = []

/-- The command has failed. The message is the only alarm, as far as the log shows alarms at all,
and nothing is printed. -/
structure Reports (r : Run) (setup : LogSetup) (message : Text) : Prop where
  ending : r.ending = .failure
  output : r.output = []
  alarms : r.alarms = ([.failed message] : List LogEvent).filter setup.shows

/-- The program has come to an end without a word. -/
structure Breaks (r : Run) (f : Failure) : Prop where
  ending : r.ending = .broken f
  output : r.output = []
  alarms : r.alarms = []

theorem succeeds_ofDeed {text : Text} (hcalm : done.IsCalm) (h : done.value.result = .ok text) :
    (ofDeed setup done).Succeeds := by
  have hshown := alarms_shown setup hcalm [] (by simp)
  rw [List.append_nil, List.filter_nil] at hshown
  constructor
  · simp only [ofDeed, h]
  · simpa only [alarms, ofDeed, h] using hshown

theorem reports_ofDeed {message : Text} (hcalm : done.IsCalm) (h : done.value.result = .error f)
    (hmessage : f.report? = some message) : (ofDeed setup done).Reports setup message := by
  have halarm : ∀ e ∈ [LogEvent.failed message], e.isAlarm = true := by
    simp [LogEvent.isAlarm, LogEvent.level]
  have hshown := alarms_shown setup hcalm _ halarm
  constructor
  · simp only [ofDeed, h, hmessage]
  · simp only [ofDeed, h, hmessage]
  · simpa only [alarms, ofDeed, h, hmessage] using hshown

theorem breaks_ofDeed (hcalm : done.IsCalm) (h : done.value.result = .error f)
    (hmessage : f.report? = none) : (ofDeed setup done).Breaks f := by
  have hshown := alarms_shown setup hcalm [] (by simp)
  rw [List.append_nil, List.filter_nil] at hshown
  constructor
  · simp only [ofDeed, h, hmessage]
  · simp only [ofDeed, h, hmessage]
  · simpa only [alarms, ofDeed, h, hmessage] using hshown

end Run

namespace Surroundings

variable {s : Surroundings} {command : Command} {arguments : List Text} {f : Failure}

/-- The cause for which a run fails. -/
inductive Fails (s : Surroundings) (command : Command) : Failure → Prop
  | start {f : Failure} : s.FailsToStart f → Fails s command f
  | registry {settings : Settings} {setup : LogSetup} {e : RegistryError} :
    s.settings = .ok (settings, setup) →
    Registry.load s.files settings.registryPath settings.registryPath.text = .error e →
    Fails s command (.registry e)
  | command {settings : Settings} {setup : LogSetup} {w : Workspace} {f : Failure} :
    s.settings = .ok (settings, setup) → s.workspace settings = .ok w → w.Fails s command f →
    Fails s command f

/-- What a command does once the program has started. -/
def deed (s : Surroundings) (settings : Settings) (command : Command) : Logged Deed :=
  match s.workspace settings with
  | .error f => pure (s.quietly (.error f))
  | .ok w => w.perform s command

theorem isCalm_deed (s : Surroundings) (settings : Settings) (command : Command) :
    (s.deed settings command).IsCalm := by
  unfold deed
  split
  · exact Logged.isCalm_pure _
  · exact Workspace.isCalm_perform _ s command

theorem workspace_eq_error_iff {settings : Settings} : s.workspace settings = .error f ↔
    ∃ e, Registry.load s.files settings.registryPath settings.registryPath.text = .error e ∧
      f = .registry e := by
  unfold workspace
  cases hload : Registry.load s.files settings.registryPath settings.registryPath.text with
  | error e => simp [eq_comm]
  | ok registry => simp

theorem deed_eq_error_iff {settings : Settings} {setup : LogSetup}
    (h : s.settings = .ok (settings, setup)) :
    (s.deed settings command).value.result = .error f ↔ s.Fails command f := by
  constructor
  · intro hresult
    unfold deed at hresult
    cases hw : s.workspace settings with
    | error g =>
      obtain ⟨e, hload, rfl⟩ := workspace_eq_error_iff.1 hw
      rw [hw] at hresult
      cases hresult
      exact .registry h hload
    | ok w =>
      rw [hw] at hresult
      exact .command h hw (Workspace.perform_eq_error_iff.1 hresult)
  · intro hfails
    unfold deed
    cases hfails with
    | start hstart =>
      rw [settings_eq_error_iff.2 hstart] at h
      cases h
    | registry hsettings hload =>
      rw [h] at hsettings
      cases hsettings
      rw [workspace_eq_error_iff.2 ⟨_, hload, rfl⟩]
      rfl
    | command hsettings hw hcommand =>
      rw [h] at hsettings
      cases hsettings
      rw [hw]
      exact Workspace.perform_eq_error_iff.2 hcommand

theorem runCommand_of_settings {settings : Settings} {setup : LogSetup}
    (h : s.settings = .ok (settings, setup)) :
    s.runCommand command = .ofDeed setup (s.deed settings command) := by
  unfold runCommand
  rw [h]
  rfl

theorem runCommand_of_failsToStart (h : s.FailsToStart f) :
    s.runCommand command = s.idle (.broken f) [] := by
  unfold runCommand
  rw [settings_eq_error_iff.2 h]

theorem succeeds_of_not_fails (h : ∀ f, ¬s.Fails command f) : (s.runCommand command).Succeeds := by
  cases hsettings : s.settings with
  | error f => exact absurd (.start (settings_eq_error_iff.1 hsettings)) (h f)
  | ok started =>
    obtain ⟨settings, setup⟩ := started
    rw [runCommand_of_settings hsettings]
    cases hresult : (s.deed settings command).value.result with
    | error f => exact absurd ((deed_eq_error_iff hsettings).1 hresult) (h f)
    | ok text => exact Run.succeeds_ofDeed (s.isCalm_deed settings command) hresult

theorem reports_of_fails (h : s.Fails command f) (hf : ¬f.IsUnexpected) :
    ∃ settings setup message, s.settings = .ok (settings, setup) ∧ f.report? = some message ∧
      (s.runCommand command).Reports setup message := by
  obtain ⟨message, hmessage⟩ := Option.ne_none_iff_exists'.1 (mt Failure.report?_eq_none_iff.1 hf)
  cases hsettings : s.settings with
  | error g =>
    have hstart := settings_eq_error_iff.1 hsettings
    cases h with
    | start hstart =>
      cases hstart with
      | settings => exact absurd (.settings _) hf
      | logLevel => exact absurd (.logLevel _) hf
    | registry hok | command hok =>
      rw [hsettings] at hok
      cases hok
  | ok started =>
    obtain ⟨settings, setup⟩ := started
    refine ⟨settings, setup, message, rfl, hmessage, ?_⟩
    rw [runCommand_of_settings hsettings]
    exact Run.reports_ofDeed (s.isCalm_deed settings command)
      ((deed_eq_error_iff hsettings).2 h) hmessage

theorem breaks_of_fails (h : s.Fails command f) (hf : f.IsUnexpected) :
    (s.runCommand command).Breaks f := by
  cases hsettings : s.settings with
  | error g =>
    have hstart := settings_eq_error_iff.1 hsettings
    obtain rfl : g = f := by
      cases h with
      | start hfails =>
        rw [settings_eq_error_iff.2 hfails] at hsettings
        exact (Except.error.inj hsettings).symm
      | registry hok | command hok =>
        rw [hsettings] at hok
        cases hok
    rw [runCommand_of_failsToStart hstart]
    exact ⟨rfl, rfl, rfl⟩
  | ok started =>
    obtain ⟨settings, setup⟩ := started
    rw [runCommand_of_settings hsettings]
    exact Run.breaks_ofDeed (s.isCalm_deed settings command) ((deed_eq_error_iff hsettings).2 h)
      (Failure.report?_eq_none_iff.2 hf)

theorem runCommand_cases (s : Surroundings) (command : Command) :
    ((s.runCommand command).Succeeds ∧ ∀ f, ¬s.Fails command f) ∨
      (∃ f, (s.runCommand command).ending = .failure ∧ s.Fails command f ∧ ¬f.IsUnexpected) ∨
      ∃ f, (s.runCommand command).Breaks f ∧ s.Fails command f ∧ f.IsUnexpected := by
  by_cases hnone : ∀ f, ¬s.Fails command f
  · exact .inl ⟨succeeds_of_not_fails hnone, hnone⟩
  simp only [not_forall, not_not] at hnone
  obtain ⟨f, hfails⟩ := hnone
  by_cases hf : f.IsUnexpected
  · exact .inr (.inr ⟨f, breaks_of_fails hfails hf, hfails, hf⟩)
  · obtain ⟨_, _, _, _, _, hreports⟩ := reports_of_fails hfails hf
    exact .inr (.inl ⟨f, hreports.ending, hfails, hf⟩)

/-- On accepted arguments the program succeeds just when nothing fails. It reports an expected
failure as its only alarm and ends in good order; it comes to an end without a word just when the
cause is one of those that are not expected. -/
theorem breaks_iff_isUnexpected (h : Arguments.read arguments = .ok (.command command)) :
    ((s.run arguments).Succeeds ↔ ∀ f, ¬s.Fails command f) ∧
    (∀ f, s.Fails command f → ¬f.IsUnexpected →
      ∃ settings setup message, s.settings = .ok (settings, setup) ∧ f.report? = some message ∧
        (s.run arguments).Reports setup message) ∧
    ∀ f, (s.run arguments).Breaks f ↔ s.Fails command f ∧ f.IsUnexpected := by
  rw [run_of_read h]
  refine ⟨?_, ?_, ?_⟩
  · constructor
    · intro hsucceeds
      rcases s.runCommand_cases command with ⟨-, hnone⟩ | ⟨f, hending, -, -⟩ | ⟨f, hbreaks, -, -⟩
      · exact hnone
      · exact nomatch hsucceeds.ending.symm.trans hending
      · exact nomatch hsucceeds.ending.symm.trans hbreaks.ending
    · exact succeeds_of_not_fails
  · intro f hfails hf
    exact reports_of_fails hfails hf
  · intro f
    constructor
    · intro hends
      rcases s.runCommand_cases command with ⟨hsucceeds, -⟩ | ⟨g, hending, -, -⟩ |
        ⟨g, hbreaks, hfails, hg⟩
      · exact nomatch hends.ending.symm.trans hsucceeds.ending
      · exact nomatch hends.ending.symm.trans hending
      · obtain rfl : f = g := Ending.broken.inj (hends.ending.symm.trans hbreaks.ending)
        exact ⟨hfails, hg⟩
    · rintro ⟨hfails, hf⟩
      exact breaks_of_fails hfails hf

/-- There is nothing to work with. -/
def bareDirectory : Surroundings where
  environment := []
  files := .empty
  input := []
  server _ := .unreachable
  clock := default

theorem breaks_iff_isUnexpected_bareDirectory :
    Arguments.read ["describe"] = .ok (.command .describe) ∧
    ∃ settings setup, bareDirectory.settings = .ok (settings, setup) ∧
      (bareDirectory.run ["describe"]).Reports setup
        "[Errno 2] No such file or directory: 'notion-config.json'" := by
  have hread : Arguments.read ["describe"] = .ok (.command .describe) := rfl
  obtain ⟨hsucceeds, hreports, hbreaks⟩ := breaks_iff_isUnexpected (s := bareDirectory) hread
  have hfailure : (bareDirectory.run ["describe"]).ending.isSuccess = false := by decide +kernel
  have hreported : (bareDirectory.run ["describe"]).ending.isBroken = false := by decide +kernel
  have halarms : (bareDirectory.run ["describe"]).alarms =
      [.failed "[Errno 2] No such file or directory: 'notion-config.json'"] := by decide +kernel
  have hfails : ∃ f, bareDirectory.Fails .describe f := by
    by_contra hnone
    have hending := (hsucceeds.2 (not_exists.1 hnone)).ending
    rw [hending] at hfailure
    cases hfailure
  obtain ⟨f, hf⟩ := hfails
  have hexpected : ¬f.IsUnexpected := by
    intro hunexpected
    rw [((hbreaks f).2 ⟨hf, hunexpected⟩).ending] at hreported
    cases hreported
  obtain ⟨settings, setup, message, hsettings, -, hmessage⟩ := hreports f hf hexpected
  refine ⟨hread, settings, setup, hsettings, ?_⟩
  have hshown := hmessage.alarms
  rw [halarms] at hshown
  have hmem : LogEvent.failed "[Errno 2] No such file or directory: 'notion-config.json'" ∈
      ([.failed message] : List LogEvent).filter setup.shows := by
    rw [← hshown]
    exact List.mem_cons_self
  obtain rfl := LogEvent.failed.inj (List.mem_singleton.1 (List.mem_filter.1 hmem).1)
  exact hmessage

/-- The cached schemas are no UTF-8 text. -/
def garbledCache : Surroundings where
  environment := []
  files :=
    ⟨[(["notion-config.json"],
        .file ((Text.utf8? "\x7b\"databases\": \x7b\x7d\x7d").getD [])),
      ([".notion-cache"], .directory),
      ([".notion-cache", "schemas.json"], .file [0xFF])]⟩
  input := []
  server _ := .unreachable
  clock := default

/-- No time is left for a call. -/
def noTime : Surroundings := { bareDirectory with environment := [("NOTION_TIMEOUT_S", "0")] }

/-- Neither of these failures is reported. -/
theorem breaks_garbledCache_noTime :
    Arguments.read ["describe"] = .ok (.command .describe) ∧
    (∃ f, (garbledCache.run ["describe"]).Breaks f) ∧
    ∃ f, (noTime.run ["describe"]).Breaks f := by
  have hgarbled : (garbledCache.run ["describe"]).ending.isBroken = true := by decide +kernel
  have htime : (noTime.run ["describe"]).ending.isBroken = true := by decide +kernel
  obtain ⟨f, hf⟩ := Ending.isBroken_iff.1 hgarbled
  obtain ⟨g, hg⟩ := Ending.isBroken_iff.1 htime
  exact ⟨rfl, ⟨f, hf, by decide +kernel, by decide +kernel⟩,
    ⟨g, hg, by decide +kernel, by decide +kernel⟩⟩

end Surroundings

end SchemaQuery
