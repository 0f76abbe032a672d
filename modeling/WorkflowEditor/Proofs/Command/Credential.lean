import WorkflowEditor.Program

/-!
# The credential is never told

A run reads the credential from the environment but tells at most whether there is
one.  Environments that agree on all other variables differ in nothing else, so the
reports, the warnings, the log and the runs in them are compared: with two
credentials they are the same for every command, and a command other than `config`
does not even tell a credential from a missing one (`credential_untold`).
-/

namespace WorkflowEditor

namespace Environment

/-- The environments agree on every variable but the one with the credential. -/
def AgreeButCredential (left right : Environment) : Prop :=
  ∀ name, name ≠ EditorConfig.apiCredentialName → left name = right name

/-- The variable with the credential holds a text that is not empty. -/
def HoldsCredential (environment : Environment) : Prop :=
  ∃ credential, environment EditorConfig.apiCredentialName = some credential ∧ credential ≠ ""

variable {left right : Environment}

theorem AgreeButCredential.read_eq (agree : left.AgreeButCredential right) {name : String}
    (other : name ≠ EditorConfig.apiCredentialName) :
    EditorConfig.read left name = EditorConfig.read right name := by
  rw [EditorConfig.read, EditorConfig.read, agree name other]

theorem HoldsCredential.read_eq_some {environment : Environment}
    (holds : environment.HoldsCredential) :
    ∃ credential, EditorConfig.read environment EditorConfig.apiCredentialName = some credential := by
  obtain ⟨credential, held, visible⟩ := holds
  refine ⟨credential, ?_⟩
  simp [EditorConfig.read, held, visible]

end Environment

/-! ## Configurations that differ in the credential -/

namespace EditorConfig

/-- The configuration with another credential, or with none. -/
def withCredential (config : EditorConfig) (credential? : Option String) : EditorConfig :=
  { config with apiCredential? := credential? }

theorem withCredential_self (config : EditorConfig) :
    config.withCredential config.apiCredential? = config := rfl

/-- No warning is about the credential. -/
@[simp] theorem issues_withCredential (config : EditorConfig) (credential? : Option String) :
    (config.withCredential credential?).issues = config.issues := rfl

variable {left right : Environment}

/-- Environments that agree otherwise give configurations that differ in the credential
alone. -/
theorem ofEnvironment_eq_withCredential (agree : left.AgreeButCredential right) :
    ofEnvironment left =
      (ofEnvironment right).withCredential (read left apiCredentialName) := by
  simp only [ofEnvironment, withCredential, EditorConfig.mk.injEq, true_and]
  refine ⟨agree.read_eq ?_, agree.read_eq ?_, agree.read_eq ?_, ?_, ?_⟩
  case refine_4 => rw [agree.read_eq (by decide)]
  case refine_5 => rw [agree.read_eq (by decide)]
  all_goals decide

theorem issues_eq_of_agree (agree : left.AgreeButCredential right) :
    (ofEnvironment left).issues = (ofEnvironment right).issues := by
  rw [ofEnvironment_eq_withCredential agree, issues_withCredential]

/-- Masking makes the configurations equal, if both have a credential to mask. -/
theorem masked_eq_of_agree (agree : left.AgreeButCredential right)
    (leftHolds : left.HoldsCredential) (rightHolds : right.HoldsCredential) :
    (ofEnvironment left).masked = (ofEnvironment right).masked := by
  obtain ⟨credential, leftRead⟩ := leftHolds.read_eq_some
  obtain ⟨other, rightRead⟩ := rightHolds.read_eq_some
  have rightConfig : (ofEnvironment right).apiCredential? = some other := rightRead
  calc (ofEnvironment left).masked
      = ((ofEnvironment right).withCredential (some credential)).masked := by
        rw [ofEnvironment_eq_withCredential agree, leftRead]
    _ = ((ofEnvironment right).withCredential (some other)).masked := masked_eq_of_isSome
    _ = (ofEnvironment right).masked := by rw [← rightConfig, withCredential_self]

end EditorConfig

/-! ## What the commands tell -/

/-- The report on a configuration sees it masked. -/
theorem Report.config_masked (format : ReportFormat) (config : EditorConfig)
    (found : List Issue) :
    Report.config format config.masked found = Report.config format config found := by
  cases format with
  | text => rw [Report.config, Report.config, EditorConfig.masked_masked]
  | json => rw [Report.config, Report.config, EditorConfig.masked_masked]

namespace Command

/-- Every command reports the same once the credential is masked. -/
theorem report_masked (command : Command) (config : EditorConfig) (files : FileSystem) :
    command.report config.masked files = command.report config files := by
  cases command with
  | config format =>
      have issues : config.masked.issues = config.issues := rfl
      rw [report, report, issues, Report.config_masked]
  | editorLoad command => rfl
  | parameters command => rfl
  | validate command => rfl

/-- The commands on files do not look at the credential. -/
theorem report_withCredential {command : Command} (onFile : ∀ format, command ≠ .config format)
    (config : EditorConfig) (credential? : Option String) (files : FileSystem) :
    command.report (config.withCredential credential?) files = command.report config files := by
  cases command with
  | config format => exact absurd rfl (onFile format)
  | editorLoad command => rfl
  | parameters command => rfl
  | validate command => rfl

end Command

/-! ## What runs tell -/

namespace Invocation

variable {left right : Environment}

theorem logFilter_eq_of_agree (agree : left.AgreeButCredential right) (invocation : Invocation) :
    invocation.logFilter left = invocation.logFilter right := by
  rw [logFilter, logFilter, agree logVariable (by decide)]

/-- The log tells the same, with a credential or without. -/
theorem log_eq_of_agree (agree : left.AgreeButCredential right) (invocation : Invocation)
    (arguments : List String) (files : FileSystem) :
    invocation.log arguments left files = invocation.log arguments right files := by
  have globalIds : EditorConfig.globalIdsLog left = EditorConfig.globalIdsLog right := by
    rw [EditorConfig.globalIdsLog, EditorConfig.globalIdsLog, agree.read_eq (by decide)]
  rw [log, log, configLog, configLog, globalIds, EditorConfig.issues_eq_of_agree agree]

theorem logText_eq_of_agree (agree : left.AgreeButCredential right) (invocation : Invocation)
    (arguments : List String) (files : FileSystem) :
    invocation.logText arguments left files = invocation.logText arguments right files := by
  rw [logText, logText, log_eq_of_agree agree, logFilter_eq_of_agree agree]

/-- Runs end alike whenever their commands report the same. -/
theorem run_eq_of_report_eq (agree : left.AgreeButCredential right) {invocation : Invocation}
    {files : FileSystem}
    (reported : invocation.command.report (.ofEnvironment left) files =
      invocation.command.report (.ofEnvironment right) files) (arguments : List String) :
    invocation.run arguments left files = invocation.run arguments right files := by
  rw [run, run, reported, logText_eq_of_agree agree]

end Invocation

/-- What can be observed of an environment is observed of the other as well: the warnings,
the masked configuration and its report, the entries of the log with the filter that
picks among them, and how runs end. -/
structure Environment.Indistinct (left right : Environment) : Prop where
  issues : (EditorConfig.ofEnvironment left).issues = (EditorConfig.ofEnvironment right).issues
  masked : (EditorConfig.ofEnvironment left).masked = (EditorConfig.ofEnvironment right).masked
  report : ∀ format,
    Report.config format (.ofEnvironment left) (EditorConfig.ofEnvironment left).issues =
      Report.config format (.ofEnvironment right) (EditorConfig.ofEnvironment right).issues
  log : ∀ (invocation : Invocation) arguments files,
    invocation.log arguments left files = invocation.log arguments right files
  logFilter : ∀ invocation : Invocation, invocation.logFilter left = invocation.logFilter right
  run : ∀ arguments files, run arguments left files = run arguments right files

theorem Environment.AgreeButCredential.indistinct {left right : Environment}
    (agree : left.AgreeButCredential right) (leftHolds : left.HoldsCredential)
    (rightHolds : right.HoldsCredential) : left.Indistinct right := by
  have issues := EditorConfig.issues_eq_of_agree agree
  have masked := EditorConfig.masked_eq_of_agree agree leftHolds rightHolds
  constructor
  case issues => exact issues
  case masked => exact masked
  case report =>
    intro format
    rw [← Report.config_masked, masked, Report.config_masked, issues]
  case log => exact Invocation.log_eq_of_agree agree
  case logFilter => exact Invocation.logFilter_eq_of_agree agree
  case run =>
    intro arguments files
    rw [WorkflowEditor.run, WorkflowEditor.run]
    cases Invocation.parse arguments with
    | error stop => rfl
    | ok invocation =>
        apply Invocation.run_eq_of_report_eq agree
        rw [← Command.report_masked, masked, Command.report_masked]

/-- Environments with two credentials, which agree otherwise, cannot be told apart.  If
one of them has no credential, or an empty one, then still no command on a file tells
which. -/
theorem credential_untold {left right : Environment} (agree : left.AgreeButCredential right) :
    (left.HoldsCredential → right.HoldsCredential → left.Indistinct right) ∧
    ∀ arguments invocation, Invocation.parse arguments = .ok invocation →
      (∀ format, invocation.command ≠ .config format) → ∀ files,
        invocation.log arguments left files = invocation.log arguments right files ∧
        invocation.logFilter left = invocation.logFilter right ∧
        run arguments left files = run arguments right files := by
  constructor
  · exact agree.indistinct
  · intro arguments invocation parsed onFile files
    refine ⟨invocation.log_eq_of_agree agree arguments files,
      invocation.logFilter_eq_of_agree agree, ?_⟩
    rw [run, run, parsed]
    apply Invocation.run_eq_of_report_eq agree
    rw [EditorConfig.ofEnvironment_eq_withCredential agree, Command.report_withCredential onFile]

/-- The environment with nothing but a credential, or without one. -/
def Environment.ofCredential (credential? : Option String) : Environment :=
  fun name => if name = EditorConfig.apiCredentialName then credential? else none

open Environment in
/-- One credential is as good as another, and for the list of parameters as good as
none. -/
theorem credential_untold_alone :
    (ofCredential (some "first")).Indistinct (ofCredential (some "second")) ∧
    ∀ files,
      run ["parameters", "--workflow", "flow.json"] (ofCredential (some "first")) files =
        run ["parameters", "--workflow", "flow.json"] (ofCredential none) files := by
  have agree : ∀ credential? other?,
      (ofCredential credential?).AgreeButCredential (ofCredential other?) := by
    intro credential? other? name other
    rw [ofCredential, ofCredential, if_neg other, if_neg other]
  constructor
  · exact (credential_untold (agree _ _)).1 ⟨"first", rfl, by decide⟩ ⟨"second", rfl, by decide⟩
  · intro files
    have parsed : Invocation.parse ["parameters", "--workflow", "flow.json"] =
        .ok ⟨0, .parameters ⟨"flow.json", .text⟩⟩ := by rfl
    exact ((credential_untold (agree _ _)).2 _ _ parsed (by simp) files).2.2

/-- The report on the configuration tells whether there is a credential. -/
example : (EditorConfig.ofEnvironment (.ofCredential (some "first"))).masked ≠
    (EditorConfig.ofEnvironment (.ofCredential none)).masked := by decide

end WorkflowEditor
