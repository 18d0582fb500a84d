import GuardAlgebra.Proofs.Assignments
import GuardAlgebra.Proofs.Coercion
import GuardAlgebra.Proofs.Production

namespace GuardAlgebra.Settings

/-! # Where settings come from

Every setting is supplied by one source: an argument, or else the environment, or else the file, or
else its default. Settings are built if and only if what is supplied for each stands for a text, a truth
value or a number that is valid, and no source names anything else; then they are what was supplied, but
for the case of the level and for the details that production hides. So sources that are not asked leave
no trace, and settings rebuild themselves. Of the texts of files, it is plain ones of which it is said
here what they assign; options that add sources or change how one is read give no settings to speak of.
-/

/-- The last value under a name. -/
inductive Latest {α : Type} (entries : List (String × α)) (name : String) (value : α) : Prop where
  | last {before after : List (String × α)} (split : entries = before ++ (name, value) :: after)
      (final : ∀ later ∈ after, later.1 ≠ name)

/-- No entry has the name. -/
def Lacks {α : Type} (entries : List (String × α)) (name : String) : Prop :=
  ∀ entry ∈ entries, entry.1 ≠ name

/-- The texts under each name are those that were assigned to it last. -/
def Reflects (texts : List (String × Text)) (assignments : List (String × String)) : Prop :=
  ∀ name, (Lacks texts name ↔ Lacks assignments name) ∧
    ∀ text, Latest texts name text ↔ ∃ value, Latest assignments name value ∧ .whole value = text

namespace Sources

variable (sources : Sources)

/-- The texts of the environment, and those of the file, under the names by which they are compared. -/
def environmentTexts : List (String × Text) := sources.options.entriesOf sources.environment

def fileTexts : List (String × Text) := sources.options.entriesOf sources.file

/-- What is supplied for a setting, by the strongest source that has it. -/
inductive Supplies (name : String) (default : Value) : Value → Prop where
  | argument {value : Value} (given : Latest sources.arguments name value) :
      Supplies name default value
  | environment {text : Text} (unargued : Lacks sources.arguments name)
      (given : Latest sources.environmentTexts (sources.options.outerName name) text) :
      Supplies name default (sources.options.meaning text)
  | file {text : Text} (unargued : Lacks sources.arguments name)
      (unset : Lacks sources.environmentTexts (sources.options.outerName name))
      (given : Latest sources.fileTexts (sources.options.outerName name) text) :
      Supplies name default (sources.options.meaning text)
  | default (unargued : Lacks sources.arguments name)
      (unset : Lacks sources.environmentTexts (sources.options.outerName name))
      (unassigned : Lacks sources.fileTexts (sources.options.outerName name)) :
      Supplies name default default

/-- How settings come out of what is supplied for each: as the text, the truth value or the number that
it is, but for the case of the level, and for the details that production hides. -/
structure Derives (settings : Settings) : Prop where
  environment : ∃ value, sources.Supplies "ENVIRONMENT" (.str "development") value ∧
    IsText value settings.environment
  logLevel : ∃ value, ∃ name : String, sources.Supplies "LOG_LEVEL" (.str "INFO") value ∧
    IsText value name ∧ settings.logLevel = Text.upper name
  logDenials : ∃ value, sources.Supplies "LOG_GUARD_DENIALS" (.bool true) value ∧
    IsTruth value settings.logDenials
  statusCode : ∃ value, sources.Supplies "GUARD_DENIED_STATUS_CODE" (.int 403) value ∧
    IsInteger value settings.statusCode
  detail : ∃ value, sources.Supplies "GUARD_DENIED_DETAIL" (.str "Access denied") value ∧
    IsText value settings.detail
  exposeDetails : ∃ value asked, sources.Supplies "EXPOSE_ERROR_DETAILS" (.bool true) value ∧
    IsTruth value asked ∧
    settings.exposeDetails = if settings.environment = "production" then false else asked

end Sources

section Entries

variable {α : Type} {entries : List (String × α)} {name : String} {value : α}

theorem find?_eq_some_iff : find? entries name = some value ↔ Latest entries name value := by
  rw [find?, Option.map_eq_some_iff]
  constructor
  · rintro ⟨⟨found, value⟩, isLast, rfl⟩
    rw [List.find?_eq_some_iff_append] at isLast
    obtain ⟨named, after, before, reversed, final⟩ := isLast
    obtain rfl : found = name := by simpa using named
    have split : entries = before.reverse ++ (found, value) :: after.reverse := by
      simpa using congrArg List.reverse reversed
    refine .last split fun later member => ?_
    simpa using final later (List.mem_reverse.mp member)
  · rintro ⟨split, final⟩
    refine ⟨(name, value), ?_, rfl⟩
    rw [split, List.reverse_append, List.reverse_cons, List.append_assoc, List.find?_append]
    have later : (List.find? (fun entry => decide (entry.1 = name)) _ : Option (String × α)) = none :=
      List.find?_eq_none.mpr fun entry member => by
        simpa using final entry (List.mem_reverse.mp member)
    rw [later]
    simp

theorem find?_eq_none_iff : find? entries name = none ↔ Lacks entries name := by
  simp [find?, Lacks]

end Entries

section Files

variable {environment texts : List (String × Text)} {file : String} {assignments : List (String × String)}

theorem reflects_read (assigns : Dotenv.Assigns file assignments) :
    Reflects (Dotenv.read environment file) assignments := by
  intro name
  have read := Dotenv.find?_read assigns environment name
  constructor
  · rw [← find?_eq_none_iff, ← find?_eq_none_iff, read, Option.map_eq_none_iff]
  · intro text
    simp only [← find?_eq_some_iff, read, Option.map_eq_some_iff]

theorem Reflects.forall_mem (reflects : Reflects texts assignments) {wanted : List String}
    (declared : ∀ entry ∈ assignments, entry.1 ∈ wanted) :
    ∀ entry ∈ texts, entry.1 ∈ wanted := by
  intro entry member
  by_contra foreign
  have lacks : Lacks assignments entry.1 := fun assignment assigned same =>
    foreign (same ▸ declared assignment assigned)
  exact (reflects entry.1).1.mpr lacks entry member rfl

end Files

namespace Sources

variable {sources : Sources} {name : String} {default value : Value}

theorem given_eq (sources : Sources) (name : String) (default : Value) :
    sources.given name default =
      ((Settings.find? sources.arguments name).or
        (((Settings.find? sources.environmentTexts (sources.options.outerName name)).map
          sources.options.meaning).or
        ((Settings.find? sources.fileTexts (sources.options.outerName name)).map
          sources.options.meaning))).getD default := rfl

theorem supplies_given (sources : Sources) (name : String) (default : Value) :
    sources.Supplies name default (sources.given name default) := by
  rw [given_eq]
  cases argued : Settings.find? sources.arguments name with
  | some value => exact .argument (find?_eq_some_iff.mp argued)
  | none =>
      have unargued := find?_eq_none_iff.mp argued
      cases set : Settings.find? sources.environmentTexts (sources.options.outerName name) with
      | some text => exact .environment unargued (find?_eq_some_iff.mp set)
      | none =>
          have unset := find?_eq_none_iff.mp set
          cases assigned : Settings.find? sources.fileTexts (sources.options.outerName name) with
          | some text => exact .file unargued unset (find?_eq_some_iff.mp assigned)
          | none => exact .default unargued unset (find?_eq_none_iff.mp assigned)

theorem supplies_iff : sources.Supplies name default value ↔ sources.given name default = value := by
  constructor
  · intro supplies
    rw [given_eq]
    cases supplies with
    | argument given => rw [find?_eq_some_iff.mpr given]; rfl
    | environment unargued given =>
        rw [find?_eq_none_iff.mpr unargued, find?_eq_some_iff.mpr given]
        rfl
    | file unargued unset given =>
        rw [find?_eq_none_iff.mpr unargued, find?_eq_none_iff.mpr unset, find?_eq_some_iff.mpr given]
        rfl
    | default unargued unset unassigned =>
        rw [find?_eq_none_iff.mpr unargued, find?_eq_none_iff.mpr unset,
          find?_eq_none_iff.mpr unassigned]
        rfl
  · rintro rfl
    exact supplies_given sources name default

theorem exists_supplied_iff {property : Value → Prop} :
    (∃ value, sources.Supplies name default value ∧ property value) ↔
      property (sources.given name default) := by
  simp only [supplies_iff, exists_eq_left']

/-- Arguments and file name settings and nothing else, options among the arguments apart. A name with an
empty text in the file is no matter, and neither is a setting there without what must stand in front. -/
structure Declared (sources : Sources) : Prop where
  arguments : ∀ entry ∈ sources.arguments, entry.1 ∈ names ∨ Options.isOption entry.1 = true
  file : ∀ entry ∈ sources.fileTexts, entry.2 = .whole "" ∨
    entry.1 ∈ names.map sources.options.outerName ∨ sources.options.lead ≠ "" ∧ entry.1 ∈ names

theorem eraseDups_eq_nil_iff {texts : List String} : texts.eraseDups = [] ↔ texts = [] := by
  cases texts with
  | nil => simp
  | cons text rest => simp [List.eraseDups_cons]

theorem fileExtras_eq_nil_iff :
    sources.fileExtras = [] ↔ ∀ entry ∈ sources.fileTexts, entry.2 = .whole "" ∨
      entry.1 ∈ names.map sources.options.outerName ∨
        sources.options.lead ≠ "" ∧ entry.1 ∈ names := by
  rw [fileExtras, eraseDups_eq_nil_iff, List.map_eq_nil_iff, List.filter_eq_nil_iff]
  refine forall₂_congr fun entry _ => ?_
  simp only [Bool.and_eq_true, decide_eq_true_eq, Bool.not_eq_true', List.contains_iff_mem,
    ← Bool.not_eq_true]
  grind

theorem extras_eq_nil_iff : sources.extras = [] ↔ sources.Declared := by
  have argued : ((sources.arguments.filter fun entry =>
      !names.contains entry.1 && !Options.isOption entry.1).map Prod.fst) = [] ↔
        ∀ entry ∈ sources.arguments, entry.1 ∈ names ∨ Options.isOption entry.1 = true := by
    rw [List.map_eq_nil_iff, List.filter_eq_nil_iff]
    refine forall₂_congr fun entry _ => ?_
    simp only [Bool.and_eq_true, Bool.not_eq_true', ← Bool.not_eq_true, List.contains_iff_mem]
    grind
  rw [extras, List.append_eq_nil_iff]
  constructor
  · rintro ⟨filed, none⟩
    rw [filed] at none
    refine ⟨argued.mp ?_, fileExtras_eq_nil_iff.mp filed⟩
    simpa using none
  · intro declared
    refine ⟨fileExtras_eq_nil_iff.mpr declared.file, ?_⟩
    rw [argued.mpr declared.arguments]
    rfl

end Sources

theorem derives_of_build {sources : Sources} {settings : Settings}
    (built : build sources = .ok settings) : sources.Derives settings ∧ sources.Declared := by
  unfold build at built
  dsimp only at built
  split at built
  next environment level denials status detail asked environmentBuilt levelBuilt denialsRead
      statusBuilt detailRead askedRead none =>
    cases built
    obtain ⟨_, environmentRead, environmentChecked⟩ := Attempt.bind_eq_ok.mp environmentBuilt
    obtain ⟨_, levelRead, levelChecked⟩ := Attempt.bind_eq_ok.mp levelBuilt
    obtain ⟨_, statusRead, statusChecked⟩ := Attempt.bind_eq_ok.mp statusBuilt
    obtain ⟨-, rfl⟩ := checkEnvironment_eq_ok_iff.mp environmentChecked
    obtain ⟨-, name, rfl, rfl⟩ := checkLevel_eq_ok_iff.mp levelChecked
    obtain ⟨-, rfl⟩ := checkStatus_eq_ok_iff.mp statusChecked
    refine ⟨?_, Sources.extras_eq_nil_iff.mp none⟩
    exact {
      environment := Sources.exists_supplied_iff.mpr (readText_eq_ok_iff.mp environmentRead)
      logLevel := ⟨_, name, Sources.supplies_given .., readText_eq_ok_iff.mp levelRead, rfl⟩
      logDenials := Sources.exists_supplied_iff.mpr (readTruth_eq_ok_iff.mp denialsRead)
      statusCode := Sources.exists_supplied_iff.mpr (readInteger_eq_ok_iff.mp statusRead)
      detail := Sources.exists_supplied_iff.mpr (readText_eq_ok_iff.mp detailRead)
      exposeDetails := by
        refine ⟨_, asked, Sources.supplies_given .., readTruth_eq_ok_iff.mp askedRead, ?_⟩
        split <;> simp_all }
  next => exact nomatch built

theorem build_of_derives {sources : Sources} {settings : Settings}
    (derives : sources.Derives settings) (valid : settings.Valid) (declared : sources.Declared) :
    build sources = .ok settings := by
  have environment : readText (sources.given "ENVIRONMENT" (.str standard.environment)) >>=
      checkEnvironment = .ok settings.environment := by
    have text := Sources.exists_supplied_iff.mp derives.environment
    exact Attempt.bind_eq_ok.mpr ⟨_, readText_eq_ok_iff.mpr text,
      checkEnvironment_eq_ok_iff.mpr ⟨valid.environment, rfl⟩⟩
  have logLevel : readText (sources.given "LOG_LEVEL" (.str standard.logLevel)) >>= checkLevel =
      .ok settings.logLevel := by
    obtain ⟨value, name, supplied, text, level⟩ := derives.logLevel
    cases Sources.supplies_iff.mp supplied
    exact Attempt.bind_eq_ok.mpr ⟨_, readText_eq_ok_iff.mpr text,
      checkLevel_eq_ok_iff.mpr ⟨valid.logLevel, name, rfl, level.symm⟩⟩
  have statusCode : readInteger (sources.given "GUARD_DENIED_STATUS_CODE"
      (.int standard.statusCode)) >>= checkStatus = .ok settings.statusCode := by
    have number := Sources.exists_supplied_iff.mp derives.statusCode
    exact Attempt.bind_eq_ok.mpr ⟨_, readInteger_eq_ok_iff.mpr number,
      checkStatus_eq_ok_iff.mpr ⟨valid.status, rfl⟩⟩
  have logDenials : readTruth (sources.given "LOG_GUARD_DENIALS" (.bool standard.logDenials)) =
      .ok settings.logDenials :=
    readTruth_eq_ok_iff.mpr (Sources.exists_supplied_iff.mp derives.logDenials)
  have detail : readText (sources.given "GUARD_DENIED_DETAIL" (.str standard.detail)) =
      .ok settings.detail := readText_eq_ok_iff.mpr (Sources.exists_supplied_iff.mp derives.detail)
  obtain ⟨value, asked, supplied, truth, hides⟩ := derives.exposeDetails
  cases Sources.supplies_iff.mp supplied
  have exposeDetails : readTruth (sources.given "EXPOSE_ERROR_DETAILS"
      (.bool standard.exposeDetails)) = .ok asked := readTruth_eq_ok_iff.mpr truth
  have shown : (asked && settings.environment ≠ "production") = settings.exposeDetails := by
    rw [hides]
    split <;> simp_all
  rw [build, environment, logLevel, logDenials, statusCode, detail, exposeDetails,
    Sources.extras_eq_nil_iff.mpr declared]
  dsimp only
  rw [shown]

/-- Settings are built exactly where every value that is supplied can be read and is valid, and where
no source names anything else. -/
theorem build_eq_ok_iff {sources : Sources} {settings : Settings} :
    build sources = .ok settings ↔ sources.Derives settings ∧ settings.Valid ∧ sources.Declared := by
  constructor
  · intro built
    obtain ⟨derives, declared⟩ := derives_of_build built
    exact ⟨derives, valid_of_build built, declared⟩
  · rintro ⟨derives, valid, declared⟩
    exact build_of_derives derives valid declared

namespace Options

/-- The name of no option, followed here or not. -/
def Ordinary (name : String) : Prop := isOption name = false ∧ foreign.contains name = false

instance (name : String) : Decidable (Ordinary name) :=
  inferInstanceAs (Decidable (isOption name = false ∧ foreign.contains name = false))

theorem take_of_ordinary {name : String} (ordinary : Ordinary name) (options : Options)
    (given : Value) : options.take name given = .ok options := by
  obtain ⟨followed, unfollowed⟩ := ordinary
  unfold take
  split
  case h_6 => exact if_neg (by rw [unfollowed]; decide)
  all_goals exact absurd followed (by decide)

/-- Where no argument is an option, names and texts outside the arguments stand for themselves. -/
theorem ofArguments_of_ordinary {arguments : List (String × Value)}
    (ordinary : ∀ entry ∈ arguments, Ordinary entry.1) : ofArguments arguments = .ok standard := by
  rw [ofArguments]
  induction arguments with
  | nil => rfl
  | cons entry rest ih =>
      obtain ⟨name, given⟩ := entry
      rw [List.foldlM_cons]
      dsimp only
      rw [take_of_ordinary (ordinary _ List.mem_cons_self)]
      exact ih fun other member => ordinary other (List.mem_cons_of_mem _ member)

theorem outerName_standard (name : String) : standard.outerName name = name := by
  simp [outerName, fold, standard]

theorem entriesOf_standard (texts : List (String × Text)) : standard.entriesOf texts = texts := by
  simp [entriesOf, fold, standard]

end Options

/-- The sources of settings, and how they are read. -/
def sourcesOf (options : Options) (arguments : List (String × Value))
    (environment : List (String × Text)) (file : String) : Sources :=
  ⟨options, arguments, environment, if options.readsFile then Dotenv.read environment file else []⟩

theorem sourcesOf_standard (arguments : List (String × Value)) (environment : List (String × Text))
    (file : String) :
    sourcesOf .standard arguments environment file =
      ⟨.standard, arguments, environment, Dotenv.read environment file⟩ := rfl

/-- Two ways to supply the same for every setting. -/
def Sources.Agree (first second : Sources) : Prop :=
  ∀ setting ∈ standard.configuration.entries, ∀ value,
    first.Supplies setting.1 setting.2 value ↔ second.Supplies setting.1 setting.2 value

section Gather

variable {options : Options} {arguments : List (String × Value)} {environment : List (String × Text)}
  {file : String} {settings : Settings}

theorem gather_eq_ok_iff :
    gather arguments environment file = .ok (.ok settings) ↔
      ∃ options, Options.ofArguments arguments = .ok options ∧
        build (sourcesOf options arguments environment file) = .ok settings := by
  rw [gather, Attempt.bind_eq_ok]
  refine exists_congr fun options => and_congr_right fun _ => ?_
  exact ⟨Except.ok.inj, congrArg Except.ok⟩

theorem Sources.Derives.congr {first second : Sources} (agree : first.Agree second)
    (derives : first.Derives settings) : second.Derives settings := by
  simp only [Sources.Agree, Configuration.entries, List.forall_mem_cons] at agree
  obtain ⟨environment, logLevel, logDenials, statusCode, detail, exposeDetails, -⟩ := agree
  constructor
  · obtain ⟨value, supplied, read⟩ := derives.environment
    exact ⟨value, (environment value).mp supplied, read⟩
  · obtain ⟨value, name, supplied, read⟩ := derives.logLevel
    exact ⟨value, name, (logLevel value).mp supplied, read⟩
  · obtain ⟨value, supplied, read⟩ := derives.logDenials
    exact ⟨value, (logDenials value).mp supplied, read⟩
  · obtain ⟨value, supplied, read⟩ := derives.statusCode
    exact ⟨value, (statusCode value).mp supplied, read⟩
  · obtain ⟨value, supplied, read⟩ := derives.detail
    exact ⟨value, (detail value).mp supplied, read⟩
  · obtain ⟨value, asked, supplied, read⟩ := derives.exposeDetails
    exact ⟨value, asked, (exposeDetails value).mp supplied, read⟩

/-- Settings are supplied by arguments of their own values. -/
theorem derives_of_entries (options : Options) (environment file : List (String × Text))
    (valid : settings.Valid) :
    Sources.Derives ⟨options, settings.configuration.entries, environment, file⟩ settings := by
  have supplies {name : String} {default value : Value}
      (found : Settings.find? settings.configuration.entries name = some value) :
      Sources.Supplies ⟨options, settings.configuration.entries, environment, file⟩ name default
        value := .argument (find?_eq_some_iff.mp found)
  have upper : ∀ name ∈ ["DEBUG", "INFO", "WARNING", "ERROR", "CRITICAL"], name = Text.upper name := by
    decide
  exact {
    environment := ⟨_, supplies rfl, .str _⟩
    logLevel := ⟨_, _, supplies rfl, .str _, upper _ valid.logLevel⟩
    logDenials := ⟨_, supplies rfl, .bool _⟩
    statusCode := ⟨_, supplies rfl, .int _⟩
    detail := ⟨_, supplies rfl, .str _⟩
    exposeDetails := by
      refine ⟨_, _, supplies rfl, .bool _, ?_⟩
      split
      next production => exact valid.hides production
      next => rfl }

theorem gather_entries (valid : settings.Valid)
    (declared : ∀ entry ∈ Dotenv.read environment file, entry.1 ∈ names) :
    gather settings.configuration.entries environment file = .ok (.ok settings) := by
  have ordinary : ∀ entry ∈ settings.configuration.entries, Options.Ordinary entry.1 := by
    simp only [Configuration.entries, List.forall_mem_cons]
    decide
  refine gather_eq_ok_iff.mpr ⟨_, Options.ofArguments_of_ordinary ordinary, ?_⟩
  refine build_of_derives (derives_of_entries _ _ _ valid) valid ⟨?_, ?_⟩
  · simp [sourcesOf, Configuration.entries, names]
  · intro entry member
    rw [sourcesOf_standard, Sources.fileTexts, Options.entriesOf_standard] at member
    refine .inr (.inl (List.mem_map.mpr ⟨entry.1, declared entry member, ?_⟩))
    exact Options.outerName_standard entry.1

end Gather

/-- Settings are what their sources supply, and valid. Each comes from the strongest source that has it:
an argument, the environment, the file or its default, under its very name unless an option among the
arguments asks for another; it is the text, the truth value or the number that is given there, the level
is put in upper case, and production hides details. A plain file gives each name what it assigns last.
Nothing else has an effect: all sources that supply the same, and name nothing that is no setting, give
the same settings, whatever they have besides for a setting that a stronger source gives. And settings
that are given as arguments give themselves. -/
theorem settings_come_from_strongest_source {arguments : List (String × Value)}
    {environment : List (String × Text)} {file : String} {settings : Settings}
    (gathered : gather arguments environment file = .ok (.ok settings)) :
    settings.Valid ∧
      (∃ options, Options.ofArguments arguments = .ok options ∧
        (sourcesOf options arguments environment file).Derives settings ∧
        ((∀ entry ∈ arguments, Options.Ordinary entry.1) →
          options.readsFile = true ∧ (∀ name, options.outerName name = name) ∧
            (∀ texts, options.entriesOf texts = texts) ∧ ∀ text, options.meaning text = .str text) ∧
        (options.readsFile = true → ∀ assignments, Dotenv.Assigns file assignments →
          Reflects (sourcesOf options arguments environment file).file assignments) ∧
        ∀ otherOptions otherArguments otherEnvironment otherFile,
          Options.ofArguments otherArguments = .ok otherOptions →
          let others := sourcesOf otherOptions otherArguments otherEnvironment otherFile
          others.Declared → (sourcesOf options arguments environment file).Agree others →
          gather otherArguments otherEnvironment otherFile = .ok (.ok settings)) ∧
      ∀ environment file,
        ((∀ entry ∈ Dotenv.read environment file, entry.1 ∈ names) ∨
          ∃ assignments, Dotenv.Assigns file assignments ∧
            ∀ entry ∈ assignments, entry.1 ∈ names) →
        gather settings.configuration.entries environment file = .ok (.ok settings) := by
  obtain ⟨options, chosen, built⟩ := gather_eq_ok_iff.mp gathered
  obtain ⟨derives, valid, -⟩ := build_eq_ok_iff.mp built
  refine ⟨valid, ⟨options, chosen, derives, fun ordinary => ?_, ?_, ?_⟩, ?_⟩
  · cases (Options.ofArguments_of_ordinary ordinary).symm.trans chosen
    exact ⟨rfl, Options.outerName_standard, Options.entriesOf_standard, fun text => rfl⟩
  · intro reads assignments assigns
    rw [sourcesOf, if_pos reads]
    exact reflects_read assigns
  · intro otherOptions otherArguments otherEnvironment otherFile otherChosen others declared agree
    exact gather_eq_ok_iff.mpr
      ⟨otherOptions, otherChosen, build_of_derives (derives.congr agree) valid declared⟩
  · rintro environment file (declared | ⟨assignments, assigns, declared⟩)
    · exact gather_entries valid declared
    · exact gather_entries valid ((reflects_read assigns).forall_mem declared)

/-- Production by the environment, a level by an argument, and a status by the file: what the environment
has for the level, and the file for the environment, is not even valid. -/
theorem settings_of_all_sources :
    let arguments : List (String × Value) := [("LOG_LEVEL", .str "warning")]
    let environment : List (String × Text) := [("LOG_LEVEL", "chatty"), ("ENVIRONMENT", "production")]
    let file := "ENVIRONMENT=qa\nEXPOSE_ERROR_DETAILS=yes\nGUARD_DENIED_STATUS_CODE=404.0"
    let settings : Settings := ⟨"production", "WARNING", true, 404, "Access denied", false⟩
    gather arguments environment file = .ok (.ok settings) ∧ settings.Valid ∧
      Reflects (Dotenv.read environment file) [("ENVIRONMENT", "qa"), ("EXPOSE_ERROR_DETAILS", "yes"),
        ("GUARD_DENIED_STATUS_CODE", "404.0")] ∧
      gather arguments [("ENVIRONMENT", "production")]
        "GUARD_DENIED_STATUS_CODE=404.0\nEXPOSE_ERROR_DETAILS=yes" = .ok (.ok settings) ∧
      gather settings.configuration.entries environment file = .ok (.ok settings) := by
  intro arguments environment file settings
  have filed : Dotenv.read environment file = [("ENVIRONMENT", .whole "qa"),
      ("EXPOSE_ERROR_DETAILS", .whole "yes"), ("GUARD_DENIED_STATUS_CODE", .whole "404.0")] := by
    decide +kernel
  have otherwiseFiled : Dotenv.read [("ENVIRONMENT", .whole "production")]
      "GUARD_DENIED_STATUS_CODE=404.0\nEXPOSE_ERROR_DETAILS=yes" =
        [("GUARD_DENIED_STATUS_CODE", .whole "404.0"), ("EXPOSE_ERROR_DETAILS", .whole "yes")] := by
    decide +kernel
  have standardly : Options.ofArguments arguments = .ok .standard := rfl
  have gathered : gather arguments environment file = .ok (.ok settings) := by
    refine gather_eq_ok_iff.mpr ⟨.standard, standardly, ?_⟩
    rw [sourcesOf_standard, filed]
    dsimp only [arguments, environment, settings]
    rfl
  obtain ⟨valid, ⟨options, chosen, -, -, reflects, others⟩, again⟩ :=
    settings_come_from_strongest_source gathered
  cases standardly.symm.trans chosen
  have first := Dotenv.Says.plain "ENVIRONMENT" "qa" (by decide +kernel) (by decide +kernel)
  have second := Dotenv.Says.plain "EXPOSE_ERROR_DETAILS" "yes" (by decide +kernel) (by decide +kernel)
  have third := Dotenv.Says.plain "GUARD_DENIED_STATUS_CODE" "404.0" (by decide +kernel) (by decide +kernel)
  have lists := Dotenv.Lists.cons first (.head _) (.cons second (.head _) (.last third))
  have assigns : Dotenv.Assigns file [("ENVIRONMENT", "qa"), ("EXPOSE_ERROR_DETAILS", "yes"),
      ("GUARD_DENIED_STATUS_CODE", "404.0")] := by
    refine .unmarked (by decide +kernel) ?_
    convert lists using 1
    · decide +kernel
    · rfl
  refine ⟨gathered, valid, reflects rfl _ assigns, others _ _ _ _ standardly ?_ ?_,
    again environment file (.inr ⟨_, assigns, by decide⟩)⟩
  · rw [sourcesOf_standard, otherwiseFiled]
    exact Sources.extras_eq_nil_iff.mp rfl
  · rw [sourcesOf_standard, sourcesOf_standard, filed, otherwiseFiled]
    intro setting member value
    rw [Sources.supplies_iff, Sources.supplies_iff]
    revert setting
    simp only [Configuration.entries, List.forall_mem_cons]
    exact ⟨Iff.rfl, Iff.rfl, Iff.rfl, Iff.rfl, Iff.rfl, Iff.rfl, List.forall_mem_nil _⟩

end GuardAlgebra.Settings
