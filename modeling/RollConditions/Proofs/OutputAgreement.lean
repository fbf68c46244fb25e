/-
  What a run prints agrees with its exit code.

  A run prints its result once, at its end, so what it leaves behind is a function of the result and of the
  way to print.  In JSON mode the standard output is one line, the envelope of the result, and the envelope
  holds the exit code: an error has it in its own code, a result says whether the predicate holds.  What is
  said of the envelope here is said of the document that the printed line is read back as, so nobody has to
  trust the printer.  In the other modes a failure goes to the standard error, and nothing else does.

  The exit code itself comes from the result alone, and whether facts are to be shown is no part of what
  decides it (`AlikeButShown`).
-/
import RollConditions.Proofs.ConfigAgreement
import RollConditions.Proofs.PrintedOutput
import RollConditions.Proofs.TestOutcome

namespace RollConditions

open Document

/-! ## Envelopes -/

/-- A document is the envelope of a run with an exit code: a version, no id, and a result or an error. -/
structure IsEnvelope (document : Node) (exitCode : Nat) : Prop where
  version : (document.member? "jsonrpc").bind Node.text? = some "2.0"
  id : document.member? "id" = some .null
  /-- There is exactly one of a result and an error. -/
  one_of_two : (document.member? "result").isSome ↔ document.member? "error" = none
  /-- There is an error exactly if there is no verdict. -/
  error_iff : (document.member? "error").isSome ↔ exitCode ≠ 0 ∧ exitCode ≠ 1
  /-- An error has a code of its own for each exit code. -/
  code : ∀ error, document.member? "error" = some error →
    (error.member? "code").bind Node.whole? = some (-32000 - (exitCode : Int))
  /-- A result that is not satisfied is that of the exit code 1. -/
  satisfied_iff : ∀ result, document.member? "result" = some result →
    (result.member? "satisfied" = some (.bool false) ↔ exitCode = 1)

/-- The exit code that a line of standard output tells, read back from nothing else. -/
def exitCodeTold? (output : String) : Option Nat :=
  let document := (strictJson.source output).root
  match document.member? "error", document.member? "result" with
  | some error, none => ((error.member? "code").bind Node.whole?).map (fun code => (-32000 - code).toNat)
  | none, some result =>
    match result.member? "satisfied" with
    | some (.bool false) => some 1
    | _ => some 0
  | _, _ => none

/-- An envelope tells the exit code. -/
theorem IsEnvelope.exitCodeTold?_eq {output : String} {document : Node} {exitCode : Nat}
    (h : IsEnvelope document exitCode) (houtput : strictJson.source output = ⟨document, true⟩) :
    exitCodeTold? output = some exitCode := by
  rw [exitCodeTold?, houtput]
  dsimp only
  cases herror : document.member? "error" with
  | some error =>
    have hresult : document.member? "result" = none := by
      rw [← Option.not_isSome_iff_eq_none, h.one_of_two, herror]
      simp
    rw [hresult]
    dsimp only
    -- the code is as far below -32000 as the exit code is above zero
    rw [h.code error herror]
    show some ((-32000 - (-32000 - (exitCode : Int))).toNat) = some exitCode
    refine congrArg some ?_
    omega
  | none =>
    obtain ⟨result, hresult⟩ := Option.isSome_iff_exists.mp (h.one_of_two.mpr herror)
    -- without an error there are two exit codes left, and the verdict tells them apart
    have hverdict : ¬ (exitCode ≠ 0 ∧ exitCode ≠ 1) := by
      rw [← h.error_iff, herror]
      simp
    rw [hresult]
    dsimp only
    have hsatisfied := h.satisfied_iff result hresult
    split
    · rename_i hfalse
      rw [hsatisfied.mp hfalse]
    · rename_i hother
      have hne : exitCode ≠ 1 := fun heq => hother (hsatisfied.mpr heq)
      rw [show exitCode = 0 by omega]

/-! ## Results and failures

    The fields of an envelope are read off the value that is printed: reading a member of what a value
    writes is writing that field (`Json.member?_written`). -/

namespace Report

/-- The exit code of a result is that of a verdict. -/
theorem exitCode_le_one (report : Report) : report.exitCode ≤ 1 := by
  rcases report with ⟨predicate, _ | _, facts⟩ | _ | _ | _ <;> simp [exitCode]

/-- A result says that something is not satisfied exactly if the exit code does. -/
theorem field?_satisfied_iff {report : Report} {result : Json} (h : report.toJson? = some result) :
    result.field? "satisfied" = some (.bool false) ↔ report.exitCode = 1 := by
  -- only the result of a test can be unsatisfied; a script of completions is never shown in JSON
  rcases report with ⟨predicate, holds, facts⟩ | ⟨validated⟩ | ⟨predicates, facts⟩ | ⟨text⟩
  · obtain rfl := Option.some.inj h
    cases holds <;> simp [Json.field?, exitCode, List.lookup_cons]
  · cases validated <;>
    · obtain rfl := Option.some.inj h
      simp [validatedJson, Json.field?, exitCode, List.lookup_cons]
  · obtain rfl := Option.some.inj h
    simp [Json.field?, exitCode, List.lookup_cons]
  · cases h

/-- The envelope of a result is one, with the exit code of the verdict. -/
theorem isEnvelope_resultEnvelope {report : Report} {result : Json} (h : report.toJson? = some result) :
    IsEnvelope (resultEnvelope result).written report.exitCode where
  version := by
    rw [Json.member?_written]
    exact Json.text?_written "2.0"
  id := by
    rw [Json.member?_written]
    rfl
  one_of_two := by
    rw [Json.member?_written, Json.member?_written]
    simp [resultEnvelope, Json.field?]
  error_iff := by
    have hcode := report.exitCode_le_one
    rw [Json.member?_written]
    simp [resultEnvelope, Json.field?]
    omega
  code error herror := by
    rw [Json.member?_written] at herror
    cases herror
  satisfied_iff shown hshown := by
    rw [Json.member?_written] at hshown
    obtain rfl := Option.some.inj hshown
    rw [Json.member?_written, ← field?_satisfied_iff h, Option.map_eq_some_iff]
    simp [Json.written_eq_bool_iff]

end Report

namespace Failure

/-- Five exit codes are enough for all failures. -/
theorem exitCode_le_five (failure : Failure) : failure.exitCode ≤ 5 := by
  cases failure <;> simp [exitCode]

/-- The envelope of a failure is one: the code in it is small enough to be read back as a whole number. -/
theorem isEnvelope_envelope (failure : Failure) : IsEnvelope failure.envelope.written failure.exitCode where
  version := by
    rw [Json.member?_written]
    exact Json.text?_written "2.0"
  id := by
    rw [Json.member?_written]
    rfl
  one_of_two := by
    rw [Json.member?_written, Json.member?_written]
    simp [envelope, Json.field?]
  error_iff := by
    have hcode := failure.two_le_exitCode
    rw [Json.member?_written]
    simp [envelope, Json.field?]
    omega
  code error herror := by
    have hrange : Json.IsWholeRange (-32000 - (failure.exitCode : Int)) := by
      have hcode := failure.exitCode_le_five
      constructor <;> omega
    rw [Json.member?_written] at herror
    obtain rfl := Option.some.inj herror
    rw [Json.member?_written]
    exact Json.whole?_written hrange
  satisfied_iff result hresult := by
    rw [Json.member?_written] at hresult
    cases hresult

end Failure

/-! ## What is printed -/

/-- What a run in JSON mode leaves behind. -/
structure ToldInJson (outcome : Outcome) : Prop where
  no_errors : outcome.errors = ""
  /-- The standard output is one line. -/
  one_line : ∃ line : String, outcome.output = line ++ "\n" ∧ ∀ c ∈ line.toList, ' ' ≤ c
  /-- It is read as one document, the envelope of the run. -/
  envelope : ∃ document, strictJson.source outcome.output = ⟨document, true⟩ ∧
    IsEnvelope document outcome.exitCode
  /-- The exit code can be told from it. -/
  exit_code_told : exitCodeTold? outcome.output = some outcome.exitCode

/-- What a run in another mode leaves behind. -/
structure ToldInLines (quiet : Bool) (result : Except Failure Report) (outcome : Outcome) : Prop where
  /-- A failure is told to the standard error, and nothing to the standard output. -/
  failed : 2 ≤ outcome.exitCode → outcome.output = "" ∧
    ∃ failure, result = .error failure ∧ failure.exitCode = outcome.exitCode ∧
      outcome.errors = "error: " ++ failure.message ++ "\n"
        ++ Report.printLines (failure.problems.map (fun problem => "  - " ++ problem.message))
  /-- A verdict is told to the standard output, or by the exit code alone. -/
  finished : outcome.exitCode ≤ 1 → outcome.errors = "" ∧ (quiet = true → outcome.output = "")

namespace Outcome

/-- Whatever prints an envelope and nothing else tells it in JSON. -/
theorem toldInJson_of_envelope {outcome : Outcome} {envelope : Json} (herrors : outcome.errors = "")
    (houtput : outcome.output = envelope.compact ++ "\n")
    (henvelope : IsEnvelope envelope.written outcome.exitCode) : ToldInJson outcome := by
  have hsource : strictJson.source outcome.output = ⟨envelope.written, true⟩ := by
    rw [houtput, source_compact_line]
  refine ⟨herrors, ⟨envelope.compact, houtput, ?_⟩, ⟨_, hsource, henvelope⟩,
    henvelope.exitCodeTold?_eq hsource⟩
  rw [Json.compact, String.toList_ofList]
  exact envelope.oneLine_characters

/-- A result in JSON mode is told by its envelope. -/
theorem toldInJson_of_ok {report : Report} {result : Json} (h : report.toJson? = some result) :
    ToldInJson (.of .json (.ok report)) :=
  toldInJson_of_envelope rfl (Report.print_json h) (Report.isEnvelope_resultEnvelope h)

/-- So is a failure, which goes to the standard output there. -/
theorem toldInJson_of_error (failure : Failure) : ToldInJson (.of .json (.error failure)) :=
  toldInJson_of_envelope rfl (output_of_error failure) failure.isEnvelope_envelope

/-- A result in another mode leaves the standard error empty. -/
theorem toldInLines_of_ok {mode : OutputMode} {report : Report} {result : Json}
    (h : report.toJson? = some result) :
    ToldInLines (mode == .quiet) (.ok report) (.of mode (.ok report)) where
  failed hcode := absurd (Nat.le_trans hcode report.exitCode_le_one) (by decide)
  finished _ := by
    refine ⟨rfl, fun hquiet => ?_⟩
    obtain rfl := beq_iff_eq.mp hquiet
    exact Report.print_quiet h

/-- A failure in another mode leaves the standard output empty. -/
theorem toldInLines_of_error {mode : OutputMode} (hmode : mode ≠ .json) (failure : Failure) :
    ToldInLines (mode == .quiet) (.error failure) (.of mode (.error failure)) := by
  rw [of_error hmode]
  refine ⟨fun _ => ⟨rfl, failure, rfl, rfl, ?_⟩, fun hcode => ?_⟩
  · rw [failure.lines_eq]
    simp [Report.printLines]
  · exact absurd (Nat.le_trans failure.two_le_exitCode hcode) (by decide)

end Outcome

/-! ## Runs

    A script of completions is the one thing that JSON does not show, and no other command makes one. -/

namespace Run

/-- A command other than completions has a result that JSON can show. -/
theorem exists_toJson?_of_report_eq_ok {environment : Environment} {override : Option String}
    {action : Action} (haction : ∀ shell, action ≠ .completions shell) {result : Report}
    (h : report environment override action = .ok result) : ∃ shown, result.toJson? = some shown := by
  cases action with
  | test argument single names file =>
    obtain ⟨config, -, h⟩ := bind_eq_ok_iff.mp h
    obtain ⟨predicate, -, h⟩ := bind_eq_ok_iff.mp h
    obtain ⟨options, -, h⟩ := bind_eq_ok_iff.mp h
    obtain rfl := Except.ok.inj h
    exact ⟨_, rfl⟩
  | validate inline =>
    cases inline with
    | some argument =>
      obtain ⟨predicate, -, h⟩ := bind_eq_ok_iff.mp h
      obtain rfl := Except.ok.inj h
      exact ⟨_, rfl⟩
    | none =>
      have hvalid : validateConfig environment override = .ok result := h
      cases hload : Config.load environment override with
      | error error =>
        rw [validateConfig_of_load_eq_error hload] at hvalid
        cases hvalid
      | ok config =>
        rcases validateConfig_of_load_eq_ok hload with ⟨-, validated, hok⟩ | ⟨-, path, herror⟩
        · obtain rfl := Except.ok.inj (hok.symm.trans hvalid)
          cases validated <;> exact ⟨_, rfl⟩
        · rw [herror] at hvalid
          cases hvalid
  | list =>
    obtain ⟨config, -, h⟩ := bind_eq_ok_iff.mp h
    obtain rfl := Except.ok.inj h
    exact ⟨_, rfl⟩
  | completions shell => exact absurd rfl (haction shell)

end Run

/-! ## Facts that are shown

    Two runs that differ only in what they show go through the same steps.  So the rules of exit codes
    apply to both alike (`TestEnds`), and it is enough to carry each premise of a rule from one run to the
    other. -/

/-- A configuration that shows no facts, and is the same otherwise. -/
def Config.hidingFacts (config : Config) : Config :=
  { config with settings := { config.settings with showFacts := false } }

/-- Two runs of an action find the same, but for whether facts are to be shown.  What they print to, and
    where they find it, does not matter. -/
structure AlikeButShown (environment environment' : Environment) (override override' : Option String)
    (action : Action) : Prop where
  /-- Both find a configuration or neither does, and the configurations are the same otherwise. -/
  config : (Config.load environment override).toOption.map Config.hidingFacts
    = (Config.load environment' override').toOption.map Config.hidingFacts
  /-- A file of facts lists the same facts, or none in both runs. -/
  facts : ∀ argument single names file, action = .test argument single names file →
    (Run.factsListed environment.disk file).toOption = (Run.factsListed environment'.disk file).toOption

section toOption

variable {ε ε' α : Type} {first : Except ε α} {second : Except ε' α}

/-- Readings that give the same or nothing have the same result. -/
theorem eq_ok_of_toOption_eq (h : first.toOption = second.toOption) {a : α} (hfirst : first = .ok a) :
    second = .ok a := by
  subst hfirst
  cases second with
  | ok b => exact congrArg Except.ok (Option.some.inj h).symm
  | error error => cases h

/-- Readings that give the same or nothing fail together, with an error each. -/
theorem exists_error_of_toOption_eq (h : first.toOption = second.toOption) {error : ε}
    (hfirst : first = .error error) : ∃ other, second = .error other := by
  subst hfirst
  cases second with
  | ok b => cases h
  | error other => exact ⟨other, rfl⟩

end toOption

section shown

variable {environment environment' : Environment} {override override' : Option String} {action : Action}

namespace AlikeButShown

/-- Without a configuration here there is none there. -/
theorem exists_error (h : AlikeButShown environment environment' override override' action)
    {error : ConfigError} (hload : Config.load environment override = .error error) :
    ∃ other, Config.load environment' override' = .error other := by
  have hconfig := h.config
  rw [hload] at hconfig
  cases hload' : Config.load environment' override' with
  | error other => exact ⟨other, rfl⟩
  | ok config =>
    rw [hload'] at hconfig
    cases hconfig

/-- A configuration here is one there, the same but for whether facts are shown. -/
theorem exists_config (h : AlikeButShown environment environment' override override' action)
    {config : Config} (hload : Config.load environment override = .ok config) :
    ∃ config', Config.load environment' override' = .ok config' ∧
      config.hidingFacts = config'.hidingFacts := by
  have hconfig := h.config
  rw [hload] at hconfig
  cases hload' : Config.load environment' override' with
  | error other =>
    rw [hload'] at hconfig
    cases hconfig
  | ok config' =>
    rw [hload'] at hconfig
    exact ⟨config', rfl, Option.some.inj hconfig⟩

end AlikeButShown

namespace Run

/-- What an argument asks for does not depend on whether facts are to be shown. -/
theorem AsksFor.of_hidingFacts {config config' : Config} (h : config.hidingFacts = config'.hidingFacts)
    {argument : String} {raw : Json} (hraw : AsksFor config argument raw) :
    AsksFor config' argument raw := by
  have hpredicates : config.predicates = config'.predicates := congrArg (·.predicates) h
  cases hraw with
  | named hraw => exact .named (hpredicates ▸ hraw)
  | inline hinline hraw => exact .inline hinline hraw

/-- What is supplied does not depend on whether facts are to be shown. -/
theorem Supplied.of_hidingFacts {disk disk' : Disk} {config config' : Config}
    (h : config.hidingFacts = config'.hidingFacts) {file : Option String}
    (hfile : (factsListed disk file).toOption = (factsListed disk' file).toOption)
    {single names : List String} {fact : String} (hfact : Supplied disk config single names file fact) :
    Supplied disk' config' single names file fact := by
  have hbase : config.settings.baseFacts = config'.settings.baseFacts :=
    congrArg (·.settings.baseFacts) h
  have hsets : config.facts = config'.facts := congrArg (·.facts) h
  cases hfact with
  | base hfact => exact .base (hbase ▸ hfact)
  | single hfact => exact .single hfact
  | named hname hset hfact => exact .named hname (hsets ▸ hset) hfact
  | listed hlisted hfact => exact .listed (eq_ok_of_toOption_eq hfile hlisted) hfact

/-- The rules of exit codes do not look at whether facts are to be shown. -/
theorem TestEnds.of_alikeButShown {argument : String} {single names : List String} {file : Option String}
    (halike : AlikeButShown environment environment' override override' (.test argument single names file))
    {code : Nat} (h : TestEnds environment override argument single names file code) :
    TestEnds environment' override' argument single names file code := by
  have hfacts := halike.facts _ _ _ _ rfl
  have hpredicates {config config' : Config} (hsame : config.hidingFacts = config'.hidingFacts) :
      config.predicates.names = config'.predicates.names := congrArg (·.predicates.names) hsame
  have hsets {config config' : Config} (hsame : config.hidingFacts = config'.hidingFacts) :
      config.facts.names = config'.facts.names := congrArg (·.facts.names) hsame
  -- one case for each rule; a premise about the configuration holds of the other one by what they share
  cases h with
  | noConfig hload =>
    obtain ⟨error, hload'⟩ := halike.exists_error hload
    exact .noConfig hload'
  | unknownPredicate hload hargument hunknown =>
    obtain ⟨config', hload', hsame⟩ := halike.exists_config hload
    exact .unknownPredicate hload' hargument (hpredicates hsame ▸ hunknown)
  | notJson5 hload hinline hraw =>
    obtain ⟨config', hload', hsame⟩ := halike.exists_config hload
    exact .notJson5 hload' hinline hraw
  | malformed hload hraw hread =>
    obtain ⟨config', hload', hsame⟩ := halike.exists_config hload
    exact .malformed hload' (hraw.of_hidingFacts hsame) hread
  | unknownFacts hload hraw hread hname hunknown =>
    obtain ⟨config', hload', hsame⟩ := halike.exists_config hload
    exact .unknownFacts hload' (hraw.of_hidingFacts hsame) hread hname (hsets hsame ▸ hunknown)
  | unreadableFile hload hraw hread hknown hfile =>
    obtain ⟨config', hload', hsame⟩ := halike.exists_config hload
    obtain ⟨failure, hfile'⟩ := exists_error_of_toOption_eq hfacts hfile
    exact .unreadableFile hload' (hraw.of_hidingFacts hsame) hread (hsets hsame ▸ hknown) hfile'
  | verdict hload hraw hread hknown hfile hsupplied =>
    obtain ⟨config', hload', hsame⟩ := halike.exists_config hload
    exact .verdict hload' (hraw.of_hidingFacts hsame) hread (hsets hsame ▸ hknown)
      (eq_ok_of_toOption_eq hfacts hfile)
      (fun fact => (hsupplied fact).trans
        ⟨.of_hidingFacts hsame hfacts, .of_hidingFacts hsame.symm hfacts.symm⟩)

/-- A validation of the configuration exits with 0 if there is nothing wrong with it, else with 4. -/
theorem exitCode_validateConfig {config : Config} (hload : Config.load environment override = .ok config) :
    exitCode (validateConfig environment override) = if config.problems.isEmpty then 0 else 4 := by
  rcases validateConfig_of_load_eq_ok hload with ⟨hnone, validated, hok⟩ | ⟨hsome, path, herror⟩
  · rw [hok, hnone]
    rfl
  · rw [herror, if_neg (by simpa using hsome)]
    rfl

/-- **Runs that are alike** but for whether facts are shown exit in the same way. -/
theorem exitCode_of_alikeButShown
    (halike : AlikeButShown environment environment' override override' action) :
    exitCode (report environment override action) = exitCode (report environment' override' action) := by
  cases action with
  | test argument single names file =>
    -- the rule that applies to the one run applies to the other
    have hends := exitCode_test_eq_iff.mp (Eq.refl (exitCode
      (test environment override argument single names file)))
    exact (exitCode_of_testEnds (hends.of_alikeButShown halike)).symm
  | validate inline =>
    cases inline with
    | some argument => rfl
    | none =>
      show exitCode (validateConfig environment override) = exitCode (validateConfig environment' override')
      cases hload : Config.load environment override with
      | error error =>
        obtain ⟨other, hload'⟩ := halike.exists_error hload
        rw [validateConfig_of_load_eq_error hload, validateConfig_of_load_eq_error hload']
        rfl
      | ok config =>
        obtain ⟨config', hload', hsame⟩ := halike.exists_config hload
        -- the problems of a configuration do not depend on whether it shows facts
        have hproblems : config.hidingFacts.problems = config'.hidingFacts.problems :=
          congrArg Config.problems hsame
        rw [exitCode_validateConfig hload, exitCode_validateConfig hload']
        exact congrArg (fun problems : List Config.Problem => if problems.isEmpty then 0 else 4) hproblems
  | list =>
    cases hload : Config.load environment override with
    | error error =>
      obtain ⟨other, hload'⟩ := halike.exists_error hload
      rw [list_of_load_eq_error hload, list_of_load_eq_error hload']
      rfl
    | ok config =>
      obtain ⟨config', hload', -⟩ := halike.exists_config hload
      rw [list_of_load_eq_ok hload, list_of_load_eq_ok hload']
      rfl
  | completions shell => rfl

end Run

end shown

/-- **What a run prints agrees with its exit code**, whatever is on the disk, in the environment and on the
    command line.

    A run of a command other than completions exits with at most 5.  In JSON mode it leaves one line on the
    standard output and nothing on the standard error; the line is one envelope, with a result if the exit
    code is 0 or 1 and an error if not, and the exit code can be told from it.  In the other modes a run that
    exits with 0 or 1 leaves nothing on the standard error, and in quiet mode nothing at all; a run that exits
    with more leaves its message there, and nothing on the standard output.  The exit code is the same for all
    options that choose the kind of output, and whether or not facts are to be shown.

    An outcome is what a run itself prints.  The lines of a log are no part of it: a program that calls the
    run may install one before, for `--verbose` or because the environment asks for it, and a log has the
    standard error to itself. -/
theorem output_agrees_with_exit_code :
    (∀ (environment : Environment) (invocation : Invocation),
      (∀ shell, invocation.action ≠ .completions shell) →
      (invocation.run environment).exitCode ≤ 5 ∧
      (invocation.mode environment.onTerminal = .json → ToldInJson (invocation.run environment)) ∧
      (invocation.mode environment.onTerminal ≠ .json →
        ToldInLines (invocation.mode environment.onTerminal == .quiet)
          (Run.report environment invocation.config invocation.action) (invocation.run environment))) ∧
    (∀ (environment : Environment) (invocation : Invocation) (json noJson quiet verbose onTerminal : Bool),
      ({ invocation with json, noJson, quiet, verbose }.run { environment with onTerminal }).exitCode
        = (invocation.run environment).exitCode) ∧
    (∀ (environment environment' : Environment) (invocation invocation' : Invocation),
      invocation.action = invocation'.action →
      AlikeButShown environment environment' invocation.config invocation'.config invocation.action →
      (invocation.run environment).exitCode = (invocation'.run environment').exitCode) := by
  -- bound of the exit code, JSON mode, the other modes, options of output, runs that are alike
  refine ⟨fun environment invocation haction => ⟨?_, ?_, ?_⟩, ?_, ?_⟩
  · rw [invocation.exitCode_run]
    cases Run.report environment invocation.config invocation.action with
    | ok report => exact Nat.le_trans report.exitCode_le_one (by decide)
    | error failure => exact failure.exitCode_le_five
  · intro hmode
    rw [Invocation.run, hmode]
    cases hreport : Run.report environment invocation.config invocation.action with
    | ok report =>
      obtain ⟨shown, hshown⟩ := Run.exists_toJson?_of_report_eq_ok haction hreport
      exact Outcome.toldInJson_of_ok hshown
    | error failure => exact Outcome.toldInJson_of_error failure
  · intro hmode
    rw [Invocation.run]
    cases hreport : Run.report environment invocation.config invocation.action with
    | ok report =>
      obtain ⟨shown, hshown⟩ := Run.exists_toJson?_of_report_eq_ok haction hreport
      exact Outcome.toldInLines_of_ok hshown
    | error failure => exact Outcome.toldInLines_of_error hmode failure
  · -- the options that choose the output are no part of the report
    intro environment invocation json noJson quiet verbose onTerminal
    rw [Invocation.exitCode_run, invocation.exitCode_run]
    exact Run.exitCode_of_alikeButShown ⟨rfl, fun _ _ _ _ _ => rfl⟩
  · intro environment environment' invocation invocation' haction halike
    rw [invocation.exitCode_run, invocation'.exitCode_run, ← haction]
    exact Run.exitCode_of_alikeButShown halike

/-- A configuration of one base fact, which is to be shown or not. -/
def oneBaseFact (shown : Bool) : Environment :=
  .ofConfig (.object
    [("settings", .object [("base_facts", Json.ofTexts ["x"]), ("show_facts", .bool shown)])])

/-- Whether a configuration holds one base fact and nothing else. -/
def Config.isOneBaseFact (config : Config) : Bool :=
  config.predicates.entries.isEmpty && config.facts.entries.isEmpty
    && config.settings.baseFacts == ["x"]

/-- Once facts are hidden, all such configurations are the same. -/
theorem Config.hidingFacts_of_isOneBaseFact {config : Config} (h : config.isOneBaseFact = true) :
    config.hidingFacts = { Config.empty with settings := ⟨["x"], false⟩ } := by
  obtain ⟨⟨predicates, hpredicates⟩, ⟨facts, hfacts⟩, ⟨baseFacts, shown⟩⟩ := config
  simp only [isOneBaseFact, Bool.and_eq_true, List.isEmpty_iff, beq_iff_eq] at h
  obtain ⟨⟨rfl, rfl⟩, rfl⟩ := h
  rfl

/-- A test that fails on one base fact exits in the same way if the fact is shown in JSON and if nothing is
    printed at all, and the printed line tells how; in lines it has nothing to say to the standard error.  A
    test of an unknown name tells its exit code in JSON, and in lines its message and nothing else. -/
theorem unmet_test_told_in_json_or_by_exit_code :
    let invocation := Invocation.plain (.test "'y'" [] [] none)
    let failing := Invocation.plain (.test "@z" [] [] none)
    (invocation.run (oneBaseFact true)).exitCode
      = ({ invocation with quiet := true }.run (oneBaseFact false)).exitCode ∧
    exitCodeTold? (invocation.run (oneBaseFact true)).output = some 1 ∧
    ({ invocation with noJson := true }.run (oneBaseFact true)).errors = "" ∧
    exitCodeTold? (failing.run (oneBaseFact true)).output = some 3 ∧
    ({ failing with noJson := true }.run (oneBaseFact true)).output = "" ∧
    ({ failing with noJson := true }.run (oneBaseFact true)).errors = "error: unknown predicate 'z'\n" := by
  have hloads : ∀ shown, (Config.load (oneBaseFact shown) none).toOption.any Config.isOneBaseFact = true := by
    decide +kernel
  obtain ⟨config, hload, hconfig⟩ := Config.exists_load_of_any (hloads true)
  obtain ⟨config', hload', hconfig'⟩ := Config.exists_load_of_any (hloads false)
  have hruns (invocation : Invocation) (haction : ∀ shell, invocation.action ≠ .completions shell) :=
    output_agrees_with_exit_code.1 (oneBaseFact true) invocation haction
  refine ⟨output_agrees_with_exit_code.2.2 _ _ _ _ rfl ⟨?_, ?_⟩, ?_, ?_, ?_, ?_⟩
  · show (Config.load (oneBaseFact true) none).toOption.map _
      = (Config.load (oneBaseFact false) none).toOption.map _
    rw [hload, hload']
    show some config.hidingFacts = some config'.hidingFacts
    rw [Config.hidingFacts_of_isOneBaseFact hconfig, Config.hidingFacts_of_isOneBaseFact hconfig']
  · rintro argument single names file ⟨⟩
    rfl
  · have hrun := hruns (.plain (.test "'y'" [] [] none)) (by simp [Invocation.plain])
    have htold := (hrun.2.1 rfl).exit_code_told
    rw [htold]
    decide +kernel
  · refine (((hruns { Invocation.plain (.test "'y'" [] [] none) with noJson := true }
      (by simp [Invocation.plain])).2.2 (by decide)).finished ?_).1
    decide +kernel
  · have hrun := hruns (.plain (.test "@z" [] [] none)) (by simp [Invocation.plain])
    have htold := (hrun.2.1 rfl).exit_code_told
    rw [htold]
    decide +kernel
  · have hlines := (hruns { Invocation.plain (.test "@z" [] [] none) with noJson := true }
      (by simp [Invocation.plain])).2.2 (by decide)
    have hnames : config.predicates.names = [] := by
      simp only [Config.isOneBaseFact, Bool.and_eq_true, List.isEmpty_iff] at hconfig
      rw [Catalog.names, hconfig.1.1, List.map_nil]
    have hreport : Run.report (oneBaseFact true) none (.test ("@" ++ "z") [] [] none)
        = .error (.unknownName .predicate "z" []) := by
      show Run.test (oneBaseFact true) none ("@" ++ "z") [] [] none = _
      rw [Run.test_of_load_eq_ok hload, Run.predicate_of_unknown (by simp [hnames]), hnames]
      rfl
    obtain ⟨houtput, failure, hfailure, -, herrors⟩ := hlines.failed (by decide +kernel)
    obtain rfl := Except.error.inj (hreport.symm.trans hfailure)
    exact ⟨houtput, herrors⟩

end RollConditions
