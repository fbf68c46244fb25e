/-
  Three commands, one configuration.

  Listing, validating and testing come to the configuration by ways of their own: listing and testing load
  it, validating first finds the file and then checks it.  They agree all the same.

    1. NO CONFIGURATION.  All of them fail with 4, and print one message, that of the case which holds
       (`Config.Lacks`).
    2. A CONFIGURATION.  A named predicate is listed with an error exactly if a test of it fails at the
       statement; the test prints the message that is listed, and the validation prints that same error
       among the problems (`EntryAgrees`).
    3. A VALID ONE.  If the validation finds nothing wrong, every named predicate can be tested.

  What is said of the three is said of what they leave behind: their exit codes, and the lines or the
  document that they print, as `PrintedOutput` reads them back.
-/
import RollConditions.Proofs.PrintedOutput
import RollConditions.Proofs.RunSteps

namespace RollConditions

/-! ## Entries of a listing -/

/-- One entry has a given name. -/
theorem Ascending.filter_name {α : Type} {entries : List (String × α)} (h : Ascending entries)
    {name : String} {value : α} (hmem : (name, value) ∈ entries) :
    entries.filter (fun entry => entry.1 == name) = [(name, value)] := by
  induction entries with
  | nil => exact absurd hmem List.not_mem_nil
  | cons entry rest ih =>
    obtain ⟨hhead, hrest⟩ := List.pairwise_cons.mp h
    rcases List.mem_cons.mp hmem with rfl | hlater
    · -- the names after this one are greater
      have hnone : rest.filter (fun entry => entry.1 == name) = [] := by
        rw [List.filter_eq_nil_iff]
        intro other hother heq
        have hlt : name < other.1 := hhead other hother
        rw [beq_iff_eq.mp heq] at hlt
        exact String.lt_irrefl name hlt
      rw [List.filter_cons_of_pos (by simp), hnone]
    · have hne : entry.1 ≠ name := fun heq => by
        have hlt : entry.1 < name := hhead _ hlater
        rw [heq] at hlt
        exact String.lt_irrefl name hlt
      rw [List.filter_cons_of_neg (by simpa using hne), ih hrest hlater]

namespace Run

/-! ## What the commands come to -/

section commands

variable {environment : Environment} {override : Option String}

/-- Listing fails as loading does. -/
theorem list_of_load_eq_error {error : ConfigError} (h : Config.load environment override = .error error) :
    report environment override .list = .error (.config error) := by
  show list environment override = _
  rw [list, config, h]
  rfl

/-- Listing goes through the named predicates and the named sets, and reads only the predicates. -/
theorem list_of_load_eq_ok {config : Config} (h : Config.load environment override = .ok config) :
    report environment override .list
      = .ok (.listing (config.predicates.entries.map listed) config.facts.entries) := by
  show list environment override = _
  rw [list, Run.config, h]
  rfl

/-- The entry of a named predicate is the only one with its name. -/
theorem filter_listed {config : Config} {name : String} {raw : Json}
    (h : config.predicates.get? name = some raw) :
    (config.predicates.entries.map listed).filter (fun entry => entry.name == name)
      = [listed (name, raw)] := by
  -- the name of an entry is the name in the configuration, where names ascend
  rw [List.filter_map]
  show (config.predicates.entries.filter (fun entry => entry.1 == name)).map listed = _
  rw [config.predicates.ascending.filter_name (Catalog.get?_eq_some_iff.mp h)]
  rfl

/-- A predicate that can be read is listed as it is shown. -/
theorem listed_of_read_eq_ok {name : String} {raw : Json} {predicate : Predicate}
    (h : Config.readPredicate name raw = .ok predicate) :
    listed (name, raw) = ⟨name, .ok predicate.text⟩ := by
  rw [listed, h]

/-- A predicate that cannot be read is listed with the message that says why. -/
theorem listed_of_read_eq_error {name : String} {raw : Json} {error : StatementError}
    (h : Config.readPredicate name raw = .error error) :
    listed (name, raw) = ⟨name, .error error.message⟩ := by
  rw [listed, h]

/-- Facts are missing for want of a name or of a file, and never because of a statement. -/
theorem exitCode_of_facts_eq_error {disk : Disk} {config : Config} {single names : List String}
    {file : Option String} {failure : Failure} (h : facts disk config single names file = .error failure) :
    failure.exitCode = 3 ∨ failure.exitCode = 2 := by
  -- gathering ends with an unknown name, with a file that gives no facts, or with all of them
  rcases gathering disk config single names file with
    ⟨-, name, hname⟩ | ⟨-, other, hfile, hother⟩ | ⟨-, listed, options, -, hoptions, -⟩
  · rw [hname] at h
    obtain rfl := Except.error.inj h
    exact Or.inl rfl
  · rw [hother] at h
    obtain rfl := Except.error.inj h
    exact Or.inr (exitCode_of_factsListed_eq_error hfile)
  · rw [hoptions] at h
    cases h

variable {config : Config} {name : String} {raw : Json} {single names : List String}
  {file : Option String}

/-- A test of a named predicate that cannot be read fails at its error. -/
theorem test_named_of_error (h : Config.load environment override = .ok config)
    (hraw : config.predicates.get? name = some raw) {error : StatementError}
    (hread : Config.readPredicate name raw = .error error) :
    report environment override (.test ("@" ++ name) single names file) = .error (.statement error) := by
  show test environment override ("@" ++ name) single names file = _
  rw [test_of_load_eq_ok h, predicate_of_get? hraw, hread]
  rfl

/-- A test of a named predicate that can be read goes on to the facts. -/
theorem test_named_of_ok (h : Config.load environment override = .ok config)
    (hraw : config.predicates.get? name = some raw) {predicate : Predicate}
    (hread : Config.readPredicate name raw = .ok predicate) :
    report environment override (.test ("@" ++ name) single names file)
      = (facts environment.disk config single names file).map (fun options =>
          .tested predicate (predicate.holds options)
            (if config.settings.showFacts then some options.sorted else none)) := by
  show test environment override ("@" ++ name) single names file = _
  rw [test_of_load_eq_ok h, predicate_of_get? hraw, hread]
  cases facts environment.disk config single names file <;> rfl

end commands

/-- A test of a named predicate exits with 5 exactly if the predicate cannot be read. -/
theorem exitCode_test_named_eq_five_iff {environment : Environment} {override : Option String}
    {config : Config} (h : Config.load environment override = .ok config) {name : String} {raw : Json}
    (hraw : config.predicates.get? name = some raw) (single names : List String)
    (file : Option String) :
    exitCode (report environment override (.test ("@" ++ name) single names file)) = 5 ↔
      ∃ error, Config.readPredicate name raw = .error error := by
  cases hread : Config.readPredicate name raw with
  | error error =>
    rw [test_named_of_error h hraw hread]
    exact ⟨fun _ => ⟨error, rfl⟩, fun _ => rfl⟩
  | ok predicate =>
    -- what comes after the statement has other exit codes: 2 and 3 for facts, 0 and 1 for a verdict
    rw [test_named_of_ok h hraw hread]
    refine ⟨fun hexit => ?_, fun ⟨_, herror⟩ => nomatch herror⟩
    exfalso
    cases hfacts : facts environment.disk config single names file with
    | error failure =>
      rw [hfacts] at hexit
      have hcode : failure.exitCode = 5 := hexit
      rcases exitCode_of_facts_eq_error hfacts with h3 | h2 <;> omega
    | ok options =>
      rw [hfacts] at hexit
      have hcode : exitCode (.ok (.tested predicate (predicate.holds options) _)) = 5 := hexit
      rw [exitCode_tested] at hcode
      split at hcode <;> omega

/-- With known fact sets and a file that can be read, a test of a named predicate comes to a verdict. -/
theorem exitCode_test_named_le_one {environment : Environment} {override : Option String}
    {config : Config} (h : Config.load environment override = .ok config) {name : String} {raw : Json}
    (hraw : config.predicates.get? name = some raw) {predicate : Predicate}
    (hread : Config.readPredicate name raw = .ok predicate) (single : List String)
    {names : List String} {file : Option String} (hknown : ∀ set ∈ names, set ∈ config.facts.names)
    {listed : List String} (hfile : factsListed environment.disk file = .ok listed) :
    exitCode (report environment override (.test ("@" ++ name) single names file)) ≤ 1 := by
  obtain ⟨options, hoptions, -⟩ := facts_of_readable single hknown hfile
  rw [test_named_of_ok h hraw hread, hoptions]
  show exitCode (.ok (.tested predicate (predicate.holds options) _)) ≤ 1
  rw [exitCode_tested]
  split <;> omega

/-- A validation fails for want of a configuration exactly if loading does; what is wrong in a
    configuration that it finds is another failure. -/
theorem validateConfig_eq_config_iff {environment : Environment} {override : Option String}
    {error : ConfigError} :
    validateConfig environment override = .error (.config error) ↔
      Config.load environment override = .error error := by
  cases hload : Config.load environment override with
  | error other =>
    rw [validateConfig_of_load_eq_error hload]
    simp
  | ok config =>
    rcases validateConfig_of_load_eq_ok hload with ⟨-, validated, hvalid⟩ | ⟨-, path, hproblems⟩
    · simp [hvalid]
    · simp [hproblems]

/-- A validation that exits with 0 has found no predicate that cannot be read. -/
theorem readPredicate_of_exitCode_validate {environment : Environment} {override : Option String}
    (h : exitCode (validateConfig environment override) = 0) :
    ∃ config, Config.load environment override = .ok config ∧
      ∀ name raw, config.predicates.get? name = some raw →
        ∃ predicate, Config.readPredicate name raw = .ok predicate := by
  cases hload : Config.load environment override with
  | error error =>
    rw [validateConfig_of_load_eq_error hload] at h
    cases h
  | ok config =>
    refine ⟨config, rfl, fun name raw hraw => ?_⟩
    rcases validateConfig_of_load_eq_ok hload with ⟨hnone, -⟩ | ⟨-, path, hproblems⟩
    · -- a predicate that cannot be read would be among the problems, and there are none
      cases hread : Config.readPredicate name raw with
      | ok predicate => exact ⟨predicate, rfl⟩
      | error error =>
        have hproblem := Config.statement_mem_problems (Catalog.get?_eq_some_iff.mp hraw) hread
        rw [hnone] at hproblem
        exact absurd hproblem List.not_mem_nil
    · rw [hproblems] at h
      cases h

end Run

/-! ## The agreement -/

/-- Whether an action cannot do without the configuration. -/
def Action.needsConfig : Action → Bool
  | .test .. | .validate none | .list => true
  | .validate (some _) | .completions _ => false

/-- Every action that needs the configuration fails if there is none, and in the same way. -/
theorem Run.report_of_load_eq_error {environment : Environment} {override : Option String}
    {error : ConfigError} (h : Config.load environment override = .error error) {action : Action}
    (haction : action.needsConfig = true) : report environment override action = .error (.config error) := by
  match action, haction with
  | .test .., _ => exact test_of_load_eq_error h
  | .validate none, _ => exact validateConfig_of_load_eq_error h
  | .list, _ => exact list_of_load_eq_error h

/-- What a run leaves behind tells why it failed. -/
theorem Invocation.tellsFailure_doing {environment : Environment} {invocation : Invocation} {action : Action}
    {failure : Failure} (h : Run.report environment invocation.config action = .error failure) :
    TellsFailure (invocation.mode environment.onTerminal) failure.told
      ((invocation.doing action).run environment) := by
  rw [run_doing, h]
  exact tellsFailure_of_error _ failure

/-- An entry of a listing agrees with what tests of its name and a validation come to. -/
structure EntryAgrees (environment : Environment) (invocation : Invocation) (config : Config)
    (entry : ListedPredicate) : Prop where
  /-- It lists an error exactly if a test of its name exits with 5, whatever facts are asked for. -/
  error_iff : ∀ single names file, (∃ message, entry.shown = .error message) ↔
    ((invocation.doing (.test ("@" ++ entry.name) single names file)).run environment).exitCode = 5
  /-- A predicate that it lists is the one under its name. -/
  predicate : ∀ text, entry.shown = .ok text → ∃ predicate,
    config.predicate? entry.name = some (.ok predicate) ∧ text = predicate.text
  /-- A message that it lists is that of one error, the one under its name; every test of the name tells
      the same message, and the validation exits with 4 and tells the error among its problems. -/
  error : ∀ message, entry.shown = .error message → ∃ error : StatementError,
    config.predicate? entry.name = some (.error error) ∧
    message = "invalid statement" ++ (if error.path.isEmpty then "" else " at " ++ error.path) ++ ": "
      ++ error.reason ++ " (got " ++ error.value.compact ++ ")" ∧
    (∀ single names file,
      TellsFailure (invocation.mode environment.onTerminal) ⟨message, some error.path, []⟩
        ((invocation.doing (.test ("@" ++ entry.name) single names file)).run environment)) ∧
    ((invocation.doing (.validate none)).run environment).exitCode = 4 ∧
    ∃ told, TellsFailure (invocation.mode environment.onTerminal) told
        ((invocation.doing (.validate none)).run environment) ∧
      error.path ++ ": " ++ error.reason ∈ told.problems

/-! ## Entries agree

    The error of a predicate is found once, when the predicate is read.  Listing, testing and validating all
    read it in the same way, so each lemma goes by what that one reading comes to. -/

section entries

variable {environment : Environment} {invocation : Invocation} {config : Config} {name : String} {raw : Json}

/-- The entry of a predicate that can be read agrees: no test of it fails at a statement. -/
theorem entryAgrees_of_read_eq_ok (hload : Config.load environment invocation.config = .ok config)
    (hraw : config.predicates.get? name = some raw) {predicate : Predicate}
    (hread : Config.readPredicate name raw = .ok predicate) :
    EntryAgrees environment invocation config ⟨name, .ok predicate.text⟩ where
  error_iff single names file := by
    rw [invocation.exitCode_doing, Run.exitCode_test_named_eq_five_iff hload hraw, hread]
    simp
  predicate text htext := by
    refine ⟨predicate, ?_, (Except.ok.inj htext).symm⟩
    rw [Config.predicate?, hraw, Option.map_some, hread]
  error message hmessage := nomatch hmessage

/-- The entry of a predicate that cannot be read agrees: its error is what stops a test, and a problem. -/
theorem entryAgrees_of_read_eq_error (hload : Config.load environment invocation.config = .ok config)
    (hraw : config.predicates.get? name = some raw) {error : StatementError}
    (hread : Config.readPredicate name raw = .error error) :
    EntryAgrees environment invocation config ⟨name, .error error.message⟩ where
  error_iff single names file := by
    rw [invocation.exitCode_doing, Run.exitCode_test_named_eq_five_iff hload hraw, hread]
    simp
  predicate text htext := nomatch htext
  error message hmessage := by
    obtain rfl := Except.error.inj hmessage
    have hpredicate : config.predicate? name = some (.error error) := by
      rw [Config.predicate?, hraw, Option.map_some, hread]
    have hproblem := Config.statement_mem_problems (Catalog.get?_eq_some_iff.mp hraw) hread
    refine ⟨error, hpredicate, rfl, fun single names file =>
      Invocation.tellsFailure_doing (Run.test_named_of_error hload hraw hread), ?_⟩
    -- the validation has a problem to report, so it does not call the configuration valid
    rcases Run.validateConfig_of_load_eq_ok hload with ⟨hnone, -⟩ | ⟨-, path, hproblems⟩
    · rw [hnone] at hproblem
      exact absurd hproblem List.not_mem_nil
    · have hreport : Run.report environment invocation.config (.validate none)
          = .error (.configProblems path config.problems) := hproblems
      refine ⟨?_, _, Invocation.tellsFailure_doing hreport, List.mem_map.mpr ⟨_, hproblem, rfl⟩⟩
      rw [invocation.exitCode_doing, hreport]
      rfl

/-- Every entry agrees. -/
theorem entryAgrees_listed (hload : Config.load environment invocation.config = .ok config)
    (hraw : config.predicates.get? name = some raw) :
    EntryAgrees environment invocation config (Run.listed (name, raw)) := by
  cases hread : Config.readPredicate name raw with
  | ok predicate =>
    rw [Run.listed_of_read_eq_ok hread]
    exact entryAgrees_of_read_eq_ok hload hraw hread
  | error error =>
    rw [Run.listed_of_read_eq_error hread]
    exact entryAgrees_of_read_eq_error hload hraw hread

/-- What a listing prints is the entries of the configuration. -/
theorem tellsListing_of_load_eq_ok (hload : Config.load environment invocation.config = .ok config) :
    TellsListing (invocation.mode environment.onTerminal) (config.predicates.entries.map Run.listed)
      ((invocation.doing .list).run environment) := by
  rw [Invocation.run_doing, Run.list_of_load_eq_ok hload]
  exact tellsListing_of_listing _ _ _

end entries

/-- **Listing, validating and testing agree on the configuration**, whatever is on the disk, in the
    environment and on the command line.

    Listing fails exactly if validating fails for want of a configuration; then every action that needs
    the configuration exits with 4 and prints one message, that of the case that holds.  If there is a
    configuration, what listing prints has one entry for each named predicate, and the entry agrees with what
    tests of the name and the validation come to and print.  If the validation exits with 0, no printed entry
    is an error, and with known fact sets and a file of facts that can be read, or none, a test of any name
    exits with 0 or 1. -/
theorem commands_agree_on_config (environment : Environment) (invocation : Invocation) :
    (((invocation.doing .list).run environment).exitCode ≠ 0 ↔
      ∃ error, Run.report environment invocation.config (.validate none) = .error (.config error)) ∧
    (((invocation.doing .list).run environment).exitCode ≠ 0 →
      ∃ message, Config.Lacks environment invocation.config message ∧
        ∀ action : Action, action.needsConfig = true →
          ((invocation.doing action).run environment).exitCode = 4 ∧
          TellsFailure (invocation.mode environment.onTerminal) ⟨message, none, []⟩
            ((invocation.doing action).run environment)) ∧
    (∀ config, Config.load environment invocation.config = .ok config →
      ∃ entries : List ListedPredicate, entries.map (·.name) = config.predicates.names ∧
        TellsListing (invocation.mode environment.onTerminal) entries
          ((invocation.doing .list).run environment) ∧
        ∀ name ∈ config.predicates.names, ∃ entry,
          entries.filter (fun other => other.name == name) = [entry] ∧
          EntryAgrees environment invocation config entry) ∧
    (((invocation.doing (.validate none)).run environment).exitCode = 0 →
      ∃ config entries,
        Config.load environment invocation.config = .ok config ∧
        TellsListing (invocation.mode environment.onTerminal) entries
          ((invocation.doing .list).run environment) ∧
        (∀ entry ∈ entries, ∃ text, entry.shown = .ok text) ∧
        ∀ name ∈ config.predicates.names, ∀ single names file,
          (∀ set ∈ names, set ∈ config.facts.names) →
          (∃ listed, Run.factsListed environment.disk file = .ok listed) →
          ((invocation.doing (.test ("@" ++ name) single names file)).run environment).exitCode = 0 ∨
          ((invocation.doing (.test ("@" ++ name) single names file)).run environment).exitCode = 1) := by
  -- listing fails only for want of a configuration
  have hlist : ((invocation.doing .list).run environment).exitCode ≠ 0 ↔
      ∃ error, Config.load environment invocation.config = .error error := by
    rw [invocation.exitCode_doing]
    cases hload : Config.load environment invocation.config with
    | error error =>
      rw [Run.list_of_load_eq_error hload]
      exact ⟨fun _ => ⟨error, rfl⟩, fun _ => Nat.succ_ne_zero 3⟩
    | ok config =>
      rw [Run.list_of_load_eq_ok hload]
      exact ⟨fun hexit => absurd rfl hexit, fun ⟨_, herror⟩ => nomatch herror⟩
  refine ⟨hlist.trans (exists_congr (fun error => Run.validateConfig_eq_config_iff.symm)), ?_, ?_, ?_⟩
  · intro hexit
    obtain ⟨error, hload⟩ := hlist.mp hexit
    refine ⟨error.message, Config.lacks_iff.mpr ⟨error, hload, rfl⟩, fun action haction => ?_⟩
    have hreport := Run.report_of_load_eq_error hload haction
    refine ⟨?_, Invocation.tellsFailure_doing hreport⟩
    rw [invocation.exitCode_doing, hreport]
    rfl
  · intro config hload
    refine ⟨_, ?_, tellsListing_of_load_eq_ok hload, fun name hname => ?_⟩
    · rw [List.map_map]
      rfl
    · obtain ⟨raw, hraw⟩ := Catalog.mem_names_iff.mp hname
      exact ⟨Run.listed (name, raw), Run.filter_listed hraw, entryAgrees_listed hload hraw⟩
  · intro hvalid
    rw [invocation.exitCode_doing] at hvalid
    obtain ⟨config, hload, hreadable⟩ := Run.readPredicate_of_exitCode_validate hvalid
    refine ⟨config, _, hload, tellsListing_of_load_eq_ok hload, ?_, ?_⟩
    · intro entry hentry
      obtain ⟨⟨name, raw⟩, hmem, rfl⟩ := List.mem_map.mp hentry
      obtain ⟨predicate, hread⟩ := hreadable name raw (Catalog.get?_eq_some_iff.mpr hmem)
      rw [Run.listed_of_read_eq_ok hread]
      exact ⟨predicate.text, rfl⟩
    · -- the exit code is at most 1, which leaves the two verdicts
      rintro name hname single names file hknown ⟨listed, hfile⟩
      obtain ⟨raw, hraw⟩ := Catalog.mem_names_iff.mp hname
      obtain ⟨predicate, hread⟩ := hreadable name raw hraw
      have hverdict := Run.exitCode_test_named_le_one hload hraw hread single hknown hfile
      rw [invocation.exitCode_doing]
      omega

/-- One predicate with a key that is not known. -/
def oneUnknownKey : Environment :=
  .ofConfig (.object [("predicates", .object [("bad", .object [("nope", .null)])])])

/-- One predicate that is right. -/
def oneRightPredicate : Environment :=
  .ofConfig (.object [("predicates", .object [("good", .text "crit")])])

/-- A predicate with an unknown key is listed with the message that a test of it prints, and the validation
    prints its error too; a configuration that may not be read stops listing and testing with one message; a
    predicate of a configuration that is valid can be tested. -/
theorem unknown_key_is_listed_with_error :
    (∃ entries message place told,
      toldPredicates? ((Invocation.plain .list).run oneUnknownKey).output = some entries ∧
      entries.filter (fun entry => entry.name == "bad") = [⟨"bad", .error message⟩] ∧
      toldFailure? ((Invocation.plain (.test "@bad" [] [] none)).run oneUnknownKey).output
        = some ⟨message, some place, []⟩ ∧
      toldFailure? ((Invocation.plain (.validate none)).run oneUnknownKey).output = some told ∧
      ∃ reason, place ++ ": " ++ reason ∈ told.problems) ∧
    (∀ action ∈ [Action.list, .test "'crit'" [] [] none],
      toldFailure? ((Invocation.plain action).run .locked).output = some
        ⟨"Failed to read config file: home/.rollpred/config.json: Permission denied (os error 13)", none, []⟩) ∧
    (((Invocation.plain (.test "@good" [] [] none)).run oneRightPredicate).exitCode = 0 ∨
      ((Invocation.plain (.test "@good" [] [] none)).run oneRightPredicate).exitCode = 1) := by
  refine ⟨?_, ?_, ?_⟩
  · have hload : (Config.load oneUnknownKey none).toOption.any
        (fun config => config.predicates.names.contains "bad") = true := by decide +kernel
    obtain ⟨config, hconfig, hbad⟩ := Config.exists_load_of_any hload
    obtain ⟨entries, -, hlisting, hentries⟩ :=
      (commands_agree_on_config oneUnknownKey (.plain .list)).2.2.1 config hconfig
    obtain ⟨⟨name, shown⟩, hentry, hagrees⟩ := hentries "bad" (List.contains_iff_mem.mp hbad)
    obtain rfl : name = "bad" := by
      have hmem : ⟨name, shown⟩ ∈ entries.filter (fun other => other.name == "bad") := by simp [hentry]
      exact beq_iff_eq.mp (List.mem_filter.mp hmem).2
    -- a test of the name exits with 5, so the entry is an error
    have hexit : ((Invocation.plain (.test "@bad" [] [] none)).run oneUnknownKey).exitCode = 5 := by
      decide +kernel
    obtain ⟨message, rfl⟩ := (hagrees.error_iff [] [] none).mpr hexit
    obtain ⟨error, -, -, htests, -, told, htold, hproblem⟩ := hagrees.error message rfl
    exact ⟨entries, message, error.path, told, hlisting.json rfl, hentry, ((htests [] [] none).json rfl).1,
      (htold.json rfl).1, error.reason, hproblem⟩
  · obtain ⟨message, hlacks, hfails⟩ :=
      (commands_agree_on_config .locked (.plain .list)).2.1 (by decide +kernel)
    obtain rfl := Config.lacks_locked_iff.mp hlacks
    intro action haction
    have hneeds : action.needsConfig = true := by
      rcases List.mem_pair.mp haction with rfl | rfl <;> rfl
    exact ((hfails action hneeds).2.json rfl).1
  · obtain ⟨config, entries, hconfig, -, -, htests⟩ :=
      (commands_agree_on_config oneRightPredicate (.plain .list)).2.2.2 (by decide +kernel)
    have hload : (Config.load oneRightPredicate none).toOption.any
        (fun config => config.predicates.names.contains "good") = true := by decide +kernel
    obtain ⟨config', hconfig', hgood⟩ := Config.exists_load_of_any hload
    obtain rfl := Except.ok.inj (hconfig.symm.trans hconfig')
    exact htests "good" (List.contains_iff_mem.mp hgood) [] [] none
      (fun set hset => absurd hset List.not_mem_nil) ⟨[], rfl⟩

end RollConditions
