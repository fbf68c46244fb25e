/-
  The outcome of a test is decided by the set of facts that it is supplied with.

  Facts come from four sources, and the base facts come again with every named set.  A test may fail before
  it has them all, and the rules of `TestEnds` say how it exits: each rule asks for what the rules above it
  exclude, so that always one applies and never two.  They speak of names and facts by membership alone;
  hence the exit code cannot depend on an order or on repetitions.  If a test comes to a verdict, then the
  facts that it gathered are the ones supplied, in an order of their own, so the output has nothing else to
  depend on.
-/
import Mathlib.Data.List.Sort
import RollConditions.Proofs.Lookup
import RollConditions.Proofs.ByteOrder
import RollConditions.Proofs.PrintedOutput
import RollConditions.Proofs.RunSteps

namespace RollConditions

/-! ## The same facts -/

/-- Roll options and a list with the same facts are not told apart. -/
theorem alike_of_mem_sorted_iff {options : RollOptions} {facts : List String}
    (h : ∀ fact, fact ∈ options.sorted ↔ fact ∈ facts) : Alike options facts where
  contains_eq fact := by
    show options.sorted.contains fact = facts.contains fact
    rw [Bool.eq_iff_iff, List.contains_iff_mem, List.contains_iff_mem, h]
  value?_eq _ := Fact.onlyReading?_congr (fun fact _ => h fact)

/-- Roll options with the same facts are the same: their order leaves no choice. -/
theorem RollOptions.eq_of_mem_iff {options others : RollOptions}
    (h : ∀ fact, fact ∈ options.sorted ↔ fact ∈ others.sorted) : options = others := by
  obtain ⟨facts, hfacts⟩ := options
  obtain ⟨facts', hfacts'⟩ := others
  obtain rfl : facts = facts' := hfacts.eq_of_mem_iff hfacts' h
  rfl

/-- No failure exits as a verdict does. -/
theorem Failure.two_le_exitCode (failure : Failure) : 2 ≤ failure.exitCode := by
  cases failure <;> simp [exitCode]

namespace Run

/-! ## The rules of exit codes

    The premises of a rule are what the rules above it exclude and what is new in it.  They are said of the
    configuration, of what is asked for and of the file, and not of the steps of a run. -/

/-- How a test exits, rule by rule. -/
inductive TestEnds (environment : Environment) (override : Option String) (argument : String)
    (single names : List String) (file : Option String) : Nat → Prop where
  /-- There is no configuration. -/
  | noConfig {error : ConfigError} (hload : Config.load environment override = .error error) :
    TestEnds environment override argument single names file 4
  /-- A predicate is asked for by a name that is not known. -/
  | unknownPredicate {config : Config} (hload : Config.load environment override = .ok config)
    {name : String} (hargument : argument = "@" ++ name) (hunknown : name ∉ config.predicates.names) :
    TestEnds environment override argument single names file 3
  /-- What is written in place of a name is no JSON5. -/
  | notJson5 {config : Config} (hload : Config.load environment override = .ok config)
    (hinline : ∀ name, argument ≠ "@" ++ name) {fault : Document.Fault}
    (hraw : Document.json5.readJson argument = .error fault) :
    TestEnds environment override argument single names file 3
  /-- What is asked for is no predicate. -/
  | malformed {config : Config} (hload : Config.load environment override = .ok config) {raw : Json}
    (hraw : AsksFor config argument raw) {error : StatementError}
    (hread : Predicate.read raw = .error error) :
    TestEnds environment override argument single names file 5
  /-- A set of facts is asked for by a name that is not known. -/
  | unknownFacts {config : Config} (hload : Config.load environment override = .ok config) {raw : Json}
    (hraw : AsksFor config argument raw) {predicate : Predicate}
    (hread : Predicate.read raw = .ok predicate) {name : String} (hname : name ∈ names)
    (hunknown : name ∉ config.facts.names) :
    TestEnds environment override argument single names file 3
  /-- The file of facts cannot be read, or lists no facts. -/
  | unreadableFile {config : Config} (hload : Config.load environment override = .ok config) {raw : Json}
    (hraw : AsksFor config argument raw) {predicate : Predicate}
    (hread : Predicate.read raw = .ok predicate) (hknown : ∀ name ∈ names, name ∈ config.facts.names)
    {failure : Failure} (hfile : factsListed environment.disk file = .error failure) :
    TestEnds environment override argument single names file 2
  /-- The predicate holds of all facts that are supplied, or it does not. -/
  | verdict {config : Config} (hload : Config.load environment override = .ok config) {raw : Json}
    (hraw : AsksFor config argument raw) {predicate : Predicate}
    (hread : Predicate.read raw = .ok predicate) (hknown : ∀ name ∈ names, name ∈ config.facts.names)
    {listed : List String} (hfile : factsListed environment.disk file = .ok listed)
    {supplied : List String}
    (hsupplied : ∀ fact, fact ∈ supplied ↔ Supplied environment.disk config single names file fact) :
    TestEnds environment override argument single names file (if predicate.holds supplied then 0 else 1)

section rules

variable {environment : Environment} {override : Option String} {argument : String}
  {single names : List String} {file : Option String}

variable (environment override argument single names file) in
/-- Some rule applies. -/
theorem exists_testEnds : ∃ code, TestEnds environment override argument single names file code := by
  cases hload : Config.load environment override with
  | error error => exact ⟨4, .noConfig hload⟩
  | ok config =>
    rcases asking config argument with
      ⟨name, hargument, hunknown⟩ | ⟨hinline, fault, hfault⟩ | ⟨raw, hraw⟩
    · exact ⟨3, .unknownPredicate hload hargument hunknown⟩
    · exact ⟨3, .notJson5 hload hinline hfault⟩
    · cases hread : Predicate.read raw with
      | error error => exact ⟨5, .malformed hload hraw hread⟩
      | ok predicate =>
        rcases gathering environment.disk config single names file with
          ⟨⟨name, hname, hunknown⟩, -⟩ | ⟨hknown, failure, hfile, -⟩ |
          ⟨hknown, listed, options, hfile, -, hmem⟩
        · exact ⟨3, .unknownFacts hload hraw hread hname hunknown⟩
        · exact ⟨2, .unreadableFile hload hraw hread hknown hfile⟩
        · exact ⟨_, .verdict hload hraw hread hknown hfile hmem⟩

/-- The rule that applies gives the exit code. -/
theorem exitCode_of_testEnds {code : Nat}
    (h : TestEnds environment override argument single names file code) :
    exitCode (test environment override argument single names file) = code := by
  -- each premise of a rule settles one step of the run
  cases h with
  | noConfig hload =>
    rw [test_of_load_eq_error hload]
    rfl
  | unknownPredicate hload hargument hunknown =>
    rw [test_of_load_eq_ok hload, hargument, predicate_of_unknown hunknown]
    rfl
  | notJson5 hload hinline hraw =>
    rw [test_of_load_eq_ok hload, predicate_of_not_json5 hinline hraw]
    rfl
  | malformed hload hraw hread =>
    obtain ⟨seen, hpredicate⟩ := predicate_of_asksFor hraw
    rw [test_of_load_eq_ok hload, hpredicate, hread]
    rfl
  | unknownFacts hload hraw hread hname hunknown =>
    obtain ⟨seen, hpredicate⟩ := predicate_of_asksFor hraw
    obtain ⟨name, hfacts⟩ := facts_of_unknown environment.disk single file hname hunknown
    rw [test_of_load_eq_ok hload, hpredicate, hread, hfacts]
    rfl
  | unreadableFile hload hraw hread hknown hfile =>
    obtain ⟨seen, hpredicate⟩ := predicate_of_asksFor hraw
    rw [test_of_load_eq_ok hload, hpredicate, hread, facts_of_unreadable hknown hfile]
    exact exitCode_of_factsListed_eq_error hfile
  | verdict hload hraw hread hknown hfile hsupplied =>
    obtain ⟨seen, hpredicate⟩ := predicate_of_asksFor hraw
    obtain ⟨options, hfacts, hmem⟩ := facts_of_readable single hknown hfile
    rw [test_of_load_eq_ok hload, hpredicate, hread, hfacts]
    show exitCode (.ok (.tested _ _ _)) = _
    -- the options that were gathered and the list of the rule hold the same facts
    have halike := alike_of_mem_sorted_iff (fun fact => (hmem fact).trans (hsupplied fact).symm)
    rw [exitCode_tested, halike.predicate_holds_eq]

/-- **A test exits with a code exactly if a rule says so.** -/
theorem exitCode_test_eq_iff {code : Nat} :
    exitCode (test environment override argument single names file) = code ↔
      TestEnds environment override argument single names file code := by
  refine ⟨?_, exitCode_of_testEnds⟩
  rintro rfl
  obtain ⟨code, hends⟩ := exists_testEnds environment override argument single names file
  -- the code of a rule that applies is the exit code, so it is that rule's
  rw [exitCode_of_testEnds hends]
  exact hends

/-- With more single facts and more names nothing that is supplied is lost. -/
theorem Supplied.mono {disk : Disk} {config : Config} {single' names' : List String}
    (hsingle : ∀ fact ∈ single, fact ∈ single') (hnames : ∀ name ∈ names, name ∈ names') {fact : String}
    (h : Supplied disk config single names file fact) : Supplied disk config single' names' file fact := by
  cases h with
  | base hfact => exact .base hfact
  | single hfact => exact .single (hsingle fact hfact)
  | named hname hset hfact => exact .named (hnames _ hname) hset hfact
  | listed hfile hfact => exact .listed hfile hfact

/-- Neither the order of facts and names nor repetitions of them change what is supplied. -/
theorem Supplied.of_mem_iff {disk : Disk} {config : Config} {single' names' : List String}
    (hsingle : ∀ fact, fact ∈ single ↔ fact ∈ single') (hnames : ∀ name, name ∈ names ↔ name ∈ names')
    {fact : String} :
    Supplied disk config single names file fact ↔ Supplied disk config single' names' file fact :=
  ⟨.mono (fun fact => (hsingle fact).mp) (fun name => (hnames name).mp),
    .mono (fun fact => (hsingle fact).mpr) (fun name => (hnames name).mpr)⟩

/-- The same rule applies to the same facts and names in another order or more often. -/
theorem TestEnds.of_mem_iff {single' names' : List String}
    (hsingle : ∀ fact, fact ∈ single ↔ fact ∈ single') (hnames : ∀ name, name ∈ names ↔ name ∈ names')
    {code : Nat} (h : TestEnds environment override argument single names file code) :
    TestEnds environment override argument single' names' file code := by
  cases h with
  | noConfig hload => exact .noConfig hload
  | unknownPredicate hload hargument hunknown => exact .unknownPredicate hload hargument hunknown
  | notJson5 hload hinline hraw => exact .notJson5 hload hinline hraw
  | malformed hload hraw hread => exact .malformed hload hraw hread
  | unknownFacts hload hraw hread hname hunknown =>
    exact .unknownFacts hload hraw hread ((hnames _).mp hname) hunknown
  | unreadableFile hload hraw hread hknown hfile =>
    exact .unreadableFile hload hraw hread (fun name hname => hknown name ((hnames name).mpr hname)) hfile
  | verdict hload hraw hread hknown hfile hsupplied =>
    exact .verdict hload hraw hread (fun name hname => hknown name ((hnames name).mpr hname)) hfile
      (fun fact => (hsupplied fact).trans (Supplied.of_mem_iff hsingle hnames))

/-! ## Verdicts

    An exit code of 0 or 1 is that of a verdict, so all steps before it went well. -/

/-- Facts that are gathered are the ones supplied. -/
theorem mem_of_facts_eq_ok {disk : Disk} {config : Config} {options : RollOptions}
    (h : facts disk config single names file = .ok options) (fact : String) :
    fact ∈ options.sorted ↔ Supplied disk config single names file fact := by
  rcases gathering disk config single names file with
    ⟨-, name, hname⟩ | ⟨-, failure, -, hfailure⟩ | ⟨-, listed, gathered, -, hgathered, hmem⟩
  · rw [hname] at h
    cases h
  · rw [hfailure] at h
    cases h
  · obtain rfl := Except.ok.inj (hgathered.symm.trans h)
    exact hmem fact

/-- A test that comes to a verdict has read its predicate and has gathered the facts supplied. -/
theorem test_of_exitCode_le_one {config : Config} (hload : Config.load environment override = .ok config)
    (hexit : exitCode (test environment override argument single names file) ≤ 1) :
    ∃ (result : Predicate) (options : RollOptions),
      predicate config argument = .ok result ∧
      (∀ fact, fact ∈ options.sorted ↔ Supplied environment.disk config single names file fact) ∧
      test environment override argument single names file
        = .ok (.tested result (result.holds options)
            (if config.settings.showFacts then some options.sorted else none)) := by
  rw [test_of_load_eq_ok hload] at hexit ⊢
  cases hpredicate : predicate config argument with
  | error failure =>
    rw [hpredicate] at hexit
    exact absurd (Nat.le_trans failure.two_le_exitCode hexit) (by decide)
  | ok result =>
    cases hfacts : facts environment.disk config single names file with
    | error failure =>
      rw [hpredicate, hfacts] at hexit
      exact absurd (Nat.le_trans failure.two_le_exitCode hexit) (by decide)
    | ok options => exact ⟨result, options, rfl, mem_of_facts_eq_ok hfacts, rfl⟩

end rules

end Run

/-! ## Runs -/

/-- **The outcome of a test is decided by the set of facts that it is supplied with**, and not by how
    they are supplied.

    For every environment and every test on the command line, the exit code is the one that the rules
    give.  It is the same if single facts and names of sets are given in another order or more often.  Two
    tests of one argument with the same configuration and the same kind of output, which both come to a
    verdict on the same facts, leave the same behind, wherever each of the facts came from.  What a test with
    a verdict prints tells the verdict and, if facts are to be shown, exactly those supplied, each once, in
    ascending order of their bytes: in JSON as the list that the printed line is read back with, in lines as
    the line below the verdict. -/
theorem test_outcome_of_supplied_facts :
    (∀ (environment : Environment) (invocation : Invocation) (argument : String)
      (single names : List String) (file : Option String) (code : Nat),
      ((invocation.doing (.test argument single names file)).run environment).exitCode = code ↔
        Run.TestEnds environment invocation.config argument single names file code) ∧
    (∀ (environment : Environment) (invocation : Invocation) (argument : String)
      (single single' names names' : List String) (file : Option String),
      (∀ fact, fact ∈ single ↔ fact ∈ single') → (∀ name, name ∈ names ↔ name ∈ names') →
      ((invocation.doing (.test argument single names file)).run environment).exitCode
        = ((invocation.doing (.test argument single' names' file)).run environment).exitCode) ∧
    (∀ (environment environment' : Environment) (invocation invocation' : Invocation) (config : Config)
      (argument : String) (single single' names names' : List String) (file file' : Option String),
      Config.load environment invocation.config = .ok config →
      Config.load environment' invocation'.config = .ok config →
      invocation.mode environment.onTerminal = invocation'.mode environment'.onTerminal →
      ((invocation.doing (.test argument single names file)).run environment).exitCode ≤ 1 →
      ((invocation'.doing (.test argument single' names' file')).run environment').exitCode ≤ 1 →
      (∀ fact, Run.Supplied environment.disk config single names file fact ↔
        Run.Supplied environment'.disk config single' names' file' fact) →
      (invocation.doing (.test argument single names file)).run environment
        = (invocation'.doing (.test argument single' names' file')).run environment') ∧
    (∀ (environment : Environment) (invocation : Invocation) (config : Config) (argument : String)
      (single names : List String) (file : Option String),
      Config.load environment invocation.config = .ok config →
      ((invocation.doing (.test argument single names file)).run environment).exitCode ≤ 1 →
      ∃ (predicate : Predicate) (supplied : List String),
        Run.predicate config argument = .ok predicate ∧
        (∀ fact, fact ∈ supplied ↔ Run.Supplied environment.disk config single names file fact) ∧
        supplied.Nodup ∧ supplied.Pairwise (fun fact later => textBytes fact < textBytes later) ∧
        TellsTest (invocation.mode environment.onTerminal)
          ⟨predicate.text, predicate.holds supplied,
            if config.settings.showFacts then some supplied else none⟩
          ((invocation.doing (.test argument single names file)).run environment)) := by
  refine ⟨?_, ?_, ?_, ?_⟩
  · intro environment invocation argument single names file code
    rw [Invocation.exitCode_doing]
    exact Run.exitCode_test_eq_iff
  · intro environment invocation argument single single' names names' file hsingle hnames
    rw [Invocation.exitCode_doing, Invocation.exitCode_doing]
    have hends := Run.exitCode_test_eq_iff.mp (Eq.refl (Run.exitCode
      (Run.test environment invocation.config argument single names file)))
    exact (Run.exitCode_of_testEnds (hends.of_mem_iff hsingle hnames)).symm
  · intro environment environment' invocation invocation' config argument single single' names names'
      file file' hload hload' hmode hexit hexit' hsame
    rw [Invocation.exitCode_doing] at hexit hexit'
    obtain ⟨result, options, hpredicate, hmem, htest⟩ := Run.test_of_exitCode_le_one hload hexit
    obtain ⟨result', options', hpredicate', hmem', htest'⟩ := Run.test_of_exitCode_le_one hload' hexit'
    -- one configuration and one argument give one predicate, and the same facts are the same options
    obtain rfl := Except.ok.inj (hpredicate.symm.trans hpredicate')
    obtain rfl : options = options' :=
      RollOptions.eq_of_mem_iff (fun fact => (hmem fact).trans ((hsame fact).trans (hmem' fact).symm))
    rw [Invocation.run_doing, Invocation.run_doing, Run.report, Run.report, htest, htest', hmode]
  · -- the options keep their facts apart and ascending, and those are the facts that are shown
    intro environment invocation config argument single names file hload hexit
    rw [Invocation.exitCode_doing] at hexit
    obtain ⟨result, options, hpredicate, hmem, htest⟩ := Run.test_of_exitCode_le_one hload hexit
    refine ⟨result, options.sorted, hpredicate, hmem, ?_, ?_, ?_⟩
    · exact options.ascending.nodup
    · exact options.ascending.imp lt_iff_textBytes_lt.mp
    · rw [Invocation.run_doing, Run.report, htest,
        ← (alike_of_mem_sorted_iff (fun fact => Iff.rfl)).predicate_holds_eq result]
      exact tellsTest_of_tested _ _ _ _

/-- A set of one fact, and another base fact. -/
def oneSetOneBaseFact : Environment :=
  .ofConfig (.object
    [("facts", .object [("a", Json.ofTexts ["x"])]),
     ("settings", .object [("base_facts", Json.ofTexts ["y"]), ("show_facts", .bool true)])])

/-- Whether a configuration holds the one set and the other base fact, and shows facts. -/
def Config.isOneSetOneBaseFact (config : Config) : Bool :=
  config.facts.get? "a" == some ["x"] && config.settings.baseFacts == ["y"] && config.settings.showFacts

/-- With such a configuration a test is supplied with the base fact, the single facts, and with the fact of
    the set if the set is named. -/
theorem Run.supplied_iff_of_isOneSetOneBaseFact {disk : Disk} {config : Config}
    (h : config.isOneSetOneBaseFact = true) {single names : List String} (hnames : ∀ name ∈ names, name = "a")
    {fact : String} :
    Supplied disk config single names none fact ↔
      fact = "y" ∨ fact ∈ single ∨ ("a" ∈ names ∧ fact = "x") := by
  simp only [Config.isOneSetOneBaseFact, Bool.and_eq_true, beq_iff_eq] at h
  obtain ⟨⟨hset, hbase⟩, -⟩ := h
  constructor
  · intro hfact
    cases hfact with
    | base hfact =>
      rw [hbase] at hfact
      exact Or.inl (List.mem_singleton.mp hfact)
    | single hfact => exact Or.inr (Or.inl hfact)
    | named hname hget hfact =>
      obtain rfl := hnames _ hname
      obtain rfl := Option.some.inj (hset.symm.trans hget)
      exact Or.inr (Or.inr ⟨hname, List.mem_singleton.mp hfact⟩)
    | listed hfile hfact =>
      obtain rfl := Except.ok.inj hfile
      exact absurd hfact List.not_mem_nil
  · rintro (rfl | hfact | ⟨hname, rfl⟩)
    · exact .base (by simp [hbase])
    · exact .single hfact
    · exact .named hname hset (List.mem_singleton.mpr rfl)

/-- The fact of the set may come by the name of the set, or by itself, out of order and twice; what is shown
    is each fact once.  A configuration that may not be read leaves no test but the exit code 4. -/
theorem named_and_single_facts_have_one_outcome :
    (∃ outcome : Outcome, outcome.exitCode = 0 ∧
      (Invocation.plain (.test "['x', 'y', 'z']" ["z"] ["a"] none)).run oneSetOneBaseFact = outcome ∧
      (Invocation.plain (.test "['x', 'y', 'z']" ["z", "x", "z"] [] none)).run oneSetOneBaseFact = outcome ∧
      ∃ told, toldTest? outcome.output = some told ∧ told.facts = some ["x", "y", "z"]) ∧
    ((Invocation.plain (.test "['x', 'y']" ["z", "x", "z"] ["a"] none)).run oneSetOneBaseFact).exitCode
      = ((Invocation.plain (.test "['x', 'y']" ["x", "z"] ["a", "a"] none)).run oneSetOneBaseFact).exitCode ∧
    ((Invocation.plain (.test "'x'" [] [] none)).run .locked).exitCode = 4 := by
  have hload : (Config.load oneSetOneBaseFact none).toOption.any Config.isOneSetOneBaseFact = true := by
    decide +kernel
  obtain ⟨config, hconfig, hholds⟩ := Config.exists_load_of_any hload
  have hnamed (fact : String) :
      Run.Supplied oneSetOneBaseFact.disk config ["z"] ["a"] none fact ↔ fact ∈ ["x", "y", "z"] := by
    rw [Run.supplied_iff_of_isOneSetOneBaseFact hholds (by simp)]
    grind
  have hsingle (fact : String) : Run.Supplied oneSetOneBaseFact.disk config ["z", "x", "z"] [] none fact ↔
      fact ∈ ["x", "y", "z"] := by
    rw [Run.supplied_iff_of_isOneSetOneBaseFact hholds (by simp)]
    grind
  have hexit : ((Invocation.plain (.test "['x', 'y', 'z']" ["z"] ["a"] none)).run oneSetOneBaseFact).exitCode
      = 0 := by decide +kernel
  refine ⟨⟨_, hexit, rfl, Eq.symm ?_, ?_⟩, ?_, ?_⟩
  · exact test_outcome_of_supplied_facts.2.2.1 oneSetOneBaseFact oneSetOneBaseFact (.plain .list)
      (.plain .list) config _ _ _ _ _ _ _ hconfig hconfig rfl (hexit.trans_le (Nat.zero_le 1))
      (by decide +kernel) (fun fact => (hnamed fact).trans (hsingle fact).symm)
  · obtain ⟨predicate, supplied, -, hmem, -, hascending, htells⟩ :=
      test_outcome_of_supplied_facts.2.2.2 oneSetOneBaseFact (.plain .list) config "['x', 'y', 'z']" ["z"]
        ["a"] none hconfig (hexit.trans_le (Nat.zero_le 1))
    -- there is one ascending list of the facts supplied
    obtain rfl : supplied = ["x", "y", "z"] :=
      (hascending.imp lt_iff_textBytes_lt.mpr).eq_of_mem_iff (by decide)
        (fun fact => (hmem fact).trans (hnamed fact))
    have hshown : config.settings.showFacts = true := by
      simp only [Config.isOneSetOneBaseFact, Bool.and_eq_true] at hholds
      exact hholds.2
    rw [hshown] at htells
    exact ⟨_, htells.json rfl, rfl⟩
  · refine test_outcome_of_supplied_facts.2.1 oneSetOneBaseFact (.plain .list) _ _ _ _ _ none ?_ ?_ <;> grind
  · refine (test_outcome_of_supplied_facts.1 .locked (.plain .list) "'x'" [] [] none 4).mpr ?_
    obtain ⟨error, hlocked, -⟩ := Config.exists_load_eq_error_of_lacks (Config.lacks_locked_iff.mpr rfl)
    exact .noConfig hlocked

end RollConditions
