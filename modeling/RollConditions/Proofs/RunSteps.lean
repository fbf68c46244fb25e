/-
  What each step of a run can do.

  The commands go through the same few steps: they load the configuration, ask for a predicate, gather
  facts.  Here it is said once what each step ends in, so that what is proved about whole runs never opens
  a step: loading and validating go wrong together (`validateConfig_of_load_eq_error`), what an argument
  asks for is one of three cases (`asking`), and what comes of the facts of a test one of three
  (`gathering`).

  The cases exclude each other, and each says everything that the step can do in it, the failure with all
  its data included.  So a proof about a run is a case analysis, with no definition of a step to unfold.
-/
import RollConditions.Command.Run
import RollConditions.Proofs.ConfigLoading

namespace RollConditions

/-! ## Values under names

    A catalogue keeps its entries in the order of their names, and no name twice.  So looking a name up,
    being an entry, and being among the names say the same. -/

/-- Under ascending names, looking one up finds the value of exactly its entry. -/
theorem Ascending.lookup_eq_some_iff {α : Type} {entries : List (String × α)} (h : Ascending entries)
    {name : String} {value : α} : entries.lookup name = some value ↔ (name, value) ∈ entries := by
  induction entries with
  | nil => simp
  | cons entry rest ih =>
    obtain ⟨other, old⟩ := entry
    obtain ⟨hhead, hrest⟩ := List.pairwise_cons.mp h
    rw [List.lookup_cons, List.mem_cons, Prod.mk.injEq]
    by_cases hname : name = other
    · -- a later entry of the same name would not be after this one
      subst hname
      have hlater : (name, value) ∉ rest := fun hmem => String.lt_irrefl name (hhead _ hmem)
      simp [hlater, eq_comm]
    · rw [beq_eq_false_iff_ne.mpr hname, ih hrest]
      simp [hname]

namespace Catalog

variable {α : Type} {catalog : Catalog α} {name : String}

/-- A name stands for a value exactly if the two are an entry. -/
theorem get?_eq_some_iff {value : α} : catalog.get? name = some value ↔ (name, value) ∈ catalog.entries :=
  catalog.ascending.lookup_eq_some_iff

/-- The names are those that stand for a value. -/
theorem mem_names_iff : name ∈ catalog.names ↔ ∃ value, catalog.get? name = some value := by
  simp only [get?_eq_some_iff, names, List.mem_map]
  constructor
  · rintro ⟨⟨_, value⟩, hmem, rfl⟩
    exact ⟨value, hmem⟩
  · rintro ⟨value, hmem⟩
    exact ⟨(name, value), hmem, rfl⟩

/-- A name that is not among them stands for none. -/
theorem get?_eq_none_iff : catalog.get? name = none ↔ name ∉ catalog.names := by
  rw [mem_names_iff, Option.eq_none_iff_forall_ne_some, not_exists]

end Catalog

/-! ## Exit codes

    What a run leaves behind is made from its result and from the way to print, and the exit code of it
    from the result alone. -/

namespace Run

/-- The exit code of a run with a result. -/
def exitCode : Except Failure Report → Nat
  | .ok report => report.exitCode
  | .error failure => failure.exitCode

/-- The exit code of a finished test is that of its verdict. -/
theorem exitCode_tested (predicate : Predicate) (holds : Bool) (shown : Option (List String)) :
    exitCode (.ok (.tested predicate holds shown)) = if holds then 0 else 1 := by
  cases holds <;> rfl

end Run

namespace Invocation

/-- The exit code of a run is that of its result, however the result is printed. -/
theorem exitCode_run (environment : Environment) (invocation : Invocation) :
    (invocation.run environment).exitCode
      = Run.exitCode (Run.report environment invocation.config invocation.action) := by
  unfold Invocation.run
  cases Run.report environment invocation.config invocation.action with
  | ok report => rfl
  | error failure =>
    show (failure.outcome _).exitCode = failure.exitCode
    cases invocation.mode environment.onTerminal <;> rfl

/-- The same flags and the same configuration, for another action. -/
def doing (invocation : Invocation) (action : Action) : Invocation := { invocation with action := action }

/-- A run for another action prints the result of that action in the way the flags ask for. -/
theorem run_doing (environment : Environment) (invocation : Invocation) (action : Action) :
    (invocation.doing action).run environment
      = .of (invocation.mode environment.onTerminal) (Run.report environment invocation.config action) :=
  rfl

/-- The exit code of a run for another action is that of its result. -/
theorem exitCode_doing (environment : Environment) (invocation : Invocation) (action : Action) :
    ((invocation.doing action).run environment).exitCode
      = Run.exitCode (Run.report environment invocation.config action) :=
  exitCode_run environment (invocation.doing action)

end Invocation

/-! ## Validating the configuration

    Validating looks for the file and then verifies what is under its path, while the other commands load
    the configuration in one go.  The two are compared case by case of what is found under the path. -/

namespace Run

variable {environment : Environment} {override : Option String}

/-- What is said about the problems of the configuration in a file. -/
def verdict (path : String) : List Config.Problem → Except Failure Report
  | [] => .ok (.valid (.file path))
  | problems => .error (.configProblems path problems)

/-- A file that was found is loaded, and its problems are listed. -/
theorem validateConfig_of_existingPath_eq_some {path : String}
    (h : Config.existingPath environment override = .ok (some path)) :
    validateConfig environment override
      = (config environment override >>= fun config => verdict path config.problems) := by
  -- the path leads to something, so verifying does not ask again whether it does
  have hhas := Config.has_of_existingPath_eq_some h
  rw [validateConfig, config, h, Config.load_of_existingPath_eq_some h]
  show (do
    let problems ← (Config.verify environment.disk path).mapError Failure.config
    _) = _
  rw [Config.verify_of_has hhas]
  cases Config.loadFrom environment.disk path with
  | error error => rfl
  | ok config =>
    show (match config.problems with | [] => _ | _ => _) = verdict path config.problems
    cases config.problems <;> rfl

/-- If there is no configuration, validating it says why. -/
theorem validateConfig_of_load_eq_error {error : ConfigError}
    (h : Config.load environment override = .error error) :
    validateConfig environment override = .error (.config error) := by
  cases hpath : Config.existingPath environment override with
  | error other =>
    rw [Config.load_of_existingPath_eq_error hpath] at h
    obtain rfl := Except.error.inj h
    rw [validateConfig, hpath]
    rfl
  | ok found =>
    cases found with
    | none =>
      -- without a file the empty configuration is loaded
      rw [Config.load_of_existingPath_eq_none hpath] at h
      cases h
    | some path =>
      rw [validateConfig_of_existingPath_eq_some hpath, config, h]
      rfl

/-- If there is a configuration, validating it lists its problems or finds none. -/
theorem validateConfig_of_load_eq_ok {config : Config}
    (h : Config.load environment override = .ok config) :
    (config.problems = [] ∧ ∃ validated, validateConfig environment override = .ok (.valid validated)) ∨
    (config.problems ≠ [] ∧ ∃ path,
      validateConfig environment override = .error (.configProblems path config.problems)) := by
  cases hpath : Config.existingPath environment override with
  | error error =>
    rw [Config.load_of_existingPath_eq_error hpath] at h
    cases h
  | ok found =>
    cases found with
    | none =>
      -- the empty configuration has no problems, and validating does not even look for any
      rw [Config.load_of_existingPath_eq_none hpath] at h
      obtain rfl := Except.ok.inj h
      refine Or.inl ⟨rfl, .defaults, ?_⟩
      rw [validateConfig, hpath]
      rfl
    | some path =>
      have hresult : validateConfig environment override = verdict path config.problems := by
        rw [validateConfig_of_existingPath_eq_some hpath, Run.config, h]
        rfl
      rw [hresult]
      cases config.problems with
      | nil => exact Or.inl ⟨rfl, .file path, rfl⟩
      | cons problem rest => exact Or.inr ⟨by simp, path, rfl⟩

/-! ## The predicate that an argument asks for

    The at sign decides: what follows it is the name of a predicate, and without it the argument is a
    predicate itself.  Either way there is a raw value in the end, and the same reader reads it; the two
    ways differ only in the place that an error is reported at. -/

/-- The raw predicate that an argument asks for: after an at sign the one under a name, else the one that
    the argument itself writes. -/
inductive AsksFor (config : Config) : String → Json → Prop where
  | named {name : String} {raw : Json} (hraw : config.predicates.get? name = some raw) :
    AsksFor config ("@" ++ name) raw
  | inline {argument : String} {raw : Json} (hinline : ∀ name, argument ≠ "@" ++ name)
    (hraw : Document.json5.readJson argument = .ok raw) : AsksFor config argument raw

section predicate

variable {config : Config} {argument : String}

/-- After an at sign the rest of the argument is the name. -/
theorem predicate_named (name : String) : predicate config ("@" ++ name) = namedPredicate config name := by
  have hchars : ("@" ++ name).toList = '@' :: name.toList := by simp
  rw [predicate, hchars]
  show namedPredicate config (String.ofList name.toList) = _
  rw [String.ofList_toList]

/-- Without an at sign the argument is read as JSON5. -/
theorem predicate_inline (h : ∀ name, argument ≠ "@" ++ name) :
    predicate config argument = inlinePredicate argument := by
  unfold predicate
  split
  · rename_i name hchars
    refine absurd (String.toList_inj.mp ?_) (h (String.ofList name))
    simp [hchars]
  · rfl

/-- An argument asks for a name that is not known, or writes nothing, or asks for a raw predicate. -/
theorem asking (config : Config) (argument : String) :
    (∃ name, argument = "@" ++ name ∧ name ∉ config.predicates.names) ∨
    ((∀ name, argument ≠ "@" ++ name) ∧ ∃ fault, Document.json5.readJson argument = .error fault) ∨
    (∃ raw, AsksFor config argument raw) := by
  by_cases hname : ∃ name, argument = "@" ++ name
  · obtain ⟨name, rfl⟩ := hname
    cases hraw : config.predicates.get? name with
    | none => exact Or.inl ⟨name, rfl, Catalog.get?_eq_none_iff.mp hraw⟩
    | some raw => exact Or.inr (Or.inr ⟨raw, .named hraw⟩)
  · rw [not_exists] at hname
    cases hraw : Document.json5.readJson argument with
    | error fault => exact Or.inr (Or.inl ⟨hname, fault, rfl⟩)
    | ok raw => exact Or.inr (Or.inr ⟨raw, .inline hname hraw⟩)

/-- The name of a predicate that is not known is reported with those of all predicates. -/
theorem predicate_of_unknown {name : String} (h : name ∉ config.predicates.names) :
    predicate config ("@" ++ name) = .error (.unknownName .predicate name config.predicates.names) := by
  rw [predicate_named, namedPredicate, Config.predicate?, Catalog.get?_eq_none_iff.mpr h]
  rfl

/-- What is no JSON5 is reported as it was given. -/
theorem predicate_of_not_json5 (hinline : ∀ name, argument ≠ "@" ++ name) {fault : Document.Fault}
    (h : Document.json5.readJson argument = .error fault) :
    predicate config argument = .error (.notJson5 argument fault) := by
  rw [predicate_inline hinline, inlinePredicate, h]
  rfl

/-- The predicate under a name is read at its place in the configuration. -/
theorem predicate_of_get? {name : String} {raw : Json} (h : config.predicates.get? name = some raw) :
    predicate config ("@" ++ name) = (Config.readPredicate name raw).mapError Failure.statement := by
  rw [predicate_named, namedPredicate, Config.predicate?, h]
  rfl

/-- What is asked for is read, and an error in it is reported as seen from outside. -/
theorem predicate_of_asksFor {raw : Json} (h : AsksFor config argument raw) :
    ∃ seen : StatementError → StatementError,
      predicate config argument
        = (Predicate.read raw).mapError (fun error => .statement (seen error)) := by
  cases h with
  | @named name _ hraw =>
    -- seen from the configuration, the error stands below the name
    refine ⟨.within (Config.predicatePlace name), ?_⟩
    rw [predicate_of_get? hraw, Config.readPredicate]
    cases Predicate.read raw <;> rfl
  | inline hinline hraw =>
    refine ⟨id, ?_⟩
    rw [predicate_inline hinline, inlinePredicate, hraw]
    rfl

end predicate

/-! ## The facts of a test

    There are four sources of facts, and two ways to be left without any: a name of a set that is not
    known, and a file that cannot be read.  The names are looked up first, one after another; the file is
    read last.  What is gathered in the end is said by membership (`Supplied`), since no reader of the
    facts sees their order. -/

/-- The facts that a file lists, in the order and as often as it lists them. -/
def factsListed (disk : Disk) : Option String → Except Failure (List String)
  | none => .ok []
  | some path => do
    let text ← (disk.readText path).mapError (Failure.factsUnreadable path)
    (Document.strictJson.read (fun dialect => dialect.readTexts) text).mapError
      (Failure.factsUnparsable path)

/-- A fact that a test is supplied with, from whichever source. -/
inductive Supplied (disk : Disk) (config : Config) (single names : List String) (file : Option String)
    (fact : String) : Prop where
  | base (hfact : fact ∈ config.settings.baseFacts)
  | single (hfact : fact ∈ single)
  | named {name : String} {set : List String} (hname : name ∈ names)
    (hset : config.facts.get? name = some set) (hfact : fact ∈ set)
  | listed {facts : List String} (hfile : factsListed disk file = .ok facts) (hfact : fact ∈ facts)

/-- A file of facts that cannot be read, or that lists none, ends a run with 2. -/
theorem exitCode_of_factsListed_eq_error {disk : Disk} {file : Option String} {failure : Failure}
    (h : factsListed disk file = .error failure) : failure.exitCode = 2 := by
  cases file with
  | none => cases h
  | some path =>
    rw [factsListed] at h
    cases htext : disk.readText path with
    | error error =>
      rw [htext] at h
      obtain rfl := Except.error.inj h
      rfl
    | ok text =>
      rw [htext] at h
      obtain ⟨fault, -, rfl⟩ := mapError_eq_error_iff.mp h
      rfl

end Run

/-- What is read out of a text by a reader and a function of its result. -/
theorem Document.Format.read_map {α β : Type} (format : Document.Format) (f : α → β)
    (reader : Document.Dialect → Document.Room → Document.Node → Except Document.Fault α)
    (text : String) :
    format.read (fun dialect room node => (reader dialect room node).map f) text
      = (format.read reader text).map f := by
  -- the function comes last, after everything that can go wrong
  dsimp only [Document.Format.read]
  cases Document.Dialect.close (format.source text).clean <;>
    cases reader format.dialect format.dialect.depthLimit (format.source text).root <;>
    cases format.wholeFirst <;> rfl

namespace Run

/-- The facts of a test without a file, or those of a file, are the ones that are listed. -/
theorem factsOfFile_eq (disk : Disk) (path : String) :
    factsOfFile disk path = (factsListed disk (some path)).map RollOptions.ofList := by
  rw [factsOfFile, factsListed]
  cases disk.readText path with
  | error error => rfl
  | ok text =>
    show (RollOptions.parse Document.strictJson text).mapError (Failure.factsUnparsable path) = _
    have hparse : RollOptions.parse Document.strictJson text
        = (Document.strictJson.read (fun dialect => dialect.readTexts) text).map RollOptions.ofList :=
      Document.Format.read_map Document.strictJson RollOptions.ofList
        (fun dialect => dialect.readTexts) text
    rw [hparse]
    show _ = (((Document.strictJson.read (fun dialect => dialect.readTexts) text).mapError
      (Failure.factsUnparsable path))).map RollOptions.ofList
    cases Document.strictJson.read (fun dialect => dialect.readTexts) text <;> rfl

section facts

variable {disk : Disk} {config : Config} {single names : List String} {file : Option String}

/-- The facts under a known name come with the base facts. -/
theorem namedFacts_of_get? {name : String} {set : List String} (h : config.facts.get? name = some set) :
    namedFacts config name = .ok (config.baseFacts.extend set) := by
  rw [namedFacts, Config.factSet?, h]
  rfl

/-- The name of a set that is not known is reported with those of all sets. -/
theorem namedFacts_of_unknown {name : String} (h : name ∉ config.facts.names) :
    namedFacts config name = .error (.unknownName .factSet name config.facts.names) := by
  rw [namedFacts, Config.factSet?, Catalog.get?_eq_none_iff.mpr h]
  rfl

/-- Looking up several names fails at one that is not known. -/
theorem mapM_namedFacts_of_unknown {wanted : String} (hwanted : wanted ∈ names)
    (hunknown : wanted ∉ config.facts.names) :
    ∃ name, names.mapM (namedFacts config) = .error (.unknownName .factSet name config.facts.names) := by
  induction names with
  | nil => exact absurd hwanted List.not_mem_nil
  | cons name rest ih =>
    rw [List.mapM_cons]
    by_cases hknown : name ∈ config.facts.names
    · obtain ⟨set, hset⟩ := Catalog.mem_names_iff.mp hknown
      have hrest : wanted ∈ rest :=
        (List.mem_cons.mp hwanted).resolve_left (fun heq => hunknown (heq ▸ hknown))
      -- the name that is reported need not be the one that is wanted, but an earlier one
      obtain ⟨other, hother⟩ := ih hrest
      rw [namedFacts_of_get? hset, hother]
      exact ⟨other, rfl⟩
    · rw [namedFacts_of_unknown hknown]
      exact ⟨name, rfl⟩

/-- Known names have sets; each set holds the base facts too, which adds nothing to the base facts. -/
theorem mapM_namedFacts_of_known (h : ∀ name ∈ names, name ∈ config.facts.names) :
    ∃ sets, names.mapM (namedFacts config) = .ok sets ∧
      ∀ fact, (fact ∈ config.settings.baseFacts ∨ ∃ set ∈ sets, fact ∈ set.sorted) ↔
        (fact ∈ config.settings.baseFacts ∨
          ∃ name ∈ names, ∃ set, config.facts.get? name = some set ∧ fact ∈ set) := by
  induction names with
  | nil => exact ⟨[], rfl, fun fact => by simp⟩
  | cons name rest ih =>
    obtain ⟨hname, hrest⟩ := List.forall_mem_cons.mp h
    obtain ⟨set, hset⟩ := Catalog.mem_names_iff.mp hname
    obtain ⟨sets, hsets, hmem⟩ := ih hrest
    refine ⟨config.baseFacts.extend set :: sets, ?_, fun fact => ?_⟩
    · rw [List.mapM_cons, namedFacts_of_get? hset, hsets]
      rfl
    · have hhead : fact ∈ (config.baseFacts.extend set).sorted ↔
          fact ∈ config.settings.baseFacts ∨ fact ∈ set := by
        rw [RollOptions.mem_sorted_extend, Config.baseFacts, RollOptions.mem_sorted_ofList]
      simp only [List.exists_mem_cons_iff, hhead, hset, Option.some.injEq, exists_eq_left']
      rw [or_assoc, or_self_left, or_left_comm, hmem, or_left_comm]

/-- Options that are extended by several sets have the facts of all of them. -/
theorem mem_sorted_foldl_extend {sets : List RollOptions} {options : RollOptions} {fact : String} :
    fact ∈ (sets.foldl (fun options set => options.extend set.sorted) options).sorted ↔
      fact ∈ options.sorted ∨ ∃ set ∈ sets, fact ∈ set.sorted := by
  induction sets generalizing options with
  | nil => simp
  | cons set rest ih =>
    rw [List.foldl_cons, ih, RollOptions.mem_sorted_extend, List.exists_mem_cons_iff, or_assoc]

variable (disk single file) in
/-- With an unknown name among them, the facts of a test are not gathered, whatever else is given. -/
theorem facts_of_unknown {wanted : String} (hwanted : wanted ∈ names)
    (hunknown : wanted ∉ config.facts.names) :
    ∃ name, facts disk config single names file
      = .error (.unknownName .factSet name config.facts.names) := by
  obtain ⟨name, hname⟩ := mapM_namedFacts_of_unknown hwanted hunknown
  refine ⟨name, ?_⟩
  rw [facts, hname]
  rfl

/-- The facts of a test, once all names are known: those of the file are still to be read. -/
theorem facts_of_known (h : ∀ name ∈ names, name ∈ config.facts.names) :
    ∃ options : RollOptions,
      facts disk config single names file
        = (factsListed disk file).map (fun listed => options.extend (RollOptions.ofList listed).sorted) ∧
      ∀ fact, fact ∈ options.sorted ↔
        fact ∈ config.settings.baseFacts ∨ fact ∈ single ∨
          ∃ name ∈ names, ∃ set, config.facts.get? name = some set ∧ fact ∈ set := by
  obtain ⟨sets, hsets, hmem⟩ := mapM_namedFacts_of_known h
  refine ⟨sets.foldl (fun options set => options.extend set.sorted) (config.baseFacts.extend single),
    ?_, fun fact => ?_⟩
  · -- without a file there is nothing left to read
    rw [facts, hsets]
    cases file with
    | none => rfl
    | some path =>
      show (factsOfFile disk path >>= _) = _
      rw [factsOfFile_eq]
      cases factsListed disk (some path) <;> rfl
  · rw [mem_sorted_foldl_extend, RollOptions.mem_sorted_extend, Config.baseFacts,
      RollOptions.mem_sorted_ofList]
    rw [or_assoc, or_left_comm, hmem, or_left_comm]

/-- With known names it is up to the file whether facts are gathered. -/
theorem facts_of_unreadable (h : ∀ name ∈ names, name ∈ config.facts.names) {failure : Failure}
    (hfile : factsListed disk file = .error failure) :
    facts disk config single names file = .error failure := by
  obtain ⟨options, heq, -⟩ := facts_of_known h
  rw [heq, hfile]
  rfl

variable (single) in
/-- What is gathered is what is supplied. -/
theorem facts_of_readable (h : ∀ name ∈ names, name ∈ config.facts.names) {listed : List String}
    (hfile : factsListed disk file = .ok listed) :
    ∃ options, facts disk config single names file = .ok options ∧
      ∀ fact, fact ∈ options.sorted ↔ Supplied disk config single names file fact := by
  obtain ⟨options, heq, hmem⟩ := facts_of_known h
  refine ⟨options.extend (RollOptions.ofList listed).sorted, ?_, fun fact => ?_⟩
  · rw [heq, hfile]
    rfl
  · -- the base facts, the single ones and the sets were gathered before the file
    rw [RollOptions.mem_sorted_extend, RollOptions.mem_sorted_ofList, hmem]
    constructor
    · rintro ((hbase | hsingle | ⟨name, hname, set, hset, hfact⟩) | hlisted)
      · exact .base hbase
      · exact .single hsingle
      · exact .named hname hset hfact
      · exact .listed hfile hlisted
    · intro hsupplied
      cases hsupplied with
      | base hfact => exact Or.inl (Or.inl hfact)
      | single hfact => exact Or.inl (Or.inr (Or.inl hfact))
      | named hname hset hfact => exact Or.inl (Or.inr (Or.inr ⟨_, hname, _, hset, hfact⟩))
      | listed hother hfact =>
        rw [hfile] at hother
        obtain rfl := Except.ok.inj hother
        exact Or.inr hfact

variable (disk config single names file) in
/-- Gathering the facts stops at a name that is not known, or at the file, or brings what is supplied. -/
theorem gathering :
    ((∃ wanted ∈ names, wanted ∉ config.facts.names) ∧
      ∃ name, facts disk config single names file
        = .error (.unknownName .factSet name config.facts.names)) ∨
    ((∀ name ∈ names, name ∈ config.facts.names) ∧
      ∃ failure, factsListed disk file = .error failure ∧
        facts disk config single names file = .error failure) ∨
    ((∀ name ∈ names, name ∈ config.facts.names) ∧
      ∃ listed options, factsListed disk file = .ok listed ∧
        facts disk config single names file = .ok options ∧
        ∀ fact, fact ∈ options.sorted ↔ Supplied disk config single names file fact) := by
  by_cases hknown : ∀ name ∈ names, name ∈ config.facts.names
  · cases hfile : factsListed disk file with
    | error failure => exact Or.inr (Or.inl ⟨hknown, failure, rfl, facts_of_unreadable hknown hfile⟩)
    | ok listed =>
      obtain ⟨options, hoptions, hmem⟩ := facts_of_readable single hknown hfile
      exact Or.inr (Or.inr ⟨hknown, listed, options, rfl, hoptions, hmem⟩)
  · simp only [not_forall] at hknown
    obtain ⟨wanted, hwanted, hunknown⟩ := hknown
    exact Or.inl ⟨⟨wanted, hwanted, hunknown⟩, facts_of_unknown disk single file hwanted hunknown⟩

end facts

/-! ## A test

    The configuration comes first: without it neither the predicate nor the facts are looked at. -/

section test

variable {environment : Environment} {override : Option String} {argument : String}
  {single names : List String} {file : Option String}

/-- Without a configuration a test says why there is none. -/
theorem test_of_load_eq_error {error : ConfigError}
    (h : Config.load environment override = .error error) :
    test environment override argument single names file = .error (.config error) := by
  rw [test, Run.config, h]
  rfl

/-- With a configuration, a test asks for the predicate and then gathers the facts. -/
theorem test_of_load_eq_ok {config : Config} (h : Config.load environment override = .ok config) :
    test environment override argument single names file = (do
      let predicate ← predicate config argument
      let options ← facts environment.disk config single names file
      return .tested predicate (predicate.holds options)
        (if config.settings.showFacts then some options.sorted else none)) := by
  rw [test, Run.config, h]
  rfl

end test

end Run

/-- A command line without flags. -/
def Invocation.plain (action : Action) : Invocation := ⟨none, false, false, false, false, action⟩

end RollConditions
