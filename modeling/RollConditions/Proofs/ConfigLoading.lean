/-
  Which configuration applies, and when there is none.

  A configuration is looked for under one path: the one that is given, else one in the home directory.  A
  path that is given has to lead to something; the other need not, and then the empty configuration applies.
  What a path does lead to has to be readable and has to be a configuration, given or not: a file that may
  not be read is there all the same, and no run goes on without it.  `Lacks` lists all that can go wrong,
  in terms of what is on the disk, with the sentence that is said then.

  Loading looks for the file and reads it in one go; the steps that it takes are said here once, so that the
  commands that take them one by one can be compared with it.
-/
import RollConditions.Config.Location
import RollConditions.Proofs.Shape

namespace RollConditions

/-! ## What is on the disk -/

namespace Disk

/-- Nothing is under a path exactly if it is absent; what cannot be read is there all the same. -/
theorem has_eq_false_iff {disk : Disk} {path : String} :
    disk.has path = false ↔ ∃ reason, disk path = .absent reason := by
  rw [has]
  cases disk path <;> simp

/-- What can be read is there. -/
theorem has_of_readText_eq_ok {disk : Disk} {path text : String} (h : disk.readText path = .ok text) :
    disk.has path = true := by
  rw [readText] at h
  rw [has]
  cases hentry : disk path with
  | absent reason =>
    rw [hentry] at h
    cases h
  | _ => rfl

end Disk

namespace Config

section loading

variable {environment : Environment} {override : Option String}

/-! ## The steps of loading -/

/-- A path is known unless it would have to be in a home directory that is not. -/
theorem path_eq_error_iff {error : ConfigError} :
    path environment override = .error error ↔
      givenPath? environment override = none ∧ environment.home = none ∧ error = .homeUnknown := by
  rw [path]
  cases givenPath? environment override with
  | some given => simp
  | none =>
    rw [defaultPath]
    cases environment.home <;> simp [eq_comm]

/-- A path that leads to something is found. -/
theorem existingPath_of_has {place : String} (hpath : path environment override = .ok place)
    (hhas : environment.disk.has place = true) : existingPath environment override = .ok (some place) := by
  rw [existingPath, hpath]
  show (if environment.disk.has place then _ else _) = _
  rw [if_pos hhas]
  rfl

/-- A path that leads nowhere is a fault if it is given. -/
theorem existingPath_of_not_has {place : String} (hpath : path environment override = .ok place)
    (hhas : environment.disk.has place = false) :
    existingPath environment override
      = if (givenPath? environment override).isSome then .error (.notFound place) else .ok none := by
  rw [existingPath, hpath]
  show (if environment.disk.has place then _ else _) = _
  rw [if_neg (by simp [hhas])]
  rfl

/-- A path that was found leads to something. -/
theorem has_of_existingPath_eq_some {path : String}
    (h : existingPath environment override = .ok (some path)) : environment.disk.has path = true := by
  obtain ⟨wanted, -, h⟩ := bind_eq_ok_iff.mp h
  split at h
  · rename_i hhas
    obtain rfl := Option.some.inj (Except.ok.inj h)
    exact hhas
  · split at h <;> cases h

/-- Verifying a file that is there is loading it, and listing what is wrong with it. -/
theorem verify_of_has {disk : Disk} {path : String} (h : disk.has path = true) :
    verify disk path = (loadFrom disk path).map problems := by
  rw [verify, if_pos h]
  cases loadFrom disk path <;> rfl

/-- A file that was found is loaded. -/
theorem load_of_existingPath_eq_some {path : String}
    (h : existingPath environment override = .ok (some path)) :
    load environment override = loadFrom environment.disk path := by
  rw [load, h]
  rfl

/-- Without a file the empty configuration applies. -/
theorem load_of_existingPath_eq_none (h : existingPath environment override = .ok none) :
    load environment override = .ok empty := by
  rw [load, h]
  rfl

/-- Where no file may be looked for, none is loaded. -/
theorem load_of_existingPath_eq_error {error : ConfigError}
    (h : existingPath environment override = .error error) :
    load environment override = .error error := by
  rw [load, h]
  rfl

/-- What is under a path that leads to something is read, and then parsed. -/
theorem load_of_has {place : String} (hpath : path environment override = .ok place)
    (hhas : environment.disk.has place = true) :
    load environment override = (do
      let text ← (environment.disk.readText place).mapError (ConfigError.unreadable place)
      (parse Document.json5 text).mapError (ConfigError.unparsable place)) :=
  load_of_existingPath_eq_some (existingPath_of_has hpath hhas)

end loading

/-! ## When there is no configuration -/

/-- Why no configuration applies, case by case, and the message that says so. -/
inductive Lacks (environment : Environment) (override : Option String) : String → Prop where
  /-- No path is given, and there is no home directory to look in. -/
  | homeUnknown (hgiven : givenPath? environment override = none) (hhome : environment.home = none) :
    Lacks environment override "Could not find home directory"
  /-- Nothing is under the path that is given. -/
  | notFound {path : String} {reason : FileError} (hgiven : givenPath? environment override = some path)
    (hentry : environment.disk path = .absent reason) :
    Lacks environment override ("config file not found: " ++ path)
  /-- Something is under the path, given or not, but it cannot be read. -/
  | unreadable {path : String} {error : FileError} (hpath : Config.path environment override = .ok path)
    (hentry : ∀ reason, environment.disk path ≠ .absent reason)
    (hread : environment.disk.readText path = .error error) :
    Lacks environment override ("Failed to read config file: " ++ path ++ ": " ++ error.message)
  /-- The text under the path writes no configuration. -/
  | unparsable {path text : String} {fault : Document.Fault}
    (hpath : Config.path environment override = .ok path)
    (hread : environment.disk.readText path = .ok text) (hparse : parse Document.json5 text = .error fault) :
    Lacks environment override
      ("Failed to parse config file: " ++ path ++ ": " ++ Document.json5.message fault)

section lacks

variable {environment : Environment} {override : Option String}

/-- Whatever stops loading is one of the cases. -/
theorem lacks_of_load_eq_error {error : ConfigError} (h : load environment override = .error error) :
    Lacks environment override error.message := by
  cases hpath : path environment override with
  | error other =>
    obtain ⟨hgiven, hhome, rfl⟩ := path_eq_error_iff.mp hpath
    rw [load, existingPath, hpath] at h
    obtain rfl := Except.error.inj h
    exact .homeUnknown hgiven hhome
  | ok place =>
    cases hhas : environment.disk.has place with
    | true =>
      rw [load_of_has hpath hhas] at h
      cases hread : environment.disk.readText place with
      | error reason =>
        rw [hread] at h
        obtain rfl := Except.error.inj h
        refine .unreadable hpath (fun other hentry => ?_) hread
        rw [Disk.has, hentry] at hhas
        cases hhas
      | ok text =>
        rw [hread] at h
        obtain ⟨fault, hparse, rfl⟩ := mapError_eq_error_iff.mp h
        exact .unparsable hpath hread hparse
    | false =>
      have hexisting := existingPath_of_not_has hpath hhas
      obtain ⟨reason, hentry⟩ := Disk.has_eq_false_iff.mp hhas
      cases hgiven : givenPath? environment override with
      | none =>
        -- only a path that is given may not lack a file
        rw [hgiven] at hexisting
        rw [load_of_existingPath_eq_none hexisting] at h
        cases h
      | some given =>
        rw [hgiven] at hexisting
        rw [load_of_existingPath_eq_error hexisting] at h
        obtain rfl := Except.error.inj h
        have hplace : path environment override = .ok given := by rw [path, hgiven]
        obtain rfl := Except.ok.inj (hplace.symm.trans hpath)
        exact .notFound hgiven hentry

/-- Each of the cases stops loading, with its own sentence. -/
theorem exists_load_eq_error_of_lacks {message : String} (h : Lacks environment override message) :
    ∃ error, load environment override = .error error ∧ error.message = message := by
  cases h with
  | homeUnknown hgiven hhome =>
    refine ⟨.homeUnknown, ?_, rfl⟩
    rw [load, existingPath, path_eq_error_iff.mpr ⟨hgiven, hhome, rfl⟩]
    rfl
  | @notFound place reason hgiven hentry =>
    refine ⟨.notFound place, load_of_existingPath_eq_error ?_, rfl⟩
    rw [existingPath_of_not_has (by rw [path, hgiven]) (Disk.has_eq_false_iff.mpr ⟨reason, hentry⟩), hgiven]
    rfl
  | @unreadable place reason hpath hentry hread =>
    have hhas : environment.disk.has place = true := by
      rw [← Bool.not_eq_false, Disk.has_eq_false_iff]
      rintro ⟨other, hother⟩
      exact hentry other hother
    refine ⟨.unreadable place reason, ?_, rfl⟩
    rw [load_of_has hpath hhas, hread]
    rfl
  | @unparsable place text fault hpath hread hparse =>
    refine ⟨.unparsable place fault, ?_, rfl⟩
    rw [load_of_has hpath (Disk.has_of_readText_eq_ok hread), hread]
    show (parse Document.json5 text).mapError _ = _
    rw [hparse]
    rfl

/-- **No configuration applies exactly in the cases that are listed**, and the message is theirs. -/
theorem lacks_iff {message : String} :
    Lacks environment override message ↔
      ∃ error, load environment override = .error error ∧ error.message = message := by
  refine ⟨exists_load_eq_error_of_lacks, ?_⟩
  rintro ⟨error, hload, rfl⟩
  exact lacks_of_load_eq_error hload

end lacks

/-! ## Named predicates -/

/-- A predicate that is wrong is one of the problems of its configuration. -/
theorem statement_mem_problems {config : Config} {name : String} {raw : Json} {error : StatementError}
    (hentry : (name, raw) ∈ config.predicates.entries) (herror : readPredicate name raw = .error error) :
    .statement error ∈ config.problems := by
  have hproblem : predicateProblem? (name, raw) = some (.statement error) := by
    rw [predicateProblem?, herror]
  refine List.mem_append_left _ (List.mem_append_left _ ?_)
  exact List.mem_filterMap.mpr ⟨(name, raw), hentry, hproblem⟩

end Config

/-! ## Configurations given as values -/

/-- What a run finds if its configuration is a printed value and nothing else is on the disk. -/
def Environment.ofConfig (raw : Json) : Environment where
  configVariable := some "config"
  home := none
  onTerminal := false
  disk path := if path = "config" then .file raw.compact.toUTF8 else .absent .missing

/-- What a run finds if there is a configuration in its home directory that may not be read. -/
def Environment.locked : Environment where
  configVariable := none
  home := some "home"
  onTerminal := false
  disk path := if path = "home/.rollpred/config.json" then .unreadable .notAllowed else .absent .missing

namespace Config

/-- Its place comes from the home directory, since no path is given. -/
theorem path_locked : path .locked none = .ok "home/.rollpred/config.json" := by
  have hjoin : joinPath (joinPath "home" ".rollpred") "config.json" = "home/.rollpred/config.json" := by
    decide +kernel
  exact congrArg Except.ok hjoin

/-- A configuration that may not be read is not passed over, though nobody asked for it. -/
theorem lacks_locked_iff {message : String} : Lacks .locked none message ↔
    message = "Failed to read config file: home/.rollpred/config.json: Permission denied (os error 13)" := by
  have hread : Environment.locked.disk.readText "home/.rollpred/config.json" = .error .notAllowed := rfl
  constructor
  · intro h
    cases h with
    | homeUnknown _ hhome => cases hhome
    | notFound hgiven _ => cases hgiven
    | unreadable hpath _ herror =>
      obtain rfl := Except.ok.inj (path_locked.symm.trans hpath)
      obtain rfl := Except.error.inj (hread.symm.trans herror)
      rfl
    | unparsable hpath htext _ =>
      obtain rfl := Except.ok.inj (path_locked.symm.trans hpath)
      cases hread.symm.trans htext
  · rintro rfl
    refine .unreadable path_locked (fun reason hentry => ?_) hread
    cases hentry

end Config

/-- What the computation of a configuration shows is true of the configuration that is loaded. -/
theorem Config.exists_load_of_any {environment : Environment} {override : Option String}
    {shows : Config → Bool} (h : (load environment override).toOption.any shows = true) :
    ∃ config, load environment override = .ok config ∧ shows config = true := by
  cases hload : load environment override with
  | error error =>
    rw [hload] at h
    cases h
  | ok config =>
    rw [hload] at h
    exact ⟨config, rfl, h⟩

end RollConditions
