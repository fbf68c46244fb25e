/-
  What can be read off what a run prints.

  In JSON mode the standard output is one document, and for each kind of thing told in it there is a
  reader here: a failure, the verdict of a test, the entries of a listing.  A reader takes the printed
  line and nothing else, and knows nothing of the printer.  So what is said with the readers is said of
  what a caller gets to see, and would be false of a program that had the right result and printed
  another.  Lines of text are for people and not to be read back; what they tell is said as the text
  itself.

  Of each kind it is proved once, for all results of the kind, that what is printed tells the result
  (`tellsFailure_of_error`, `tellsTest_of_tested`, `tellsListing_of_listing`); no command is looked at here.
-/
import Mathlib.Data.List.Forall2
import RollConditions.Command.Report
import RollConditions.Proofs.Shape
import RollConditions.Proofs.WrittenJson

namespace RollConditions

open Document

/-! ## Reading a document -/

namespace Document

namespace Node

/-- The value of a field, the first one with the name. -/
def member? (name : String) : Node → Option Node
  | .object fields _ =>
    (fields.find? (fun field => (Strict.text field.1).toOption == some name)).map (·.2)
  | _ => none

/-- The text that a node writes. -/
def text? : Node → Option String
  | .text pieces => (Strict.text pieces).toOption
  | _ => none

/-- The whole number that a node writes. -/
def whole? : Node → Option Int
  | .number numeral =>
    match Strict.amount numeral with
    | .ok (.whole value _) => some value
    | _ => none
  | _ => none

/-- The truth value that a node writes. -/
def truth? : Node → Option Bool
  | .bool value => some value
  | _ => none

/-- The items of a list. -/
def items? : Node → Option (List Node)
  | .list items _ => some items
  | _ => none

/-- The texts of a list that holds nothing but texts. -/
def texts? (node : Node) : Option (List String) := node.items?.bind (·.mapM text?)

end Node

/-- The document that an output writes, if it is one document from its first character to its last. -/
def printed? (output : String) : Option Node :=
  let source := strictJson.source output
  if source.clean then some source.root else none

/-- A printed line is the document that its value writes. -/
theorem printed?_line (value : Json) : printed? (value.compact ++ "\n") = some value.written := by
  rw [printed?, source_compact_line]
  rfl

end Document

/-! ## The documents that values write -/

namespace Json

/-- The fields of a document that is written are those of the value. -/
theorem member?_written (name : String) (value : Json) :
    value.written.member? name = (value.field? name).map written := by
  cases value with
  | object fields =>
    show ((writtenFields fields).find? (fun field => (Strict.text field.1).toOption == some name)).map (·.2)
      = (fields.lookup name).map written
    induction fields with
    | nil => rfl
    | cons field rest ih =>
      obtain ⟨other, value⟩ := field
      rw [writtenFields, List.find?_cons, List.lookup_cons]
      dsimp only
      rw [text_pieces]
      by_cases hname : name = other
      · subst hname
        simp [Except.toOption]
      · have hother : (Option.some other == some name) = false :=
          beq_eq_false_iff_ne.mpr (fun heq => hname (Option.some.inj heq).symm)
        rw [beq_eq_false_iff_ne.mpr hname, ← ih]
        simp [Except.toOption, hother]
  | number value =>
    -- what a number writes is a number, whichever digits it is written with
    obtain ⟨numeral, hnumeral⟩ := value.exists_written
    show value.written.member? name = none
    rw [hnumeral]
    rfl
  | _ => rfl

/-- A text is read back from what it writes. -/
@[simp] theorem text?_written (value : String) : (Json.text value).written.text? = some value := by
  show (Strict.text (pieces value)).toOption = some value
  rw [text_pieces]
  rfl

/-- So is a whole number of 64 bits. -/
theorem whole?_written {value : Int} (h : IsWholeRange value) :
    (Json.ofInt value).written.whole? = some value := by
  have hwritten : (Json.ofInt value).written = .number (wholeParts value).numeral := by
    rw [ofInt, dif_pos h]
    exact Number.written_eq (wholeText_eq value)
  rw [hwritten, Node.whole?, amount_wholeParts h]

@[simp] theorem truth?_written (value : Bool) : (Json.bool value).written.truth? = some value := rfl

/-- Only a truth value writes one. -/
theorem written_eq_bool_iff {value : Json} {truth : Bool} :
    value.written = .bool truth ↔ value = .bool truth := by
  cases value with
  | number value =>
    obtain ⟨numeral, hnumeral⟩ := value.exists_written
    simp [written, hnumeral]
  | _ => simp [written]

theorem writtenItems_eq_map (items : List Json) : writtenItems items = items.map written := by
  induction items with
  | nil => rfl
  | cons item rest ih => rw [writtenItems, ih, List.map_cons]

@[simp] theorem items?_written (items : List Json) :
    (Json.list items).written.items? = some (items.map written) :=
  congrArg some (writtenItems_eq_map items)

/-- Reading each item of a printed list brings what was printed, if reading one item does. -/
theorem mapM_written {α : Type} {print : α → Json} {reader : Node → Option α}
    (h : ∀ a, reader (print a).written = some a) (values : List α) :
    ((values.map print).map written).mapM reader = some values := by
  induction values with
  | nil => rfl
  | cons value rest ih =>
    rw [List.map_cons, List.map_cons, List.mapM_cons, h value, ih]
    rfl

@[simp] theorem texts?_written (texts : List String) : (Json.ofTexts texts).written.texts? = some texts := by
  rw [Node.texts?, ofTexts, items?_written]
  exact mapM_written text?_written texts

end Json

/-! ## Failures -/

/-- What a failed run tells: its message, the place of a statement that is wrong, and the problems of a
    configuration. -/
structure ToldFailure where
  message : String
  place : Option String
  problems : List String
deriving DecidableEq

/-- The failure that a line of JSON tells. -/
def toldFailure? (output : String) : Option ToldFailure := do
  let document ← printed? output
  let error ← document.member? "error"
  let message ← (error.member? "message").bind Node.text?
  let detail := error.member? "data"
  let place := (detail.bind (Node.member? "path")).bind Node.text?
  let problems := (detail.bind (Node.member? "errors")).bind Node.texts?
  return ⟨message, place, problems.getD []⟩

/-- An outcome tells a failure, and nothing else. -/
structure TellsFailure (mode : OutputMode) (told : ToldFailure) (outcome : Outcome) : Prop where
  json : mode = .json → toldFailure? outcome.output = some told ∧ outcome.errors = ""
  /-- The message stands in a line of its own, and below it each problem in another. -/
  lines : mode ≠ .json → outcome.output = "" ∧
    outcome.errors = "error: " ++ told.message ++ "\n"
      ++ String.join (told.problems.map (fun problem => "  - " ++ problem ++ "\n"))

namespace Failure

/-- The problems that are listed below the message of a failure. -/
def problems : Failure → List Config.Problem
  | configProblems _ problems => problems
  | _ => []

/-- What a failure has to tell. -/
def told (failure : Failure) : ToldFailure where
  message := failure.message
  place := match failure with
    | statement error => some error.path
    | _ => none
  problems := failure.problems.map Config.Problem.message

/-- A failure has one line for its message, and one for each problem. -/
theorem lines_eq (failure : Failure) :
    failure.lines = ("error: " ++ failure.message)
      :: failure.problems.map (fun problem => "  - " ++ problem.message) := by
  cases failure <;> rfl

/-- The envelope of a failure is read back as what the failure has to tell. -/
theorem toldFailure?_envelope (failure : Failure) :
    toldFailure? (failure.envelope.compact ++ "\n") = some failure.told := by
  rw [toldFailure?, printed?_line]
  -- only two kinds of failure have a detail, and it holds either the place or the problems
  cases failure <;>
    simp [Json.member?_written, envelope, Json.field?, List.lookup_cons, detail?, told, problems]

end Failure

/-- In JSON mode a failed run prints its envelope to the standard output. -/
theorem Outcome.output_of_error (failure : Failure) :
    (of .json (.error failure)).output = failure.envelope.compact ++ "\n" := by
  show Report.printLines [failure.envelope.compact] = _
  simp [Report.printLines]

/-- In every other mode it prints its lines to the standard error, and nothing else. -/
theorem Outcome.of_error {mode : OutputMode} (hmode : mode ≠ .json) (failure : Failure) :
    of mode (.error failure) = ⟨failure.exitCode, "", Report.printLines failure.lines⟩ := by
  cases mode with
  | json => exact absurd rfl hmode
  | _ => rfl

/-- What a failed run leaves behind tells the failure, however it is printed. -/
theorem tellsFailure_of_error (mode : OutputMode) (failure : Failure) :
    TellsFailure mode failure.told (.of mode (.error failure)) where
  json hmode := by
    subst hmode
    rw [Outcome.output_of_error]
    exact ⟨failure.toldFailure?_envelope, rfl⟩
  lines hmode := by
    rw [Outcome.of_error hmode]
    refine ⟨rfl, ?_⟩
    show Report.printLines failure.lines = _
    rw [failure.lines_eq]
    simp [Report.printLines, Failure.told, List.map_map, Function.comp_def]

/-! ## Results -/

namespace Report

/-- Every result but a script is printed as one envelope in JSON mode. -/
theorem print_json {report : Report} {result : Json} (h : report.toJson? = some result) :
    report.print .json = (resultEnvelope result).compact ++ "\n" := by
  have hprint : report.print .json
      = printLines (report.toJson?.toList.map (fun result => (resultEnvelope result).compact)) := by
    cases report with
    | script text => cases h
    | _ => rfl
  rw [hprint, h]
  simp [printLines]

/-- Every result but a script is printed as nothing in quiet mode. -/
theorem print_quiet {report : Report} {result : Json} (h : report.toJson? = some result) :
    report.print .quiet = "" := by
  cases report with
  | script text => cases h
  | _ => rfl

end Report

/-- The result that a line of JSON tells. -/
def toldResult? (output : String) : Option Node := do
  let document ← printed? output
  document.member? "result"

/-- A result that is printed in JSON mode is told. -/
theorem Report.toldResult?_print {report : Report} {result : Json} (h : report.toJson? = some result) :
    toldResult? (report.print .json) = some result.written := by
  rw [print_json h, toldResult?, printed?_line]
  show (resultEnvelope result).written.member? "result" = _
  rw [Json.member?_written]
  rfl

/-! ## Verdicts -/

/-- What a test tells: the predicate, whether it holds, and of which facts if they are shown. -/
structure ToldTest where
  predicate : String
  satisfied : Bool
  facts : Option (List String)
deriving DecidableEq

/-- The verdict that a line of JSON tells. -/
def toldTest? (output : String) : Option ToldTest := do
  let result ← toldResult? output
  let predicate ← (result.member? "predicate").bind Node.text?
  let satisfied ← (result.member? "satisfied").bind Node.truth?
  match result.member? "facts" with
  | some facts => return ⟨predicate, satisfied, some (← facts.texts?)⟩
  | none => return ⟨predicate, satisfied, none⟩

/-- The line below a verdict, if facts are shown. -/
def ToldTest.factsLine (told : ToldTest) : String :=
  match told.facts with
  | some facts => "  facts: " ++ ", ".intercalate facts ++ "\n"
  | none => ""

/-- An outcome tells the verdict of a test, and nothing else. -/
structure TellsTest (mode : OutputMode) (told : ToldTest) (outcome : Outcome) : Prop where
  no_errors : outcome.errors = ""
  json : mode = .json → toldTest? outcome.output = some told
  lines : mode = .lines → outcome.output =
    (if told.satisfied then "✓ holds: " else "✗ does not hold: ") ++ told.predicate ++ "\n"
      ++ told.factsLine
  /-- In quiet mode the verdict is left to the exit code. -/
  quiet : mode = .quiet → outcome.output = ""

/-- What a test leaves behind tells its verdict and the facts that it is to show. -/
theorem tellsTest_of_tested (mode : OutputMode) (predicate : Predicate) (holds : Bool)
    (shown : Option (List String)) :
    TellsTest mode ⟨predicate.text, holds, shown⟩ (.of mode (.ok (.tested predicate holds shown))) where
  no_errors := rfl
  json hmode := by
    subst hmode
    show toldTest? ((Report.tested predicate holds shown).print .json) = _
    rw [toldTest?, Report.toldResult?_print rfl]
    cases shown <;> simp [Json.member?_written, Json.field?, List.lookup_cons]
  lines hmode := by
    subst hmode
    show Report.printLines (Report.tested predicate holds shown).lines = _
    cases shown <;> simp [Report.printLines, Report.lines, ToldTest.factsLine]
  quiet hmode := by
    subst hmode
    rfl

/-! ## Listings -/

/-- The predicate that an entry in JSON lists: a name, and either a predicate or an error, not both. -/
def toldPredicate? (entry : Node) : Option ListedPredicate := do
  let name ← (entry.member? "name").bind Node.text?
  match entry.member? "predicate", entry.member? "error" with
  | some shown, none => return ⟨name, .ok (← shown.text?)⟩
  | none, some shown => return ⟨name, .error (← shown.text?)⟩
  | _, _ => none

/-- The predicates that a line of JSON lists. -/
def toldPredicates? (output : String) : Option (List ListedPredicate) := do
  let result ← toldResult? output
  let entries ← (result.member? "predicates").bind Node.items?
  entries.mapM toldPredicate?

/-- A line of a listing: the name, blanks, and the predicate, or the message why there is none. -/
def ListedPredicate.IsRow (entry : ListedPredicate) (row : String) : Prop :=
  ∃ blanks : Nat, row = "  " ++ entry.name ++ String.ofList (List.replicate blanks ' ') ++ "  "
    ++ match entry.shown with
      | .ok text => text
      | .error message => "✗ " ++ message

/-- An outcome lists predicates, each in its place. -/
structure TellsListing (mode : OutputMode) (entries : List ListedPredicate) (outcome : Outcome) : Prop where
  no_errors : outcome.errors = ""
  json : mode = .json → toldPredicates? outcome.output = some entries
  /-- The predicates have a line each, before all else that is listed. -/
  lines : mode = .lines → ∃ rows rest, List.Forall₂ ListedPredicate.IsRow entries rows ∧
    outcome.output = "Predicates:\n" ++ String.join (rows.map (· ++ "\n")) ++ rest
  quiet : mode = .quiet → outcome.output = ""

/-- An entry is read back as it was, with its predicate or with its error. -/
theorem toldPredicate?_written (entry : ListedPredicate) :
    toldPredicate? (Report.listedJson entry).written = some entry := by
  obtain ⟨name, shown⟩ := entry
  cases shown <;>
    simp [toldPredicate?, Json.member?_written, Report.listedJson, Json.field?, List.lookup_cons]

/-- The lines of a listing begin with a title and a line for each predicate. -/
theorem Report.lines_listing (entries : List ListedPredicate) (facts : List (String × List String)) :
    ∃ rows others, List.Forall₂ ListedPredicate.IsRow entries rows ∧
      (listing entries facts).lines = "Predicates:" :: (rows ++ others) := by
  -- names are filled up to one width, so that what they stand for is in one column
  let width := listingWidth (entries.map (·.name) ++ facts.map (·.1))
  let row (entry : ListedPredicate) : String :=
    listedLine width entry.name (match entry.shown with
      | .ok text => text
      | .error message => "✗ " ++ message)
  have hrow (entry : ListedPredicate) : entry.IsRow (row entry) := ⟨width - entry.name.length, rfl⟩
  have hrows : List.Forall₂ ListedPredicate.IsRow entries (entries.map row) :=
    List.forall₂_map_right_iff.mpr (List.forall₂_same.mpr (fun entry _ => hrow entry))
  let factsPart := listedPart "Fact sets:"
    (facts.map (fun set => listedLine width set.1 (", ".intercalate set.2)))
  cases entries with
  | nil => exact ⟨[], "  (none)" :: "" :: factsPart, .nil, rfl⟩
  | cons entry rest =>
    refine ⟨(entry :: rest).map row, "" :: factsPart, hrows, ?_⟩
    show "Predicates:" :: ((entry :: rest).map row ++ [""] ++ factsPart) = _
    rw [List.append_assoc, List.singleton_append]

/-- What a listing leaves behind tells what each name stands for. -/
theorem tellsListing_of_listing (mode : OutputMode) (entries : List ListedPredicate)
    (facts : List (String × List String)) :
    TellsListing mode entries (.of mode (.ok (.listing entries facts))) where
  no_errors := rfl
  json hmode := by
    subst hmode
    show toldPredicates? ((Report.listing entries facts).print .json) = _
    rw [toldPredicates?, Report.toldResult?_print rfl]
    have hentries : ((entries.map Report.listedJson).map Json.written).mapM toldPredicate? = some entries :=
      Json.mapM_written toldPredicate?_written entries
    simpa [Json.member?_written, Json.field?, List.lookup_cons] using hentries
  lines hmode := by
    subst hmode
    obtain ⟨rows, others, hrows, hlines⟩ := Report.lines_listing entries facts
    refine ⟨rows, Report.printLines others, hrows, ?_⟩
    show Report.printLines (Report.listing entries facts).lines = _
    rw [hlines]
    simp [Report.printLines, String.append_assoc]
  quiet hmode := by
    subst hmode
    rfl

end RollConditions
