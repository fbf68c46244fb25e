/-
  Verification tells everything that is wrong, and nothing twice.

  A configuration can be wrong in a named predicate, in a base fact, and in a fact of a named set.  These are
  its SITES, in the order in which they are looked at.  `HasProblem` says of each site alone what is wrong
  with it, and `IsFullReport` what a report of all problems is: the sites ascend, so none comes twice, and a
  site is reported exactly if it has a problem, whatever is wrong elsewhere.

    1. THE REPORT.  Verification sweeps three collections one after another, and none of the sweeps stops at
       what it finds.  `reports` is the list of its problems with their sites (`isFullReport_reports`).
    2. ENTRIES.  Named values are kept in ascending order.  So if one of them is changed, put in or taken out,
       those before it and those after it stay as they are (`Catalog.exists_split`), and so do their reports
       (`AgreeBut.exists_parts`).
    3. INSIDE A PREDICATE.  Only the reading of one predicate stops at the first fault.  Its path begins with
       the place of the statement at fault (`exists_fault_of_predicate?_eq_error`).
-/
import Mathlib.Data.List.Sort
import RollConditions.Proofs.Relocation
import RollConditions.Proofs.RunSteps

namespace RollConditions

/-! ## Catalogs that differ under one name -/

/-- Two lists of the same values under the same names are one list: their order leaves no choice. -/
theorem Ascending.eq_of_mem_iff {α : Type} {entries others : List (String × α)} (h : Ascending entries)
    (hothers : Ascending others) (hmem : ∀ entry, entry ∈ entries ↔ entry ∈ others) : entries = others := by
  have irrefl : Std.Irrefl (fun a b : String × α => a.1 < b.1) := ⟨fun a => String.lt_irrefl a.1⟩
  have antisymm : Std.Antisymm (fun a b : String × α => a.1 < b.1) :=
    ⟨fun _ _ hab hba => absurd hba (String.lt_asymm hab)⟩
  exact List.Pairwise.eq_of_mem_iff h hothers hmem

namespace Catalog

variable {α : Type}

/-- A catalog is known by what stands under its names. -/
theorem eq_of_get?_eq {catalog other : Catalog α} (h : ∀ name, catalog.get? name = other.get? name) :
    catalog = other := by
  obtain ⟨entries, hentries⟩ := catalog
  obtain ⟨others, hothers⟩ := other
  have hmem : ∀ entry, entry ∈ entries ↔ entry ∈ others := by
    rintro ⟨name, value⟩
    rw [← hentries.lookup_eq_some_iff, ← hothers.lookup_eq_some_iff]
    exact iff_of_eq (congrArg (· = some value) (h name))
  obtain rfl : entries = others := hentries.eq_of_mem_iff hothers hmem
  rfl

/-- The entry with a name, if there is one. -/
def entry (catalog : Catalog α) (name : String) : List (String × α) :=
  (catalog.get? name).toList.map (fun value => (name, value))

/-- The entry with a name is among the entries, and no other entry has the name. -/
theorem mem_entry_iff {catalog : Catalog α} {name : String} {entry : String × α} :
    entry ∈ catalog.entry name ↔ entry ∈ catalog.entries ∧ entry.1 = name := by
  obtain ⟨other, value⟩ := entry
  rw [Catalog.entry, List.mem_map]
  simp only [Option.mem_toList, Prod.mk.injEq, get?_eq_some_iff]
  constructor
  · rintro ⟨found, hfound, rfl, rfl⟩
    exact ⟨hfound, rfl⟩
  · rintro ⟨hmem, rfl⟩
    exact ⟨value, hmem, rfl, rfl⟩

/-- The entries before a name, the one with the name, and those after it. -/
theorem entries_eq_split (catalog : Catalog α) (name : String) :
    catalog.entries = catalog.entries.filter (fun entry => decide (entry.1 < name))
      ++ catalog.entry name ++ catalog.entries.filter (fun entry => decide (name < entry.1)) := by
  have hbefore : ∀ a ∈ catalog.entries.filter (fun entry => decide (entry.1 < name)), a.1 < name :=
    fun a ha => of_decide_eq_true (List.mem_filter.mp ha).2
  have hname : ∀ a ∈ catalog.entry name, a.1 = name := fun a ha => (mem_entry_iff.mp ha).2
  have hafter : ∀ a ∈ catalog.entries.filter (fun entry => decide (name < entry.1)), name < a.1 :=
    fun a ha => of_decide_eq_true (List.mem_filter.mp ha).2
  refine catalog.ascending.eq_of_mem_iff ?_ ?_
  · -- each part ascends, and the names of one part are before those of the next
    refine List.pairwise_append.mpr ⟨List.pairwise_append.mpr ⟨?_, ?_, ?_⟩, ?_, ?_⟩
    · exact catalog.ascending.filter _
    · rw [Catalog.entry]
      cases catalog.get? name with
      | none => exact List.Pairwise.nil
      | some value => exact List.pairwise_singleton _ _
    · intro a ha b hb
      rw [hname b hb]
      exact hbefore a ha
    · exact catalog.ascending.filter _
    · intro a ha b hb
      rcases List.mem_append.mp ha with ha | ha
      · exact String.lt_trans (hbefore a ha) (hafter b hb)
      · rw [hname a ha]
        exact hafter b hb
  · intro entry
    rw [List.mem_append, List.mem_append, List.mem_filter, List.mem_filter, mem_entry_iff,
      decide_eq_true_iff, decide_eq_true_iff]
    constructor
    · intro hmem
      rcases Std.lt_trichotomy entry.1 name with hlt | heq | hgt
      · exact Or.inl (Or.inl ⟨hmem, hlt⟩)
      · exact Or.inl (Or.inr ⟨hmem, heq⟩)
      · exact Or.inr ⟨hmem, hgt⟩
    · rintro ((h | h) | h) <;> exact h.1

/-- **Catalogs that differ under one name differ in one entry**: what is before it is the same in both, and
    so is what is after it. -/
theorem exists_split {catalog other : Catalog α} {name : String}
    (h : ∀ different, different ≠ name → catalog.get? different = other.get? different) :
    ∃ before after, catalog.entries = before ++ catalog.entry name ++ after ∧
      other.entries = before ++ other.entry name ++ after ∧
      ∀ entry ∈ before ++ after, entry.1 ≠ name := by
  -- entries with other names are the same, and so are those on one side of the name
  have hmem : ∀ entry : String × α, entry.1 ≠ name →
      (entry ∈ catalog.entries ↔ entry ∈ other.entries) := by
    rintro ⟨different, value⟩ hne
    rw [← get?_eq_some_iff, ← get?_eq_some_iff, h different hne]
  have hfilter : ∀ side : String × α → Bool, (∀ entry, side entry = true → entry.1 ≠ name) →
      catalog.entries.filter side = other.entries.filter side := by
    intro side hside
    refine Ascending.eq_of_mem_iff (catalog.ascending.filter _) (other.ascending.filter _) ?_
    intro entry
    rw [List.mem_filter, List.mem_filter]
    exact and_congr_left (fun hentry => hmem entry (hside entry hentry))
  have hlt : ∀ entry : String × α, decide (entry.1 < name) = true → entry.1 ≠ name := by
    intro entry hlt heq
    have hlt := of_decide_eq_true hlt
    rw [heq] at hlt
    exact String.lt_irrefl name hlt
  have hgt : ∀ entry : String × α, decide (name < entry.1) = true → entry.1 ≠ name := by
    intro entry hgt heq
    have hgt := of_decide_eq_true hgt
    rw [heq] at hgt
    exact String.lt_irrefl name hgt
  refine ⟨_, _, catalog.entries_eq_split name, ?_, ?_⟩
  · rw [hfilter _ hlt, hfilter _ hgt]
    exact other.entries_eq_split name
  · intro entry hentry
    rcases List.mem_append.mp hentry with hentry | hentry
    · exact hlt entry (List.mem_filter.mp hentry).2
    · exact hgt entry (List.mem_filter.mp hentry).2

/-- What is put under a name is found under no other one. -/
theorem get?_insert_of_ne (catalog : Catalog α) {name other : String} (h : other ≠ name) (value : α) :
    (catalog.insert name value).get? other = catalog.get? other := by
  show (insertNamed name value catalog.entries).lookup other = catalog.entries.lookup other
  have hname : (other == name) = false := beq_eq_false_iff_ne.mpr h
  induction catalog.entries with
  | nil => rw [insertNamed, List.lookup_cons, hname]
  | cons entry rest ih =>
    obtain ⟨first, old⟩ := entry
    rw [insertNamed]
    split
    · rw [List.lookup_cons, hname]
    · split
      · rename_i heq
        rw [List.lookup_cons, List.lookup_cons, ← heq, hname]
      · rw [List.lookup_cons, List.lookup_cons, ih]

end Catalog

namespace Config

/-! ## Sites and their problems -/

/-- A part of a configuration that can be wrong. -/
inductive Site where
  | predicate (name : String)
  /-- A base fact, by its position. -/
  | baseFact (position : Nat)
  /-- A fact of a named set, by its position in the set. -/
  | namedFact (name : String) (position : Nat)

namespace Site

/-- One site is looked at before another one: predicates by name, then base facts by position, then the
    facts of named sets by name and, in one set, by position. -/
inductive Before : Site → Site → Prop where
  | predicates {name other : String} (h : name < other) : Before (.predicate name) (.predicate other)
  | predicate_baseFact {name : String} {position : Nat} : Before (.predicate name) (.baseFact position)
  | predicate_namedFact {name set : String} {position : Nat} :
    Before (.predicate name) (.namedFact set position)
  | baseFacts {position later : Nat} (h : position < later) :
    Before (.baseFact position) (.baseFact later)
  | baseFact_namedFact {position : Nat} {set : String} {later : Nat} :
    Before (.baseFact position) (.namedFact set later)
  | sets {set other : String} (h : set < other) {position later : Nat} :
    Before (.namedFact set position) (.namedFact other later)
  | namedFacts {set : String} {position later : Nat} (h : position < later) :
    Before (.namedFact set position) (.namedFact set later)

/-- No site is looked at before itself. -/
theorem Before.ne {site other : Site} (h : site.Before other) : site ≠ other := by
  rintro rfl
  cases h with
  | predicates h => exact String.lt_irrefl _ h
  | baseFacts h => exact Nat.lt_irrefl _ h
  | sets h => exact String.lt_irrefl _ h
  | namedFacts h => exact Nat.lt_irrefl _ h

end Site

/-- What is wrong with a site, as a message.  It depends on nothing but what stands at that site. -/
inductive HasProblem (config : Config) : Site → String → Prop where
  /-- A named predicate cannot be made. -/
  | predicate {name : String} {error : StatementError}
    (hpredicate : config.predicate? name = some (.error error)) :
    HasProblem config (.predicate name) (error.path ++ ": " ++ error.reason)
  /-- A base fact is empty. -/
  | baseFact {position : Nat} (hempty : config.settings.baseFacts[position]? = some "") :
    HasProblem config (.baseFact position)
      ("settings.base_facts[" ++ toString position ++ "]: empty roll option")
  /-- A fact of a named set is empty. -/
  | namedFact {set : String} {facts : List String} {position : Nat}
    (hset : config.facts.get? set = some facts) (hempty : facts[position]? = some "") :
    HasProblem config (.namedFact set position)
      ("facts." ++ set ++ "[" ++ toString position ++ "]: empty roll option")

/-- Messages with their sites are all that verification tells, and tell of every site that has a problem,
    once and in order, and of no other. -/
structure IsFullReport (config : Config) (reports : List (Site × String)) : Prop where
  /-- The messages are those of verification, in the same order. -/
  messages : config.problems.map Problem.message = reports.map (·.2)
  /-- The sites are in the order in which they are looked at. -/
  ascending : (reports.map (·.1)).Pairwise Site.Before
  /-- A site is told of exactly if it has a problem. -/
  mem_iff : ∀ site message, (site, message) ∈ reports ↔ config.HasProblem site message

/-- No site is told of twice. -/
theorem IsFullReport.nodup {config : Config} {reports : List (Site × String)}
    (h : config.IsFullReport reports) : (reports.map (·.1)).Nodup :=
  h.ascending.imp Site.Before.ne

/-! ## The report of a configuration -/

/-- The report of a named predicate, if it cannot be made. -/
def predicateReport? (entry : String × Json) : Option (Site × String) :=
  (refusal? (readPredicate entry.1 entry.2)).map (fun error =>
    (.predicate entry.1, error.path ++ ": " ++ error.reason))

/-- The reports of the empty facts of a list that stands somewhere. -/
def emptyReports (site : Nat → Site) (place : String) (facts : List String) : List (Site × String) :=
  facts.zipIdx.filterMap (fun (fact, position) =>
    if fact.isEmpty then some (site position, place ++ "[" ++ toString position ++ "]: empty roll option")
    else none)

/-- The reports of the empty base facts. -/
def baseReports (settings : Settings) : List (Site × String) :=
  emptyReports .baseFact "settings.base_facts" settings.baseFacts

/-- The reports of the empty facts of a named set. -/
def setReports (entry : String × List String) : List (Site × String) :=
  emptyReports (.namedFact entry.1) ("facts." ++ entry.1) entry.2

/-- Everything that is wrong with a configuration, each problem with its site. -/
def reports (config : Config) : List (Site × String) :=
  config.predicates.entries.filterMap predicateReport?
    ++ baseReports config.settings
    ++ config.facts.entries.flatMap setReports

/-! ### Messages -/

/-- The empty facts of a list are told as they are reported. -/
theorem map_message_emptyFacts (site : Nat → Site) (place : String) (facts : List String) :
    (emptyFacts place facts).map Problem.message = (emptyReports site place facts).map (·.2) := by
  rw [emptyFacts, emptyReports, List.map_filterMap, List.map_filterMap]
  congr 1
  funext ⟨fact, position⟩
  dsimp only
  split <;> rfl

/-- What verification tells is what the reports say. -/
theorem map_message_problems (config : Config) :
    config.problems.map Problem.message = config.reports.map (·.2) := by
  have hpredicate : ∀ entry, (predicateProblem? entry).map Problem.message
      = (predicateReport? entry).map (·.2) := by
    intro entry
    rw [predicateProblem?, predicateReport?]
    cases readPredicate entry.1 entry.2 <;> rfl
  have hset : ∀ entry : String × List String, (emptyFacts ("facts." ++ entry.1) entry.2).map Problem.message
      = (setReports entry).map (·.2) :=
    fun entry => map_message_emptyFacts _ _ _
  rw [problems, reports, baseReports]
  simp only [List.map_append, List.map_filterMap, List.map_flatMap, hpredicate, hset,
    map_message_emptyFacts .baseFact]

/-! ### Order -/

/-- The empty facts of a list are reported by position. -/
theorem pairwise_emptyReports {site : Nat → Site}
    (hsite : ∀ position later, position < later → (site position).Before (site later)) (place : String)
    (facts : List String) :
    (emptyReports site place facts).Pairwise (fun a b => a.1.Before b.1) := by
  have hpositions : facts.zipIdx.Pairwise (fun a b => a.2 < b.2) := by
    have hrange : (facts.zipIdx.map (·.2)).Pairwise (· < ·) := by
      rw [List.zipIdx_map_snd]
      exact List.pairwise_lt_range' 1
    exact List.pairwise_map.mp hrange
  rw [emptyReports, List.pairwise_filterMap]
  refine hpositions.imp (fun {a b} hlt report hreport later hlater => ?_)
  obtain ⟨-, hreport⟩ := Option.ite_none_right_eq_some.mp hreport
  obtain ⟨-, hlater⟩ := Option.ite_none_right_eq_some.mp hlater
  obtain rfl := Option.some.inj hreport
  obtain rfl := Option.some.inj hlater
  exact hsite _ _ hlt

/-- A named predicate is reported with the error of its reading. -/
theorem predicateReport?_eq_some_iff {name : String} {raw : Json} {report : Site × String} :
    predicateReport? (name, raw) = some report ↔
      ∃ error, readPredicate name raw = .error error ∧
        report = (.predicate name, error.path ++ ": " ++ error.reason) := by
  rw [predicateReport?, Option.map_eq_some_iff]
  simp only [refusal?_eq_some_iff, eq_comm (a := report)]

/-- A position of a list is reported exactly if the fact there is empty. -/
theorem mem_emptyReports_iff {site : Nat → Site} {place : String} {facts : List String}
    {report : Site × String} :
    report ∈ emptyReports site place facts ↔
      ∃ position, facts[position]? = some "" ∧
        report = (site position, place ++ "[" ++ toString position ++ "]: empty roll option") := by
  rw [emptyReports, List.mem_filterMap]
  constructor
  · rintro ⟨⟨fact, position⟩, hmem, hreport⟩
    obtain ⟨hempty, hreport⟩ := Option.ite_none_right_eq_some.mp hreport
    obtain rfl := String.isEmpty_iff.mp hempty
    exact ⟨position, List.mem_zipIdx_iff_getElem?.mp hmem, (Option.some.inj hreport).symm⟩
  · rintro ⟨position, hempty, rfl⟩
    exact ⟨("", position), List.mem_zipIdx_iff_getElem?.mpr hempty, if_pos rfl⟩

theorem site_of_predicateReport? {entry : String × Json} {report : Site × String}
    (h : predicateReport? entry = some report) : report.1 = .predicate entry.1 := by
  obtain ⟨error, -, rfl⟩ := predicateReport?_eq_some_iff.mp h
  rfl

theorem site_of_mem_emptyReports {site : Nat → Site} {place : String} {facts : List String}
    {report : Site × String} (h : report ∈ emptyReports site place facts) :
    ∃ position, report.1 = site position := by
  obtain ⟨position, -, rfl⟩ := mem_emptyReports_iff.mp h
  exact ⟨position, rfl⟩

/-- The reports ascend. -/
theorem pairwise_reports (config : Config) : config.reports.Pairwise (fun a b => a.1.Before b.1) := by
  refine List.pairwise_append.mpr ⟨List.pairwise_append.mpr ⟨?_, ?_, ?_⟩, ?_, ?_⟩
  · -- the predicates
    rw [List.pairwise_filterMap]
    refine config.predicates.ascending.imp (fun {a b} hlt report hreport later hlater => ?_)
    rw [site_of_predicateReport? hreport, site_of_predicateReport? hlater]
    exact .predicates hlt
  · exact pairwise_emptyReports (fun _ _ => .baseFacts) _ _
  · intro report hreport later hlater
    obtain ⟨entry, -, hreport⟩ := List.mem_filterMap.mp hreport
    obtain ⟨position, hposition⟩ := site_of_mem_emptyReports hlater
    rw [site_of_predicateReport? hreport, hposition]
    exact .predicate_baseFact
  · -- the named sets
    rw [List.pairwise_flatMap]
    refine ⟨fun entry _ => pairwise_emptyReports (fun _ _ => .namedFacts) _ _, ?_⟩
    refine config.facts.ascending.imp (fun {a b} hlt report hreport later hlater => ?_)
    obtain ⟨position, hposition⟩ := site_of_mem_emptyReports hreport
    obtain ⟨position', hposition'⟩ := site_of_mem_emptyReports hlater
    rw [hposition, hposition']
    exact .sets hlt
  · intro report hreport later hlater
    obtain ⟨set, -, hlater⟩ := List.mem_flatMap.mp hlater
    obtain ⟨position, hposition⟩ := site_of_mem_emptyReports hlater
    rw [hposition]
    rcases List.mem_append.mp hreport with hreport | hreport
    · obtain ⟨entry, -, hreport⟩ := List.mem_filterMap.mp hreport
      rw [site_of_predicateReport? hreport]
      exact .predicate_namedFact
    · obtain ⟨position', hposition'⟩ := site_of_mem_emptyReports hreport
      rw [hposition']
      exact .baseFact_namedFact

/-! ### Completeness -/

theorem mem_reports_iff {config : Config} {site : Site} {message : String} :
    (site, message) ∈ config.reports ↔ config.HasProblem site message := by
  rw [reports, List.mem_append, List.mem_append, List.mem_filterMap, baseReports, mem_emptyReports_iff,
    List.mem_flatMap]
  constructor
  · rintro ((⟨⟨name, raw⟩, hentry, hreport⟩ | ⟨position, hempty, hreport⟩) |
      ⟨⟨set, facts⟩, hentry, hreport⟩)
    · obtain ⟨error, herror, heq⟩ := predicateReport?_eq_some_iff.mp hreport
      obtain ⟨rfl, rfl⟩ := Prod.mk.inj heq
      exact .predicate (predicate?_eq_some_iff.mpr ⟨raw, Catalog.get?_eq_some_iff.mpr hentry, herror⟩)
    · obtain ⟨rfl, rfl⟩ := Prod.mk.inj hreport
      exact .baseFact hempty
    · obtain ⟨position, hempty, heq⟩ := mem_emptyReports_iff.mp hreport
      obtain ⟨rfl, rfl⟩ := Prod.mk.inj heq
      exact .namedFact (Catalog.get?_eq_some_iff.mpr hentry) hempty
  · intro hproblem
    cases hproblem with
    | @predicate name error hpredicate =>
      obtain ⟨raw, hraw, herror⟩ := predicate?_eq_some_iff.mp hpredicate
      exact Or.inl (Or.inl ⟨(name, raw), Catalog.get?_eq_some_iff.mp hraw,
        predicateReport?_eq_some_iff.mpr ⟨error, herror, rfl⟩⟩)
    | @baseFact position hempty => exact Or.inl (Or.inr ⟨position, hempty, rfl⟩)
    | @namedFact set facts position hset hempty =>
      exact Or.inr ⟨(set, facts), Catalog.get?_eq_some_iff.mp hset,
        mem_emptyReports_iff.mpr ⟨position, hempty, rfl⟩⟩

/-- **Verification tells everything that is wrong**, each of it once and in order. -/
theorem isFullReport_reports (config : Config) : config.IsFullReport config.reports where
  messages := config.map_message_problems
  ascending := List.pairwise_map.mpr config.pairwise_reports
  mem_iff _ _ := mem_reports_iff

/-- Nothing is told of a configuration of which all predicates can be made and no fact is empty. -/
theorem problems_eq_nil_iff {config : Config} : config.problems = [] ↔
    (∀ name result, config.predicate? name = some result → ∃ predicate, result = .ok predicate) ∧
    "" ∉ config.settings.baseFacts ∧
    ∀ set facts, config.facts.get? set = some facts → "" ∉ facts := by
  have hnil : config.problems = [] ↔ ∀ site message, ¬ config.HasProblem site message := by
    rw [← List.map_eq_nil_iff (f := Problem.message), map_message_problems, List.map_eq_nil_iff,
      List.eq_nil_iff_forall_not_mem]
    simp only [Prod.forall, mem_reports_iff]
  rw [hnil]
  constructor
  · intro hnone
    refine ⟨?_, ?_, ?_⟩
    · intro name result hpredicate
      cases result with
      | ok predicate => exact ⟨predicate, rfl⟩
      | error error => exact absurd (.predicate hpredicate) (hnone _ _)
    · intro hmem
      obtain ⟨position, hempty⟩ := List.mem_iff_getElem?.mp hmem
      exact hnone _ _ (.baseFact hempty)
    · intro set facts hset hmem
      obtain ⟨position, hempty⟩ := List.mem_iff_getElem?.mp hmem
      exact hnone _ _ (.namedFact hset hempty)
  · rintro ⟨hpredicates, hbase, hsets⟩ site message hproblem
    cases hproblem with
    | predicate hpredicate =>
      obtain ⟨predicate, hok⟩ := hpredicates _ _ hpredicate
      cases hok
    | baseFact hempty => exact hbase (List.mem_of_getElem? hempty)
    | namedFact hset hempty => exact hsets _ _ hset (List.mem_of_getElem? hempty)

/-! ## One entry -/

/-- What stands under one name. -/
inductive Entry where
  | predicate (name : String)
  | facts (name : String)

/-- The entry that a site belongs to, if it stands under a name. -/
def Site.owner? : Site → Option Entry
  | predicate name => some (.predicate name)
  | baseFact _ => none
  | namedFact set _ => some (.facts set)

/-- Two configurations differ at most in one entry, which either may lack. -/
structure AgreeBut (entry : Entry) (config other : Config) : Prop where
  settings : config.settings = other.settings
  predicates : ∀ name, entry ≠ .predicate name → config.predicates.get? name = other.predicates.get? name
  facts : ∀ set, entry ≠ .facts set → config.facts.get? set = other.facts.get? set

/-- Putting a raw value under the name of a predicate changes one entry. -/
theorem agreeBut_insert (config : Config) (name : String) (raw : Json) :
    AgreeBut (.predicate name) config { config with predicates := config.predicates.insert name raw } where
  settings := rfl
  predicates _ h :=
    (config.predicates.get?_insert_of_ne (fun heq => h (congrArg Entry.predicate heq.symm)) raw).symm
  facts _ _ := rfl

/-- What is reported of predicates belongs to their entries. -/
theorem owner?_of_mem_predicateReports {entries : List (String × Json)} {report : Site × String}
    (h : report ∈ entries.filterMap predicateReport?) :
    ∃ entry ∈ entries, report.1.owner? = some (.predicate entry.1) := by
  obtain ⟨entry, hentry, hreport⟩ := List.mem_filterMap.mp h
  exact ⟨entry, hentry, by rw [site_of_predicateReport? hreport, Site.owner?]⟩

/-- What is reported of base facts belongs to no entry. -/
theorem owner?_of_mem_baseReports {settings : Settings} {report : Site × String}
    (h : report ∈ baseReports settings) : report.1.owner? = none := by
  obtain ⟨position, hposition⟩ := site_of_mem_emptyReports h
  rw [hposition, Site.owner?]

/-- What is reported of sets belongs to their entries. -/
theorem owner?_of_mem_setReports {entries : List (String × List String)} {report : Site × String}
    (h : report ∈ entries.flatMap setReports) :
    ∃ entry ∈ entries, report.1.owner? = some (.facts entry.1) := by
  obtain ⟨entry, hentry, hreport⟩ := List.mem_flatMap.mp h
  obtain ⟨position, hposition⟩ := site_of_mem_emptyReports hreport
  exact ⟨entry, hentry, by rw [hposition, Site.owner?]⟩

/-- Reports parted at an entry: all that belong to it stand together. -/
structure PartedAt (entry : Entry) (reports before own after : List (Site × String)) : Prop where
  eq : reports = before ++ own ++ after
  own : ∀ report ∈ own, report.1.owner? = some entry
  others : ∀ report ∈ before ++ after, report.1.owner? ≠ some entry

/-- The reports part at a predicate: it is the first of the three sweeps that its entry parts. -/
theorem partedAt_predicate {config : Config} {name : String} {before after : List (String × Json)}
    (hentries : config.predicates.entries = before ++ config.predicates.entry name ++ after)
    (hnames : ∀ entry ∈ before ++ after, entry.1 ≠ name) :
    PartedAt (.predicate name) config.reports (before.filterMap predicateReport?)
      ((config.predicates.entry name).filterMap predicateReport?)
      (after.filterMap predicateReport?
        ++ (baseReports config.settings ++ config.facts.entries.flatMap setReports)) where
  eq := by
    rw [reports, hentries]
    simp only [List.filterMap_append, List.append_assoc]
  own := by
    intro report hreport
    obtain ⟨entry, hentry, hsite⟩ := owner?_of_mem_predicateReports hreport
    rw [hsite, (Catalog.mem_entry_iff.mp hentry).2]
  others := by
    -- the other predicates have other names, and the other sweeps report no predicates
    intro report hreport heq
    rw [← List.append_assoc, ← List.filterMap_append] at hreport
    rcases List.mem_append.mp hreport with hreport | hreport
    · obtain ⟨entry, hentry, hsite⟩ := owner?_of_mem_predicateReports hreport
      rw [hsite, Option.some.injEq, Entry.predicate.injEq] at heq
      exact hnames entry hentry heq
    · rcases List.mem_append.mp hreport with hreport | hreport
      · rw [owner?_of_mem_baseReports hreport] at heq
        cases heq
      · obtain ⟨entry, -, hsite⟩ := owner?_of_mem_setReports hreport
        rw [hsite] at heq
        cases heq

/-- The reports part at a set as well, in the third sweep. -/
theorem partedAt_facts {config : Config} {set : String} {before after : List (String × List String)}
    (hentries : config.facts.entries = before ++ config.facts.entry set ++ after)
    (hnames : ∀ entry ∈ before ++ after, entry.1 ≠ set) :
    PartedAt (.facts set) config.reports
      (config.predicates.entries.filterMap predicateReport?
        ++ baseReports config.settings ++ before.flatMap setReports)
      ((config.facts.entry set).flatMap setReports) (after.flatMap setReports) where
  eq := by
    rw [reports, hentries]
    simp only [List.flatMap_append, List.append_assoc]
  own := by
    intro report hreport
    obtain ⟨entry, hentry, hsite⟩ := owner?_of_mem_setReports hreport
    rw [hsite, (Catalog.mem_entry_iff.mp hentry).2]
  others := by
    intro report hreport heq
    rw [List.append_assoc, ← List.flatMap_append] at hreport
    rcases List.mem_append.mp hreport with hreport | hreport
    · rcases List.mem_append.mp hreport with hreport | hreport
      · obtain ⟨entry, -, hsite⟩ := owner?_of_mem_predicateReports hreport
        rw [hsite] at heq
        cases heq
      · rw [owner?_of_mem_baseReports hreport] at heq
        cases heq
    · obtain ⟨entry, hentry, hsite⟩ := owner?_of_mem_setReports hreport
      rw [hsite, Option.some.injEq, Entry.facts.injEq] at heq
      exact hnames entry hentry heq

/-- What is reported outside of one entry stays as it is, and so does its order, if that entry is changed. -/
theorem AgreeBut.exists_parts {entry : Entry} {config other : Config} (h : AgreeBut entry config other) :
    ∃ before own own' after, PartedAt entry config.reports before own after ∧
      PartedAt entry other.reports before own' after := by
  -- what the two configurations share outside of the entry is one thing, so the outer parts are too
  cases entry with
  | predicate name =>
    obtain ⟨before, after, hconfig, hother, hnames⟩ := Catalog.exists_split (fun different hne =>
      h.predicates different (fun heq => hne (Entry.predicate.inj heq).symm))
    have hparts := partedAt_predicate hother hnames
    rw [← h.settings, ← Catalog.eq_of_get?_eq (fun set => h.facts set (by rintro ⟨⟩))] at hparts
    exact ⟨_, _, _, _, partedAt_predicate hconfig hnames, hparts⟩
  | facts set =>
    obtain ⟨before, after, hconfig, hother, hnames⟩ := Catalog.exists_split (fun different hne =>
      h.facts different (fun heq => hne (Entry.facts.inj heq).symm))
    have hparts := partedAt_facts hother hnames
    rw [← h.settings, ← Catalog.eq_of_get?_eq (fun name => h.predicates name (by rintro ⟨⟩))] at hparts
    exact ⟨_, _, _, _, partedAt_facts hconfig hnames, hparts⟩

/-! ## Where a predicate fails -/

/-- A path inside a place that is not empty begins with the place. -/
theorem exists_inside_eq_append {place : String} (h : place ≠ "") (path : String) :
    ∃ rest, Step.inside place path = place ++ rest := by
  unfold Step.inside
  by_cases hpath : path = ""
  · exact ⟨"", by rw [if_pos hpath, String.append_empty]⟩
  · exact ⟨"." ++ path, by rw [if_neg hpath, if_neg h, String.append_assoc]⟩

/-- A named predicate that cannot be made is at fault in its first raw statement that cannot be read, or
    further inside. -/
theorem exists_fault_of_predicate?_eq_error {config : Config} {name : String} {error : StatementError}
    (h : config.predicate? name = some (.error error)) :
    ∃ raw index element, config.predicates.get? name = some raw ∧
      (Predicate.rawStatements raw)[index]? = some element ∧
      (∀ earlier ∈ (Predicate.rawStatements raw).take index,
        ∃ statement, Statement.read earlier = .ok statement) ∧
      (∃ fault, Statement.read element = .error fault ∧ fault.reason = error.reason) ∧
      ∃ rest, error.path = "predicates." ++ name ++ "[" ++ toString index ++ "]" ++ rest := by
  obtain ⟨raw, hraw, herror⟩ := predicate?_eq_some_iff.mp h
  obtain ⟨index, element, helement, hearlier, hread⟩ := readPredicate_eq_error_iff.mp herror
  obtain ⟨fault, hfault, rfl⟩ := Statement.readAt_eq_error_iff_read.mp hread
  have hplace : predicatePlace name ++ "[" ++ toString index ++ "]" ≠ "" := by
    intro hempty
    have hlist := congrArg String.toList hempty
    rw [String.toList_append] at hlist
    exact absurd (List.append_eq_nil_iff.mp hlist).2 (by decide)
  exact ⟨raw, index, element, hraw, helement, hearlier, ⟨fault, hfault, rfl⟩,
    exists_inside_eq_append hplace fault.path⟩

end Config

/-- **Verification tells every problem once, and nothing else.**

    Its messages, in order, are those of the sites that have a problem: a named predicate that cannot be
    made, a base fact and a fact of a named set that are empty.  They ascend, the predicates by name, the base
    facts by index, the facts of sets by name and index, and no site comes twice.  A predicate is at
    fault in its first raw statement that cannot be read: the path is that of the statement or leads
    further inside, and the reason is the one that the statement has when it is read alone.

    No problem hides another one.  If what stands under one name is changed, put in or taken out, the messages
    of that entry are replaced, and those before them and after them stay.  There are no messages exactly if
    all predicates can be made and no fact is empty. -/
theorem verification_tells_every_problem_once :
    (∀ config : Config, ∃ reports, config.IsFullReport reports ∧ (reports.map (·.1)).Nodup) ∧
    (∀ (config : Config) (name : String) (error : StatementError),
      config.predicate? name = some (.error error) →
      ∃ raw index element, config.predicates.get? name = some raw ∧
        (Predicate.rawStatements raw)[index]? = some element ∧
        (∀ earlier ∈ (Predicate.rawStatements raw).take index,
          ∃ statement, Statement.read earlier = .ok statement) ∧
        (∃ fault, Statement.read element = .error fault ∧ fault.reason = error.reason) ∧
        ∃ rest, error.path = "predicates." ++ name ++ "[" ++ toString index ++ "]" ++ rest) ∧
    (∀ (entry : Config.Entry) (config other : Config), Config.AgreeBut entry config other →
      ∃ before own own' after,
        config.IsFullReport (before ++ own ++ after) ∧ other.IsFullReport (before ++ own' ++ after) ∧
        (∀ report ∈ own ++ own', report.1.owner? = some entry) ∧
        ∀ report ∈ before ++ after, report.1.owner? ≠ some entry) ∧
    (∀ config : Config, config.problems = [] ↔
      (∀ name result, config.predicate? name = some result → ∃ predicate, result = .ok predicate) ∧
      "" ∉ config.settings.baseFacts ∧
      ∀ set facts, config.facts.get? set = some facts → "" ∉ facts) := by
  refine ⟨?_, fun _ _ _ => Config.exists_fault_of_predicate?_eq_error, ?_,
    fun _ => Config.problems_eq_nil_iff⟩
  · intro config
    exact ⟨config.reports, config.isFullReport_reports, config.isFullReport_reports.nodup⟩
  · intro entry config other hagree
    obtain ⟨before, own, own', after, hconfig, hother⟩ := hagree.exists_parts
    refine ⟨before, own, own', after, ?_, ?_, ?_, hconfig.others⟩
    · rw [← hconfig.eq]
      exact config.isFullReport_reports
    · rw [← hother.eq]
      exact other.isFullReport_reports
    · intro report hreport
      rcases List.mem_append.mp hreport with hreport | hreport
      · exact hconfig.own report hreport
      · exact hother.own report hreport

/-- Two predicates that are wrong, the second in its second statement, and two facts that are empty. -/
def fourProblems : Config where
  predicates := Catalog.ofList
    [("range", .list [.text "crit", .object [("gt", .list [.text "level"])]]),
      ("key", .object [("nto", .text "crit")])]
  facts := Catalog.ofList [("hurt", ["bleeding", ""])]
  settings := ⟨["", "human"], false⟩

example : fourProblems.problems.map Config.Problem.message =
    ["predicates.key[0]: unknown key 'nto', did you mean 'not'?",
      "predicates.range[1].gt: 'gt' takes exactly 2 operands, got 1",
      "settings.base_facts[0]: empty roll option", "facts.hurt[1]: empty roll option"] := by decide +kernel

/-- If one predicate is mended, its problem goes and the three others stay. -/
theorem mended_predicate_leaves_other_problems :
    ∃ error, fourProblems.predicate? "range" = some (.error error) ∧
    (∃ (raw : Json) (index : Nat) (element : Json), fourProblems.predicates.get? "range" = some raw ∧
      (Predicate.rawStatements raw)[index]? = some element ∧
      (∃ fault, Statement.read element = .error fault ∧ fault.reason = error.reason) ∧
      ∃ rest, error.path = "predicates." ++ "range" ++ "[" ++ toString index ++ "]" ++ rest) ∧
    ∃ before own own' after,
      fourProblems.IsFullReport (before ++ own ++ after) ∧
      Config.IsFullReport
        { fourProblems with predicates := fourProblems.predicates.insert "range" (.text "crit") }
        (before ++ own' ++ after) ∧
      (∀ report ∈ own ++ own', report.1.owner? = some (.predicate "range")) ∧
      ∀ report ∈ before ++ after, report.1.owner? ≠ some (.predicate "range") := by
  obtain ⟨error, herror⟩ : ∃ error, fourProblems.predicate? "range" = some (.error error) := ⟨_, rfl⟩
  obtain ⟨raw, index, element, hraw, helement, -, hfault, hpath⟩ :=
    verification_tells_every_problem_once.2.1 fourProblems "range" error herror
  have hagree := fourProblems.agreeBut_insert "range" (.text "crit")
  exact ⟨error, herror, ⟨raw, index, element, hraw, helement, hfault, hpath⟩,
    verification_tells_every_problem_once.2.2.1 _ _ _ hagree⟩

end RollConditions
