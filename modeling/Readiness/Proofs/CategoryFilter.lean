import Readiness.Proofs.ScanComposition
import Readiness.Proofs.ScanOutcome
import Readiness.Proofs.StableSort
import Readiness.Proofs.TextOrder

/-!
# One category or all

A scan for one category runs fewer detectors, and a scan for all can be asked for the
issues of one category afterwards. Both lists are the same. The first leaves issues
out before they are sorted and numbered, the second after that; so it has to be shown
that leaving out commutes with each of the steps. A sort that keeps ties lets any
issues be left out. A number counts the issues of one kind, so it stays only if all of
a kind are left out or none: that is why it matters that a kind has one category,
and that the detectors of other categories find nothing of it.
-/

namespace Readiness

/-- The category of the issues of a kind. -/
def IssueType.categoryOf (type : Text) : Category :=
  if type = sqlInjection ∨ type = hardcodedSecret then .security else .reliability

/-- Whether the issues of a kind are listed when one category is asked for. -/
def IssueType.isListed (k : Category) (type : Text) : Bool :=
  categoryOf type == k || type == parseError

namespace Issue

/-- Whether an issue is of a category, or says that a file cannot be parsed. -/
def concerns (k : Category) (i : Issue) : Bool :=
  i.category == k || i.type == IssueType.parseError

/-- An issue has the category of its kind. -/
def Filed (i : Issue) : Prop := i.category = IssueType.categoryOf i.type

theorem Filed.concerns_eq {i : Issue} (h : i.Filed) (k : Category) :
    i.concerns k = IssueType.isListed k i.type := by
  rw [concerns, IssueType.isListed, h]

/-- Issues that are numbered for each kind keep their numbers when whole kinds are left out. -/
theorem numberedAfter_filter (p : Text → Bool) (seen : List Text) (issues : List Issue) :
    (numberedAfter seen issues).filter (p ·.type) =
      numberedAfter (seen.filter p) (issues.filter (p ·.type)) := by
  induction issues generalizing seen with
  | nil => rfl
  | cons i more ih =>
      rw [numberedAfter, List.filter_cons, List.filter_cons]
      dsimp only
      by_cases hp : p i.type = true
      · have hcount : ((i.type :: seen).filter p).count i.type = (i.type :: seen).count i.type :=
          List.count_filter hp
        rw [List.filter_cons_of_pos hp] at hcount
        rw [if_pos hp, if_pos hp, numberedAfter, ih, List.filter_cons_of_pos hp, hcount]
      · rw [if_neg hp, if_neg hp, ih, List.filter_cons_of_neg hp]

theorem numbered_filter (p : Text → Bool) (issues : List Issue) :
    (numbered issues).filter (p ·.type) = numbered (issues.filter (p ·.type)) :=
  numberedAfter_filter p [] issues

theorem filed_of_numberedAfter {seen : List Text} {issues : List Issue}
    (h : ∀ i ∈ issues, i.Filed) : ∀ i ∈ numberedAfter seen issues, i.Filed := by
  induction issues generalizing seen with
  | nil => exact fun i hi => absurd hi List.not_mem_nil
  | cons i more ih =>
      rw [numberedAfter]
      intro j hj
      rcases List.mem_cons.mp hj with rfl | hj
      · exact h i List.mem_cons_self
      · exact ih (fun j hj => h j (List.mem_cons_of_mem i hj)) j hj

theorem listed_filter (p : Issue → Bool) (issues : List Issue) :
    listed (issues.filter p) = (listed issues).filter p :=
  StableSort.mergeSort_filter listedFirst_trans listedFirst_total p issues

end Issue

/-- The result of a scan without the issues of other categories. -/
def Analysis.ofCategory (k : Category) (a : Analysis) : Analysis :=
  let issues := a.issues.filter (·.concerns k)
  { a with score := Readiness.score issues, issues }

theorem Analysis.of_filter {issues : List Issue} (h : ∀ i ∈ issues, i.Filed) (k : Category)
    (files : List Text) (context : Context) :
    Analysis.of (issues.filter (·.concerns k)) files context =
      (Analysis.of issues files context).ofCategory k := by
  have hkind : ∀ {l : List Issue}, (∀ i ∈ l, i.Filed) →
      l.filter (·.concerns k) = l.filter (IssueType.isListed k ·.type) := fun hl =>
    List.filter_congr fun i hi => (hl i hi).concerns_eq k
  have hnumbered : Issue.numbered (issues.filter (·.concerns k)) =
      (Issue.numbered issues).filter (·.concerns k) := by
    rw [hkind h, ← Issue.numbered_filter]
    exact (hkind (Issue.filed_of_numberedAfter h)).symm
  rw [Analysis.of, hnumbered]
  rfl

/-! ## The findings of detectors -/

theorem Rule.categoryOf_type {r : Rule} (hr : r ∈ Rule.all) :
    IssueType.categoryOf r.type = r.category ∧ r.type ≠ IssueType.parseError := by
  rcases List.mem_cons.mp hr with rfl | hr
  · decide
  · rcases List.mem_cons.mp hr with rfl | hr
    · decide
    · rcases List.mem_cons.mp hr with rfl | hr
      · decide
      · cases List.mem_singleton.mp hr
        decide

namespace Detector

variable {d : Detector} {wrappers : List Text} {s : Script} {context : Readiness.Context}
  {file : Text}

/-- What a detector finds has its category, and is no file that cannot be parsed. -/
theorem filed_of_findings (hd : d ∈ detectors wrappers) {i : Issue}
    (h : i ∈ d.findings s context file) :
    i.Filed ∧ i.category = d.category ∧ i.type ≠ IssueType.parseError := by
  rw [findings] at h
  split at h
  · next found hfound =>
      obtain ⟨r, hr, hcategory, p, -, hreport⟩ := reports_of_detect hd hfound h
      have htype : i.type = r.type := congrArg Issue.Mark.type hreport.mark
      obtain ⟨hkind, hparse⟩ := Rule.categoryOf_type hr
      rw [Issue.Filed, htype, hreport.category_eq]
      exact ⟨hkind.symm, hcategory, hparse⟩
  · cases h

theorem findings_filter (hd : d ∈ detectors wrappers) (k : Category) :
    (d.findings s context file).filter (·.concerns k) =
      if d.isWanted (some k) then d.findings s context file else [] := by
  have hconcerns : ∀ i ∈ d.findings s context file, i.concerns k = d.isWanted (some k) := by
    intro i hi
    obtain ⟨-, hcategory, hparse⟩ := filed_of_findings hd hi
    rw [Issue.concerns, hcategory, beq_false_of_ne hparse, Bool.or_false]
    rfl
  split
  · next hwanted => exact List.filter_eq_self.mpr fun i hi => (hconcerns i hi).trans hwanted
  · next hwanted =>
      exact List.filter_eq_nil_iff.mpr fun i hi h => hwanted ((hconcerns i hi).symm.trans h)

end Detector

theorem flatMap_filter {α β : Type} (p : α → Bool) (f : α → List β) (l : List α) :
    (l.filter p).flatMap f = l.flatMap fun a => if p a then f a else [] := by
  induction l with
  | nil => rfl
  | cons a l ih =>
      by_cases hp : p a = true
      · rw [List.filter_cons_of_pos hp, List.flatMap_cons, List.flatMap_cons, ih, if_pos hp]
      · rw [List.filter_cons_of_neg hp, List.flatMap_cons, ih, if_neg hp, List.nil_append]

namespace Script

variable {s : Script} {wrappers : List Text} {context : Readiness.Context} {file : Text}

theorem filed_of_findings {i : Issue}
    (h : i ∈ s.findings (detectors wrappers) none context file) : i.Filed := by
  rw [findings] at h
  split at h
  · obtain ⟨d, hd, hi⟩ := List.mem_flatMap.mp h
    exact (Detector.filed_of_findings (List.mem_filter.mp hd).1 hi).1
  · cases h

/-- Fewer detectors find what all of them find, less the issues of other categories. -/
theorem findings_filter (k : Category) :
    (s.findings (detectors wrappers) none context file).filter (·.concerns k) =
      s.findings (detectors wrappers) (some k) context file := by
  have hall : (detectors wrappers).filter (·.isWanted none) = detectors wrappers :=
    List.filter_eq_self.mpr fun _ _ => rfl
  rw [findings, findings]
  split
  · rw [hall, List.filter_flatMap, flatMap_filter]
    exact List.flatMap_congr fun d hd => Detector.findings_filter hd k
  · rfl

end Script

/-! ## A file, a project -/

theorem mapM_map_result {ε α β γ : Type} (f : α → Except ε β) (g : β → γ) (l : List α) :
    (l.mapM fun a => (f a).map g) = (l.mapM f).map (List.map g) := by
  induction l with
  | nil => rfl
  | cons a l ih =>
      rw [List.mapM_cons, List.mapM_cons, ih]
      cases f a with
      | error e => rfl
      | ok b => cases l.mapM f <;> rfl

namespace Project

theorem filed_of_parseErrorIssue {file reason : Text} {i : Issue}
    (h : parseErrorIssue file reason = .ok i) : i.Filed ∧ i.type = IssueType.parseError := by
  rw [parseErrorIssue] at h
  obtain ⟨print, -, h⟩ := exists_of_bind_ok h
  cases h
  exact ⟨rfl, rfl⟩

namespace Source

variable {source : Source} {wrappers : List Text} {project : Context}

theorem filed_of_issues {issues : List Issue}
    (h : source.issues (detectors wrappers) none project = .ok issues) :
    ∀ i ∈ issues, i.Filed := by
  intro i hi
  rw [Source.issues] at h
  split at h
  · obtain ⟨made, hmade, h⟩ := exists_of_bind_ok h
    cases h
    rw [List.mem_singleton.mp hi]
    exact (filed_of_parseErrorIssue hmade).1
  · cases h
    exact Script.filed_of_findings (List.mem_mergeSort.mp hi)

theorem filed_of_lists {sources : List Source} {lists : List (List Issue)}
    (h : sources.mapM (fun source => source.issues (detectors wrappers) none project) =
      .ok lists) : ∀ i ∈ lists.flatten, i.Filed := by
  obtain ⟨hflatten, hall⟩ := flatten_of_mapM h
  intro i hi
  rw [hflatten] at hi
  obtain ⟨source, hsource, hi⟩ := List.mem_flatMap.mp hi
  obtain ⟨issues, hissues⟩ := hall source hsource
  rw [hissues] at hi
  exact filed_of_issues hissues i hi

theorem issues_filter (k : Category) :
    source.issues (detectors wrappers) (some k) project =
      (source.issues (detectors wrappers) none project).map (List.filter (·.concerns k)) := by
  rw [Source.issues, Source.issues]
  cases source.script with
  | ok script =>
      dsimp only
      rw [← Script.findings_filter, Issue.listed_filter]
      rfl
  | error why =>
      dsimp only
      cases hmade : parseErrorIssue source.file (if why.isEmpty then unknownReason else why) with
      | error b => rfl
      | ok i =>
          have hkept : i.concerns k = true := by
            rw [Issue.concerns, (filed_of_parseErrorIssue hmade).2, beq_self_eq_true, Bool.or_true]
          have hlist : [i].filter (·.concerns k) = [i] :=
            List.filter_eq_self.mpr fun j hj => List.mem_singleton.mp hj ▸ hkept
          exact congrArg Except.ok hlist.symm

end Source

theorem analyse_category (w : Workspace) (c : Config) (k : Category) (paths : List Path) :
    analyse w c (some k) paths = (analyse w c none paths).map (·.ofCategory k) := by
  rw [analyse, analyse]
  cases (context w c.root).outcome.1 with
  | error f => rfl
  | ok context =>
      cases paths.mapM fun path => (load w c.root path).outcome.1 with
      | error f => rfl
      | ok sources =>
          have hall : ∀ project : Context,
              (sources.mapM fun source =>
                source.issues (detectors c.wrappers) (some k) project) =
                  Except.map (List.map (List.filter (·.concerns k))) (sources.mapM fun source =>
                    source.issues (detectors c.wrappers) none project) := by
            intro project
            rw [← mapM_map_result]
            exact congrArg sources.mapM (funext fun source => source.issues_filter k)
          dsimp only [bind, Except.bind]
          rw [hall]
          cases hlists : sources.mapM fun source => source.issues (detectors c.wrappers) none
              { context with routes := sources.flatMap Source.routes } with
          | error b => rfl
          | ok lists =>
              have hmerged : (lists.map (List.filter (·.concerns k))).flatten =
                  lists.flatten.filter (·.concerns k) := List.filter_flatten.symm
              have hof := Analysis.of_filter (Source.filed_of_lists hlists) k
                (sources.map (·.file)) { context with routes := sources.flatMap Source.routes }
              rw [← hmerged] at hof
              exact congrArg Except.ok hof

/-- A scan for one category lists what a scan for all categories lists, with the same ids and in the
same order, less the issues of other categories; files that cannot be parsed are listed by
both. -/
theorem scanFor_category (w : Workspace) (c : Config) (k : Category) :
    (scanFor w c (some k)).outcome.1 =
      (scanFor w c none).outcome.1.map (Analysis.ofCategory k) := by
  rw [scanFor, scanFor, scanBy_outcome, scanBy_outcome]
  cases ((Discovery.ofConfig c).filesBy Disk.below w).outcome.1 with
  | error f => rfl
  | ok paths => exact analyse_category w c k paths

end Project

end Readiness
