import Readiness.Proofs.ScriptRepair

/-!
# What is found in a script, and what it depends on

Whatever a detector finds in a script, it reports by a rule about a node. So every
issue is in the file that was asked about, at the line and column of its node.

Every detector gets the context of the whole project, and makes little of it.
Functions and promise chains ask whether the file is payment code, which its name and
its imports tell. Secrets ask nothing. Queries ask one more thing, whether the code
deals with authentication, and there the routes of the project come in; but the
answer only goes into the words of an issue and into one fact. `unmarked` takes
both away, and what is left is the same in every project.
-/

namespace Readiness

/-! ## Reports of rules -/

/-- An issue is what a rule says about a node of a file. -/
def Rule.Reports (r : Rule) (file : Text) (n : Script.Node) (i : Issue) : Prop :=
  ∃ severity message facts snippet, r.issue file n severity message facts snippet = .ok i

theorem Rule.Reports.mark {r : Rule} {file : Text} {n : Script.Node} {i : Issue}
    (h : r.Reports file n i) : i.mark = ⟨r.type, n.line, n.column⟩ := by
  obtain ⟨severity, message, facts, snippet, hmade⟩ := h
  exact Issue.mark_of_rule hmade

theorem Rule.Reports.file_eq {r : Rule} {file : Text} {n : Script.Node} {i : Issue}
    (h : r.Reports file n i) : i.file = file := by
  obtain ⟨severity, message, facts, snippet, hmade⟩ := h
  rw [Rule.issue] at hmade
  obtain ⟨_, -, hmade⟩ := exists_of_bind_ok hmade
  cases hmade
  rfl

theorem Rule.Reports.category_eq {r : Rule} {file : Text} {n : Script.Node} {i : Issue}
    (h : r.Reports file n i) : i.category = r.category := by
  obtain ⟨severity, message, facts, snippet, hmade⟩ := h
  rw [Rule.issue] at hmade
  obtain ⟨_, -, hmade⟩ := exists_of_bind_ok hmade
  cases hmade
  rfl

/-- The rules by which the detectors report. -/
def Rule.all : List Rule :=
  [Query.rule, Rejection.functionRule, Rejection.chainRule, Secret.rule]

theorem Query.reports_of_issue? {s : Script} {authentication : Bool} {file : Text}
    {p : Script.Place} {i : Issue} (h : issue? s authentication file p = .ok (some i)) :
    rule.Reports file p.node i := by
  rw [issue?] at h
  split at h
  · cases h
  · split at h
    · cases h
    · obtain ⟨made, hmade, h⟩ := exists_of_bind_ok h
      cases h
      exact ⟨_, _, _, _, hmade⟩

namespace Rejection

theorem reports_of_functionIssue? {wrappers : List Text} {context : Readiness.Context}
    {file : Text} {f : Script.Place} {i : Issue}
    (h : functionIssue? wrappers context file f = .ok (some i)) :
    functionRule.Reports file f.node i := by
  rw [functionIssue?] at h
  split at h
  · cases h
  · have hreport : ∀ payment, (do
        let name ← f.functionName?
        return some (← functionRule.issue file f.node (severityOf payment)
          (functionMessage payment f)
          [("is_payment", .bool payment), ("function_name", Json.ofOption name)]
          (name.getD ""))) = Except.ok (some i) → functionRule.Reports file f.node i := by
      intro payment hmade
      obtain ⟨name, -, hmade⟩ := exists_of_bind_ok hmade
      obtain ⟨made, hmade, hi⟩ := exists_of_bind_ok hmade
      cases hi
      exact ⟨_, _, _, _, hmade⟩
    split at h
    · exact hreport true h
    · obtain ⟨payment, -, h⟩ := exists_of_bind_ok h
      exact hreport payment h

theorem reports_of_chainIssue? {s : Script} {context : Readiness.Context} {file : Text}
    {p : Script.Place} {i : Issue} (h : chainIssue? s context file p = .ok (some i)) :
    chainRule.Reports file p.node i := by
  rw [chainIssue?] at h
  split at h
  · cases h
  · have hreport : ∀ payment, (do
        return some (← chainRule.issue file p.node (severityOf payment) (chainMessage payment)
          [("is_payment", .bool payment)] (((p.node.field? .callee).map s.textOf).getD [])) :
            Except Breakdown (Option Issue)) = .ok (some i) →
        chainRule.Reports file p.node i := by
      intro payment hmade
      obtain ⟨made, hmade, hi⟩ := exists_of_bind_ok hmade
      cases hi
      exact ⟨_, _, _, _, hmade⟩
    split at h
    · exact hreport true h
    · split at h
      · obtain ⟨payment, -, h⟩ := exists_of_bind_ok h
        exact hreport payment h
      · exact hreport false h

end Rejection

namespace Secret

theorem reports_of_issue {file : Text} {n : Script.Node} {message value kind : Text}
    {name : Option Text} {i : Issue} (h : issue file n message value name kind = .ok i) :
    rule.Reports file n i := by
  rw [issue] at h
  obtain ⟨digest, -, h⟩ := exists_of_bind_ok h
  exact ⟨_, _, _, _, h⟩

theorem reports_of_issue? {s : Script} {file : Text} {p : Script.Place} {i : Issue}
    (h : issue? s file p = .ok (some i)) : rule.Reports file p.node i := by
  rw [issue?] at h
  split at h
  · next value hvalue =>
      rw [literalIssue?] at h
      split at h
      · cases h
      · obtain ⟨d, -, h⟩ := exists_of_bind_ok h
        split at h
        · cases h
        · obtain ⟨made, hmade, h⟩ := exists_of_bind_ok h
          cases h
          exact reports_of_issue hmade
  · split at h
    · rw [templateIssue?] at h
      obtain ⟨d, -, h⟩ := exists_of_bind_ok h
      split at h
      · cases h
      · obtain ⟨made, hmade, h⟩ := exists_of_bind_ok h
        cases h
        exact reports_of_issue hmade
    · cases h

end Secret

/-- What a detector finds, a rule of its category reports about a place of the script. -/
theorem reports_of_detect {s : Script} {wrappers : List Text} {d : Detector}
    (hd : d ∈ detectors wrappers) {context : Readiness.Context} {file : Text} {found : List Issue}
    (h : d.detect s context file = .ok found) {i : Issue} (mem : i ∈ found) :
    ∃ r ∈ Rule.all, r.category = d.category ∧ ∃ p ∈ s.places, r.Reports file p.node i := by
  rcases List.mem_cons.mp hd with rfl | hd
  · obtain ⟨p, hp, hissue⟩ := exists_of_mem_filterMapM h mem
    exact ⟨Query.rule, .head _, rfl, p, hp, Query.reports_of_issue? hissue⟩
  · rcases List.mem_cons.mp hd with rfl | hd
    · obtain ⟨functions, hfunctions, h⟩ := exists_of_bind_ok h
      obtain ⟨chains, hchains, h⟩ := exists_of_bind_ok h
      cases h
      rcases List.mem_append.mp mem with mem | mem
      · obtain ⟨f, hf, hissue⟩ := exists_of_mem_filterMapM hfunctions mem
        exact ⟨Rejection.functionRule, .tail _ (.head _), rfl, f, hf,
          Rejection.reports_of_functionIssue? hissue⟩
      · obtain ⟨p, hp, hissue⟩ := exists_of_mem_filterMapM hchains mem
        exact ⟨Rejection.chainRule, .tail _ (.tail _ (.head _)), rfl, p, hp,
          Rejection.reports_of_chainIssue? hissue⟩
    · cases List.mem_singleton.mp hd
      obtain ⟨p, hp, hissue⟩ := exists_of_mem_filterMapM h mem
      exact ⟨Secret.rule, .tail _ (.tail _ (.tail _ (.head _))), rfl, p, hp,
        Secret.reports_of_issue? hissue⟩

theorem Script.file_of_findings {s : Script} {wrappers : List Text} {category : Option Category}
    {context : Readiness.Context} {file : Text} {i : Issue}
    (h : i ∈ s.findings (detectors wrappers) category context file) : i.file = file := by
  rw [findings] at h
  split at h
  · obtain ⟨d, hd, hi⟩ := List.mem_flatMap.mp h
    rw [Detector.findings] at hi
    split at hi
    · next found hfound =>
        obtain ⟨r, -, -, p, -, hreport⟩ := reports_of_detect (List.mem_filter.mp hd).1 hfound hi
        exact hreport.file_eq
    · cases hi
  · cases h

/-! ## Issues without some of their parts -/

namespace Issue

/-- An issue without its id. -/
def withoutId (i : Issue) : Issue := { i with id := [] }

/-- A fact of an issue without what tells code that deals with authentication from other code. -/
def unmarkedFact (fact : Text × Json) : Text × Json :=
  if fact.1 = "auth_context" then (fact.1, .null) else fact

/-- An issue without what tells code that deals with authentication from other code: of a query,
neither the message nor that fact. -/
def unmarked (i : Issue) : Issue :=
  if i.type = IssueType.sqlInjection then
    { i with message := [], facts := i.facts.map unmarkedFact }
  else i

theorem unmarked_of_type {i : Issue} (h : i.type = IssueType.sqlInjection) :
    i.unmarked = { i with message := [], facts := i.facts.map unmarkedFact } := if_pos h

theorem unmarked_withoutId (i : Issue) : i.withoutId.unmarked = i.unmarked.withoutId := by
  by_cases h : i.type = IssueType.sqlInjection
  · have hid : i.withoutId.type = IssueType.sqlInjection := h
    rw [unmarked_of_type h, unmarked_of_type hid]
    rfl
  · have hid : ¬i.withoutId.type = IssueType.sqlInjection := h
    rw [unmarked, unmarked, if_neg h, if_neg hid]

theorem listedFirst_unmarked (i j : Issue) :
    i.unmarked.listedFirst j.unmarked = i.listedFirst j := by
  have hkey : ∀ k : Issue, k.unmarked.mark = k.mark := by
    intro k
    rw [unmarked]
    split <;> rfl
  have hmark : ∀ k l : Issue, k.listedFirst l = k.mark.listedFirst l.mark := fun _ _ => rfl
  rw [hmark, hmark, hkey, hkey]

theorem map_unmarked_listed (issues : List Issue) :
    (listed issues).map unmarked = listed (issues.map unmarked) :=
  List.map_mergeSort fun i _ j _ => (listedFirst_unmarked i j).symm

theorem map_withoutId_numberedAfter (seen : List Text) (issues : List Issue) :
    (numberedAfter seen issues).map withoutId = issues.map withoutId := by
  induction issues generalizing seen with
  | nil => rfl
  | cons i more ih =>
      rw [numberedAfter, List.map_cons, List.map_cons, ih]
      rfl

theorem map_withoutId_numbered (issues : List Issue) :
    (numbered issues).map withoutId = issues.map withoutId :=
  map_withoutId_numberedAfter [] issues

end Issue

/-! ## Detectors in two contexts -/

theorem map_filterMapM {ε α β γ : Type} (f : α → Except ε (Option β)) (g : β → γ) (l : List α) :
    (l.filterMapM f).map (List.map g) = l.filterMapM fun a => (f a).map (Option.map g) := by
  induction l with
  | nil => rfl
  | cons a l ih =>
      rw [List.filterMapM_cons, List.filterMapM_cons, ← ih]
      cases f a with
      | error e => rfl
      | ok found =>
          cases found with
          | none => rfl
          | some b => cases l.filterMapM f <;> rfl

namespace Query

/-- The issues of queries differ in their marks alone, whether the code deals with authentication
or not. -/
theorem issue?_unmarked (s : Script) (authentication authentication' : Bool) (file : Text)
    (p : Script.Place) :
    (issue? s authentication file p).map (Option.map Issue.unmarked) =
      (issue? s authentication' file p).map (Option.map Issue.unmarked) := by
  rw [issue?, issue?]
  split
  · rfl
  · cases builtText? s p with
    | none => rfl
    | some built =>
        obtain ⟨e, declared⟩ := built
        dsimp only [Rule.issue]
        cases fingerprint rule.type file p.node.line (s.textOf e) with
        | error b => rfl
        | ok print =>
            -- what the code deals with is in the message and in the first fact alone
            refine congrArg (fun i => Except.ok (some i)) ?_
            rw [Issue.unmarked_of_type rfl, Issue.unmarked_of_type rfl]
            rfl

theorem detect_unmarked (s : Script) (context context' : Readiness.Context) (file : Text) :
    (detector.detect s context file).map (List.map Issue.unmarked) =
      (detector.detect s context' file).map (List.map Issue.unmarked) := by
  have hdetect : ∀ c : Readiness.Context, detector.detect s c file =
      s.places.filterMapM (issue? s (isAuthentication c file) file) := fun _ => rfl
  rw [hdetect, hdetect, map_filterMapM, map_filterMapM,
    funext (issue?_unmarked s (isAuthentication context file) (isAuthentication context' file) file)]

/-- All that queries ask of a project is its routes. -/
theorem detect_of_routes (s : Script) {project project' : Readiness.Context} (file : Text)
    (routes : project.routes = project'.routes) :
    detector.detect s (project.forFile (some s) file) file =
      detector.detect s (project'.forFile (some s) file) file := by
  have hasked : isAuthentication (project.forFile (some s) file) file =
      isAuthentication (project'.forFile (some s) file) file := by
    simp only [isAuthentication, Context.forFile, routes]
  have hdetect : ∀ c : Readiness.Context, detector.detect s c file =
      s.places.filterMapM (issue? s (isAuthentication c file) file) := fun _ => rfl
  rw [hdetect, hdetect, hasked]

end Query

namespace Rejection

/-- What functions and chains ask of a context is whether it is payment code. -/
theorem detect_of_payment (s : Script) (wrappers : List Text) {context context' : Readiness.Context}
    (file : Text) (payment : context.isPaymentCode = context'.isPaymentCode) :
    (detector wrappers).detect s context file = (detector wrappers).detect s context' file := by
  have hfunction : functionIssue? (standardWrappers ++ wrappers) context file =
      functionIssue? (standardWrappers ++ wrappers) context' file := by
    funext f
    rw [functionIssue?, functionIssue?, payment]
  have hchain : chainIssue? s context file = chainIssue? s context' file := by
    funext p
    rw [chainIssue?, chainIssue?, payment]
  dsimp only [detector]
  rw [hfunction, hchain]

end Rejection

/-- The findings of detectors are alike in two contexts if those of each are. -/
theorem Script.map_findings {s : Script} {ds : List Detector} {context context' : Readiness.Context}
    {file : Text} {g : Issue → Issue} (category : Option Category)
    (h : ∀ d ∈ ds, (d.detect s context file).map (List.map g) =
      (d.detect s context' file).map (List.map g)) :
    (s.findings ds category context file).map g = (s.findings ds category context' file).map g := by
  have hone : ∀ d ∈ ds,
      (d.findings s context file).map g = (d.findings s context' file).map g := by
    intro d hd
    have hd := h d hd
    rw [Detector.findings, Detector.findings]
    cases hleft : d.detect s context file with
    | error e =>
        cases hright : d.detect s context' file with
        | error e' => rfl
        | ok l' =>
            rw [hleft, hright] at hd
            cases hd
    | ok l =>
        cases hright : d.detect s context' file with
        | error e' =>
            rw [hleft, hright] at hd
            cases hd
        | ok l' =>
            rw [hleft, hright] at hd
            exact Except.ok.inj hd
  rw [findings, findings]
  split
  · rw [List.map_flatMap, List.map_flatMap]
    exact List.flatMap_congr fun d hd => hone d (List.mem_filter.mp hd).1
  · rfl

theorem Script.map_findings_forFile {s : Script} {project project' : Readiness.Context}
    {file : Text} {g : Issue → Issue} (wrappers : List Text) (category : Option Category)
    (query :
      (Query.detector.detect s (project.forFile (some s) file) file).map (List.map g) =
        (Query.detector.detect s (project'.forFile (some s) file) file).map (List.map g)) :
    (s.findings (detectors wrappers) category (project.forFile (some s) file) file).map g =
      (s.findings (detectors wrappers) category (project'.forFile (some s) file) file).map g := by
  refine s.map_findings category fun d hd => ?_
  rcases List.mem_cons.mp hd with rfl | hd
  · exact query
  · rcases List.mem_cons.mp hd with rfl | hd
    · exact congrArg (Except.map (List.map g)) (Rejection.detect_of_payment s wrappers file rfl)
    · rw [List.mem_singleton.mp hd]
      rfl

theorem Script.findings_unmarked (s : Script) (wrappers : List Text) (category : Option Category)
    (project project' : Readiness.Context) (file : Text) :
    (s.findings (detectors wrappers) category (project.forFile (some s) file) file).map
        Issue.unmarked =
      (s.findings (detectors wrappers) category (project'.forFile (some s) file) file).map
        Issue.unmarked :=
  s.map_findings_forFile wrappers category (Query.detect_unmarked s _ _ file)

theorem Script.findings_of_routes (s : Script) (wrappers : List Text) (category : Option Category)
    {project project' : Readiness.Context} (file : Text)
    (routes : project.routes = project'.routes) :
    s.findings (detectors wrappers) category (project.forFile (some s) file) file =
      s.findings (detectors wrappers) category (project'.forFile (some s) file) file := by
  have hsame := s.map_findings_forFile wrappers category
    (congrArg (Except.map (List.map id)) (Query.detect_of_routes s file routes))
  rwa [List.map_id, List.map_id] at hsame

end Readiness
