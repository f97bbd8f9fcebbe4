import Readiness.Proofs.CountedFiles
import Readiness.Proofs.Findings
import Readiness.Proofs.ScanOutcome

/-!
# A project is scanned file by file

A scan of a project lists for each of its files what a scan of the text of this file
would list. Every file is read and looked at by itself, and the lists are put one
behind the other. On a disk that is a tree files have names of their own, and so the
name of a file leads back to its list. Only the routes pass from one file to
another. A scan of a text knows those of the text alone, and there the two may differ.
-/

namespace Readiness

/-! ## Lists of lists -/

/-- A list put together from parts that carry different names: each part is found again by its
name. -/
theorem filter_flatMap_own {α β : Type} {l : List α} {part : α → List β} {name : α → Text}
    {key : β → Text} (own : ∀ a ∈ l, ∀ b ∈ part a, key b = name a) (nodup : (l.map name).Nodup)
    {a : α} (mem : a ∈ l) : (l.flatMap part).filter (key · == name a) = part a := by
  induction l with
  | nil => cases mem
  | cons a' l ih =>
      have hown : ∀ b ∈ part a', key b = name a' := own a' List.mem_cons_self
      have hmore : ∀ c ∈ l, ∀ b ∈ part c, key b = name c := fun c hc =>
        own c (List.mem_cons_of_mem a' hc)
      rw [List.map_cons, List.nodup_cons] at nodup
      rw [List.flatMap_cons, List.filter_append]
      rcases List.mem_cons.mp mem with rfl | mem
      · have hself : (part a).filter (key · == name a) = part a :=
          List.filter_eq_self.mpr fun b hb => beq_iff_eq.mpr (hown b hb)
        have hnone : (l.flatMap part).filter (key · == name a) = [] := by
          refine List.filter_eq_nil_iff.mpr fun b hb hkey => nodup.1 ?_
          obtain ⟨c, hc, hb⟩ := List.mem_flatMap.mp hb
          rw [← beq_iff_eq.mp hkey, hmore c hc b hb]
          exact List.mem_map_of_mem hc
        rw [hself, hnone, List.append_nil]
      · have hnone : (part a').filter (key · == name a) = [] := by
          refine List.filter_eq_nil_iff.mpr fun b hb hkey => nodup.1 ?_
          rw [← hown b hb, beq_iff_eq.mp hkey]
          exact List.mem_map_of_mem mem
        rw [hnone, List.nil_append, ih hmore nodup.2 mem]

theorem exists_of_mem_forall₂ {α β : Type} {R : α → β → Prop} {l : List α} {m : List β}
    (h : List.Forall₂ R l m) {a : α} (mem : a ∈ l) : ∃ b ∈ m, R a b := by
  induction h with
  | nil => cases mem
  | cons hhead _ ih =>
      rcases List.mem_cons.mp mem with rfl | mem
      · exact ⟨_, List.mem_cons_self, hhead⟩
      · obtain ⟨b, hb, hab⟩ := ih mem
        exact ⟨b, List.mem_cons_of_mem _ hb, hab⟩

theorem exists_of_map_ok {ε α β : Type} {x : Except ε α} {f : α → β} {b : β}
    (h : x.map f = .ok b) : ∃ a, x = .ok a ∧ f a = b := by
  cases x with
  | error e => cases h
  | ok a => exact ⟨a, rfl, Except.ok.inj h⟩

theorem flatten_of_mapM {ε α β : Type} {f : α → Except ε (List β)} {l : List α}
    {lists : List (List β)} (h : l.mapM f = .ok lists) :
    lists.flatten = l.flatMap (fun a => (f a).toOption.getD []) ∧ ∀ a ∈ l, ∃ list, f a = .ok list := by
  induction l generalizing lists with
  | nil =>
      rw [List.mapM_nil] at h
      cases h
      exact ⟨rfl, fun a ha => absurd ha List.not_mem_nil⟩
  | cons a l ih =>
      rw [List.mapM_cons] at h
      obtain ⟨list, hlist, h⟩ := exists_of_bind_ok h
      obtain ⟨more, hmore, h⟩ := exists_of_bind_ok h
      cases h
      obtain ⟨hflatten, hall⟩ := ih hmore
      constructor
      · rw [List.flatten_cons, List.flatMap_cons, hflatten, hlist]
        rfl
      · intro b hb
        rcases List.mem_cons.mp hb with rfl | hb
        · exact ⟨list, hlist⟩
        · exact hall b hb

/-- Numbers change neither which issues are in a file nor what else there is to an issue. -/
theorem Issue.map_withoutId_filter_numbered (issues : List Issue) (file : Text) :
    ((numbered issues).filter (·.file == file)).map withoutId =
      (issues.filter (·.file == file)).map withoutId := by
  have hfilter : ∀ l : List Issue, (l.map withoutId).filter (·.file == file) =
      (l.filter (·.file == file)).map withoutId := fun _ => List.filter_map
  rw [← hfilter, ← hfilter, map_withoutId_numbered]

/-- A route knows the file that was asked about and the line of its node. -/
theorem Script.of_route? {file : Text} {n : Node} {r : Route} (h : route? file n = some r) :
    r.file = file ∧ r.line = n.line := by
  rw [route?] at h
  split at h
  · obtain ⟨method, -, h⟩ := Option.bind_eq_some_iff.mp h
    obtain ⟨path, -, h⟩ := Option.bind_eq_some_iff.mp h
    obtain ⟨root, -, h⟩ := Option.bind_eq_some_iff.mp h
    split at h
    · cases h
      exact ⟨rfl, rfl⟩
    · cases h
  · cases h

namespace Project

/-! ## One file -/

namespace Source

/-- A text as a file of a project. -/
def ofText (file t : Text) : Except Breakdown Source :=
  (Script.parse t).map fun parsed => ⟨file, parsed.mapError (·.message)⟩

variable {source : Source} {wrappers : List Text} {category : Option Category}
  {project project' : Context} {issues : List Issue}

theorem exists_of_mem_routes {r : Route} (h : r ∈ source.routes) :
    ∃ n, Script.route? source.file n = some r := by
  rw [Source.routes] at h
  split at h
  · obtain ⟨p, -, hroute⟩ := List.mem_filterMap.mp h
    exact ⟨p.node, hroute⟩
  · cases h

theorem file_of_issues (h : source.issues (detectors wrappers) category project = .ok issues) :
    ∀ i ∈ issues, i.file = source.file := by
  intro i hi
  rw [Source.issues] at h
  split at h
  · obtain ⟨made, hmade, h⟩ := exists_of_bind_ok h
    cases h
    rw [parseErrorIssue] at hmade
    obtain ⟨print, -, hmade⟩ := exists_of_bind_ok hmade
    cases hmade
    rw [List.mem_singleton.mp hi]
    rfl
  · cases h
    exact Script.file_of_findings (List.mem_mergeSort.mp hi)

theorem file_of_routes : ∀ r ∈ source.routes, r.file = source.file := by
  intro r hr
  obtain ⟨n, hroute⟩ := exists_of_mem_routes hr
  exact (Script.of_route? hroute).1

theorem line_of_routes : ∀ r ∈ source.routes, 0 ≤ r.line := by
  intro r hr
  obtain ⟨n, hroute⟩ := exists_of_mem_routes hr
  rw [(Script.of_route? hroute).2]
  exact Int.natCast_nonneg n.line

/-- All that the issues of a file take from the project is its routes. -/
theorem issues_of_routes (routes : project.routes = project'.routes) :
    source.issues (detectors wrappers) category project =
      source.issues (detectors wrappers) category project' := by
  rw [Source.issues, Source.issues]
  split
  · rfl
  · next script _ => rw [script.findings_of_routes wrappers category source.file routes]

/-- What the routes of the project do to the issues of a file is in their marks alone. -/
theorem issues_unmarked :
    (source.issues (detectors wrappers) category project).map (List.map Issue.unmarked) =
      (source.issues (detectors wrappers) category project').map (List.map Issue.unmarked) := by
  rw [Source.issues, Source.issues]
  split
  · rfl
  · next script _ =>
      refine congrArg Except.ok ?_
      rw [Issue.map_unmarked_listed, Issue.map_unmarked_listed,
        script.findings_unmarked wrappers category project project' source.file]

end Source

/-- The issues of a text under the name of a file, in a project that has the given routes. -/
def issuesIn (routes : List Route) (category : Option Category) (t file : Text) :
    Except Breakdown (List Issue) := do
  let source ← Source.ofText file t
  source.issues (detectors []) category { routes }

/-- A scan of a text is a scan of a project of one file. -/
theorem scanTextFor_of_source {category : Option Category} {t file : Text} {source : Source}
    {issues : List Issue} (made : Source.ofText file t = .ok source)
    (reasons : ∀ failure, Script.parse t = .ok (.error failure) → failure.message ≠ [])
    (listed : source.issues (detectors []) category { routes := source.routes } = .ok issues) :
    scanTextFor category t file = .ok (Analysis.of issues [file] { routes := source.routes }) := by
  rw [Source.ofText] at made
  cases hparse : Script.parse t with
  | error b =>
      rw [hparse] at made
      cases made
  | ok parsed =>
      rw [hparse] at made
      cases made
      cases parsed with
      | ok s =>
          cases listed
          exact scanTextFor_of_parse hparse category file
      | error failure =>
          rw [Source.issues] at listed
          obtain ⟨issue, hissue, listed⟩ := exists_of_bind_ok listed
          cases listed
          have hreason : failure.message.isEmpty = false :=
            List.isEmpty_eq_false_iff.mpr (reasons failure hparse)
          rw [hreason, if_neg Bool.false_ne_true] at hissue
          rw [scanTextFor, hparse]
          change (parseErrorIssue file failure.message >>= _) = _
          rw [hissue]
          rfl

/-- The issues of a file in a project, and those that it has by itself. -/
theorem alone_of_listed {category : Option Category} {t file : Text} {source : Source}
    {project : Context} {listed : List Issue} (made : Source.ofText file t = .ok source)
    (reasons : ∀ failure, Script.parse t = .ok (.error failure) → failure.message ≠ [])
    (hlisted : source.issues (detectors []) category project = .ok listed) :
    ∃ b, scanTextFor category t file = .ok b ∧
      (listed.map Issue.withoutId).map Issue.unmarked =
        (b.issues.map Issue.withoutId).map Issue.unmarked ∧
      (source.routes = project.routes →
        listed.map Issue.withoutId = b.issues.map Issue.withoutId) := by
  have hmarks := @Source.issues_unmarked source [] category project { routes := source.routes }
  rw [hlisted] at hmarks
  obtain ⟨alone, halone, hmarks⟩ := exists_of_map_ok hmarks.symm
  have hnumbered : (Issue.numbered alone).map Issue.withoutId = alone.map Issue.withoutId :=
    Issue.map_withoutId_numbered alone
  refine ⟨_, scanTextFor_of_source made reasons halone, ?_, ?_⟩
  · have hcommute : ∀ l : List Issue, (l.map Issue.withoutId).map Issue.unmarked =
        (l.map Issue.unmarked).map Issue.withoutId := by
      intro l
      rw [List.map_map, List.map_map]
      exact List.map_congr_left fun i _ => i.unmarked_withoutId
    rw [hcommute, ← hmarks, ← hcommute, ← hnumbered]
    rfl
  · intro routes
    rw [source.issues_of_routes routes] at halone
    rw [Except.ok.inj (hlisted.symm.trans halone), ← hnumbered]
    rfl

/-! ## All files -/

theorem file_of_load {w : Workspace} {root path : Path} {source : Source}
    (h : Recorded.Yields (load w root path) source) : source.file = fileName root path := by
  rw [load] at h
  dsimp only at h
  split at h
  · obtain ⟨-, -, h⟩ := Recorded.yields_bind h
    cases Recorded.yields_pure h
    rfl
  · obtain ⟨-, -, h⟩ := Recorded.yields_bind h
    obtain ⟨parsed, -, h⟩ := Recorded.yields_bind h
    cases parsed with
    | ok s =>
        cases Recorded.yields_pure h
        rfl
    | error f =>
        obtain ⟨-, -, h⟩ := Recorded.yields_bind h
        cases Recorded.yields_pure h
        rfl

theorem source_of_load {w : Workspace} {root path : Path} {source : Source} {t : Text}
    (reads : w.read path = .ok t) (h : Recorded.Yields (load w root path) source) :
    Source.ofText (fileName root path) t = .ok source := by
  rw [load, reads] at h
  dsimp only at h
  obtain ⟨-, -, h⟩ := Recorded.yields_bind h
  obtain ⟨parsed, hparse, h⟩ := Recorded.yields_bind h
  rw [Source.ofText, Recorded.yields_ofExcept hparse]
  cases parsed with
  | ok s =>
      cases Recorded.yields_pure h
      rfl
  | error f =>
      obtain ⟨-, -, h⟩ := Recorded.yields_bind h
      cases Recorded.yields_pure h
      rfl

/-- What a scan of a project is put together from. -/
theorem scanFor_ok {w : Workspace} {c : Config} {category : Option Category} {a : Analysis}
    {paths : List Path} (scanned : (scanFor w c category).outcome.1 = .ok a)
    (discovered : ((Discovery.ofConfig c).files w).outcome.1 = .ok paths) :
    ∃ (sources : List Source) (issues : List (List Issue)),
      List.Forall₂ (fun path source => Recorded.Yields (load w c.root path) source) paths sources ∧
      a.context.routes = sources.flatMap Source.routes ∧
      sources.mapM (·.issues (detectors c.wrappers) category a.context) = .ok issues ∧
      a.issues = Issue.numbered issues.flatten := by
  rw [Discovery.files] at discovered
  rw [scanFor, scanBy] at scanned
  obtain ⟨found, hfound, scanned⟩ := Recorded.outcome_bind scanned
  rw [Recorded.outcome_adapt, discovered] at hfound
  cases hfound
  obtain ⟨-, -, scanned⟩ := Recorded.yields_bind scanned
  obtain ⟨base, -, scanned⟩ := Recorded.yields_bind scanned
  obtain ⟨sources, hsources, scanned⟩ := Recorded.yields_bind scanned
  obtain ⟨-, -, scanned⟩ := Recorded.yields_bind scanned
  obtain ⟨issues, hissues, scanned⟩ := Recorded.yields_bind scanned
  cases Recorded.yields_pure scanned
  exact ⟨sources, issues, Recorded.yields_mapM hsources, rfl, Recorded.yields_ofExcept hissues, rfl⟩

theorem names_of_loads {w : Workspace} {root : Path} {paths : List Path} {sources : List Source}
    (h : List.Forall₂ (fun path source => Recorded.Yields (load w root path) source) paths sources) :
    sources.map Source.file = paths.map (fileName root) := by
  induction h with
  | nil => rfl
  | cons hload _ ih => rw [List.map_cons, List.map_cons, file_of_load hload, ih]

/-- The issues that a scan lists for a file are those of its part. -/
theorem issuesFor_of_sources {a : Analysis} {wrappers : List Text} {category : Option Category}
    {project : Context} {sources : List Source} {lists : List (List Issue)} {source : Source}
    (made : sources.mapM (·.issues (detectors wrappers) category project) = .ok lists)
    (numbered : a.issues = Issue.numbered lists.flatten)
    (nodup : (sources.map Source.file).Nodup) (mem : source ∈ sources) :
    ∃ listed, source.issues (detectors wrappers) category project = .ok listed ∧
      (a.issuesFor source.file).map Issue.withoutId = listed.map Issue.withoutId := by
  obtain ⟨hflatten, hall⟩ := flatten_of_mapM made
  obtain ⟨listed, hlisted⟩ := hall source mem
  have hown : ∀ other ∈ sources,
      ∀ i ∈ (other.issues (detectors wrappers) category project).toOption.getD [],
        i.file = other.file := by
    intro other hother i hi
    obtain ⟨issues, hissues⟩ := hall other hother
    rw [hissues] at hi
    exact Source.file_of_issues hissues i hi
  have hpart : lists.flatten.filter (·.file == source.file) = listed := by
    rw [hflatten, filter_flatMap_own hown nodup mem, hlisted]
    rfl
  refine ⟨listed, hlisted, ?_⟩
  rw [Analysis.issuesFor, numbered, Issue.map_withoutId_filter_numbered, hpart]

/-- A file that alone registers routes has all routes of the project. -/
theorem routes_of_only {sources : List Source} {source : Source}
    (nodup : (sources.map Source.file).Nodup) (mem : source ∈ sources)
    (only : ∀ r ∈ sources.flatMap Source.routes, r.file = source.file) :
    source.routes = sources.flatMap Source.routes := by
  have hall : (sources.flatMap Source.routes).filter (·.file == source.file) =
      sources.flatMap Source.routes :=
    List.filter_eq_self.mpr fun r hr => beq_iff_eq.mpr (only r hr)
  rw [← hall, filter_flatMap_own (fun other _ => other.file_of_routes) nodup mem]

/-- A project is scanned file by file. What a scan lists for a file that was discovered and can be
read are the issues of its text in a project with the same routes, with other ids. Up to the
marks of queries they are those of a scan of the text alone, and they are those without exception
if only this file registers routes. The root is a folder under its own names, as it is when links
have been resolved. -/
theorem scanFor_file {w : Workspace} {c : Config} {category : Option Category} {a : Analysis}
    {paths : List Path} {path : Path} {t : Text} (tree : w.disk.IsTree)
    (top : c.root.anchor = .top) (folder : w.disk.entry? c.root.names = some .folder)
    (standard : c.wrappers = []) (scanned : (scanFor w c category).outcome.1 = .ok a)
    (discovered : ((Discovery.ofConfig c).files w).outcome.1 = .ok paths) (mem : path ∈ paths)
    (reads : w.read path = .ok t)
    (reasons : ∀ failure, Script.parse t = .ok (.error failure) → failure.message ≠ []) :
    ∃ b, scanTextFor category t (fileName c.root path) = .ok b ∧
      ((a.issuesFor (fileName c.root path)).map Issue.withoutId).map Issue.unmarked =
        (b.issues.map Issue.withoutId).map Issue.unmarked ∧
      ((∀ r ∈ a.context.routes, r.file = fileName c.root path) →
        (a.issuesFor (fileName c.root path)).map Issue.withoutId = b.issues.map Issue.withoutId) ∧
      ∃ listed, issuesIn a.context.routes category t (fileName c.root path) = .ok listed ∧
        (a.issuesFor (fileName c.root path)).map Issue.withoutId = listed.map Issue.withoutId := by
  obtain ⟨sources, lists, hloads, hroutes, hlists, hissues⟩ := scanFor_ok scanned discovered
  rw [standard] at hlists
  obtain ⟨source, hsource, hload⟩ := exists_of_mem_forall₂ hloads mem
  have hmade := source_of_load reads hload
  -- on a tree no two files have one name, so a name leads back to one source
  have hnames : (sources.map Source.file).Nodup := by
    obtain ⟨hnodup, hbelow⟩ := files_of_tree tree top folder (Recorded.yields_of_outcome discovered)
    rw [names_of_loads hloads]
    exact List.pairwise_map.mpr (hnodup.imp_of_mem fun hp hq hne hsame =>
      hne (fileName_inj tree (hbelow _ hp) (hbelow _ hq) hsame))
  obtain ⟨listed, hlisted, hpart⟩ := issuesFor_of_sources hlists hissues hnames hsource
  obtain ⟨b, hscan, hunmarked, halone⟩ := alone_of_listed hmade reasons hlisted
  rw [file_of_load hload] at hpart
  rw [hpart]
  refine ⟨b, hscan, hunmarked, fun only => halone ?_, listed, ?_, rfl⟩
  · rw [hroutes] at only ⊢
    exact routes_of_only hnames hsource fun r hr => (only r hr).trans (file_of_load hload).symm
  · rw [issuesIn, hmade, ← hlisted]
    exact source.issues_of_routes rfl

/-! A project of two files. One of them registers a route that has to do with logging in, and both
make a query. -/
namespace Routed

def query : Text := "run(\"a\"+b)"

def login : Text := "app.post(\"/login\",f);run(\"a\"+b)"

def workspace : Workspace where
  disk := ⟨[
    (["p"], .folder),
    (["p", "a.js"], .file (Text.utf8 query)),
    (["p", "b.js"], .file (Text.utf8 login))]⟩
  here := []

def config : Config := { root := ⟨.top, ["p"]⟩ }

def paths : List Path := [⟨.top, ["p", "a.js"]⟩, ⟨.top, ["p", "b.js"]⟩]

def sources : List Source := [⟨"a.js", .ok (Script.ofText query)⟩, ⟨"b.js", .ok (Script.ofText login)⟩]

theorem tree : workspace.disk.IsTree := Disk.isTree_of_parts (by decide) (by decide)

theorem reads : workspace.read ⟨.top, ["p", "a.js"]⟩ = .ok query ∧
    workspace.read ⟨.top, ["p", "b.js"]⟩ = .ok login :=
  ⟨ok_of_toOption (by decide +kernel), ok_of_toOption (by decide +kernel)⟩

theorem parsed : Script.parse query = .ok (.ok (Script.ofText query)) ∧
    Script.parse login = .ok (.ok (Script.ofText login)) := by
  have hread : Script.isRead query = true ∧ Script.isRead login = true := by
    unfold query login
    repeat rw [Text.ofString_ofList]
    decide +kernel
  exact ⟨Script.parse_of_isRead hread.1, Script.parse_of_isRead hread.2⟩

theorem files : ((Discovery.ofConfig config).files workspace).outcome.1 = .ok paths := by
  have hpatterns : readIgnorePatterns workspace
      (config.root ++ Path.ofText config.ignoreFile) = .ok [] := ok_of_toOption (by decide +kernel)
  have hascending : ([["a.js"], ["b.js"]] : List (List Text)).Pairwise (· < ·) := by decide
  refine Discovery.filesBy_of_counts (d := Discovery.ofConfig config) tree rfl rfl rfl
    Disk.below_isFull hpatterns hascending fun rel => ?_
  constructor
  · rintro ⟨bytes, counts⟩
    have hmem := Disk.mem_entries counts.entry (List.cons_ne_nil _ _)
    simp only [workspace, List.mem_cons, List.not_mem_nil, or_false] at hmem
    rcases hmem with heq | heq | heq
    · cases heq
    · cases heq
      exact List.mem_cons_self
    · cases heq
      exact List.mem_cons_of_mem _ List.mem_cons_self
  · intro hrel
    rcases List.mem_pair.mp hrel with rfl | rfl
    · exact ⟨Text.utf8 query, rfl, List.cons_ne_nil _ _, by decide +kernel, by decide, rfl,
        by decide +kernel⟩
    · exact ⟨Text.utf8 login, rfl, List.cons_ne_nil _ _, by decide +kernel, by decide, rfl,
        by decide +kernel⟩

theorem loads : (paths.mapM fun path => (load workspace config.root path).outcome.1) =
    .ok sources := by
  have hquery : (load workspace config.root ⟨.top, ["p", "a.js"]⟩).outcome.1 =
      .ok ⟨"a.js", .ok (Script.ofText query)⟩ := by
    rw [load, reads.1]
    dsimp only
    rw [parsed.1]
    rfl
  have hlogin : (load workspace config.root ⟨.top, ["p", "b.js"]⟩).outcome.1 =
      .ok ⟨"b.js", .ok (Script.ofText login)⟩ := by
    rw [load, reads.2]
    dsimp only
    rw [parsed.2]
    rfl
  rw [paths, List.mapM_cons, List.mapM_cons, List.mapM_nil, hquery, hlogin]
  rfl

/-- The scan of the project comes to a result, with the routes of both files. -/
theorem scanned : ∃ a, (scanFor workspace config none).outcome.1 = .ok a ∧
    a.context.routes = sources.flatMap Source.routes := by
  have hlists : ∀ project : Context, ∃ lists,
      sources.mapM (·.issues (detectors []) none project) = .ok lists := by
    intro project
    rw [sources, List.mapM_cons, List.mapM_cons, List.mapM_nil, Source.issues_of_script,
      Source.issues_of_script]
    exact ⟨_, rfl⟩
  obtain ⟨lists, hlists⟩ := hlists { routes := sources.flatMap Source.routes }
  have hnone : workspace.isFile (config.root.child "package.json") = false := by decide +kernel
  have hscan : (scanFor workspace config none).outcome.1 = analyse workspace config none paths := by
    have hfiles := files
    rw [Discovery.files] at hfiles
    rw [scanFor, scanBy_outcome, hfiles]
    dsimp only [Except.mapError, bind, Except.bind]
  exact ⟨_, hscan.trans (analyse_of_loads rfl hnone loads hlists), rfl⟩

end Routed

namespace Routed

theorem messages_of_withoutId {l m : List Issue}
    (same : l.map Issue.withoutId = m.map Issue.withoutId) :
    l.map Issue.message = m.map Issue.message := by
  have hmap : ∀ l : List Issue, (l.map Issue.withoutId).map Issue.message = l.map Issue.message :=
    fun l => List.map_map
  rw [← hmap l, same, hmap m]

theorem messages_of_listed {issues : List Issue} {message : Text}
    (found : issues.map Issue.message = [message]) :
    (Issue.listed issues).map Issue.message = [message] := by
  obtain ⟨x, rfl, rfl⟩ := List.map_eq_singleton_iff.mp found
  rw [Issue.listed, List.mergeSort_singleton]
  rfl

/-- What is found in the first file, with the routes of both files and with its own ones. -/
theorem found_facts :
    ((Script.ofText query).findings (detectors []) none
      (({ routes := sources.flatMap Source.routes } : Context).forFile (some (Script.ofText query))
        "a.js") "a.js").map Issue.message = [Query.message true] ∧
    ((Script.ofText query).found "a.js").map Issue.message = [Query.message false] ∧
    Query.message true ≠ Query.message false ∧
    ∀ r ∈ sources.flatMap Source.routes, r.file = "b.js" := by
  unfold sources query login Query.message
  repeat rw [Text.ofString_ofList]
  decide +kernel

end Routed

/-- The route of the second file marks the query of the first one, which by itself is not marked. The
second file is the only one with routes, and has the issues that it has by itself. -/
theorem scanFor_file_sample : ∃ a b b',
    (scanFor Routed.workspace Routed.config none).outcome.1 = .ok a ∧
      scanTextFor none Routed.query "a.js" = .ok b ∧
      ((a.issuesFor "a.js").map Issue.withoutId).map Issue.unmarked =
        (b.issues.map Issue.withoutId).map Issue.unmarked ∧
      (a.issuesFor "a.js").map Issue.message ≠ b.issues.map Issue.message ∧
      scanTextFor none Routed.login "b.js" = .ok b' ∧
      (a.issuesFor "b.js").map Issue.withoutId = b'.issues.map Issue.withoutId := by
  obtain ⟨a, hscan, hroutes⟩ := Routed.scanned
  obtain ⟨hquery, hlogin⟩ := Routed.parsed
  obtain ⟨hmarked, hunmarked, hmessages, hfiles⟩ := Routed.found_facts
  obtain ⟨b, hb, hsame, -, listed, hlisted, hids⟩ := scanFor_file Routed.tree rfl rfl rfl hscan
    Routed.files List.mem_cons_self Routed.reads.1 fun failure hfailure => by
      rw [hquery] at hfailure
      cases hfailure
  obtain ⟨b', hb', -, halone, -⟩ := scanFor_file Routed.tree rfl rfl rfl hscan
    Routed.files (List.mem_cons_of_mem _ List.mem_cons_self) Routed.reads.2 fun failure hfailure => by
      rw [hlogin] at hfailure
      cases hfailure
  refine ⟨a, b, b', hscan, hb, hsame, ?_, hb', halone (hroutes ▸ hfiles)⟩
  rw [hroutes, issuesIn, Source.ofText, hquery] at hlisted
  cases hlisted
  have hproject : (a.issuesFor "a.js").map Issue.message = [Query.message true] :=
    (Routed.messages_of_withoutId hids).trans (Routed.messages_of_listed hmarked)
  have halone : b.issues.map Issue.message = [Query.message false] := by
    rw [Except.ok.inj (hb.symm.trans (scanTextFor_of_parse hquery none "a.js"))]
    exact (Routed.messages_of_withoutId (Issue.map_withoutId_numbered _)).trans
      (Routed.messages_of_listed hunmarked)
  rw [hproject, halone]
  exact fun hsame => hmessages (List.singleton_inj.mp hsame)

end Project

end Readiness
