import Readiness.Proofs.DiscoveredFiles

/-!
# What a scan comes to, its record left out

A scan writes a record of what it does and never looks at it again. `Comes` says this
of a computation: whatever was recorded before, this is what it comes to. It holds
of the steps that record and of the steps that fail, and steps put together come to
what their results put together come to. So the record can be left out of account:
`scanBy_outcome` has a scan as a plain chain of results, from the files that were
discovered to their issues, and two scans are compared link by link.
-/

namespace Readiness

namespace Recorded

variable {ε ε' α β : Type}

/-- A computation comes to this, whatever was recorded before. -/
def Comes (m : Recorded ε α) (r : Except ε α) : Prop :=
  ∀ log : Log, (StateT.run (ExceptT.run m) log).1 = r

/-- A computation always comes to the same. -/
def Heedless (m : Recorded ε α) : Prop := m.Comes m.outcome.1

theorem heedless_of_comes {m : Recorded ε α} {r : Except ε α} (h : m.Comes r) : m.Heedless :=
  fun log => (h log).trans (h []).symm

theorem comes_pure (a : α) : Comes (pure a : Recorded ε α) (.ok a) := fun _ => rfl

theorem comes_throw (e : ε) : Comes (throw e : Recorded ε α) (.error e) := fun _ => rfl

theorem comes_record (level : LogLevel) (source message : Text) :
    Comes (record level source message : Recorded ε Unit) (.ok ()) := fun _ => rfl

theorem comes_recordAll (entries : Log) :
    Comes (recordAll entries : Recorded ε Unit) (.ok ()) := fun _ => rfl

theorem comes_ofExcept (fault : ε' → ε) (r : Except ε' α) :
    Comes (ofExcept fault r) (r.mapError fault) := by
  cases r <;> exact fun _ => rfl

/-- What a computation comes to, from what its first step comes to with nothing recorded. -/
theorem outcome_bind_comes {m : Recorded ε α} {f : α → Recorded ε β} {g : α → Except ε β}
    (hf : ∀ a, Comes (f a) (g a)) : (m >>= f).outcome.1 = m.outcome.1 >>= g := by
  rw [outcome, outcome, ExceptT.run_bind, StateT.run_bind]
  cases StateT.run (ExceptT.run m) [] with
  | mk result between =>
      cases result with
      | error e => rfl
      | ok a => exact hf a between

theorem comes_bind {m : Recorded ε α} {f : α → Recorded ε β} {r : Except ε α}
    {g : α → Except ε β} (hm : m.Comes r) (hf : ∀ a, Comes (f a) (g a)) :
    Comes (m >>= f) (r >>= g) := by
  intro log
  rw [← hm log, ExceptT.run_bind, StateT.run_bind]
  cases StateT.run (ExceptT.run m) log with
  | mk result between =>
      cases result with
      | error e => rfl
      | ok a => exact hf a between

theorem heedless_bind {m : Recorded ε α} {f : α → Recorded ε β} (hm : m.Heedless)
    (hf : ∀ a, (f a).Heedless) : (m >>= f).Heedless :=
  heedless_of_comes (comes_bind hm hf)

theorem comes_mapM {f : α → Recorded ε β} {g : α → Except ε β} (hf : ∀ a, Comes (f a) (g a))
    (l : List α) : Comes (l.mapM f) (l.mapM g) := by
  induction l with
  | nil =>
      rw [List.mapM_nil, List.mapM_nil]
      exact comes_pure []
  | cons a l ih =>
      rw [List.mapM_cons, List.mapM_cons]
      exact comes_bind (hf a) fun b => comes_bind ih fun more => comes_pure (b :: more)

end Recorded

namespace Project

open Recorded

theorem heedless_load (w : Workspace) (root path : Path) : (load w root path).Heedless := by
  rw [load]
  dsimp only
  split
  · exact heedless_bind (comes_record _ _ _) fun _ => comes_pure _
  · refine heedless_bind (comes_recordAll _) fun _ =>
      heedless_bind (heedless_of_comes (comes_ofExcept _ _)) ?_
    intro parsed
    cases parsed with
    | ok s => exact comes_pure _
    | error f => exact heedless_bind (comes_record _ _ _) fun _ => comes_pure _

theorem heedless_context (w : Workspace) (root : Path) : (context w root).Heedless := by
  have hpackage : (package w root).Heedless := by
    rw [package]
    dsimp only
    split
    · exact comes_pure none
    · split
      · exact heedless_bind (comes_record _ _ _) fun _ => comes_pure _
      · split
        · exact comes_throw _
        · exact heedless_bind (comes_record _ _ _) fun _ => comes_pure _
        · exact comes_pure _
        · exact comes_pure _
  rw [context]
  refine heedless_bind hpackage fun fields => ?_
  cases fields with
  | none => exact comes_pure _
  | some fields => exact comes_pure _

/-- What a scan makes of the files that were discovered. -/
def analyse (w : Workspace) (c : Config) (category : Option Category) (paths : List Path) :
    Except ProjectFault Analysis := do
  let context ← (context w c.root).outcome.1
  let sources ← paths.mapM fun path => (load w c.root path).outcome.1
  let project := { context with routes := sources.flatMap Source.routes }
  let issues ← Except.mapError ProjectFault.breakdown
    (sources.mapM (·.issues (detectors c.wrappers) category project))
  return Analysis.of issues.flatten (sources.map (·.file)) project

/-- A scan comes to what is made of the files that were discovered. -/
theorem scanBy_outcome (walk : Disk.Walk) (w : Workspace) (c : Config)
    (category : Option Category) :
    (scanBy walk w c category).outcome.1 =
      ((Discovery.ofConfig c).filesBy walk w).outcome.1.mapError .read >>=
        analyse w c category := by
  rw [scanBy, ← outcome_adapt]
  exact outcome_bind_comes fun paths =>
    comes_bind (comes_record _ _ _) fun _ =>
    comes_bind (heedless_context w c.root) fun _ =>
    comes_bind (comes_mapM (heedless_load w c.root) paths) fun _ =>
    comes_bind (comes_recordAll _) fun _ =>
    comes_bind (comes_ofExcept _ _) fun _ =>
    comes_pure _

theorem Source.issues_of_script (file : Text) (s : Script) (ds : List Detector)
    (category : Option Category) (project : Context) :
    Source.issues ⟨file, .ok s⟩ ds category project =
      .ok (Issue.listed (s.findings ds category (project.forFile (some s) file) file)) := rfl

/-- What is made of files that have been read, in a project without a package file. -/
theorem analyse_of_loads {w : Workspace} {c : Config} {category : Option Category}
    {paths : List Path} {sources : List Source} {lists : List (List Issue)}
    (wrappers : c.wrappers = [])
    (package : w.isFile (c.root.child "package.json") = false)
    (loaded : (paths.mapM fun path => (load w c.root path).outcome.1) = .ok sources)
    (listed : sources.mapM
      (·.issues (detectors []) category { routes := sources.flatMap Source.routes }) = .ok lists) :
    analyse w c category paths = .ok (Analysis.of lists.flatten (sources.map (·.file))
      { routes := sources.flatMap Source.routes }) := by
  have hcontext : (context w c.root).outcome.1 = .ok {} := by
    rw [context, Project.package, package]
    rfl
  rw [analyse, hcontext, loaded, wrappers]
  dsimp only [bind, Except.bind]
  rw [listed]
  rfl

/-- A scan of one script, in a project without a package file. -/
theorem analyse_of_script {w : Workspace} {c : Config} (category : Option Category) {path : Path}
    {file : Text} {s : Script} (wrappers : c.wrappers = [])
    (package : w.isFile (c.root.child "package.json") = false)
    (loaded : (load w c.root path).outcome.1 = .ok ⟨file, .ok s⟩) :
    analyse w c category [path] = .ok (s.analysis category file) := by
  have hloads : ([path].mapM fun path => (load w c.root path).outcome.1) =
      .ok [⟨file, .ok s⟩] := by
    rw [List.mapM_cons, loaded]
    rfl
  have hlists : ([⟨file, .ok s⟩] : List Source).mapM
      (·.issues (detectors []) category
        { routes := ([⟨file, .ok s⟩] : List Source).flatMap Source.routes }) =
      .ok [Issue.listed (s.findings (detectors []) category
        (({ routes := s.routes file } : Context).forFile (some s) file) file)] := by
    rw [List.mapM_cons, List.mapM_nil, Source.issues_of_script, List.flatMap_singleton]
    rfl
  rw [analyse_of_loads wrappers package hloads hlists, List.flatMap_singleton, List.flatten_singleton]
  rfl

end Project

end Readiness
