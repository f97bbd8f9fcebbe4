import Mathlib.Algebra.BigOperators.Group.List.Basic
import Readiness.Project.Repair
import Readiness.Proofs.CategoryFilter
import Readiness.Proofs.InertFiles
import Readiness.Proofs.RepairLedger
import Readiness.Proofs.SchemaMeaning

/-!
# Documents and their schemas

A scan and a repair hand on documents, and a schema says what either looks like. Issues
and entries of ledgers come from many places, so their documents are taken one part at
a time, and each part is asked for what its schema asks. All but one of the questions
have the answer that was hoped for. The schema wants columns that are not negative, and columns
are what the parser makes them: it starts some tokens left of their line. So the document of a
scan is accepted exactly if no issue stands there.
-/

namespace Readiness

open Schema

/-! ## Issues -/

theorem IssueType.ne_nil_of_isKnown {type : Text} (h : isKnown type = true) : type ≠ [] := by
  rintro rfl
  exact absurd h (by decide)

theorem Severity.name_mem (s : Severity) : s.name ∈ Severity.all.map (·.name) := by
  cases s <;> decide

theorem Category.name_mem (c : Category) : c.name ∈ Category.all.map (·.name) := by
  cases c <;> decide

theorem meets_string (t : Text) : (Json.str t).Meets (kind .string) := meets_kind rfl

theorem meets_nat (n : Nat) : (Json.nat n).Meets natural :=
  meets_natural.mpr (Int.natCast_nonneg n)

theorem meets_column {column : Option Int} :
    ((column.map Json.int).getD .null).Meets (.all [.kind [.integer, .null], .atLeast 0]) ↔
      0 ≤ column.getD 0 := by
  rw [meets_all, List.forall_mem_cons, List.forall_mem_singleton]
  cases column with
  | none =>
      have hkind : Json.null.MeetsDemand [] (.kind [.integer, .null]) :=
        meetsDemand_kind.mpr ⟨.null, .tail _ (.head _), rfl⟩
      exact ⟨fun _ => Int.le_refl 0, fun _ => ⟨hkind, fun _ => rfl⟩⟩
  | some n =>
      have hkind : (Json.int n).MeetsDemand [] (.kind [.integer, .null]) :=
        meetsDemand_kind.mpr ⟨.integer, .head _, rfl⟩
      exact ⟨fun h => meetsDemand_atLeast.mp h.2, fun h => ⟨hkind, meetsDemand_atLeast.mpr h⟩⟩

theorem meets_fix (fix : Option Text) :
    ((fix.map fun d => Json.obj [("description", .str d)]).getD .null).Meets
      (.all [.oneOf [
        kind .null,
        .all [
          .kind [.object],
          .required ["description"],
          .fields [("description", kind .string)]]]]) := by
  rw [meets_all, List.forall_mem_singleton, meetsDemand_oneOf]
  cases fix with
  | none => exact ⟨_, .head _, meets_kind rfl⟩
  | some d =>
      exact ⟨_, .tail _ (.head _),
        meets_record (by decide) (by decide) (.cons ⟨rfl, meets_string d⟩ .nil)⟩

/-- The document of an issue is as its schema says if the issue does not stand left of its line. -/
theorem Issue.meets_iff {i : Issue} (id : i.id ≠ []) :
    i.json.Meets Schema.issue ↔ 0 ≤ i.orderColumn := by
  constructor
  · intro h
    rw [Schema.issue, Issue.json, meets_all, List.forall_mem_cons, List.forall_mem_cons,
      List.forall_mem_singleton, meetsDemand_fields] at h
    exact meets_column.mp (h.2.2 ("column", _)
      (.tail _ (.tail _ (.tail _ (.tail _ (.tail _ (.tail _ (.head _))))))) _ rfl)
  · intro column
    refine meets_record (by decide) (by decide) ?_
    exact .cons ⟨rfl, meets_nonEmptyString.mpr id⟩ <|
      .cons ⟨rfl, meets_nonEmptyString.mpr (IssueType.ne_nil_of_isKnown i.known)⟩ <|
      .cons ⟨rfl, meets_word i.severity.name_mem⟩ <|
      .cons ⟨rfl, meets_word i.category.name_mem⟩ <|
      .cons ⟨rfl, meets_string _⟩ <|
      .cons ⟨rfl, meets_nat _⟩ <|
      .cons ⟨rfl, meets_column.mpr column⟩ <|
      .cons ⟨rfl, meets_string _⟩ <|
      .cons ⟨rfl, meets_string _⟩ <|
      .cons ⟨rfl, meets_string _⟩ <|
      .cons ⟨rfl, meets_fix i.fix⟩ <|
      .cons ⟨rfl, meets_string _⟩ .nil

/-! ## Contexts -/

theorem Route.meets {r : Route} (line : 0 ≤ r.line) : r.json.Meets Schema.route := by
  refine meets_record (by decide) (by decide) ?_
  exact .cons ⟨rfl, meets_string _⟩ <|
    .cons ⟨rfl, meets_string _⟩ <|
    .cons ⟨rfl, meets_string _⟩ <|
    .cons ⟨rfl, meets_string _⟩ <|
    .cons ⟨rfl, meets_natural.mpr line⟩ .nil

theorem meets_framework (framework : Option Text) :
    (Json.ofOption framework).Meets (.all [.kind [.string, .null]]) := by
  rw [meets_all, List.forall_mem_singleton]
  cases framework with
  | none => exact meetsDemand_kind.mpr ⟨.null, .tail _ (.head _), rfl⟩
  | some name => exact meetsDemand_kind.mpr ⟨.string, .head _, rfl⟩

theorem meets_strings (l : List Text) :
    (Json.strings l).Meets (.all [.kind [.array], .items (kind .string)]) :=
  meets_items.mpr fun w hw => by
    obtain ⟨t, -, rfl⟩ := List.mem_map.mp hw
    exact meets_string t

theorem Context.meets {c : Context} (lines : ∀ r ∈ c.routes, 0 ≤ r.line) :
    c.json.Meets Schema.context := by
  have hroutes : (Json.arr (c.routes.map Route.json)).Meets
      (.all [.kind [.array], .items route]) := meets_items.mpr fun w hw => by
    obtain ⟨r, hr, rfl⟩ := List.mem_map.mp hw
    exact Route.meets (lines r hr)
  refine meets_record (by decide) (by decide) ?_
  exact .cons ⟨rfl, meets_string _⟩ <|
    .cons ⟨rfl, meets_framework _⟩ <|
    .cons ⟨rfl, meets_strings _⟩ <|
    .cons ⟨rfl, hroutes⟩ <|
    .cons ⟨rfl, meets_kind rfl⟩ <|
    .cons ⟨rfl, meets_kind rfl⟩ <|
    .cons ⟨rfl, meets_kind rfl⟩ .nil

/-! ## Counts -/

/-- Issues that are counted under one key each are all counted. -/
theorem sum_countP_key {κ : Type} [DecidableEq κ] {all : List κ} (nodup : all.Nodup)
    (complete : ∀ k, k ∈ all) (key : Issue → κ) (issues : List Issue) :
    (all.map fun k => issues.countP (key · == k)).sum = issues.length := by
  induction issues with
  | nil => exact List.sum_map_zero
  | cons i more ih =>
      have hone : (all.map fun k => if (key i == k) = true then 1 else 0).sum = 1 := by
        rw [List.sum_map_eq_nsmul_single (key i), List.count_eq_one_of_mem nodup (complete _),
          beq_self_eq_true]
        · rfl
        · exact fun k hk _ => if_neg fun h => hk (beq_iff_eq.mp h).symm
      simp only [List.countP_cons]
      rw [List.sum_map_add, ih, hone, List.length_cons]

theorem sum_counts {κ : Type} (name : κ → Text) (count : κ → Nat) (l : List κ) :
    ((l.filterMap fun k => if count k = 0 then none else some (name k, count k)).map (·.2)).sum =
      (l.map count).sum := by
  induction l with
  | nil => rfl
  | cons k l ih =>
      rw [List.filterMap_cons, List.map_cons, List.sum_cons, ← ih]
      by_cases hk : count k = 0
      · rw [if_pos hk, hk, Nat.zero_add]
      · rw [if_neg hk]
        rfl

namespace Analysis

theorem sum_bySeverity (a : Analysis) : (a.bySeverity.map (·.2)).sum = a.issues.length := by
  rw [bySeverity, List.map_map]
  exact sum_countP_key (by decide) (fun s => by cases s <;> decide) Issue.severity a.issues

theorem sum_byCategory (a : Analysis) : (a.byCategory.map (·.2)).sum = a.issues.length := by
  rw [byCategory]
  exact (sum_counts _ _ _).trans
    (sum_countP_key (by decide) (fun c => by cases c <;> decide) Issue.category a.issues)

theorem meets_byCategory (a : Analysis) : (countsJson a.byCategory).Meets (.all [
    .kind [.object],
    .fieldNames Schema.category,
    .otherFields (.all [.kind [.integer], .atLeast 1])]) := by
  have hcount : ∀ f ∈ a.byCategory, ∃ c : Category, f.1 = c.name ∧ 1 ≤ f.2 := by
    intro f hf
    obtain ⟨c, -, hc⟩ := List.mem_filterMap.mp hf
    dsimp only at hc
    split at hc
    · cases hc
    · next hn =>
        cases hc
        exact ⟨c, rfl, Nat.one_le_iff_ne_zero.mpr hn⟩
  rw [countsJson, meets_all, List.forall_mem_cons, List.forall_mem_cons, List.forall_mem_singleton,
    meetsDemand_fieldNames, meetsDemand_otherFields]
  refine ⟨hasKind_object, fun f hf => ?_, fun f hf _ => ?_⟩
  · obtain ⟨g, hg, rfl⟩ := List.mem_map.mp hf
    obtain ⟨c, hc, -⟩ := hcount g hg
    rw [hc]
    exact meets_word c.name_mem
  · obtain ⟨g, hg, rfl⟩ := List.mem_map.mp hf
    obtain ⟨c, -, hn⟩ := hcount g hg
    rw [meets_all, List.forall_mem_cons, List.forall_mem_singleton]
    exact ⟨meetsDemand_kind.mpr ⟨.integer, .head _, rfl⟩,
      meetsDemand_atLeast.mpr (Int.ofNat_le.mpr hn)⟩

theorem meets_bySeverity (a : Analysis) : (countsJson a.bySeverity).Meets (.all [
    .kind [.object],
    .required ["critical", "high", "medium", "low"],
    .noOtherFields,
    .fields [
      ("critical", natural),
      ("high", natural),
      ("medium", natural),
      ("low", natural)]]) :=
  meets_closedRecord (by decide) (by decide) <|
    .cons ⟨rfl, meets_nat _⟩ <|
    .cons ⟨rfl, meets_nat _⟩ <|
    .cons ⟨rfl, meets_nat _⟩ <|
    .cons ⟨rfl, meets_nat _⟩ .nil

theorem meets_tier (t : Tier) :
    (Json.str t.name).Meets (.all [.oneOfWords ["green", "yellow", "red"]]) :=
  meets_word (by cases t <;> decide)

theorem meets_score {score : Int} (low : 0 ≤ score) (high : score ≤ 100) :
    (Json.int score).Meets (.all [.kind [.integer], .atLeast 0, .atMost 100]) := by
  rw [meets_all, List.forall_mem_cons, List.forall_mem_cons, List.forall_mem_singleton]
  exact ⟨meetsDemand_kind.mpr ⟨.integer, .head _, rfl⟩, meetsDemand_atLeast.mpr low,
    meetsDemand_atMost.mpr high⟩

/-- What a scan makes sure of besides what the type of its result says. -/
structure Sound (a : Analysis) : Prop where
  low : 0 ≤ a.score
  high : a.score ≤ 100
  ids : ∀ i ∈ a.issues, i.id ≠ []
  lines : ∀ r ∈ a.context.routes, 0 ≤ r.line

/-- The document of a result is as its schema says if no issue stands left of its line. -/
theorem Sound.meets_iff {a : Analysis} (sound : a.Sound) :
    a.json.Meets Schema.analysis ↔ ∀ i ∈ a.issues, 0 ≤ i.orderColumn := by
  have hissues : (Json.arr (a.issues.map Issue.json)).Meets
      (.all [.kind [.array], .items Schema.issue]) ↔ ∀ i ∈ a.issues, 0 ≤ i.orderColumn := by
    rw [meets_items, List.forall_mem_map]
    exact forall₂_congr fun i hi => Issue.meets_iff (sound.ids i hi)
  rw [← hissues]
  constructor
  · intro h
    rw [Schema.analysis, json, jsonWith, meets_all, List.forall_mem_cons, List.forall_mem_cons,
      List.forall_mem_cons, List.forall_mem_singleton, meetsDemand_fields] at h
    exact h.2.2.2 ("issues", _) (.tail _ (.tail _ (.head _))) _ rfl
  · intro issues
    refine meets_closedRecord (by decide) (by decide) ?_
    exact .cons ⟨rfl, meets_score sound.low sound.high⟩ <|
      .cons ⟨rfl, meets_tier _⟩ <|
      .cons ⟨rfl, issues⟩ <|
      .cons ⟨rfl, meets_nat _⟩ <|
      .cons ⟨rfl, a.meets_byCategory⟩ <|
      .cons ⟨rfl, a.meets_bySeverity⟩ <|
      .cons ⟨rfl, meets_strings _⟩ <|
      .cons ⟨rfl, Context.meets sound.lines⟩ .nil

end Analysis

/-! ## Scans -/

theorem Issue.id_of_numberedAfter {seen : List Text} {issues : List Issue} :
    ∀ i ∈ numberedAfter seen issues, i.id ≠ [] := by
  induction issues generalizing seen with
  | nil => exact fun i hi => absurd hi List.not_mem_nil
  | cons i more ih =>
      rw [numberedAfter]
      intro j hj
      rcases List.mem_cons.mp hj with rfl | hj
      · exact List.append_ne_nil_of_left_ne_nil (List.append_ne_nil_of_left_ne_nil
          (IssueType.ne_nil_of_isKnown i.known) _) _
      · exact ih j hj

namespace Project

theorem sound_of_analyse {w : Workspace} {c : Config} {category : Option Category}
    {paths : List Path} {a : Analysis} (h : analyse w c category paths = .ok a) : a.Sound := by
  rw [analyse] at h
  obtain ⟨context, -, h⟩ := exists_of_bind_ok h
  obtain ⟨sources, -, h⟩ := exists_of_bind_ok h
  obtain ⟨issues, -, h⟩ := exists_of_bind_ok h
  cases h
  refine ⟨Int.natCast_nonneg _, Int.ofNat_le.mpr (Nat.sub_le _ _), Issue.id_of_numberedAfter, ?_⟩
  intro r hr
  obtain ⟨source, -, hr⟩ := List.mem_flatMap.mp hr
  exact source.line_of_routes r hr

theorem sound_of_scanFor {w : Workspace} {c : Config} {category : Option Category} {a : Analysis}
    (scanned : (scanFor w c category).outcome.1 = .ok a) : a.Sound := by
  rw [scanFor, scanBy_outcome] at scanned
  obtain ⟨paths, -, scanned⟩ := exists_of_bind_ok scanned
  exact sound_of_analyse scanned

end Project

/-! ## Ledgers -/

theorem mem_stringField {key : Text} {t : Option Text} {f : Text × Json}
    (h : f ∈ Json.stringField key t) : ∃ u, f = (key, .str u) := by
  cases t with
  | none => cases h
  | some u => exact ⟨u, List.mem_singleton.mp h⟩

namespace LedgerEntry

/-- An entry is for an issue, and if it failed it tells why. -/
structure Sound (e : LedgerEntry) : Prop where
  id : e.issueId ≠ []
  told : e.success = false → e.error.isSome = true

theorem mem_fields {e : LedgerEntry} {f : Text × Json} (h : f ∈ e.fields) :
    f = (Text.ofString "issueId", .str e.issueId) ∨ f = (Text.ofString "success", .bool e.success) ∨
      ∃ key ∈ (["error", "diff", "explanation"] : List Text), ∃ t, f = (key, .str t) := by
  rcases List.mem_cons.mp h with rfl | h
  · exact .inl rfl
  rcases List.mem_cons.mp h with rfl | h
  · exact .inr (.inl rfl)
  refine .inr (.inr ?_)
  rcases List.mem_append.mp h with h | h
  · rcases List.mem_append.mp h with h | h
    · exact ⟨"error", .head _, mem_stringField h⟩
    · exact ⟨"diff", .tail _ (.head _), mem_stringField h⟩
  · split at h
    · cases h
    · exact ⟨"explanation", .tail _ (.tail _ (.head _)), mem_stringField h⟩

theorem Sound.each {e : LedgerEntry} (sound : e.Sound) :
    ∀ f ∈ e.fields, ∃ s, (f.1, s) ∈ entryFields ∧ f.2.Meets s := by
  intro f hf
  rcases mem_fields hf with rfl | rfl | ⟨key, hkey, t, rfl⟩
  · exact ⟨_, .head _, meets_nonEmptyString.mpr sound.id⟩
  · exact ⟨_, .tail _ (.head _), meets_kind rfl⟩
  · refine ⟨kind .string, ?_, meets_string t⟩
    simp only [List.mem_cons, List.not_mem_nil, or_false] at hkey
    rcases hkey with rfl | rfl | rfl
    · exact .tail _ (.tail _ (.head _))
    · exact .tail _ (.tail _ (.tail _ (.head _)))
    · exact .tail _ (.tail _ (.tail _ (.tail _ (.head _))))

/-- Only an entry that failed is asked for an error. -/
theorem Sound.meets_error {e : LedgerEntry} (sound : e.Sound)
    (failed : e.json.Meets (.all [.fields [("success", .all [.isBoolean false])]])) :
    e.json.Meets (.all [.required ["error"]]) := by
  rw [json, meets_all, List.forall_mem_singleton, meetsDemand_fields] at failed
  have hsuccess := failed ("success", _) (.head _) _ rfl
  rw [meets_all, List.forall_mem_singleton, meetsDemand_isBoolean] at hsuccess
  obtain ⟨error, herror⟩ := Option.isSome_iff_exists.mp (sound.told hsuccess.symm)
  rw [json, meets_all, List.forall_mem_singleton, meetsDemand_required, List.forall_mem_singleton]
  refine lookup_isSome (List.mem_map.mpr ⟨("error", .str error), ?_, rfl⟩)
  rw [fields, herror]
  exact .tail _ (.tail _ (.head _))

theorem Sound.meets {e : LedgerEntry} (sound : e.Sound) : e.json.Meets Schema.ledgerEntry := by
  rw [Schema.ledgerEntry, meets_all, List.forall_mem_cons, List.forall_mem_cons,
    List.forall_mem_cons, List.forall_mem_cons, List.forall_mem_singleton]
  refine ⟨hasKind_object, meetsDemand_required.mpr ?_, meetsDemand_noOtherFields.mpr ?_,
    meetsDemand_fields_of_mem (by decide) sound.each, meetsDemand_ifThen.mpr sound.meets_error⟩
  · intro n hn
    rcases List.mem_pair.mp hn with rfl | rfl
    · exact lookup_isSome (.head _)
    · exact lookup_isSome (.tail _ (.head _))
  · intro f hf
    obtain ⟨s, hs, -⟩ := sound.each f hf
    exact List.mem_flatMap.mpr ⟨.fields entryFields, .tail _ (.tail _ (.tail _ (.head _))),
      List.mem_map_of_mem hs⟩

end LedgerEntry

namespace ProjectLedger

theorem length_entries (l : ProjectLedger) : l.entries.length = l.successful + l.failed := by
  have hle : l.successful ≤ l.entries.length := List.countP_le_length
  rw [failed, Nat.add_sub_cancel' hle]

theorem meets {l : ProjectLedger} (sound : ∀ e ∈ l.entries, e.Sound) :
    l.json.Meets Schema.ledger := by
  have hentries : (Json.arr (l.entries.map LedgerEntry.json)).Meets
      (.all [.kind [.array], .items ledgerEntry]) := by
    rw [meets_items, List.forall_mem_map]
    exact fun e he => (sound e he).meets
  have hfiles : (Json.obj (l.sortedFiles.map fun e => (e.1, Json.str e.2))).Meets
      (.all [.kind [.object], .otherFields (kind .string)]) := by
    rw [meets_all, List.forall_mem_cons, List.forall_mem_singleton, meetsDemand_otherFields,
      List.forall_mem_map]
    exact ⟨hasKind_object, fun f _ _ => meets_string f.2⟩
  have hsummary : (Json.obj [
      ("total", Json.nat l.entries.length),
      ("successful", Json.nat l.successful),
      ("failed", Json.nat l.failed)]).Meets (.all [
        .kind [.object],
        .required ["total", "successful", "failed"],
        .noOtherFields,
        .fields [("total", natural), ("successful", natural), ("failed", natural)]]) :=
    meets_closedRecord (by decide) (by decide) <|
      .cons ⟨rfl, meets_nat _⟩ <|
      .cons ⟨rfl, meets_nat _⟩ <|
      .cons ⟨rfl, meets_nat _⟩ .nil
  exact meets_closedRecord (by decide) (by decide) <|
    .cons ⟨rfl, hentries⟩ <|
    .cons ⟨rfl, hfiles⟩ <|
    .cons ⟨rfl, hsummary⟩ .nil

end ProjectLedger

/-! ## Repairs -/

namespace Repair

/-- Whatever the fixers do, an entry that failed tells why. -/
theorem sound_of_repairInTurns {Tree : Type} {g : Grammar Tree} {e : Nat → Engine Tree}
    {label t : Text} {issues : List Issue} {r : Repaired} (ids : ∀ i ∈ issues, i.id ≠ [])
    (repaired : repairInTurns g e label t issues = .ok r) : ∀ entry ∈ r.ledger, entry.Sound := by
  have hids : ∀ entry ∈ r.ledger, entry.issueId ≠ [] := by
    intro entry hentry
    have hmem := List.mem_map_of_mem (f := LedgerEntry.issueId) hentry
    rw [map_issueId_of_repairInTurns repaired] at hmem
    obtain ⟨i, hi, hid⟩ := List.mem_map.mp hmem
    exact hid ▸ ids i (List.mem_mergeSort.mp hi)
  refine fun entry hentry => ⟨hids entry hentry, fun hfailed => ?_⟩
  cases hread : g.read t with
  | error b =>
      rw [repairInTurns_breakdown hread] at repaired
      cases repaired
  | ok parsed =>
      cases parsed with
      | error reason =>
          rw [repairInTurns_unparsed hread] at repaired
          cases repaired
          obtain ⟨i, -, rfl⟩ := List.mem_map.mp hentry
          rfl
      | ok tree =>
          rw [repairInTurns_parsed hread] at repaired
          cases repaired
          obtain ⟨a, -, rfl⟩ := List.mem_map.mp hentry
          obtain ⟨-, ⟨error, herror, -⟩, -⟩ := (entry_tells label a).failed hfailed
          rw [herror]
          rfl

end Repair

theorem Issue.mem_of_wanted {types : List Text} {issues : List Issue} {i : Issue}
    (h : i ∈ wanted types issues) : i ∈ issues := by
  rw [wanted] at h
  split at h
  · exact h
  · exact (List.mem_filter.mp h).1

namespace Project

theorem sound_of_repairFileInTurns {w : Workspace} {root : Path} {scope : RepairScope}
    {e : Nat → Repair.Engine Script} {file : Text} {issues : List Issue}
    (ids : ∀ i ∈ issues, i.id ≠ []) {entries : List LedgerEntry} {text : Option Text}
    (h : (repairFileInTurns w root scope e file issues).outcome = .ok (entries, text)) :
    ∀ entry ∈ entries, entry.Sound := by
  have hfailed : ∀ why : Text, ∀ entry ∈ issues.map (LedgerEntry.failed ·.id why),
      entry.Sound := by
    intro why entry hentry
    obtain ⟨i, hi, rfl⟩ := List.mem_map.mp hentry
    exact ⟨ids i hi, fun _ => rfl⟩
  rw [repairFileInTurns] at h
  dsimp only at h
  split at h
  · cases h
    exact hfailed _
  · split at h
    · cases h
    · next r hr =>
        have hsound := Repair.sound_of_repairInTurns ids hr
        split at h
        · split at h
          · cases h
            exact hfailed _
          · cases h
          · cases h
            exact hsound
        · cases h
          exact hsound

theorem sound_of_repairFilesInTurns {root : Path} {scope : RepairScope}
    {e : Text → Nat → Repair.Engine Script} {issues : List Issue} (ids : ∀ i ∈ issues, i.id ≠ [])
    {files : List Text} : ∀ {w : Workspace} {l : ProjectLedger},
    (repairFilesInTurns w root scope e issues files).ledger = .ok l →
      ∀ entry ∈ l.entries, entry.Sound := by
  induction files with
  | nil =>
      intro w l h
      rw [repairFilesInTurns] at h
      cases h
      exact fun entry hentry => absurd hentry List.not_mem_nil
  | cons file more ih =>
      intro w l h
      have hids : ∀ i ∈ issues.filter (·.file == file), i.id ≠ [] := fun i hi =>
        ids i (List.mem_filter.mp hi).1
      rw [repairFilesInTurns] at h
      dsimp only at h
      split at h
      · cases h
      · next entries text hfile =>
          obtain ⟨rest, hrest, rfl⟩ := exists_of_map_ok h
          intro entry hentry
          rcases List.mem_append.mp hentry with hentry | hentry
          · exact sound_of_repairFileInTurns hids hfile entry hentry
          · exact ih hrest entry hentry

/-- The documents of a scan and of the repairs that follow it. That of the scan is as its schema
says exactly if no issue stands left of its line, and its counts are complete; that of every repair
is as its schema says, whatever the fixers do and whichever files can be read. -/
theorem scanFor_contracts {w : Workspace} {c : Config} {category : Option Category} {a : Analysis}
    (scanned : (scanFor w c category).outcome.1 = .ok a) :
    (Schema.validate a.json "analysis_result.schema.json" = .ok () ↔
      ∀ i ∈ a.issues, 0 ≤ i.orderColumn) ∧
    (a.bySeverity.map (·.2)).sum = a.issues.length ∧
    (a.byCategory.map (·.2)).sum = a.issues.length ∧
    ∀ (w' : Workspace) (root : Path) (scope : RepairScope) (e : Text → Nat → Repair.Engine Script)
      (l : ProjectLedger), (repairInTurns w' root scope e a).ledger = .ok l →
        Schema.validate l.json "fix_result.schema.json" = .ok () ∧
        (∀ entry ∈ l.entries, entry.success = false → entry.error.isSome = true) ∧
        l.entries.length = l.successful + l.failed := by
  have hsound := sound_of_scanFor scanned
  refine ⟨(validate_ok_iff rfl).trans hsound.meets_iff, a.sum_bySeverity, a.sum_byCategory, ?_⟩
  intro w' root scope e l repaired
  have hentries : ∀ entry ∈ l.entries, entry.Sound :=
    sound_of_repairFilesInTurns (fun i hi => hsound.ids i (Issue.mem_of_wanted hi)) repaired
  exact ⟨(validate_ok_iff rfl).mpr (ProjectLedger.meets hentries),
    fun entry hentry => (hentries entry hentry).told, l.length_entries⟩

theorem scanFor_contracts_sample : ∃ a,
    (scanFor Routed.workspace Routed.config none).outcome.1 = .ok a ∧
      (a.bySeverity.map (·.2)).sum = a.issues.length := by
  obtain ⟨a, hscan, -⟩ := Routed.scanned
  exact ⟨a, hscan, (scanFor_contracts hscan).2.1⟩

/-! A project of one file, in which a call starts with a template of two lines. The parser counts
the columns of such a template from its end and starts it left of its line. -/
namespace Leftmost

def text : Text := "`\n`.all(''+y)"

def mark : Issue.Mark := ⟨IssueType.sqlInjection, 1, some (-2)⟩

def workspace : Workspace where
  disk := ⟨[(["p"], .folder), (["p", "a.js"], .file (Text.utf8 text))]⟩
  here := []

theorem counts {patterns rel : List Text} {bytes : List UInt8}
    (h : (Discovery.ofConfig Routed.config).Counts workspace.disk patterns rel bytes) :
    rel = ["a.js"] := by
  have hmem := Disk.mem_entries h.entry (List.cons_ne_nil _ _)
  rcases List.mem_pair.mp hmem with heq | heq
  · cases heq
  · cases heq
    rfl

theorem only : ∀ rel, (∃ bytes,
    (Discovery.ofConfig Routed.config).Counts workspace.disk [] rel bytes) ↔
      rel ∈ ([["a.js"]] : List (List Text)) := by
  intro rel
  rw [List.mem_singleton]
  constructor
  · exact fun ⟨_, h⟩ => counts h
  · rintro rfl
    exact ⟨Text.utf8 text, rfl, List.cons_ne_nil _ _, by decide +kernel, by decide, rfl,
      by decide +kernel⟩

theorem text_facts : Script.isPlain text = true ∧
    ((Script.ofText text).found "a.js").map Issue.mark = [mark] := by
  rw [text, Text.ofString_ofList]
  decide +kernel

theorem scanned : (scanFor workspace Routed.config none).outcome.1 =
    .ok ((Script.ofText text).analysis none "a.js") := by
  have hread : readIgnorePatterns workspace (Routed.config.root ++
      Path.ofText Routed.config.ignoreFile) = .ok [] := ok_of_toOption (by decide +kernel)
  have hfiles := Discovery.filesBy_of_counts (d := Discovery.ofConfig Routed.config)
    (Disk.isTree_of_parts (by decide) (by decide)) rfl rfl rfl Disk.below_isFull hread
    (List.pairwise_singleton _ _) only
  have hreads : workspace.read ⟨.top, ["p", "a.js"]⟩ = .ok text :=
    ok_of_toOption (by decide +kernel)
  have hload : (load workspace Routed.config.root ⟨.top, ["p", "a.js"]⟩).outcome.1 =
      .ok ⟨"a.js", .ok (Script.ofText text)⟩ := by
    rw [load, hreads]
    dsimp only
    rw [Script.parse_of_isPlain text_facts.1]
    rfl
  rw [scanFor, scanBy_outcome, hfiles]
  exact analyse_of_script none rfl rfl hload

end Leftmost

/-- The document of this scan is not as its schema says. -/
theorem scan_rejected : ∃ a, (scanFor Leftmost.workspace Routed.config none).outcome.1 = .ok a ∧
    (∃ i ∈ a.issues, i.orderColumn = -2) ∧
    Schema.validate a.json "analysis_result.schema.json" ≠ .ok () := by
  have hmarks := Script.map_mark_analysis (Script.ofText Leftmost.text) "a.js"
  rw [Leftmost.text_facts.2, List.mergeSort_singleton] at hmarks
  obtain ⟨i, more, hissues, hmark, -⟩ := List.map_eq_cons_iff.mp hmarks
  have hi : i ∈ ((Script.ofText Leftmost.text).analysis none "a.js").issues :=
    hissues ▸ List.mem_cons_self
  have hcolumn : i.orderColumn = -2 :=
    congrArg (fun m : Issue.Mark => m.column.getD 0) hmark
  refine ⟨_, Leftmost.scanned, ⟨i, hi, hcolumn⟩, fun hvalid => ?_⟩
  have hall := (sound_of_scanFor Leftmost.scanned).meets_iff.mp ((validate_ok_iff rfl).mp hvalid)
  have hge := hall i hi
  rw [hcolumn] at hge
  exact absurd hge (by decide)

end Project

end Readiness
