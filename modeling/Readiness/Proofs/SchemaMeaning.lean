import Mathlib.Data.List.Nodup
import Readiness.Schema.Bundled

/-!
# What schemas ask for

A check collects the failures of a document and tells one of them. What counts for a document that
is accepted is only that there are none, so a schema can be read as a statement about
documents. `Meets` is that statement, and there is one lemma for each demand with what
it says: a demand on objects says nothing about other values, fields are asked about only
where they are there, and a condition binds only those that meet it. Which kind of
value a schema asks for goes into the words of a failure and not into whether there
is one.
-/

namespace Readiness

namespace Json

/-- A value fails none of the demands of a schema. -/
def Meets (v : Json) (s : Schema) : Prop := Schema.failures v s = []

/-- A value meets a demand of a schema that names the given fields. -/
def MeetsDemand (v : Json) (named : List Text) (d : Demand) : Prop :=
  ∀ kindFits, Schema.failuresAt v named kindFits d = []

end Json

namespace Schema

open Json

attribute [simp] failuresOf failuresAt fieldFailures choiceFailures

theorem greatest?_eq_none {l : List Failing} : greatest? l = none ↔ l = [] := by
  cases l with
  | nil => exact ⟨fun _ => rfl, fun _ => rfl⟩
  | cons f l => exact ⟨nofun, nofun⟩

theorem validate_ok_iff {v : Json} {name : Text} {s : Schema} (h : bundled.lookup name = some s) :
    validate v name = .ok () ↔ v.Meets s := by
  rw [validate, h, Meets, ← greatest?_eq_none]
  dsimp only [check]
  cases greatest? (failures v s) with
  | none => exact ⟨fun _ => rfl, fun _ => rfl⟩
  | some f => exact ⟨nofun, nofun⟩

/-! ## One demand -/

theorem ite_failing {p : Prop} [Decidable p] {f : Failing} :
    (if p then [] else [f]) = [] ↔ p := by
  split
  · next h => exact ⟨fun _ => h, fun _ => rfl⟩
  · next h => exact ⟨nofun, fun hp => absurd hp h⟩

theorem ite_passing {p : Prop} [Decidable p] {f : Failing} :
    (if p then [f] else []) = [] ↔ ¬p := by
  split
  · next h => exact ⟨nofun, fun hp => absurd h hp⟩
  · next h => exact ⟨fun _ => h, fun _ => rfl⟩

variable {v : Json} {named : List Text} {fields : List (Text × Json)}

theorem meetsDemand_kind {kinds : List ValueKind} :
    v.MeetsDemand named (.kind kinds) ↔ ∃ k ∈ kinds, v.hasKind k = true := by
  simp only [MeetsDemand, failuresAt, ite_failing, forall_const, List.any_eq_true]

theorem meetsDemand_required {names : List Text} :
    (Json.obj fields).MeetsDemand named (.required names) ↔
      ∀ n ∈ names, (fields.lookup n).isSome = true := by
  simp only [MeetsDemand, failuresAt, List.map_eq_nil_iff, List.filter_eq_nil_iff, forall_const,
    Option.isNone_iff_eq_none, Option.isSome_iff_ne_none]

theorem meetsDemand_noOtherFields :
    (Json.obj fields).MeetsDemand named .noOtherFields ↔ ∀ f ∈ fields, f.1 ∈ named := by
  have hextras : (fields.map (·.1)).filter (fun n => !named.contains n) = [] ↔
      ∀ f ∈ fields, f.1 ∈ named := by
    simp only [List.filter_eq_nil_iff, List.mem_map, forall_exists_index, and_imp,
      forall_apply_eq_imp_iff₂, Bool.not_eq_true', Bool.not_eq_false, List.contains_iff_mem]
  rw [← hextras]
  simp only [MeetsDemand, failuresAt]
  split
  · next h => exact ⟨fun _ => h, fun _ _ => rfl⟩
  · next h => exact ⟨fun hnone => absurd (hnone false) (List.cons_ne_nil _ _), fun hnil => absurd hnil h⟩

theorem meetsDemand_otherFields {s : Schema} :
    (Json.obj fields).MeetsDemand named (.otherFields s) ↔
      ∀ f ∈ fields, f.1 ∉ named → f.2.Meets s := by
  simp only [MeetsDemand, failuresAt, forall_const, List.flatMap_eq_nil_iff, List.map_eq_nil_iff,
    List.mem_filter, Bool.not_eq_true', ← Bool.not_eq_true, List.contains_iff_mem, and_imp, Meets]

theorem fieldFailures_eq_nil {schemas : List (Text × Schema)} :
    fieldFailures fields schemas = [] ↔
      ∀ p ∈ schemas, ∀ w, fields.lookup p.1 = some w → w.Meets p.2 := by
  induction schemas with
  | nil => exact ⟨fun _ => nofun, fun _ => rfl⟩
  | cons p schemas ih =>
      obtain ⟨n, s⟩ := p
      rw [fieldFailures, List.append_eq_nil_iff, ih, List.forall_mem_cons]
      refine and_congr_left fun _ => ?_
      cases hfield : fields.lookup n with
      | none => exact ⟨fun _ => nofun, fun _ => rfl⟩
      | some w =>
          dsimp only
          rw [List.map_eq_nil_iff]
          exact ⟨fun h w' hw => Option.some.inj hw ▸ h, fun h => h w rfl⟩

theorem meetsDemand_fields {schemas : List (Text × Schema)} :
    (Json.obj fields).MeetsDemand named (.fields schemas) ↔
      ∀ p ∈ schemas, ∀ w, fields.lookup p.1 = some w → w.Meets p.2 := by
  simp only [MeetsDemand, failuresAt, forall_const, fieldFailures_eq_nil]

theorem meetsDemand_fieldNames {s : Schema} :
    (Json.obj fields).MeetsDemand named (.fieldNames s) ↔ ∀ f ∈ fields, (Json.str f.1).Meets s := by
  simp only [MeetsDemand, failuresAt, forall_const, List.flatMap_eq_nil_iff, Meets]

theorem meetsDemand_items {l : List Json} {s : Schema} :
    (Json.arr l).MeetsDemand named (.items s) ↔ ∀ w ∈ l, w.Meets s := by
  simp only [MeetsDemand, failuresAt, forall_const, List.flatMap_eq_nil_iff, List.map_eq_nil_iff]
  constructor
  · intro h w hw
    obtain ⟨n, hn, rfl⟩ := List.getElem_of_mem hw
    exact h (l[n], n) (List.mk_mem_zipIdx_iff_getElem?.mpr (List.getElem?_eq_getElem hn))
  · intro h p hp
    exact h p.1 (List.fst_mem_of_mem_zipIdx hp)

theorem meetsDemand_oneOfWords {words : List Text} :
    v.MeetsDemand named (.oneOfWords words) ↔ ∃ w ∈ words, v.str? = some w := by
  simp only [MeetsDemand, failuresAt, ite_failing, forall_const, List.any_eq_true, beq_iff_eq]

theorem meetsDemand_isBoolean {b c : Bool} :
    (Json.bool c).MeetsDemand named (.isBoolean b) ↔ b = c := by
  simp only [MeetsDemand, failuresAt, ite_failing, forall_const]

theorem meetsDemand_atLeast {n bound : Int} :
    (Json.int n).MeetsDemand named (.atLeast bound) ↔ bound ≤ n := by
  have hless : (compareNumber (.int n) bound == some .lt) = true ↔ n < bound := by
    rw [compareNumber, beq_iff_eq, Option.some.injEq, Int.compare_eq_lt]
  simp only [MeetsDemand, failuresAt, ite_passing, hless, forall_const, Int.not_lt]

theorem meetsDemand_atMost {n bound : Int} :
    (Json.int n).MeetsDemand named (.atMost bound) ↔ n ≤ bound := by
  have hmore : (compareNumber (.int n) bound == some .gt) = true ↔ bound < n := by
    rw [compareNumber, beq_iff_eq, Option.some.injEq, Int.compare_eq_gt]
  simp only [MeetsDemand, failuresAt, ite_passing, hmore, forall_const, Int.not_lt]

theorem meetsDemand_nonEmpty {t : Text} :
    (Json.str t).MeetsDemand named .nonEmpty ↔ t ≠ [] := by
  have hempty : ((Json.str t).str? == some "") = true ↔ t = [] := by
    rw [beq_iff_eq]
    exact ⟨fun h => Option.some.inj h, fun h => congrArg some h⟩
  simp only [MeetsDemand, failuresAt, ite_passing, hempty, forall_const, ne_eq]

theorem choiceFailures_eq_none {schemas : List Schema} :
    choiceFailures v schemas = none ↔ ∃ s ∈ schemas, v.Meets s := by
  induction schemas with
  | nil => exact ⟨nofun, fun ⟨s, hs, _⟩ => absurd hs List.not_mem_nil⟩
  | cons s schemas ih =>
      simp only [choiceFailures, List.mem_cons, or_and_right, exists_or, exists_eq_left, ← ih]
      split
      · next h => exact ⟨fun _ => .inl h, fun _ => rfl⟩
      · next h =>
          rw [Option.map_eq_none_iff]
          exact ⟨.inr, fun hor => hor.resolve_left h⟩

theorem meetsDemand_oneOf {schemas : List Schema} :
    v.MeetsDemand named (.oneOf schemas) ↔ ∃ s ∈ schemas, v.Meets s := by
  rw [← choiceFailures_eq_none]
  simp only [MeetsDemand, failuresAt]
  split
  · next h => exact ⟨fun _ => h, fun _ _ => rfl⟩
  · next h =>
      rw [h]
      exact ⟨fun hnone => absurd (hnone false) (List.cons_ne_nil _ _), nofun⟩

theorem meetsDemand_ifThen {condition consequence : Schema} :
    v.MeetsDemand named (.ifThen condition consequence) ↔
      (v.Meets condition → v.Meets consequence) := by
  simp only [MeetsDemand, failuresAt, forall_const, List.isEmpty_iff, Meets]
  split
  · next h => exact ⟨fun hnil _ => hnil, fun himp => himp h⟩
  · next h => exact ⟨fun _ hcondition => absurd hcondition h, fun _ => rfl⟩

/-! ## All demands -/

/-- The kind that a schema asks for does not tell how many failures there are. -/
theorem length_failuresAt (k k' : Bool) (d : Demand) :
    (failuresAt v named k d).length = (failuresAt v named k' d).length := by
  cases d with
  | kind ks | oneOfWords words | atLeast bound | atMost bound | nonEmpty =>
      simp only [failuresAt]
      split <;> rfl
  | required names =>
      simp only [failuresAt]
      split
      · rw [List.length_map, List.length_map]
      · rfl
  | noOtherFields | isBoolean b =>
      simp only [failuresAt]
      split
      · split <;> rfl
      · rfl
  | oneOf schemas =>
      simp only [failuresAt]
      split <;> rfl
  | otherFields s | fields schemas | fieldNames s | items s | ifThen condition consequence =>
      simp only [failuresAt]

theorem failuresOf_eq_nil {k : Bool} {demands : List Demand} :
    failuresOf v named k demands = [] ↔ ∀ d ∈ demands, v.MeetsDemand named d := by
  induction demands with
  | nil => exact ⟨fun _ => nofun, fun _ => rfl⟩
  | cons d demands ih =>
      rw [failuresOf, List.append_eq_nil_iff, ih, List.forall_mem_cons]
      refine and_congr_left fun _ => ⟨fun h k' => ?_, fun h => h k⟩
      rw [← List.length_eq_zero_iff, length_failuresAt k' k, h, List.length_nil]

theorem meets_all {demands : List Demand} :
    v.Meets (.all demands) ↔ ∀ d ∈ demands, v.MeetsDemand (namedFields demands) d := by
  rw [Meets, failures]
  exact failuresOf_eq_nil

/-! ## Records -/

theorem hasKind_object : (Json.obj fields).MeetsDemand named (.kind [.object]) :=
  meetsDemand_kind.mpr ⟨.object, List.mem_cons_self, rfl⟩

theorem lookup_isSome {n : Text} (h : n ∈ fields.map (·.1)) : (fields.lookup n).isSome = true := by
  rw [Option.isSome_iff_ne_none]
  intro hnone
  obtain ⟨f, hf, rfl⟩ := List.mem_map.mp h
  have hne := List.lookup_eq_none_iff.mp hnone f hf
  rw [bne_self_eq_false] at hne
  exact Bool.false_ne_true hne

/-- The fields of an object meet their schemas if each of them meets one that has its name. -/
theorem meetsDemand_fields_of_mem {schemas : List (Text × Schema)}
    (nodup : (schemas.map (·.1)).Nodup)
    (each : ∀ f ∈ fields, ∃ s, (f.1, s) ∈ schemas ∧ f.2.Meets s) :
    (Json.obj fields).MeetsDemand named (.fields schemas) := by
  refine meetsDemand_fields.mpr fun p hp w hw => ?_
  obtain ⟨before, behind, hsplit, -⟩ := List.lookup_eq_some_iff.mp hw
  have hmem : (p.1, w) ∈ fields := hsplit ▸ List.mem_append_right before List.mem_cons_self
  obtain ⟨s, hs, hmeets⟩ := each _ hmem
  have hsame : (p.1, s) = p := List.inj_on_of_nodup_map nodup hs hp rfl
  rw [← hsame]
  exact hmeets

/-- An object has the fields of a record, all of them and in the same order. -/
def IsRecord (fields : List (Text × Json)) (schemas : List (Text × Schema)) : Prop :=
  List.Forall₂ (fun f p => f.1 = p.1 ∧ f.2.Meets p.2) fields schemas

theorem IsRecord.keys {schemas : List (Text × Schema)} (h : IsRecord fields schemas) :
    fields.map (·.1) = schemas.map (·.1) := by
  induction h with
  | nil => rfl
  | cons hhead _ ih => rw [List.map_cons, List.map_cons, hhead.1, ih]

theorem IsRecord.each {schemas : List (Text × Schema)} (h : IsRecord fields schemas) :
    ∀ f ∈ fields, ∃ s, (f.1, s) ∈ schemas ∧ f.2.Meets s := by
  induction h with
  | nil => exact fun f hf => absurd hf List.not_mem_nil
  | cons hhead _ ih =>
      intro f hf
      rcases List.mem_cons.mp hf with rfl | hf
      · exact ⟨_, hhead.1 ▸ List.mem_cons_self, hhead.2⟩
      · obtain ⟨s, hs, hmeets⟩ := ih f hf
        exact ⟨s, List.mem_cons_of_mem _ hs, hmeets⟩

section

variable {names : List Text} {schemas : List (Text × Schema)}
  (nodup : (schemas.map (·.1)).Nodup) (there : ∀ n ∈ names, n ∈ schemas.map (·.1))

include nodup there

theorem meets_record (record : IsRecord fields schemas) :
    (Json.obj fields).Meets (.all [.kind [.object], .required names, .fields schemas]) := by
  rw [meets_all, List.forall_mem_cons, List.forall_mem_cons, List.forall_mem_singleton]
  exact ⟨hasKind_object,
    meetsDemand_required.mpr fun n hn => lookup_isSome (record.keys ▸ there n hn),
    meetsDemand_fields_of_mem nodup record.each⟩

/-- The same for a record that has no other fields. -/
theorem meets_closedRecord (record : IsRecord fields schemas) :
    (Json.obj fields).Meets
      (.all [.kind [.object], .required names, .noOtherFields, .fields schemas]) := by
  rw [meets_all, List.forall_mem_cons, List.forall_mem_cons, List.forall_mem_cons,
    List.forall_mem_singleton]
  have hkeys : ∀ f ∈ fields, f.1 ∈ schemas.map (·.1) := fun f hf =>
    record.keys ▸ List.mem_map_of_mem hf
  exact ⟨hasKind_object,
    meetsDemand_required.mpr fun n hn => lookup_isSome (record.keys ▸ there n hn),
    meetsDemand_noOtherFields.mpr fun f hf => List.mem_append_left [] (hkeys f hf),
    meetsDemand_fields_of_mem nodup record.each⟩

end

/-! ## Plain values -/

theorem meets_kind {k : ValueKind} (h : v.hasKind k = true) : v.Meets (kind k) := by
  rw [kind, meets_all, List.forall_mem_singleton]
  exact meetsDemand_kind.mpr ⟨k, List.mem_cons_self, h⟩

theorem meets_natural {n : Int} : (Json.int n).Meets natural ↔ 0 ≤ n := by
  rw [natural, meets_all, List.forall_mem_cons, List.forall_mem_singleton, meetsDemand_atLeast]
  exact and_iff_right (meetsDemand_kind.mpr ⟨.integer, List.mem_cons_self, rfl⟩)

theorem meets_nonEmptyString {t : Text} : (Json.str t).Meets nonEmptyString ↔ t ≠ [] := by
  rw [nonEmptyString, meets_all, List.forall_mem_cons, List.forall_mem_singleton,
    meetsDemand_nonEmpty]
  exact and_iff_right (meetsDemand_kind.mpr ⟨.string, List.mem_cons_self, rfl⟩)

theorem meets_word {words : List Text} {t : Text} (h : t ∈ words) :
    (Json.str t).Meets (.all [.oneOfWords words]) := by
  rw [meets_all, List.forall_mem_singleton]
  exact meetsDemand_oneOfWords.mpr ⟨t, h, rfl⟩

theorem meets_items {l : List Json} {s : Schema} :
    (Json.arr l).Meets (.all [.kind [.array], .items s]) ↔ ∀ w ∈ l, w.Meets s := by
  rw [meets_all, List.forall_mem_cons, List.forall_mem_singleton, meetsDemand_items]
  exact and_iff_right (meetsDemand_kind.mpr ⟨.array, List.mem_cons_self, rfl⟩)

end Schema

end Readiness
