import Readiness.Disk.Path
import Readiness.Scan

/-!
# Texts, names and issues are in linear order

Three orders are sorted by: texts by their code points, lists of names name by name,
and issues by line, column and kind. The first is that of lists over a linear order,
and the second is the same thing once more, over texts. What sorting asks of an
order therefore comes from the library as soon as code points are known to be
told apart by their numbers.
-/

namespace Readiness

theorem CodePoint.toNat_inj {a b : CodePoint} (h : a.toNat = b.toNat) : a = b := by
  rw [← CodePoint.ofNat_toNat a, h, CodePoint.ofNat_toNat]

instance : Std.IsLinearOrder CodePoint where
  le_refl a := Nat.le_refl a.toNat
  le_trans _ _ _ hab hbc := Nat.le_trans hab hbc
  le_antisymm _ _ hab hba := CodePoint.toNat_inj (Nat.le_antisymm hab hba)
  le_total a b := Nat.le_total a.toNat b.toNat

instance : Std.LawfulOrderLT CodePoint where
  lt_iff _ _ := Nat.lt_iff_le_and_not_ge

/-- Texts by their code points: what sorting asks. -/
theorem Text.le_trans_decide (a b c : Text) (hab : decide (a ≤ b) = true)
    (hbc : decide (b ≤ c) = true) : decide (a ≤ c) = true :=
  decide_eq_true (List.le_trans (of_decide_eq_true hab) (of_decide_eq_true hbc))

theorem Text.le_total_decide (a b : Text) : (decide (a ≤ b) || decide (b ≤ a)) = true := by
  rw [Bool.or_eq_true, decide_eq_true_iff, decide_eq_true_iff]
  exact List.le_total a b

namespace Path

/-- Lists of names come name by name. -/
theorem namesLe_iff {l m : List Text} : namesLe l m = true ↔ l ≤ m := by
  induction l generalizing m with
  | nil => simp only [namesLe, List.nil_le]
  | cons a l ih =>
      cases m with
      | nil =>
          rw [namesLe]
          exact ⟨nofun, fun h => absurd (List.le_nil.mp h) (List.cons_ne_nil a l)⟩
      | cons b m =>
          rw [namesLe, List.cons_le_cons_iff]
          split
          · next hab =>
              rw [hab, ih]
              exact ⟨fun h => .inr ⟨rfl, h⟩, fun h => (h.resolve_left (List.lt_irrefl b)).2⟩
          · next hab =>
              rw [decide_eq_true_iff]
              exact ⟨.inl, fun h => h.resolve_right fun heq => hab heq.1⟩

theorem namesLe_trans (a b c : List Text) (hab : namesLe a b = true) (hbc : namesLe b c = true) :
    namesLe a c = true :=
  namesLe_iff.mpr (List.le_trans (namesLe_iff.mp hab) (namesLe_iff.mp hbc))

theorem namesLe_total (a b : List Text) : (namesLe a b || namesLe b a) = true := by
  rw [Bool.or_eq_true, namesLe_iff, namesLe_iff]
  exact List.le_total a b

end Path

namespace Issue

theorem listedFirst_iff {a b : Issue} : a.listedFirst b = true ↔
    a.line < b.line ∨ a.line = b.line ∧
      (a.orderColumn < b.orderColumn ∨ a.orderColumn = b.orderColumn ∧ a.type ≤ b.type) := by
  rw [listedFirst]
  split
  · next hline =>
      rw [decide_eq_true_iff]
      exact ⟨.inl, fun h => h.resolve_right fun heq => hline heq.1⟩
  · next hline =>
      have hline := Decidable.not_not.mp hline
      split
      · next hcolumn =>
          rw [decide_eq_true_iff]
          exact ⟨fun h => .inr ⟨hline, .inl h⟩, fun h => by omega⟩
      · next hcolumn =>
          have hcolumn := Decidable.not_not.mp hcolumn
          rw [decide_eq_true_iff]
          refine ⟨fun h => .inr ⟨hline, .inr ⟨hcolumn, h⟩⟩, ?_⟩
          rintro (hlt | ⟨-, hlt | ⟨-, htype⟩⟩)
          · omega
          · omega
          · exact htype

theorem listedFirst_trans (a b c : Issue) (hab : a.listedFirst b = true)
    (hbc : b.listedFirst c = true) : a.listedFirst c = true := by
  rw [listedFirst_iff] at hab hbc ⊢
  rcases hab with hab | ⟨hline, hab⟩
  · left
    omega
  · rcases hbc with hbc | ⟨hline', hbc⟩
    · left
      omega
    · refine .inr ⟨hline.trans hline', ?_⟩
      rcases hab with hab | ⟨hcolumn, hab⟩
      · left
        omega
      · rcases hbc with hbc | ⟨hcolumn', hbc⟩
        · left
          omega
        · exact .inr ⟨hcolumn.trans hcolumn', List.le_trans hab hbc⟩

theorem listedFirst_total (a b : Issue) : (a.listedFirst b || b.listedFirst a) = true := by
  rw [Bool.or_eq_true, listedFirst_iff, listedFirst_iff]
  rcases Nat.lt_trichotomy a.line b.line with hline | hline | hline
  · exact .inl (.inl hline)
  · rcases Int.lt_trichotomy a.orderColumn b.orderColumn with hcolumn | hcolumn | hcolumn
    · exact .inl (.inr ⟨hline, .inl hcolumn⟩)
    · rcases List.le_total a.type b.type with htype | htype
      · exact .inl (.inr ⟨hline, .inr ⟨hcolumn, htype⟩⟩)
      · exact .inr (.inr ⟨hline.symm, .inr ⟨hcolumn.symm, htype⟩⟩)
    · exact .inr (.inr ⟨hline.symm, .inl hcolumn⟩)
  · exact .inr (.inl hline)

end Issue

end Readiness
