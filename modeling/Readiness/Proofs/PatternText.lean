import Readiness.Text.Pattern

/-!
# Patterns in longer texts

A pattern that does not ask where the text ends (`Pattern.isOpen`) can be read from the front of a
text in the same ways when more text follows: each rest only gets longer (`rests_append`). So what
occurs in a text occurs in every text around it (`occursIn_of_infix`). A pattern that asks for the
end can be lost that way.
-/

namespace Readiness.Pattern

/-- Whether the pattern does not ask where the text ends. -/
def isOpen : Pattern → Bool
  | seq a b | either a b => a.isOpen && b.isOpen
  | many a => a.isOpen
  | atEnd => false
  | nothing | word _ | one _ | atLeast _ _ | atMost _ _ | exactly _ _ => true

variable {p : CodePoint → Bool} {t r : Text}

attribute [local simp] stretch after? repeated rests

/-! ## More text behind -/

theorem after?_append {n : Nat} (h : after? p n t = some r) (u : Text) :
    after? p n (t ++ u) = some (r ++ u) := by
  fun_induction after? p n t with
  | case1 t =>
      cases h
      rfl
  | case2 n => cases h
  | case3 n c t hc ih =>
      rw [List.cons_append, after?, if_pos hc]
      exact ih h
  | case4 n c t hc => cases h

theorem mem_stretch_self (p : CodePoint → Bool) (n : Nat) (t : Text) : t ∈ stretch p n t := by
  cases n with
  | zero => exact List.mem_singleton_self t
  | succ n =>
      cases t with
      | nil => exact List.mem_singleton_self []
      | cons c t => exact List.mem_cons_self

/-- Where the text ends a stretch ends too, but with more text behind it the empty rest is one of
several. -/
theorem stretch_append {n m : Nat} (h : r ∈ stretch p n t) (le : n ≤ m) (u : Text) :
    r ++ u ∈ stretch p m (t ++ u) := by
  fun_induction stretch p n t generalizing m with
  | case1 t =>
      obtain rfl := List.mem_singleton.mp h
      exact mem_stretch_self p m (r ++ u)
  | case2 n =>
      obtain rfl := List.mem_singleton.mp h
      exact mem_stretch_self p m u
  | case3 n c t ih =>
      obtain ⟨m, rfl⟩ := Nat.exists_eq_succ_of_ne_zero (Nat.ne_zero_of_lt le)
      rcases List.mem_cons.mp h with rfl | hmore
      · exact mem_stretch_self p _ (c :: t ++ u)
      · split at hmore
        · next hc =>
            rw [List.cons_append, stretch, if_pos hc]
            exact List.mem_cons_of_mem _ (ih hmore (Nat.le_of_succ_le_succ le))
        · cases hmore

theorem repeated_append {f : Text → List Text} {u : Text}
    (step : ∀ t r, r ∈ f t → r ++ u ∈ f (t ++ u)) {n m : Nat} (h : r ∈ repeated f n t)
    (le : n ≤ m) : r ++ u ∈ repeated f m (t ++ u) := by
  have hself : ∀ m t, t ∈ repeated f m t := by
    intro m t
    cases m with
    | zero => exact List.mem_singleton_self t
    | succ m => exact List.mem_cons_self
  induction n generalizing m t with
  | zero =>
      obtain rfl := List.mem_singleton.mp h
      exact hself m (r ++ u)
  | succ n ih =>
      obtain ⟨m, rfl⟩ := Nat.exists_eq_succ_of_ne_zero (Nat.ne_zero_of_lt le)
      rcases List.mem_cons.mp h with rfl | hmore
      · exact hself _ (r ++ u)
      · obtain ⟨t', ht', hr⟩ := List.mem_flatMap.mp hmore
        obtain ⟨hstep, hshorter⟩ := List.mem_filter.mp ht'
        refine List.mem_cons_of_mem _ (List.mem_flatMap.mpr ⟨t' ++ u, ?_, ?_⟩)
        · refine List.mem_filter.mpr ⟨step t t' hstep, ?_⟩
          rw [decide_eq_true_iff] at hshorter ⊢
          rw [List.length_append, List.length_append]
          omega
        · exact ih hr (Nat.le_of_succ_le_succ le)

theorem mem_rests_word {w : Text} : r ∈ (word w).rests t ↔ t = w ++ r := by
  rw [rests]
  split
  · next hw =>
      obtain ⟨more, rfl⟩ := List.isPrefixOf_iff_prefix.mp hw
      rw [List.drop_left, List.mem_singleton, List.append_cancel_left_eq, eq_comm]
  · next hw =>
      refine ⟨fun h => (List.not_mem_nil h).elim, fun h => ?_⟩
      exact absurd (List.isPrefixOf_iff_prefix.mpr ⟨r, h.symm⟩) hw

/-- With more text behind it, a text can be read in the same ways. -/
theorem rests_append {a : Pattern} (isOpen : a.isOpen = true) (h : r ∈ a.rests t) (u : Text) :
    r ++ u ∈ a.rests (t ++ u) := by
  induction a generalizing t r with
  | nothing =>
      obtain rfl := List.mem_singleton.mp h
      exact List.mem_singleton_self _
  | word w =>
      obtain rfl := mem_rests_word.mp h
      exact mem_rests_word.mpr (List.append_assoc w r u)
  | one p =>
      exact Option.mem_toList.mpr (after?_append (Option.mem_toList.mp h) u)
  | atLeast n p =>
      rw [rests] at h ⊢
      split at h
      · next t' ht' =>
          rw [after?_append ht' u]
          refine stretch_append h ?_ u
          rw [List.length_append]
          omega
      · cases h
  | atMost n p => exact stretch_append h (Nat.le_refl n) u
  | exactly n p =>
      exact Option.mem_toList.mpr (after?_append (Option.mem_toList.mp h) u)
  | seq a b iha ihb =>
      obtain ⟨ha, hb⟩ := Bool.and_eq_true_iff.mp isOpen
      obtain ⟨t', ht', hr⟩ := List.mem_flatMap.mp h
      exact List.mem_flatMap.mpr ⟨t' ++ u, iha ha ht', ihb hb hr⟩
  | either a b iha ihb =>
      obtain ⟨ha, hb⟩ := Bool.and_eq_true_iff.mp isOpen
      rcases List.mem_append.mp h with h | h
      · exact List.mem_append_left _ (iha ha h)
      · exact List.mem_append_right _ (ihb hb h)
  | many a ih =>
      refine repeated_append (fun t r hr => ih isOpen hr) h ?_
      rw [List.length_append]
      omega
  | atEnd => cases isOpen

/-! ## More text on both sides -/

theorem startsText_iff {a : Pattern} : a.startsText t = true ↔ ∃ r, r ∈ a.rests t := by
  rw [startsText, Bool.not_eq_true', List.isEmpty_eq_false_iff_exists_mem]

theorem occursIn_iff {a : Pattern} :
    a.occursIn t = true ↔ ∃ front rest, t = front ++ rest ∧ a.startsText rest = true := by
  induction t with
  | nil =>
      constructor
      · intro h
        exact ⟨[], [], rfl, h⟩
      · rintro ⟨front, rest, h, hrest⟩
        obtain ⟨rfl, rfl⟩ := List.append_eq_nil_iff.mp h.symm
        exact hrest
  | cons c t ih =>
      rw [occursIn, Bool.or_eq_true_iff, ih]
      constructor
      · rintro (h | ⟨front, rest, rfl, hrest⟩)
        · exact ⟨[], c :: t, rfl, h⟩
        · exact ⟨c :: front, rest, rfl, hrest⟩
      · rintro ⟨front, rest, h, hrest⟩
        rcases List.cons_eq_append_iff.mp h with ⟨rfl, rfl⟩ | ⟨front, rfl, rfl⟩
        · exact .inl hrest
        · exact .inr ⟨front, rest, rfl, hrest⟩

theorem occursIn_of_infix {a : Pattern} {u : Text} (isOpen : a.isOpen = true)
    (h : a.occursIn t = true) (part : t <:+: u) : a.occursIn u = true := by
  obtain ⟨before, behind, rfl⟩ := part
  obtain ⟨front, rest, rfl, hrest⟩ := occursIn_iff.mp h
  obtain ⟨r, hr⟩ := startsText_iff.mp hrest
  refine occursIn_iff.mpr ⟨before ++ front, rest ++ behind, ?_, ?_⟩
  · simp only [List.append_assoc]
  · exact startsText_iff.mpr ⟨r ++ behind, rests_append isOpen hr behind⟩

/-! ## Words that end the text -/

theorem mem_rests_choice {as : List Pattern} :
    r ∈ (choice as).rests t ↔ ∃ a ∈ as, r ∈ a.rests t := by
  induction as with
  | nil =>
      have hnone : (choice []).rests t = [] := by
        cases t with
        | nil => rfl
        | cons c t => rfl
      simp only [hnone, List.not_mem_nil, false_and, exists_false]
  | cons a as ih =>
      cases as with
      | nil => simp only [choice, List.mem_singleton, exists_eq_left]
      | cons b as =>
          have hchoice : choice (a :: b :: as) = either a (choice (b :: as)) := rfl
          rw [hchoice, rests, List.mem_append, ih]
          simp only [List.mem_cons, exists_eq_or_imp]

theorem mem_rests_words {ws : List Text} : r ∈ (words ws).rests t ↔ ∃ w ∈ ws, t = w ++ r := by
  rw [words, mem_rests_choice]
  constructor
  · rintro ⟨a, ha, hr⟩
    obtain ⟨w, hw, rfl⟩ := List.mem_map.mp ha
    exact ⟨w, hw, mem_rests_word.mp hr⟩
  · rintro ⟨w, hw, rfl⟩
    exact ⟨text w, List.mem_map_of_mem hw, mem_rests_word.mpr rfl⟩

theorem mem_rests_atEnd : r ∈ atEnd.rests t ↔ r = t ∧ (t = [] ∨ t = ("\n" : Text)) := by
  rw [rests]
  split
  · next h => rw [List.mem_singleton, and_iff_left h]
  · next h => exact ⟨fun hr => (List.not_mem_nil hr).elim, fun hr => absurd hr.2 h⟩

/-- A text is one of some words, up to a line feed at its end. -/
theorem startsText_words_atEnd {ws : List Text} :
    (seq (words ws) atEnd).startsText t = true ↔ t ∈ ws ∨ ∃ w ∈ ws, t = w ++ ("\n" : Text) := by
  rw [startsText_iff]
  constructor
  · rintro ⟨r, hr⟩
    obtain ⟨u, hu, hrest⟩ := List.mem_flatMap.mp hr
    obtain ⟨w, hw, rfl⟩ := mem_rests_words.mp hu
    rcases (mem_rests_atEnd.mp hrest).2 with rfl | rfl
    · exact .inl ((List.append_nil w).symm ▸ hw)
    · exact .inr ⟨w, hw, rfl⟩
  · intro h
    obtain ⟨w, hw, u, rfl, hu⟩ : ∃ w ∈ ws, ∃ u, t = w ++ u ∧ (u = [] ∨ u = ("\n" : Text)) := by
      rcases h with h | ⟨w, hw, rfl⟩
      · exact ⟨t, h, [], (List.append_nil t).symm, .inl rfl⟩
      · exact ⟨w, hw, _, rfl, .inr rfl⟩
    exact ⟨u, List.mem_flatMap.mpr ⟨u, mem_rests_words.mpr ⟨w, hw, rfl⟩,
      mem_rests_atEnd.mpr ⟨rfl, hu⟩⟩⟩

end Readiness.Pattern
