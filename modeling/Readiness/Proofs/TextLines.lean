import Mathlib.Data.List.DropRight
import Mathlib.Data.List.TakeWhile
import Readiness.Text.Blank

/-!
# Texts in pieces, and pieces in texts

A text is split where a separator stands, and pieces are joined with one between them. If no
piece has the separator in it, splitting gives back what was joined (`splitBy_join`). Lines
are the case that matters most, and there the pieces can also be written with a line feed
behind each (`ended`), so that no piece is a special one.

The second part is about the blanks at the ends of a text. A character that is no blank
keeps apart what is trimmed on its left from what is trimmed on its right
(`trim_solid`), and blanks that are put in front are taken off again (`trim_indented`).
The last part is about what stands between two offsets.
-/

namespace Readiness.Text

/-! ## Pieces -/

attribute [local simp] splitBy join

theorem splitBy_eq_singleton {p : CodePoint → Bool} {t : Text} (h : ∀ c ∈ t, p c = false) :
    splitBy p t = [t] := by
  induction t with
  | nil => rfl
  | cons c r ih =>
      rw [splitBy, ih fun d hd => h d (List.mem_cons_of_mem c hd)]
      simp only [h c List.mem_cons_self, Bool.false_eq_true, if_false]

theorem splitBy_ne_nil (p : CodePoint → Bool) (t : Text) : splitBy p t ≠ [] := by
  cases t with
  | nil => exact List.cons_ne_nil _ _
  | cons c r =>
      rw [splitBy]
      split
      · exact List.cons_ne_nil _ _
      · split <;> exact List.cons_ne_nil _ _

theorem splitBy_append {p : CodePoint → Bool} {t r : Text} {c : CodePoint}
    (h : ∀ d ∈ t, p d = false) (hc : p c = true) :
    splitBy p (t ++ c :: r) = t :: splitBy p r := by
  induction t with
  | nil =>
      rw [List.nil_append, splitBy]
      split
      · next hnil => exact absurd hnil (splitBy_ne_nil p r)
      · next hr => rw [if_pos hc, hr]
  | cons d t ih =>
      rw [List.cons_append, splitBy, ih fun d hd => h d (List.mem_cons_of_mem _ hd)]
      simp only [h d List.mem_cons_self, Bool.false_eq_true, if_false]

/-- Pieces that were joined are found again, if the separator is in none of them. -/
theorem splitBy_join {c : CodePoint} {l : List Text} (nonempty : l ≠ []) (h : ∀ t ∈ l, c ∉ t) :
    splitBy (· == c) (join [c] l) = l := by
  have hpart : ∀ t ∈ l, ∀ d ∈ t, (d == c) = false := by
    intro t ht d hd
    exact beq_eq_false_iff_ne.mpr fun heq => h t ht (heq ▸ hd)
  induction l with
  | nil => exact absurd rfl nonempty
  | cons t more ih =>
      cases more with
      | nil => exact splitBy_eq_singleton (hpart t List.mem_cons_self)
      | cons next more =>
          have hrest := ih (List.cons_ne_nil next more)
            (fun u hu => h u (List.mem_cons_of_mem t hu))
            (fun u hu => hpart u (List.mem_cons_of_mem t hu))
          have hjoin : join [c] (t :: next :: more) = t ++ c :: join [c] (next :: more) := by
            rw [join, List.append_assoc]
            · rfl
            · exact List.cons_ne_nil next more
          rw [hjoin, splitBy_append (hpart t List.mem_cons_self) (beq_self_eq_true _), hrest]

/-! ## Lines with their line feeds -/

/-- Lines with a line feed behind each. -/
def ended (lines : List Text) : Text := lines.flatMap fun line => line ++ [.char '\n']

theorem ended_cons (line : Text) (more : List Text) :
    ended (line :: more) = line ++ .char '\n' :: ended more := by
  rw [ended, List.flatMap_cons, List.append_assoc]
  rfl

theorem ended_append (l m : List Text) : ended (l ++ m) = ended l ++ ended m := List.flatMap_append

theorem join_append {m : List Text} (h : m ≠ []) (l : List Text) :
    join "\n" (l ++ m) = ended l ++ join "\n" m := by
  induction l with
  | nil => rfl
  | cons line l ih =>
      rw [List.cons_append, join, ih, ended_cons, List.append_assoc, List.append_assoc]
      · rfl
      · intro hnil
        exact h (List.append_eq_nil_iff.mp hnil).2

theorem ended_splitLineFeeds (t : Text) :
    ended (splitLineFeeds t) = t ++ [CodePoint.char '\n'] := by
  induction t with
  | nil => rfl
  | cons c r ih =>
      rw [splitLineFeeds] at ih ⊢
      rw [splitBy]
      split
      · next hnil => exact absurd hnil (splitBy_ne_nil _ r)
      · next line more hsplit =>
          rw [hsplit, ended_cons] at ih
          split
          · next hfeed =>
              rw [ended_cons, ended_cons, ih, eq_of_beq hfeed]
              rfl
          · rw [ended_cons, List.cons_append, ih]
            rfl

theorem not_mem_splitLineFeeds {t line : Text} (h : line ∈ splitLineFeeds t) :
    CodePoint.char '\n' ∉ line := by
  induction t generalizing line with
  | nil =>
      rw [List.mem_singleton.mp h]
      exact List.not_mem_nil
  | cons c r ih =>
      rw [splitLineFeeds] at h ih
      rw [splitBy] at h
      split at h
      · next hnil => exact absurd hnil (splitBy_ne_nil _ r)
      · next first more hsplit =>
          rw [hsplit] at ih
          split at h
          · rcases List.mem_cons.mp h with rfl | h
            · exact List.not_mem_nil
            · exact ih h
          · next hfeed =>
              rcases List.mem_cons.mp h with rfl | h
              · rw [List.mem_cons, not_or]
                exact ⟨fun heq => hfeed (beq_iff_eq.mpr heq.symm), ih List.mem_cons_self⟩
              · exact ih (List.mem_cons_of_mem first h)

theorem splitLineFeeds_join {l : List Text} (nonempty : l ≠ [])
    (h : ∀ line ∈ l, CodePoint.char '\n' ∉ line) : splitLineFeeds (join "\n" l) = l :=
  splitBy_join nonempty h

/-! ## Blanks at the ends -/

theorem dropEndWhile_solid {p : CodePoint → Bool} {c : CodePoint} (h : p c = false) (a v : Text) :
    dropEndWhile p (a ++ c :: v) = a ++ c :: dropEndWhile p v := by
  have hstop : (c :: a.reverse).dropWhile p = c :: a.reverse :=
    List.dropWhile_cons_of_neg (by rw [h]; exact Bool.false_ne_true)
  have hdrop : (v.reverse ++ c :: a.reverse).dropWhile p =
      v.reverse.dropWhile p ++ c :: a.reverse := by
    rw [List.dropWhile_append]
    split
    · next hnil => rw [hstop, List.isEmpty_iff.mp hnil, List.nil_append]
    · rfl
  rw [dropEndWhile, List.reverse_append, List.reverse_cons, List.append_assoc,
    List.singleton_append, hdrop, List.reverse_append, List.reverse_cons, List.reverse_reverse,
    dropEndWhile, List.append_assoc, List.singleton_append]

theorem dropEndWhile_isPrefix (p : CodePoint → Bool) (t : Text) : dropEndWhile p t <+: t := by
  have h := (List.dropWhile_suffix (l := t.reverse) p).reverse
  rwa [List.reverse_reverse] at h

theorem takeWhile_solid {p : CodePoint → Bool} {c : CodePoint} (h : p c = false) (a v : Text) :
    (a ++ c :: v).takeWhile p = a.takeWhile p := by
  rw [List.takeWhile_append]
  split
  · next hall =>
      rw [List.takeWhile_cons_of_neg (by rw [h]; exact Bool.false_ne_true), List.append_nil]
      exact ((List.takeWhile_prefix p).eq_of_length hall).symm
  · rfl

/-- What trimming leaves from a character on that is no blank. -/
theorem trim_solid {c : CodePoint} (h : isBlank c = false) (a v : Text) :
    trim (a ++ c :: v) = a.dropWhile isBlank ++ c :: dropEndWhile isBlank v := by
  have hdrop : (a ++ c :: v).dropWhile isBlank = a.dropWhile isBlank ++ c :: v := by
    rw [List.dropWhile_append]
    split
    · next hnil =>
        rw [List.isEmpty_iff.mp hnil, List.nil_append,
          List.dropWhile_cons_of_neg (by rw [h]; exact Bool.false_ne_true)]
    · rfl
  rw [trim, trimBy, hdrop, dropEndWhile_solid h]

theorem trim_indented {front : Text} (blank : ∀ c ∈ front, isBlank c = true) (t : Text) :
    trim (front ++ t) = trim t := by
  rw [trim, trimBy, List.dropWhile_append_of_pos blank, trim, trimBy]

/-- A text of blanks has nothing left when it is trimmed, and no other text has. -/
theorem trim_eq_nil {t : Text} : trim t = [] ↔ ∀ c ∈ t, isBlank c = true := by
  constructor
  · intro h c hc
    by_contra hsolid
    obtain ⟨a, v, rfl⟩ := List.append_of_mem hc
    rw [trim_solid (Bool.eq_false_iff.mpr hsolid)] at h
    exact List.append_ne_nil_of_right_ne_nil _ (List.cons_ne_nil _ _) h
  · intro blank
    have hnone := trim_indented blank []
    rwa [List.append_nil] at hnone

theorem trim_trim (t : Text) : trim (trim t) = trim t := by
  by_cases blank : ∀ c ∈ t, isBlank c = true
  · rw [trim_eq_nil.mpr blank]
    rfl
  · -- Of the characters that are no blanks, the last one bounds what is left.
    obtain ⟨c, hc, hsolid⟩ : ∃ c ∈ t, isBlank c = false := by
      simpa only [not_forall, Bool.not_eq_true, exists_prop] using blank
    obtain ⟨a, v, rfl⟩ := List.append_of_mem hc
    have hfront : (a.dropWhile isBlank).dropWhile isBlank = a.dropWhile isBlank :=
      List.dropWhile_idempotent isBlank a
    have hback : dropEndWhile isBlank (dropEndWhile isBlank v) = dropEndWhile isBlank v := by
      simp only [dropEndWhile, List.reverse_reverse, List.dropWhile_idempotent]
    rw [trim_solid hsolid, trim_solid hsolid, hfront, hback]

/-! ## Parts of a text -/

theorem slice_append_slice (t : Text) {a b c : Nat} (hab : a ≤ b) (hbc : b ≤ c) :
    t.slice a b ++ t.slice b c = t.slice a c := by
  have hsum : c - a = (b - a) + (c - b) := by omega
  have hdrop : t.drop b = (t.drop a).drop (b - a) := by
    rw [List.drop_drop, Nat.add_sub_cancel' hab]
  rw [slice, slice, slice, hsum, List.take_add, hdrop]

theorem length_slice (t : Text) {a b : Nat} (h : b ≤ t.length) : (t.slice a b).length = b - a := by
  rw [slice, List.length_take, List.length_drop]
  omega

theorem getElem?_slice (t : Text) {a b i : Nat} (below : i < b - a) :
    (t.slice a b)[i]? = t[a + i]? := by
  rw [slice, List.getElem?_take_of_lt below, List.getElem?_drop]

theorem slice_eq_cons {t : Text} {i e : Nat} {c : CodePoint} (lt : i < e) (here : t[i]? = some c) :
    t.slice i e = c :: t.slice (i + 1) e := by
  obtain ⟨hi, hc⟩ := List.getElem?_eq_some_iff.mp here
  have hcount : e - i = e - (i + 1) + 1 := by omega
  rw [slice, List.drop_eq_getElem_cons hi, hc, hcount, List.take_succ_cons, slice]

end Readiness.Text
