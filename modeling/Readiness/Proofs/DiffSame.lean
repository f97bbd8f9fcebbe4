import Readiness.Diff.Unified

/-!
# The diff of a text and itself

It is empty, and that takes an argument, because the longest common run is looked for
among all runs, and items that are too common start none. On a sequence and itself the
runs that count are those on the diagonal. A run off the diagonal, between one
stretch of the sequence and an equal one, has two runs on the diagonal beside it that
are as long: one on either stretch. One of the two is met before it. Ties go to the
earlier run, so the best one so far never leaves the diagonal, and a run on the
diagonal grows over the whole sequence.
-/

namespace Readiness.Diff

/-! ## Numbers of lines -/

/-- What two arrays of lines have to do with each other when the second one has grown from the
first: lines that were found are found where they were. -/
def Extends (seen all : Array Text) : Prop :=
  ∀ {l : Text} {i : Nat}, seen.findIdx? (· == l) = some i → all.findIdx? (· == l) = some i

theorem extends_push (seen : Array Text) (l : Text) : Extends seen (seen.push l) := by
  intro l' i h
  rw [Array.findIdx?_push, h]
  rfl

theorem findIdx?_push_self {seen : Array Text} {l : Text}
    (h : seen.findIdx? (· == l) = none) : (seen.push l).findIdx? (· == l) = some seen.size := by
  rw [Array.findIdx?_push, h, if_pos (beq_self_eq_true l)]
  rfl

theorem extends_numbered (lines : List Text) : ∀ seen, Extends seen (numbered seen lines).2 := by
  induction lines with
  | nil => intro seen l i h; exact h
  | cons line more ih =>
      intro seen
      rw [numbered]
      split
      · exact ih seen
      · intro l i h
        exact ih (seen.push line) (extends_push seen line h)

/-- Lines that were all seen before get the numbers that they have. -/
theorem numbered_extends (lines : List Text) : ∀ {seen all : Array Text},
    Extends (numbered seen lines).2 all → numbered all lines = ((numbered seen lines).1, all) := by
  induction lines with
  | nil => intro seen all _; rfl
  | cons line more ih =>
      intro seen all hall
      cases hline : seen.findIdx? (· == line) with
      | some i =>
          simp only [numbered, hline] at hall
          have hfound := hall (extends_numbered more seen hline)
          simp only [numbered, hline, hfound, ih hall]
      | none =>
          simp only [numbered, hline] at hall
          have hfound := hall (extends_numbered more (seen.push line) (findIdx?_push_self hline))
          simp only [numbered, hline, hfound, ih hall]

/-! ## Where a run may start -/

/-- The offsets of an item in a list whose first item has offset `k`. -/
def offsetsIn (x : Nat) (items : List Nat) (k : Nat) : List Nat :=
  ((items.zipIdx k).filter fun p => p.1 == x).map (·.2)

theorem offsetsIn_cons (x item : Nat) (items : List Nat) (k : Nat) :
    offsetsIn x (item :: items) k =
      if item = x then k :: offsetsIn x items (k + 1) else offsetsIn x items (k + 1) := by
  rw [offsetsIn, List.zipIdx_cons, List.filter_cons]
  simp only [beq_iff_eq]
  split
  · rw [List.map_cons]
    rfl
  · rfl

theorem mem_offsetsIn {x j : Nat} {items : List Nat} :
    j ∈ offsetsIn x items 0 ↔ items[j]? = some x := by
  rw [offsetsIn, List.mem_map]
  constructor
  · rintro ⟨⟨y, i⟩, hmem, rfl⟩
    obtain ⟨hin, hx⟩ := List.mem_filter.mp hmem
    rw [← eq_of_beq hx]
    exact List.mem_zipIdx_iff_getElem?.mp hin
  · intro h
    exact ⟨(x, j), List.mem_filter.mpr ⟨List.mem_zipIdx_iff_getElem?.mpr h, beq_self_eq_true x⟩,
      rfl⟩

theorem offsetsIn_sorted (x : Nat) (items : List Nat) (k : Nat) :
    (offsetsIn x items k).Pairwise (· < ·) ∧ ∀ j ∈ offsetsIn x items k, k ≤ j := by
  induction items generalizing k with
  | nil => exact ⟨.nil, fun j hj => absurd hj List.not_mem_nil⟩
  | cons item items ih =>
      obtain ⟨hsorted, hfrom⟩ := ih (k + 1)
      rw [offsetsIn_cons]
      split
      · refine ⟨List.pairwise_cons.mpr ⟨fun j hj => hfrom j hj, hsorted⟩, ?_⟩
        intro j hj
        rcases List.mem_cons.mp hj with rfl | hj
        · exact Nat.le_refl j
        · exact Nat.le_of_succ_le (hfrom j hj)
      · exact ⟨hsorted, fun j hj => Nat.le_of_succ_le (hfrom j hj)⟩

theorem foldl_offsets (x : Nat) (items : List Nat) : ∀ (k : Nat) (found : Array (List Nat)),
    ((items.zipIdx k).foldl (fun found (item, i) => found.modify item (i :: ·)) found)[x]? =
      found[x]?.map ((offsetsIn x items k).reverse ++ ·) := by
  induction items with
  | nil =>
      intro k found
      cases h : found[x]? with
      | none => rw [List.zipIdx_nil, List.foldl_nil, h]; rfl
      | some l => rw [List.zipIdx_nil, List.foldl_nil, h]; rfl
  | cons item items ih =>
      intro k found
      rw [List.zipIdx_cons, List.foldl_cons, ih, Array.getElem?_modify, offsetsIn_cons]
      split
      · rw [Option.map_map]
        congr 1
        funext l
        rw [List.reverse_cons, List.append_assoc]
        rfl
      · rfl

theorem offsets_getElem? (kinds : Nat) (items : Array Nat) (x : Nat) :
    (offsets kinds items)[x]? = if x < kinds then some (offsetsIn x items.toList 0) else none := by
  have hfold := foldl_offsets x items.toList 0 (Array.replicate kinds [])
  rw [offsets, Array.getElem?_map, ← Array.foldl_toList, Array.toList_zipIdx, hfold,
    Array.getElem?_replicate]
  split
  · rw [Option.map_some, Option.map_some, List.append_nil, List.reverse_reverse]
  · rfl

/-- A sequence and itself, ready to be compared. -/
structure Sides.Same (s : Sides) : Prop where
  same : s.old = s.new
  /-- Where an item starts runs at all, it does so everywhere. -/
  seeds : ∀ x, s.seeds.getD x [] = [] ∨ s.seeds.getD x [] = offsetsIn x s.new.toList 0

/-- Where an item starts runs at all, it does so at each of its offsets. -/
theorem Sides.seeds_of (kinds : Nat) (old new : Array Nat) (x : Nat) :
    (Sides.of kinds old new).seeds.getD x [] = [] ∨
      (Sides.of kinds old new).seeds.getD x [] = offsetsIn x new.toList 0 := by
  have hfound := offsets_getElem? kinds new x
  rw [Sides.of]
  dsimp only
  rw [Array.getD_eq_getD_getElem?]
  split
  · rw [Array.getElem?_map, hfound]
    split
    · rw [Option.map_some, Option.getD_some]
      split
      · exact .inl rfl
      · exact .inr rfl
    · exact .inl rfl
  · rw [hfound]
    split
    · exact .inr rfl
    · exact .inl rfl

theorem Sides.same_of (kinds : Nat) (items : Array Nat) : (Sides.of kinds items items).Same :=
  ⟨rfl, Sides.seeds_of kinds items items⟩

/-! ## Runs on the diagonal -/

/-- The length of the run that ends at an offset, if `before` are the offsets of those that end
one item earlier and `f` are their lengths. -/
def grownBy (before : List Nat) (f : Nat → Nat) : Nat → Nat
  | 0 => 1
  | j + 1 => if j ∈ before then f j + 1 else 1

theorem grow_map (f : Nat → Nat) : ∀ {js before : List Nat}, js.Pairwise (· < ·) →
    before.Pairwise (· < ·) →
    grow js (before.map fun i => (i, f i)) = js.map fun j => (j, grownBy before f j)
  | [], _, _, _ => by rw [grow, List.map_nil]
  | j :: more, [], hjs, hbefore => by
      obtain ⟨-, hmore⟩ := List.pairwise_cons.mp hjs
      have hrest := grow_map f hmore hbefore
      rw [List.map_nil] at hrest
      rw [List.map_nil, grow, hrest, List.map_cons]
      cases j <;> rfl
  | j :: more, i :: before, hjs, hbefore => by
      obtain ⟨hlater, hmore⟩ := List.pairwise_cons.mp hjs
      obtain ⟨hbehind, hrest⟩ := List.pairwise_cons.mp hbefore
      -- both lists go up: past its successor, the first run of the row above grows no more
      have hother : ∀ j', i + 1 < j' → grownBy (i :: before) f j' = grownBy before f j' := by
        intro j' hj'
        cases j' with
        | zero => rfl
        | succ j' => simp only [grownBy, List.mem_cons, show j' ≠ i by omega, false_or]
      rw [List.map_cons, grow]
      split
      · next hfar =>
          rw [grow_map f hjs hrest]
          refine List.map_congr_left fun j' hj' => ?_
          rw [hother j' ?_]
          rcases List.mem_cons.mp hj' with rfl | hj'
          · exact hfar
          · exact Nat.lt_trans hfar (hlater j' hj')
      · split
        · next hnext =>
            subst hnext
            have hhead : grownBy (i :: before) f (i + 1) = f i + 1 := if_pos List.mem_cons_self
            rw [grow_map f hmore hrest, List.map_cons, hhead]
            refine congrArg _ (List.map_congr_left fun j' hj' => ?_)
            rw [hother j' (hlater j' hj')]
        · next hfar hnext =>
            have hhead : grownBy (i :: before) f j = 1 := by
              cases j with
              | zero => rfl
              | succ j =>
                  refine if_neg fun hmem => ?_
                  rcases List.mem_cons.mp hmem with rfl | hmem
                  · exact hnext rfl
                  · have := hbehind j hmem
                    omega
            have hrec := grow_map f hmore hbefore
            rw [List.map_cons] at hrec
            rw [hrec, List.map_cons, hhead]
termination_by js before => js.length + before.length

variable {s : Sides}

/-- The offsets in the new sequence at which runs may end that end at an offset in the old one. -/
def Sides.row (s : Sides) (i : Nat) : List Nat := s.seeds.getD (s.old.getD i 0) []

/-- The length of the run that ends at two offsets. -/
def Sides.lengthAt (s : Sides) : Nat → Nat → Nat
  | 0 => fun _ => 1
  | i + 1 => grownBy (s.row i) (s.lengthAt i)

/-- The lengths of the runs that end one row above a row. -/
def Sides.above (s : Sides) : Nat → List (Nat × Nat)
  | 0 => []
  | i + 1 => (s.row i).map fun j => (j, s.lengthAt i j)

theorem Sides.one_le_lengthAt (s : Sides) (i j : Nat) : 1 ≤ s.lengthAt i j := by
  cases i with
  | zero => exact Nat.le_refl 1
  | succ i =>
      cases j with
      | zero => exact Nat.le_refl 1
      | succ j =>
          rw [lengthAt, grownBy]
          split <;> omega

theorem Sides.lengthAt_le (s : Sides) {i : Nat} : ∀ {j : Nat}, s.lengthAt i j ≤ i + 1 := by
  induction i with
  | zero => intro j; exact Nat.le_refl 1
  | succ i ih =>
      intro j
      cases j with
      | zero => exact Nat.le_add_left 1 (i + 1)
      | succ j =>
          have hi : s.lengthAt i j ≤ i + 1 := ih
          rw [lengthAt, grownBy]
          split <;> omega

namespace Sides.Same

theorem mem_row (h : s.Same) {i j : Nat} (mem : j ∈ s.row i) :
    s.row i = offsetsIn (s.old.getD i 0) s.new.toList 0 ∧ s.old[j]? = some (s.old.getD i 0) := by
  rw [row] at mem ⊢
  rcases h.seeds (s.old.getD i 0) with hnone | hall
  · rw [hnone] at mem
    cases mem
  · rw [hall] at mem ⊢
    refine ⟨rfl, ?_⟩
    have hfound := mem_offsetsIn.mp mem
    rwa [Array.getElem?_toList, ← h.same] at hfound

theorem row_sorted (h : s.Same) (i : Nat) : (s.row i).Pairwise (· < ·) := by
  rw [row]
  rcases h.seeds (s.old.getD i 0) with hnone | hall
  · rw [hnone]
    exact .nil
  · rw [hall]
    exact (offsetsIn_sorted _ _ _).1

theorem lt_size (h : s.Same) {i j : Nat} (mem : j ∈ s.row i) : j < s.old.size := by
  obtain ⟨-, hj⟩ := h.mem_row mem
  exact (Array.getElem?_eq_some_iff.mp hj).1

/-- Where runs that start at an item may end, they may end at every offset of that item. -/
theorem mem_row_self (h : s.Same) {i j : Nat} (mem : j ∈ s.row i) (hi : i < s.old.size) :
    i ∈ s.row i := by
  obtain ⟨hrow, -⟩ := h.mem_row mem
  rw [hrow, mem_offsetsIn, ← h.same, Array.getElem?_toList, Array.getElem?_eq_getElem hi,
    Array.getD_eq_getD_getElem?, Array.getElem?_eq_getElem hi]
  rfl

theorem row_eq (h : s.Same) {i j : Nat} (mem : j ∈ s.row i) : s.row j = s.row i := by
  obtain ⟨-, hj⟩ := h.mem_row mem
  have hitem : s.old.getD j 0 = s.old.getD i 0 := by
    rw [Array.getD_eq_getD_getElem?, hj, Option.getD_some]
  rw [row, row, hitem]

theorem lengthAt_le_row (h : s.Same) {i : Nat} : ∀ {j : Nat}, i < s.old.size →
    s.lengthAt i j ≤ s.lengthAt i i := by
  induction i with
  | zero => intro j _; exact Nat.le_refl 1
  | succ i ih =>
      intro j hi
      cases j with
      | zero => exact s.one_le_lengthAt (i + 1) (i + 1)
      | succ j =>
          rw [lengthAt, grownBy, grownBy]
          split
          · next hj =>
              rw [if_pos (h.mem_row_self hj (by omega))]
              exact Nat.succ_le_succ (ih (by omega))
          · split <;> omega

theorem lengthAt_le_column (h : s.Same) {i : Nat} : ∀ {j : Nat},
    s.lengthAt i j ≤ s.lengthAt j j := by
  induction i with
  | zero => intro j; exact s.one_le_lengthAt j j
  | succ i ih =>
      intro j
      cases j with
      | zero => exact Nat.le_refl 1
      | succ j =>
          rw [lengthAt, lengthAt, grownBy, grownBy]
          split
          · next hj =>
              have hself : j ∈ s.row j := by rwa [h.row_eq hj]
              rw [if_pos hself]
              exact Nat.succ_le_succ ih
          · split <;> omega

/-! ## The best run -/

theorem better_cons (i : Nat) (best : Run) (j k : Nat) (ends : List (Nat × Nat)) :
    better i best ((j, k) :: ends) =
      better i (if best.size < k then ⟨i + 1 - k, j + 1 - k, k⟩ else best) ends := rfl

theorem better_append (i : Nat) (best : Run) (front back : List (Nat × Nat)) :
    better i best (front ++ back) = better i (better i best front) back := List.foldl_append

theorem better_of_le (i : Nat) (best : Run) (ends : List (Nat × Nat))
    (h : ∀ e ∈ ends, e.2 ≤ best.size) : better i best ends = best := by
  induction ends with
  | nil => rfl
  | cons e ends ih =>
      obtain ⟨j, k⟩ := e
      have hhead : ¬ best.size < k := Nat.not_lt.mpr (h (j, k) List.mem_cons_self)
      rw [better_cons, if_neg hhead]
      exact ih fun d hd => h d (List.mem_cons_of_mem _ hd)

/-- What is known of the best run when all rows before the given one have been gone through: it is
on the diagonal, and no run on the diagonal is longer that ends in one of these rows. -/
structure Best (s : Sides) (i : Nat) (best : Run) : Prop where
  diagonal : best.old = best.new
  within : best.old + best.size ≤ s.old.size
  longest : ∀ {k}, k < i → k ∈ s.row k → s.lengthAt k k ≤ best.size

/-- The best run after a row that has an entry on the diagonal. -/
theorem better_row (h : s.Same) {i : Nat} (hi : i < s.old.size) {best : Run}
    (hbest : Best s i best) (hself : i ∈ s.row i) :
    better i best ((s.row i).map fun j => (j, s.lengthAt i j)) =
      if best.size < s.lengthAt i i then
        ⟨i + 1 - s.lengthAt i i, i + 1 - s.lengthAt i i, s.lengthAt i i⟩ else best := by
  obtain ⟨front, back, hsplit⟩ := List.append_of_mem hself
  have hsorted := h.row_sorted i
  rw [hsplit] at hsorted
  obtain ⟨-, -, hcross⟩ := List.pairwise_append.mp hsorted
  -- in front of the diagonal nothing is longer than what ended in an earlier row, and behind it
  -- nothing is longer than what is on it
  have hfront : better i best (front.map fun j => (j, s.lengthAt i j)) = best := by
    refine better_of_le i best _ fun e he => ?_
    obtain ⟨j, hj, rfl⟩ := List.mem_map.mp he
    have hmem : j ∈ s.row i := hsplit ▸ List.mem_append_left _ hj
    have hselfj : j ∈ s.row j := by rwa [h.row_eq hmem]
    exact Nat.le_trans h.lengthAt_le_column
      (hbest.longest (hcross j hj i List.mem_cons_self) hselfj)
  have hlength : s.lengthAt i i ≤ i + 1 := s.lengthAt_le
  rw [hsplit, List.map_append, better_append, hfront, List.map_cons]
  refine better_of_le i _ (back.map fun j => (j, s.lengthAt i j)) fun e he => ?_
  obtain ⟨j, hj, rfl⟩ := List.mem_map.mp he
  have hrow : s.lengthAt i j ≤ s.lengthAt i i := h.lengthAt_le_row hi
  dsimp only
  split
  · exact hrow
  · omega

theorem Best.row (h : s.Same) {i : Nat} (hi : i < s.old.size) {best : Run}
    (hbest : Best s i best) :
    Best s (i + 1) (better i best ((s.row i).map fun j => (j, s.lengthAt i j))) := by
  by_cases hself : i ∈ s.row i
  · have hlength : s.lengthAt i i ≤ i + 1 := s.lengthAt_le
    rw [better_row h hi hbest hself]
    split
    · next hlonger =>
        refine ⟨rfl, by dsimp only; omega, fun hk hkk => ?_⟩
        rcases Nat.lt_succ_iff_lt_or_eq.mp hk with hk | rfl
        · exact Nat.le_of_lt (Nat.lt_of_le_of_lt (hbest.longest hk hkk) hlonger)
        · exact Nat.le_refl _
    · next hlonger =>
        refine ⟨hbest.diagonal, hbest.within, fun hk hkk => ?_⟩
        rcases Nat.lt_succ_iff_lt_or_eq.mp hk with hk | rfl
        · exact hbest.longest hk hkk
        · exact Nat.not_lt.mp hlonger
  · have hnone : s.row i = [] := by
      cases hrow : s.row i with
      | nil => rfl
      | cons j more => exact absurd (h.mem_row_self (hrow ▸ List.mem_cons_self) hi) hself
    rw [hnone, List.map_nil]
    refine ⟨hbest.diagonal, hbest.within, fun hk hkk => ?_⟩
    rcases Nat.lt_succ_iff_lt_or_eq.mp hk with hk | rfl
    · exact hbest.longest hk hkk
    · exact absurd hkk hself

theorem grow_row (h : s.Same) (i : Nat) :
    grow (s.row i) (s.above i) = (s.row i).map fun j => (j, s.lengthAt i j) := by
  cases i with
  | zero =>
      have hgrow := grow_map (s.lengthAt 0) (h.row_sorted 0) .nil
      rw [List.map_nil] at hgrow
      rw [above, hgrow]
      refine List.map_congr_left fun j _ => ?_
      cases j <;> rfl
  | succ i => exact grow_map (s.lengthAt i) (h.row_sorted (i + 1)) (h.row_sorted i)

theorem longestFrom_best (h : s.Same) {count : Nat} : ∀ {i : Nat} {best : Run},
    i + count = s.old.size → Best s i best →
    Best s s.old.size (longestFrom s 0 s.new.size count i (s.above i) best) := by
  induction count with
  | zero =>
      intro i best hcount hbest
      rw [Nat.add_zero] at hcount
      rwa [longestFrom, ← hcount]
  | succ count ih =>
      intro i best hcount hbest
      have hdrop : (s.row i).dropWhile (· < 0) = s.row i := by
        cases s.row i <;> rfl
      have htake : (s.row i).takeWhile (· < s.new.size) = s.row i := by
        have hin : ∀ j ∈ s.row i, decide (j < s.new.size) = true := by
          intro j hj
          rw [← h.same]
          exact decide_eq_true (h.lt_size hj)
        have htake := @List.takeWhile_append_of_pos _ _ _ [] hin
        rwa [List.append_nil, List.takeWhile_nil, List.append_nil] at htake
      rw [longestFrom, ← row, hdrop, htake, grow_row h]
      exact ih (by omega) (hbest.row h (by omega))

/-- A run on the diagonal grows to the start of both sequences. -/
theorem growFront_diagonal (h : s.Same) {count : Nat} : ∀ {k size : Nat}, k ≤ count →
    growFront s 0 0 count ⟨k, k, size⟩ = ⟨0, 0, k + size⟩ := by
  induction count with
  | zero =>
      intro k size hk
      rw [Nat.le_zero.mp hk, growFront, Nat.zero_add]
  | succ count ih =>
      intro k size hk
      rw [growFront]
      cases k with
      | zero => rw [if_neg fun hgrow => absurd hgrow.1 (Nat.lt_irrefl 0), Nat.zero_add]
      | succ k =>
          have hsize : k + 1 + size = k + (size + 1) := by omega
          rw [if_pos ⟨Nat.succ_pos k, Nat.succ_pos k, by rw [h.same]⟩, hsize]
          exact ih (Nat.le_of_succ_le_succ hk)

/-- A run from the start of both sequences grows to their ends. -/
theorem growBack_diagonal (h : s.Same) {n count : Nat} : ∀ {size : Nat}, size ≤ n →
    n ≤ size + count → growBack s n n count ⟨0, 0, size⟩ = ⟨0, 0, n⟩ := by
  induction count with
  | zero =>
      intro size hsize hn
      rw [growBack, Nat.le_antisymm hsize hn]
  | succ count ih =>
      intro size hsize hn
      rw [growBack]
      simp only [Nat.zero_add, h.same, and_true, and_self]
      split
      · next hless => exact ih hless (by omega)
      · next hless => rw [Nat.le_antisymm hsize (Nat.not_lt.mp hless)]

theorem longest_eq (h : s.Same) :
    longest s 0 s.old.size 0 s.new.size = ⟨0, 0, s.old.size⟩ := by
  have hstart : Best s 0 ⟨0, 0, 0⟩ := ⟨rfl, Nat.zero_le _, fun hk => absurd hk (Nat.not_lt_zero _)⟩
  have hbest := longestFrom_best h (Nat.zero_add s.old.size) hstart
  rw [above] at hbest
  rw [longest, Nat.sub_zero]
  generalize longestFrom s 0 s.new.size s.old.size 0 [] ⟨0, 0, 0⟩ = found at hbest
  obtain ⟨old, new, size⟩ := found
  obtain ⟨hdiagonal, hwithin, -⟩ := hbest
  dsimp only at hdiagonal hwithin
  rw [← hdiagonal, growFront_diagonal h (by omega), ← h.same]
  exact growBack_diagonal h hwithin (by omega)

/-- The only common run of a sequence and itself is the whole sequence. -/
theorem runs_eq (h : s.Same) :
    s.runs = if s.old.size = 0 then [] else [⟨0, 0, s.old.size⟩] := by
  rw [Sides.runs, runsBetween]
  simp only [h.longest_eq, Nat.lt_irrefl, false_and, if_false, Nat.zero_add, List.nil_append]
  split
  · rfl
  · rfl

end Sides.Same

/-! ## No hunks -/

theorem numbered_length (lines : List Text) : ∀ seen,
    (numbered seen lines).1.length = lines.length := by
  induction lines with
  | nil => intro seen; rfl
  | cons line more ih =>
      intro seen
      rw [numbered]
      split
      · exact congrArg (· + 1) (ih seen)
      · exact congrArg (· + 1) (ih (seen.push line))

/-- A stretch of context alone makes no hunk. -/
theorem hunksFrom_kept (n : Nat) : hunksFrom [] (trimmed [⟨.kept, 0, n, 0, n⟩]) = [] := by
  have hshort : ¬ 2 * contextLines <
      min n (max 0 (n - contextLines) + contextLines) - max 0 (n - contextLines) := by
    rw [contextLines]
    omega
  simp only [trimmed, trimmed.cutStart, trimmed.cutEnd, if_true, Stretch.lead, Stretch.trail,
    hunksFrom, hshort, and_false, if_false]

theorem hunks_self (lines : List Text) : hunks lines lines = [] := by
  have hnumbers : numbered (numbered #[] lines).2 lines =
      ((numbered #[] lines).1, (numbered #[] lines).2) := numbered_extends lines fun h => h
  have hsame := Sides.same_of (numbered #[] lines).2.size (numbered #[] lines).1.toArray
  have hsize : (Sides.of (numbered #[] lines).2.size (numbered #[] lines).1.toArray
      (numbered #[] lines).1.toArray).old.size = lines.length := numbered_length lines #[]
  have hruns := hsame.runs_eq
  rw [hsize] at hruns
  simp only [hunks, hnumbers, hruns]
  split
  · next hnone =>
      rw [hnone]
      rfl
  · simp only [stretchesFrom, Nat.lt_irrefl, or_self, if_false, List.nil_append, Nat.zero_add]
    exact hunksFrom_kept lines.length

/-- The diff of a text and itself is empty. -/
theorem unified_self (file t : Text) : unified file t t = [] := by
  simp only [unified, hunks_self]

end Readiness.Diff
