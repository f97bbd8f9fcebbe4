import Readiness.Analysis
import Readiness.Proofs.PatchReading

/-!
# Every issue has an id of its own

An id is the kind of an issue, a hyphen and a number, and a kind may hold hyphens and digits as it
likes. The number has no hyphen in it, so the last hyphen of an id parts the two
again: equal ids have equal kinds and equal numbers. Issues of one kind get the numbers
from one on in the order in which they are listed, so no two issues share an id.

Nothing in this asks which kinds there are, so it is said of the ids of any kinds first.
-/

namespace Readiness.Issue

/-- The id of the `n`th issue of a kind. -/
def idOf (kind : Text) (n : Nat) : Text := kind ++ "-" ++ toString n

/-- The ids of issues of the given kinds, in the given order; `seen` holds the kinds of the issues
before. -/
def idsAfter (seen : List Text) : List Text → List Text
  | [] => []
  | kind :: more => idOf kind ((kind :: seen).count kind) :: idsAfter (kind :: seen) more

/-- The ids of issues of the given kinds, in the given order. -/
def ids (kinds : List Text) : List Text := idsAfter [] kinds

/-! ## Ids are told apart by their kinds and numbers -/

/-- A list is parted in one way at the last of its elements that equals a given one. -/
theorem append_cons_inj_of_not_mem {α : Type} {x : α} {a b u v : List α} (hu : x ∉ u) (hv : x ∉ v)
    (h : a ++ x :: u = b ++ x :: v) : a = b ∧ u = v := by
  rcases List.append_eq_append_iff.mp h with ⟨c, hb, hc⟩ | ⟨c, ha, hc⟩
  · cases c with
    | nil =>
        rw [List.nil_append] at hc
        exact ⟨by rw [hb, List.append_nil], (List.cons.inj hc).2⟩
    | cons y c =>
        have htail := (List.cons.inj hc).2
        exact absurd (htail ▸ List.mem_append_right c List.mem_cons_self) hu
  · cases c with
    | nil =>
        rw [List.nil_append] at hc
        exact ⟨by rw [ha, List.append_nil], (List.cons.inj hc).2.symm⟩
    | cons y c =>
        have htail := (List.cons.inj hc).2
        exact absurd (htail ▸ List.mem_append_right c List.mem_cons_self) hv

theorem hyphen_not_mem_toString (n : Nat) : CodePoint.char '-' ∉ Text.ofString (toString n) :=
  fun h => absurd (Diff.isDigit_of_mem_toString h) (by decide)

theorem toString_inj {n m : Nat} (h : Text.ofString (toString n) = Text.ofString (toString m)) :
    n = m := by
  have hread := Diff.readNumber_toString n (r := []) (by simp)
  rw [h, Diff.readNumber_toString m (by simp)] at hread
  exact (Prod.mk.inj (Option.some.inj hread)).1.symm

/-- The last hyphen of an id parts its kind from its number. -/
theorem idOf_inj {kind kind' : Text} {n m : Nat} (h : idOf kind n = idOf kind' m) :
    kind = kind' ∧ n = m := by
  have hparts : kind ++ CodePoint.char '-' :: Text.ofString (toString n) =
      kind' ++ CodePoint.char '-' :: Text.ofString (toString m) := by
    rw [idOf, idOf, List.append_assoc, List.append_assoc] at h
    exact h
  obtain ⟨hkind, hnumber⟩ := append_cons_inj_of_not_mem (hyphen_not_mem_toString n)
    (hyphen_not_mem_toString m) hparts
  exact ⟨hkind, toString_inj hnumber⟩

/-! ## The ids of any kinds -/

/-- The ids of things of the given kinds: there is one for each, no two are the same, and those
of each kind have the numbers from one on, in order. -/
structure Numbers (kinds ids : List Text) : Prop where
  length_eq : ids.length = kinds.length
  nodup : ids.Nodup
  dense : ∀ kind, ((kinds.zip ids).filter (·.1 == kind)).map (·.2) =
    (List.range (kinds.count kind)).map fun n => kind ++ "-" ++ toString (n + 1)

theorem length_idsAfter (kinds seen : List Text) : (idsAfter seen kinds).length = kinds.length := by
  induction kinds generalizing seen with
  | nil => rfl
  | cons kind more ih => rw [idsAfter, List.length_cons, ih, List.length_cons]

/-- The numbers of a kind go on behind those that were given before. -/
theorem exists_of_mem_idsAfter {kinds seen : List Text} {id : Text} (h : id ∈ idsAfter seen kinds) :
    ∃ kind n, id = idOf kind n ∧ seen.count kind < n := by
  induction kinds generalizing seen with
  | nil => exact absurd h List.not_mem_nil
  | cons kind more ih =>
      rw [idsAfter] at h
      rcases List.mem_cons.mp h with rfl | h
      · exact ⟨kind, _, rfl, by rw [List.count_cons_self]; omega⟩
      · obtain ⟨kind', n, rfl, hn⟩ := ih h
        exact ⟨kind', n, rfl, Nat.lt_of_le_of_lt List.count_le_count_cons hn⟩

theorem nodup_idsAfter (kinds seen : List Text) : (idsAfter seen kinds).Nodup := by
  induction kinds generalizing seen with
  | nil => exact List.nodup_nil
  | cons kind more ih =>
      rw [idsAfter, List.nodup_cons]
      refine ⟨fun h => ?_, ih (kind :: seen)⟩
      obtain ⟨kind', n, hid, hn⟩ := exists_of_mem_idsAfter h
      obtain ⟨rfl, rfl⟩ := idOf_inj hid
      exact Nat.lt_irrefl _ hn

theorem dense_idsAfter (kind : Text) (kinds seen : List Text) :
    ((kinds.zip (idsAfter seen kinds)).filter (·.1 == kind)).map (·.2) =
      (List.range (kinds.count kind)).map fun n => idOf kind (seen.count kind + n + 1) := by
  induction kinds generalizing seen with
  | nil => rfl
  | cons k more ih =>
      rw [idsAfter, List.zip_cons_cons, List.filter_cons]
      by_cases hk : k = kind
      · subst hk
        rw [if_pos (beq_self_eq_true k), List.map_cons, ih, List.count_cons_self,
          List.count_cons_self, List.range_succ_eq_map, List.map_cons, List.map_map]
        refine congrArg₂ List.cons rfl (List.map_congr_left fun n _ => ?_)
        rw [Function.comp_apply, Nat.succ_eq_add_one]
        congr 1
        omega
      · have hbeq : ¬ (k == kind) = true := fun h => hk (beq_iff_eq.mp h)
        rw [if_neg hbeq, ih, List.count_cons_of_ne hk, List.count_cons_of_ne hk]

theorem numbers_ids (kinds : List Text) : Numbers kinds (ids kinds) where
  length_eq := length_idsAfter kinds []
  nodup := nodup_idsAfter kinds []
  dense kind := by
    rw [ids, dense_idsAfter]
    exact List.map_congr_left fun n _ => by rw [List.count_nil, Nat.zero_add]; rfl

/-! ## The ids of issues -/

theorem map_id_numberedAfter (seen : List Text) (issues : List Issue) :
    (numberedAfter seen issues).map (·.id) = idsAfter seen (issues.map (·.type)) := by
  induction issues generalizing seen with
  | nil => rfl
  | cons i more ih =>
      rw [numberedAfter, List.map_cons, List.map_cons, idsAfter, ih]
      rfl

/-- Numbering gives an issue an id and leaves all the rest of it as it was. -/
theorem getElem?_numberedAfter (seen : List Text) (issues : List Issue) (k : Nat) :
    ∃ id, (numberedAfter seen issues)[k]? = issues[k]?.map fun i : Issue => { i with id } := by
  induction issues generalizing seen k with
  | nil => exact ⟨[], rfl⟩
  | cons i more ih =>
      rw [numberedAfter]
      cases k with
      | zero => exact ⟨_, rfl⟩
      | succ k => exact ih (i.type :: seen) k

/-- Whatever texts the kinds of issues are, no two ids are the same, and those of each kind are
numbered from one on in their order. Numbering gives each issue such an id, and nothing else of
it changes. -/
theorem numbered_ids :
    (∀ kinds, Numbers kinds (ids kinds)) ∧
    ∀ issues : List Issue,
      Numbers (issues.map (·.type)) ((numbered issues).map (·.id)) ∧
      (numbered issues).length = issues.length ∧
      ∀ k : Nat, ∃ id, (numbered issues)[k]? = issues[k]?.map fun i : Issue => { i with id } := by
  refine ⟨numbers_ids, fun issues => ?_⟩
  have hids : (numbered issues).map (·.id) = ids (issues.map (·.type)) :=
    map_id_numberedAfter [] issues
  have hlength := congrArg List.length hids
  rw [List.length_map, ids, length_idsAfter, List.length_map] at hlength
  rw [hids]
  exact ⟨numbers_ids _, hlength, getElem?_numberedAfter [] issues⟩

end Readiness.Issue
