import Mathlib.Data.List.Nodup
import Readiness.Proofs.OutsideView
import Readiness.Proofs.ScriptRepair

/-!
# The code that a function owns

The own code of a function is found from above: its body is walked, and nested functions are listed
and not entered. Whose code a place is can also be asked from below, by looking for the nearest
function among its ancestors. The two agree inside of the body (`own_eq_filter`): what the walk
lists is what has no function between itself and the function whose body it is, so the waits of a
function are those of its body whose nearest function it is (`mem_ownAwaits`).

A wait has one owner at most. It has none if it is not in the body of its nearest function: what
stands among the parameters of a nested function is the code of neither function
(`exists_owner_iff`).
-/

namespace Readiness.Script

namespace Place

/-! ## The way up -/

theorem length_above_lt_of_mem_ancestors {q g : Place} (h : g ∈ q.ancestors) :
    g.above.length < q.above.length := by
  rw [ancestors] at h
  generalize q.above = above at h
  induction above with
  | nil => cases h
  | cons s more ih =>
      rcases List.mem_cons.mp h with rfl | h
      · exact Nat.lt_succ_self _
      · exact Nat.lt_succ_of_lt (ih h)

theorem ancestors_of_above {p q : Place} {r : Role} {i : Nat}
    (h : q.above = ⟨p.node, r, i⟩ :: p.above) : q.ancestors = p :: p.ancestors := by
  rw [ancestors, h, ancestors.go, ancestors]

theorem above_of_mem_childrenByStart {p c : Place} (h : c ∈ p.childrenByStart) :
    ∃ r i, c.above = ⟨p.node, r, i⟩ :: p.above := by
  obtain ⟨r, i, -, -, habove⟩ := step_of_mem_childrenFrom (mem_childrenByStart.mp h)
  exact ⟨r, i, habove⟩

theorem mem_walk_of_child {p c q : Place} (child : c ∈ p.childrenByStart) (h : q ∈ c.walk) :
    q ∈ p.walk :=
  mem_walk_iff.mpr (.inr ⟨c, child, h⟩)

theorem mem_walk_trans {p f q : Place} (mem : f ∈ p.walk) (h : q ∈ f.walk) : q ∈ p.walk := by
  induction p using induction_childrenByStart with
  | step p ih =>
      rcases mem_walk_iff.mp mem with rfl | ⟨c, hc, hf⟩
      · exact h
      · exact mem_walk_of_child hc (ih c hc hf)

/-- The way up from a place below another one leads through that one: what comes before are the
places at least as deep as it. -/
theorem ancestors_of_mem_walk {p q : Place} (h : q ∈ p.walk) :
    (∃ w, q.ancestors = w ++ p.ancestors ∧ ∀ g ∈ w, p.above.length ≤ g.above.length) ∧
      p.above <:+ q.above := by
  induction p using induction_childrenByStart with
  | step p ih =>
      rcases mem_walk_iff.mp h with rfl | ⟨c, hc, hq⟩
      · exact ⟨⟨[], rfl, fun g hg => (List.not_mem_nil hg).elim⟩, List.suffix_refl _⟩
      · obtain ⟨⟨w, hw, hdeep⟩, hsuffix⟩ := ih c hc hq
        obtain ⟨r, i, habove⟩ := above_of_mem_childrenByStart hc
        rw [habove] at hsuffix hdeep
        refine ⟨⟨w ++ [p], ?_, fun g hg => ?_⟩, (List.suffix_cons _ _).trans hsuffix⟩
        · rw [hw, ancestors_of_above habove, List.append_assoc, List.singleton_append]
        · rcases List.mem_append.mp hg with hg | hg
          · exact Nat.le_of_succ_le (hdeep g hg)
          · exact Nat.le_of_eq (by rw [List.mem_singleton.mp hg])

/-- An ancestor that is no further up than the root of a tree is a place of the tree. -/
theorem mem_walk_of_mem_ancestors {p q g : Place} (h : q ∈ p.walk) (up : g ∈ q.ancestors)
    (deep : p.above.length ≤ g.above.length) : g ∈ p.walk := by
  induction p using induction_childrenByStart with
  | step p ih =>
      rcases mem_walk_iff.mp h with rfl | ⟨c, hc, hq⟩
      · exact absurd (length_above_lt_of_mem_ancestors up) (Nat.not_lt.mpr deep)
      · obtain ⟨r, i, habove⟩ := above_of_mem_childrenByStart hc
        obtain ⟨⟨w, hw, hdeep⟩, -⟩ := ancestors_of_mem_walk hq
        have hup := up
        rw [hw, ancestors_of_above habove, List.mem_append, List.mem_cons] at hup
        rcases hup with hg | rfl | hg
        · exact mem_walk_of_child hc (ih c hc hq (hdeep g hg))
        · exact self_mem_walk g
        · exact absurd (length_above_lt_of_mem_ancestors hg) (Nat.not_lt.mpr deep)

/-! ## Places told apart -/

/-- Children stand under numbers of their own. -/
theorem childrenFrom_pairwise (p : Place) (number : Nat) (children : List (Role × Node)) :
    (p.childrenFrom number children).Pairwise fun a b => a.address ≠ b.address := by
  induction children generalizing number with
  | nil => exact .nil
  | cons child more ih =>
      refine List.pairwise_cons.mpr ⟨fun q hq heq => ?_, ih (number + 1)⟩
      obtain ⟨r, i, hi, -, habove⟩ := step_of_mem_childrenFrom hq
      have hnumber : number = i := by
        rw [address, address, habove] at heq
        exact (List.cons.inj heq).1
      omega

theorem address_suffix {p q : Place} (h : q ∈ p.walk) : p.address <:+ q.address :=
  (ancestors_of_mem_walk h).2.map _

theorem length_address (p : Place) : p.address.length = p.above.length :=
  List.length_map _

theorem nodup_address_walk (p : Place) : (p.walk.map address).Nodup := by
  induction p using induction_childrenByStart with
  | step p ih =>
      have hlevel : ∀ c ∈ p.childrenByStart, c.above.length = p.above.length + 1 := by
        intro c hc
        obtain ⟨r, i, habove⟩ := above_of_mem_childrenByStart hc
        rw [habove, List.length_cons]
      rw [walk_eq, List.map_cons, List.map_flatMap, List.nodup_cons, List.nodup_flatMap]
      refine ⟨fun hmem => ?_, ih, ?_⟩
      · obtain ⟨c, hc, hq⟩ := List.mem_flatMap.mp hmem
        obtain ⟨q, hq, heq⟩ := List.mem_map.mp hq
        have hlength := (address_suffix hq).length_le
        rw [heq, length_address, length_address, hlevel c hc] at hlength
        omega
      · have hapart : p.childrenByStart.Pairwise fun a b => a.address ≠ b.address :=
          ((childrenByStart_perm p).pairwise_iff fun h => h.symm).mpr
            (childrenFrom_pairwise p 0 p.node.children)
        refine hapart.imp_of_mem fun {a b} ha hb hne =>
          List.disjoint_left.mpr fun x hx hx' => hne ?_
        obtain ⟨q, hq, rfl⟩ := List.mem_map.mp hx
        obtain ⟨q', hq', heq⟩ := List.mem_map.mp hx'
        -- both children are on the way up from the one address, on one level
        have hsuffix : b.address <:+ q.address := heq ▸ address_suffix hq'
        have hlength : a.address.length = b.address.length := by
          rw [length_address, length_address, hlevel a ha, hlevel b hb]
        exact (List.suffix_of_suffix_length_le (address_suffix hq) hsuffix
          (Nat.le_of_eq hlength)).eq_of_length hlength

/-! ## The walk that stops -/

/-- The places above a place from the given level on, nearest first. -/
def upTo (level : Nat) (q : Place) : List Place :=
  q.ancestors.filter fun g => decide (level ≤ g.above.length)

theorem upTo_self (p : Place) : upTo p.above.length p = [] :=
  List.filter_eq_nil_iff.mpr fun _ hg hle =>
    Nat.not_le.mpr (length_above_lt_of_mem_ancestors hg) (of_decide_eq_true hle)

/-- The way up leads to the root of the tree and on from there. -/
theorem ancestors_eq_upTo {p q : Place} (h : q ∈ p.walk) :
    q.ancestors = upTo p.above.length q ++ p.ancestors := by
  obtain ⟨⟨w, hw, hdeep⟩, -⟩ := ancestors_of_mem_walk h
  have hall : w.filter (fun g => decide (p.above.length ≤ g.above.length)) = w :=
    List.filter_eq_self.mpr fun g hg => decide_eq_true (hdeep g hg)
  have hnone := upTo_self p
  rw [upTo] at hnone
  rw [upTo, hw, List.filter_append, hall, hnone, List.append_nil]

/-- The way up to a child goes on to its parent. -/
theorem upTo_of_child {p c q : Place} (child : c ∈ p.childrenByStart) (h : q ∈ c.walk) :
    upTo p.above.length q = upTo c.above.length q ++ [p] := by
  obtain ⟨r, i, habove⟩ := above_of_mem_childrenByStart child
  refine (List.append_left_inj p.ancestors).mp ?_
  rw [← ancestors_eq_upTo (mem_walk_of_child child h), ancestors_eq_upTo h,
    ancestors_of_above habove, List.append_assoc, List.singleton_append]

/-- What comes off the stack is what can be come by: all places on the way up to the root of the
tree are entered. -/
theorem traverse_eq_filter (enters : Place → Bool) (p : Place) :
    traverse enters [p] = p.walk.filter fun q => (upTo p.above.length q).all enters := by
  induction p using induction_childrenByStart with
  | step p ih =>
      have hself : (upTo p.above.length p).all enters = true := by
        rw [upTo_self]
        rfl
      have hchild : ∀ c ∈ p.childrenByStart, ∀ q ∈ c.walk,
          (upTo p.above.length q).all enters =
            ((upTo c.above.length q).all enters && enters p) := by
        intro c hc q hq
        rw [upTo_of_child hc hq, List.all_append, List.all_cons, List.all_nil, Bool.and_true]
      rw [traverse_singleton, walk_eq, List.filter_cons, if_pos hself, List.filter_flatMap]
      refine congrArg _ ?_
      split
      · next hp =>
          refine List.flatMap_congr fun c hc => ?_
          rw [ih c hc]
          exact List.filter_congr fun q hq => by rw [hchild c hc q hq, hp, Bool.and_true]
      · next hp =>
          -- nothing below is listed, and nothing below passes
          refine (List.flatMap_eq_nil_iff.mpr fun c hc => ?_).symm
          refine List.filter_eq_nil_iff.mpr fun q hq hall => hp ?_
          rw [hchild c hc q hq, Bool.and_eq_true] at hall
          exact hall.2

/-- The places strictly between a place and another one above it, nearest first. -/
def between (q f : Place) : List Place := upTo (f.above.length + 1) q

end Place

end Script

namespace Rejection

open Script Place

variable {f q : Place}

/-- A body is walked from the child that is the body. -/
theorem mem_body : q ∈ body f ↔ ∃ b, f.child? .body = some b ∧ q ∈ b.walk := by
  rw [body]
  cases f.child? .body with
  | none => simp
  | some b => simp

theorem between_eq {b : Place} (h : f.child? .body = some b) (q : Place) :
    between q f = upTo b.above.length q := by
  obtain ⟨r, i, habove⟩ := above_of_mem_childrenByStart (mem_childrenByStart_of_child? h)
  rw [between, habove, List.length_cons]

/-- What a function owns is what has no function between itself and the function, in the order of
the body. -/
theorem own_eq_filter (f : Place) :
    f.own = (body f).filter fun q => (between q f).all (!·.node.isFunction) := by
  rw [Place.own, body]
  cases hb : f.child? .body with
  | none => rfl
  | some b =>
      simp only [between_eq hb, Option.map_some, Option.getD_some]
      exact traverse_eq_filter _ b

theorem mem_own_iff (mem : q ∈ body f) :
    q ∈ f.own ↔ ∀ g ∈ between q f, g.node.isFunction = false := by
  rw [own_eq_filter, List.mem_filter, List.all_eq_true]
  simp only [mem, true_and, Bool.not_eq_true']

theorem mem_body_of_mem_own (h : q ∈ f.own) : q ∈ body f := by
  rw [own_eq_filter] at h
  exact (List.mem_filter.mp h).1

theorem nodup_own (f : Place) : (f.own.map address).Nodup := by
  rw [own_eq_filter, body]
  refine List.Nodup.sublist (List.filter_sublist.map _) ?_
  cases f.child? .body with
  | none => exact List.nodup_nil
  | some b => exact nodup_address_walk b

/-- The way up from a place in a body leads to the function. -/
theorem ancestors_of_mem_body (h : q ∈ body f) :
    q.ancestors = between q f ++ f :: f.ancestors := by
  obtain ⟨b, hb, hq⟩ := mem_body.mp h
  obtain ⟨r, i, habove⟩ := above_of_mem_childrenByStart (mem_childrenByStart_of_child? hb)
  rw [between_eq hb, ← ancestors_of_above habove]
  exact ancestors_eq_upTo hq

/-- A function is the nearest one around a place in its body if no function is between them. -/
theorem enclosingFunction?_eq_iff (isFunction : f.node.isFunction = true) (mem : q ∈ body f) :
    q.enclosingFunction? = some f ↔ ∀ g ∈ between q f, g.node.isFunction = false := by
  have hself : (f :: f.ancestors).find? (·.node.isFunction) = some f :=
    List.find?_cons_of_pos isFunction
  rw [enclosingFunction?, ancestors_of_mem_body mem, List.find?_append, hself]
  cases hfind : (between q f).find? (·.node.isFunction) with
  | none =>
      simp only [List.find?_eq_none, Bool.not_eq_true] at hfind
      exact ⟨fun _ => hfind, fun _ => rfl⟩
  | some g =>
      have hg := List.mem_of_find?_eq_some hfind
      have hfunction := List.find?_some hfind
      refine ⟨fun heq => ?_, fun hnone => ?_⟩
      · -- what is between the two is deeper than the function
        have hdeep := of_decide_eq_true (List.mem_filter.mp hg).2
        rw [Option.some_or, Option.some.injEq] at heq
        rw [heq] at hdeep
        omega
      · rw [hnone g hg] at hfunction
        cases hfunction

/-- The waits of a function are those of its body whose nearest function it is. -/
theorem mem_ownAwaits (isFunction : f.node.isFunction = true) :
    q ∈ ownAwaits f ↔ q ∈ body f ∧ isAwait q.kind = true ∧ q.enclosingFunction? = some f := by
  have hawait : q ∈ ownAwaits f ↔ q ∈ f.own ∧ isAwait q.kind = true := List.mem_filter
  rw [hawait]
  constructor
  · rintro ⟨hown, hkind⟩
    have hbody := mem_body_of_mem_own hown
    exact ⟨hbody, hkind,
      (enclosingFunction?_eq_iff isFunction hbody).mpr ((mem_own_iff hbody).mp hown)⟩
  · rintro ⟨hbody, hkind, hnearest⟩
    exact ⟨(mem_own_iff hbody).mpr ((enclosingFunction?_eq_iff isFunction hbody).mp hnearest),
      hkind⟩

/-- The owner of a wait is the nearest function, if the wait is in the body of that function. -/
theorem exists_owner_iff {n : Node} (mem : q ∈ (root n).walk) (await : isAwait q.kind = true) :
    (∃ g ∈ (root n).walk, g.node.isFunction = true ∧ q ∈ ownAwaits g) ↔
      ∃ g, q.enclosingFunction? = some g ∧ q ∈ body g := by
  constructor
  · rintro ⟨g, -, hfunction, howned⟩
    obtain ⟨hbody, -, hnearest⟩ := (mem_ownAwaits hfunction).mp howned
    exact ⟨g, hnearest, hbody⟩
  · rintro ⟨g, hnearest, hbody⟩
    have hfunction := List.find?_some hnearest
    refine ⟨g, mem_walk_of_mem_ancestors mem (List.mem_of_find?_eq_some hnearest)
      (Nat.zero_le _), hfunction, (mem_ownAwaits hfunction).mpr ⟨hbody, await, hnearest⟩⟩

theorem mem_walk_of_mem_body {p : Place} (mem : f ∈ p.walk) (h : q ∈ body f) : q ∈ p.walk := by
  obtain ⟨b, hb, hq⟩ := mem_body.mp h
  exact mem_walk_trans mem (mem_walk_of_child (mem_childrenByStart_of_child? hb) hq)

/-- What a function of a tree owns is found from above and from below alike. -/
theorem owned_iff_nearest (n : Node) (f : Place) (mem : f ∈ (root n).walk)
    (isFunction : f.node.isFunction = true) :
    (∀ q ∈ body f, q ∈ f.own ↔ ∀ g ∈ between q f, g.node.isFunction = false) ∧
    (∀ q ∈ f.own, q ∈ body f) ∧ (f.own.map address).Nodup ∧
    (∀ q, q ∈ ownAwaits f ↔
      q ∈ body f ∧ isAwait q.kind = true ∧ q.enclosingFunction? = some f) ∧
    ∀ q ∈ body f, isAwait q.kind = true →
      (∀ g g', g.node.isFunction = true → g'.node.isFunction = true →
        q ∈ ownAwaits g → q ∈ ownAwaits g' → g = g') ∧
      ((∃ g ∈ (root n).walk, g.node.isFunction = true ∧ q ∈ ownAwaits g) ↔
        ∃ g, q.enclosingFunction? = some g ∧ q ∈ body g) := by
  refine ⟨fun q hq => mem_own_iff hq, fun q hq => mem_body_of_mem_own hq, nodup_own f,
    fun q => mem_ownAwaits isFunction, fun q hq hawait => ⟨?_, ?_⟩⟩
  · intro g g' hg hg' howned howned'
    have hnearest := ((mem_ownAwaits hg).mp howned).2.2
    rw [((mem_ownAwaits hg').mp howned').2.2] at hnearest
    exact (Option.some.inj hnearest).symm
  · exact exists_owner_iff (mem_walk_of_mem_body mem hq) hawait

/-! ## A wait among parameters -/

namespace Parameters

/-- A function with a wait of its own and one nested in it, which has a wait in its body and another
one among its parameters. -/
def text : Text :=
  "async function f()\x7bawait c;async function g(a=await b)\x7bawait d\x7d\x7d"

/-- Whether a place is a wait outside of the body of its nearest function. -/
def isStray (q : Place) : Bool :=
  isAwait q.kind && (q.enclosingFunction?).any fun g =>
    (g.child? .body).all fun b => !decide (b.address <:+ q.address)

/-- Whether a place is a wait with no function between itself and the function. -/
def isNear (f q : Place) : Bool :=
  isAwait q.kind && (between q f).all (!·.node.isFunction)

theorem text_facts : Script.isRead text = true ∧
    ∃ f ∈ (Script.ofText text).places, f.node.isFunction = true ∧
      (body f).any isStray = true ∧ (body f).any (isNear f) = true := by
  rw [text, Text.ofString_ofList]
  decide +kernel

end Parameters

theorem not_mem_body_of_isStray {g : Place} (h : Parameters.isStray q = true)
    (nearest : q.enclosingFunction? = some g) : q ∉ body g := by
  intro hbody
  obtain ⟨b, hb, hq⟩ := mem_body.mp hbody
  rw [Parameters.isStray, nearest, Option.any_some, hb, Option.all_some,
    decide_eq_true (address_suffix hq), Bool.not_true, Bool.and_false] at h
  cases h

/-- A wait in the body of a function that no function owns. -/
theorem exists_wait_without_owner :
    ∃ s, Script.parse Parameters.text = .ok (.ok s) ∧
      ∃ f ∈ s.places, f.node.isFunction = true ∧ ∃ q ∈ body f, isAwait q.kind = true ∧
        ∀ g ∈ s.places, g.node.isFunction = true → q ∉ ownAwaits g := by
  obtain ⟨hread, f, hf, hfunction, hstray, -⟩ := Parameters.text_facts
  obtain ⟨q, hq, hstray⟩ := List.any_eq_true.mp hstray
  have hawait := (Bool.and_eq_true_iff.mp hstray).1
  refine ⟨_, Script.parse_of_isRead hread, f, hf, hfunction, q, hq, hawait,
    fun g _ hg howned => ?_⟩
  obtain ⟨hbody, -, hnearest⟩ := (mem_ownAwaits hg).mp howned
  exact not_mem_body_of_isStray hstray hnearest hbody

/-- Of the waits in the body of the outer function, its own is owned by it, and that among the
parameters of the inner function by none. -/
theorem owned_iff_nearest_parameters :
    ∃ s f, Script.parse Parameters.text = .ok (.ok s) ∧ f ∈ s.places ∧
      f.node.isFunction = true ∧
      (∃ q ∈ body f, q ∈ ownAwaits f ∧ q.enclosingFunction? = some f) ∧
      ∃ q ∈ body f, isAwait q.kind = true ∧
        ¬ ∃ g ∈ s.places, g.node.isFunction = true ∧ q ∈ ownAwaits g := by
  obtain ⟨hread, f, hf, hfunction, hstray, hnear⟩ := Parameters.text_facts
  obtain ⟨hown, -, -, hawaits, howners⟩ := owned_iff_nearest _ f hf hfunction
  refine ⟨_, f, Script.parse_of_isRead hread, hf, hfunction, ?_, ?_⟩
  · obtain ⟨q, hq, hnear⟩ := List.any_eq_true.mp hnear
    obtain ⟨hawait, hbetween⟩ := Bool.and_eq_true_iff.mp hnear
    have hin : q ∈ f.own := (hown q hq).mpr fun g hg =>
      (Bool.not_eq_true' _).mp (List.all_eq_true.mp hbetween g hg)
    have howned : q ∈ ownAwaits f := List.mem_filter.mpr ⟨hin, hawait⟩
    exact ⟨q, hq, howned, ((hawaits q).mp howned).2.2⟩
  · obtain ⟨q, hq, hstray⟩ := List.any_eq_true.mp hstray
    have hawait := (Bool.and_eq_true_iff.mp hstray).1
    refine ⟨q, hq, hawait, fun howned => ?_⟩
    obtain ⟨g, hnearest, hin⟩ := (howners q hq hawait).2.mp howned
    exact not_mem_body_of_isStray hstray hnearest hin

end Rejection

end Readiness
