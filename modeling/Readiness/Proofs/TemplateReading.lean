import Readiness.Proofs.ListReading

/-!
# Templates of expressions

A template that is written for a run of expressions has a text at either end and none
between the expressions. The lexer takes it in pieces, from one interpolation to the
next, and the parser takes an expression after each of them: a list of expressions
becomes a sequence there, because nothing but the closing brace ends it.

`interpolations` is the template from behind its first piece on, so that what is left
after one turn of the loop has the form it had before.
-/

namespace Readiness.Script

open Readiness.Script.Parser

section Templates

variable {c : Context} {room n : Nat} {b : List Brace} {r : Text} {trees : List Node}

/-! ## Templates -/

/-- A text of a template. -/
def element (t : Text) (tail : Bool) : Node := .mk (.templateElement t tail) default []

/-- The template with the given texts at its ends, and none between its expressions. -/
def templateTree (front back : Text) (expressions : List Node) : Node :=
  .mk .templateLiteral default
    (many .quasi (element front false :: (List.replicate (expressions.length - 1)
      (element [] false) ++ [element back true])) ++ many .expression expressions)

/-- A template from behind its first `$\x7b` on: expressions with nothing between them, and the text
at the end. -/
def interpolations (back r : Text) : Text → List Text → Text
  | source, [] => source ++ closeBrace :: (requoteInside backquote back ++ (ender true ++ r))
  | source, next :: more =>
    source ++ closeBrace :: (requoteInside backquote [] ++ (ender false ++
      interpolations back r next more))

theorem interpolations_append (back r s source : Text) (more : List Text) :
    interpolations back r source more ++ s = interpolations back (r ++ s) source more := by
  induction more generalizing source with
  | nil => simp [interpolations]
  | cons next more ih => simp [interpolations, ih]

/-- One turn of the loop that reads the expressions of a template. -/
def templateStep (g : Rules) (acc : Array Node × Array Node) :
    Parser (Turn (Array Node × Array Node) (Array Node × Array Node)) := do
  let e ← g.expression
  let (q, tail) ← templatePiece
  let acc := (acc.1.push q, acc.2.push e)
  return if tail then .done acc else .again acc

theorem templateLiteral_eq (g : Rules) : templateLiteral g = production (do
    if !(← ahead).head then breakDown .strayTemplatePiece
    let m ← mark
    let (first, tail) ← templatePiece
    if tail then node m .templateLiteral [(.quasi, first)]
    else
      let (quasis, expressions) ← loop (#[first], #[]) (templateStep g)
      node m .templateLiteral (many .quasi quasis.toList ++ many .expression expressions.toList)) :=
  rfl

theorem takes_templatePiece {x : Point} {head tail : Bool} {u : Text} {Q : Token → Prop}
    (lexes : Lexes (fun k => k.kind = .template ∧ k.head = head ∧ k.tail = tail ∧ k.cooked = u)
      x.braces x.text b r) (solid : Solid r) (begins : Begins Q b r)
    (shorter : r.length ≤ x.text.length) :
    Takes x ⟨x.context, b, r⟩ room templatePiece
      fun p => p.1.shape = element u tail ∧ p.2 = tail := by
  refine Takes.bind (Takes.ahead lexes.begins) fun k hk => ?_
  obtain ⟨hkind, -, htail, hcooked⟩ := hk
  rw [hkind]
  refine Takes.bind Takes.mark fun m _ => ?_
  refine Takes.bind (y := ⟨x.context, b, r⟩) (Takes.discard (Takes.next (k := 0) lexes solid begins
    shorter)) fun _ _ => ?_
  refine Takes.bind (Takes.node (Q := fun e => e.shape = element u tail) fun span => ?_) fun e he =>
    Takes.pure ⟨he, htail⟩
  rw [Node.shape, htail, hcooked]
  rfl

theorem length_le_piece (x : CodePoint) (u : Text) (tail : Bool) (r : Text) :
    r.length ≤ (x :: (requoteInside backquote u ++ (ender tail ++ r))).length := by
  simp only [List.length_cons, List.length_append]
  omega

theorem takes_interpolation {source : Text} {Q : Token → Prop} (h : Items c room source trees)
    (hn : room ≤ n) (tail : Bool) (u : Text) (solid : Solid r)
    (begins : Begins Q (if tail then b else .interpolation :: b) r)
    (acc : Array Node × Array Node) :
    Takes ⟨c, .interpolation :: b,
        source ++ closeBrace :: (requoteInside backquote u ++ (ender tail ++ r))⟩
      ⟨c, if tail then b else .interpolation :: b, r⟩ (room + 2) (templateStep (rules (n + 1)) acc)
      fun o => ∃ a, o = (if tail then .done a else .again a) ∧
        a.1.toList.map Node.shape = acc.1.toList.map Node.shape ++ [element u tail] ∧
        a.2.toList.map Node.shape = acc.2.toList.map Node.shape ++ [joined trees] := by
  have hlex := lexes_template false tail u r b
  refine Takes.bind (takes_expression h hn (.interpolation tail u r b) (hlex.begins.imp
    fun k hk => by rw [Token.isPunct, hk.1]; rfl)) fun e he => ?_
  refine Takes.bind (y := ⟨c, if tail then b else .interpolation :: b, r⟩)
    (takes_templatePiece hlex solid begins (length_le_piece _ u tail r)) fun p hp => ?_
  obtain ⟨q, tail'⟩ := p
  obtain ⟨hq, rfl⟩ := hp
  refine Takes.pure ⟨_, rfl, ?_, ?_⟩
  · rw [Array.toList_push, List.map_append, List.map_singleton, hq]
  · rw [Array.toList_push, List.map_append, List.map_singleton, he]

theorem interpolations_begins {source : Text} (h : Items c room source trees) (back : Text)
    (more : List Text) (b : List Brace) (r : Text) :
    Begins Token.Opens (.interpolation :: b) (interpolations back r source more) ∧
      Solid (interpolations back r source more) := by
  cases more with
  | nil => exact h.begins (.interpolation true back r b)
  | cons next more => exact h.begins (.interpolation false [] _ b)

section Run

variable {trees : Text → List Node} {source back : Text} {more : List Text}

theorem takes_interpolations (h : ∀ t ∈ source :: more, Items c room t (trees t)) (hn : room ≤ n)
    (ends : Ends b r) {fuel : Nat} (enough : (interpolations back r source more).length < fuel)
    (acc : Array Node × Array Node) :
    Takes ⟨c, .interpolation :: b, interpolations back r source more⟩ ⟨c, b, r⟩
      (room + 2) (turns (templateStep (rules (n + 1))) fuel acc) fun a =>
        a.1.toList.map Node.shape = acc.1.toList.map Node.shape ++
          (List.replicate more.length (element [] false) ++ [element back true]) ∧
        a.2.toList.map Node.shape = acc.2.toList.map Node.shape ++
          (source :: more).map (fun t => joined (trees t)) := by
  induction more generalizing source fuel acc with
  | nil =>
      obtain ⟨fuel, rfl⟩ : ∃ m, fuel = m + 1 := ⟨fuel - 1, by omega⟩
      refine Takes.turns_done ((takes_interpolation (h source List.mem_cons_self) hn true back
        ends.solid ends.begins acc).imp (Nat.le_refl _) fun o ho => ?_)
      obtain ⟨a, rfl, hquasis, hexpressions⟩ := ho
      exact ⟨a, rfl, hquasis, hexpressions⟩
  | cons next more ih =>
      obtain ⟨fuel, rfl⟩ : ∃ m, fuel = m + 1 := ⟨fuel - 1, by omega⟩
      obtain ⟨hsource, hmore⟩ := List.forall_mem_cons.mp h
      obtain ⟨hbegins, hsolid⟩ :=
        interpolations_begins (hmore next List.mem_cons_self) back more b r
      have hrest : (interpolations back r next more).length < fuel := by
        simp only [interpolations, ender, List.length_append, List.length_cons] at enough
        omega
      refine Takes.turns_again (takes_interpolation hsource hn false [] hsolid hbegins acc)
        fun a ha => ?_
      refine (ih hmore hrest a).imp (Nat.le_refl _) fun a' ha' => ?_
      rw [ha'.1, ha'.2, ha.1, ha.2]
      simp [List.replicate_succ]

theorem takes_templateLiteral (h : ∀ t ∈ source :: more, Items c room t (trees t)) (hn : room ≤ n)
    (front : Text) (ends : Ends b r) :
    Takes ⟨c, b, backquote :: (requoteInside backquote front ++ (ender false ++
        interpolations back r source more))⟩ ⟨c, b, r⟩ (room + 3) (templateLiteral (rules (n + 1)))
      fun e => e.shape =
        templateTree front back ((source :: more).map fun t => joined (trees t)) := by
  obtain ⟨hbegins, hsolid⟩ := interpolations_begins (h source List.mem_cons_self) back more b r
  have hlex := lexes_template true false front (interpolations back r source more) b
  rw [templateLiteral_eq]
  refine Takes.production (Takes.bind (Takes.ahead hlex.begins) fun k hk => ?_)
  rw [hk.2.1]
  refine Takes.bind Takes.mark fun m _ => ?_
  refine Takes.bind (y := ⟨c, .interpolation :: b, interpolations back r source more⟩)
    (takes_templatePiece hlex hsolid hbegins (length_le_piece _ front false _)) fun p hp => ?_
  obtain ⟨first, tail⟩ := p
  obtain ⟨hfirst, rfl⟩ := hp
  refine Takes.bind (y := ⟨c, b, r⟩) (Takes.loop fun fuel hfuel =>
    takes_interpolations h hn ends hfuel (#[first], #[])) fun a ha => ?_
  refine Takes.node fun span => ?_
  rw [Node.shape, shapes_append, shapes_many, shapes_many, ha.1, ha.2]
  simp [templateTree, hfirst]

/-- A template with expressions is read as a template of them. -/
theorem reads_template (h : ∀ t ∈ source :: more, Items c.inside room t (trees t))
    (front back : Text) :
    Reads c (room + 17) (backquote :: (requoteInside backquote front ++ (ender false ++
        interpolations back [] source more)))
      (templateTree front back ((source :: more).map fun t => joined (trees t))) := by
  have htext : ∀ r, backquote :: (requoteInside backquote front ++ (ender false ++
      interpolations back [] source more)) ++ r = backquote :: (requoteInside backquote front ++
        (ender false ++ interpolations back r source more)) := by
    intro r
    rw [List.cons_append, List.append_assoc, List.append_assoc, interpolations_append,
      List.nil_append]
  have hlex := fun b r => lexes_template true false front (interpolations back r source more) b
  refine Reads.of_primary (fun b r _ => ?_) (fun b r _ => solid_cons (by decide) rfl rfl _)
    (fun isAsync hkind => ?_) fun n b r hn ends => ?_
  · rw [htext]
    exact (hlex b r).begins.imp fun k hk => ⟨ne_of_eq_of_ne hk.1 (by decide),
      fun hkind => absurd (hk.1.symm.trans hkind) (by decide),
      fun hkind => absurd (hk.1.symm.trans hkind) (by decide)⟩
  · cases hkind
  · obtain ⟨n, rfl⟩ : ∃ m, n = m + 1 := ⟨n - 1, by omega⟩
    rw [htext]
    refine Takes.production (Takes.bind Takes.mark fun m _ => ?_)
    refine Takes.bind (Takes.ahead (hlex b r).begins) fun k hk => ?_
    rw [hk.1]
    exact takes_templateLiteral h (by omega) front ends

end Run

end Templates

end Readiness.Script
