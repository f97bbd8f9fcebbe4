import Readiness.Proofs.ExpressionReading

/-!
# Lists of expressions

Expressions with commas between them are the same text in three places of the grammar,
and not the same thing: between brackets they are the elements of an array
(`reads_list`), where a single expression is asked for they are a sequence
(`takes_expression`), and so they are in parentheses, which makes one item of them
(`reads_group`). `Items` is the text, and each loop is read along it.

A loop of the parser is taken turn by turn. What one turn does is said without regard to
the rest of the list, by the text up to the next item, and the induction over the
items puts the turns together. The number of turns that are left has to be carried
along: each of them takes a token, and there are more of them than there are
characters.
-/

namespace Readiness.Script

open Readiness.Script.Parser

/-! ## Lists -/

/-- Expressions of the given forms with commas between them. -/
inductive Items (c : Context) (room : Nat) : Text → List Node → Prop
  | one {source : Text} {tree : Node} (reads : Reads c room source tree) :
      Items c room source [tree]
  | more {source t : Text} {tree : Node} {trees : List Node} (reads : Reads c room source tree)
      (k : Nat) (rest : Items c room t trees) :
      Items c room (source ++ .char ',' :: (gap k ++ t)) (tree :: trees)

section Lists

variable {c : Context} {room n : Nat} {b : List Brace} {t r : Text} {tree : Node}
  {trees : List Node}

theorem Items.imp {room' : Nat} (h : Items c room t trees) (more : room ≤ room') :
    Items c room' t trees := by
  induction h with
  | one reads => exact .one (reads.imp more)
  | more reads k rest ih => exact .more (reads.imp more) k ih

theorem Items.append {t' : Text} {trees' : List Node} (h : Items c room t trees) (k : Nat)
    (h' : Items c room t' trees') :
    Items c room (t ++ .char ',' :: (gap k ++ t')) (trees ++ trees') := by
  induction h with
  | one reads => exact .more reads k h'
  | more reads j rest ih =>
      rw [List.append_assoc, List.cons_append, List.append_assoc]
      exact .more reads j ih

theorem Items.ne_nil (h : Items c room t trees) : trees ≠ [] := by
  cases h <;> exact List.cons_ne_nil _ _

theorem Items.begins (h : Items c room t trees) (ends : Ends b r) :
    Begins Token.Opens b (t ++ r) ∧ Solid (t ++ r) := by
  cases h with
  | one reads => exact ⟨reads.begins b r ends, reads.solid b r ends⟩
  | @more _ u _ _ reads k rest =>
      rw [List.append_assoc, List.cons_append]
      have hcomma := Ends.item (.inl rfl) b (gap k ++ u ++ r)
      exact ⟨reads.begins b _ hcomma, reads.solid b _ hcomma⟩

theorem lexes_isPunct {x : CodePoint} (h : x ∈ ("([,])" : Text)) (b : List Brace) (r : Text) :
    Lexes (fun k => k.isPunct [x] = true) b (x :: r) b r :=
  (lexes_punctuator h b r).imp fun k hk => by rw [Token.isPunct, hk.1, hk.2]; simp

theorem begins_notPunct {x : CodePoint} (h : x ∈ ("([,])" : Text)) {v : Text} (other : [x] ≠ v)
    (b : List Brace) (r : Text) : Begins (fun k => k.isPunct v = false) b (x :: r) :=
  (lexes_punctuator h b r).begins.imp fun k hk => by
    rw [Token.isPunct, hk.2, beq_eq_false_iff_ne.mpr other, Bool.and_false]

/-- One turn of the loop that reads the elements of an array. -/
def listStep (g : Rules) (acc : Array Node) : Parser (Turn (Array Node) (List Node)) := do
  if ← sees "]" then return .done acc.toList
  else if ← sees "," then
    discard next
    return .again acc
  else if ← sees "..." then
    let e ← spread g
    if !(← sees "]") then
      notTarget
      expect ","
    return .again (acc.push e)
  else
    let e ← inherit g.assignment
    if !(← sees "]") then expect ","
    return .again (acc.push e)

theorem arrayLiteral_eq (g : Rules) : arrayLiteral g = production (do
    let m ← mark
    expect "["
    let elements ← loop #[] (listStep g)
    expect "]"
    node m .arrayExpression (many .element elements)) := rfl

theorem takes_element {source : Text} {y : Point} {closed : Bool}
    (reads : Reads c room source tree) (hn : room ≤ n) (ends : Ends b r)
    (closing : Begins (fun k => k.isPunct "]" = closed) b r)
    (after : if closed then y = ⟨c, b, r⟩ else Takes ⟨c, b, r⟩ y room (expect ",") fun _ => True)
    (acc : Array Node) :
    Takes ⟨c, b, source ++ r⟩ y (room + 1) (listStep (rules (n + 1)) acc)
      fun o => ∃ a, o = .again a ∧
        a.toList.map Node.shape = acc.toList.map Node.shape ++ [tree] := by
  have hbegins := reads.begins b r ends
  refine Takes.bind (Takes.sees (hbegins.imp fun k hk => hk.noListEnd)) fun _ hend => ?_
  subst hend
  refine Takes.bind (Takes.sees (hbegins.imp fun k hk => hk.noComma)) fun _ hhole => ?_
  subst hhole
  refine Takes.bind (Takes.sees (hbegins.imp fun k hk => hk.noSpread)) fun _ hspread => ?_
  subst hspread
  refine Takes.bind (Takes.inherit (reads.takes n b r hn ends)) fun e he => ?_
  have hpush : (acc.push e).toList.map Node.shape = acc.toList.map Node.shape ++ [tree] := by
    rw [Array.toList_push, List.map_append, List.map_singleton, he]
  refine Takes.bind (Takes.sees closing) fun _ hclosed => ?_
  rw [hclosed]
  cases closed with
  | true =>
      cases after
      exact Takes.pure ⟨_, rfl, hpush⟩
  | false =>
      exact Takes.bind (Takes.imp after (Nat.le_succ room) fun _ h => h) fun _ _ =>
        Takes.pure ⟨_, rfl, hpush⟩

theorem takes_comma {k : Nat} (solid : Solid t) (begins : Begins Token.Opens b t) :
    Takes ⟨c, b, .char ',' :: (gap k ++ t)⟩ ⟨c, b, t⟩ room (expect ",") fun _ => True :=
  Takes.expect (lexes_isPunct (by decide) b _) solid begins
    (((List.sublist_append_right _ t).cons _).length_le)

theorem takes_listEnd (r : Text) (fuel : Nat) (acc : Array Node) :
    Takes ⟨c, b, .char ']' :: r⟩ ⟨c, b, .char ']' :: r⟩ room
      (turns (listStep (rules (n + 1))) (fuel + 1) acc) (· = acc.toList) := by
  refine Takes.turns_done (Takes.bind (Takes.sees (lexes_isPunct (by decide) b r).begins)
    fun _ hend => ?_)
  subst hend
  exact Takes.pure ⟨_, rfl, rfl⟩

theorem takes_elements (h : Items c room t trees) (hn : room ≤ n) (r : Text) {fuel : Nat}
    (enough : (t ++ .char ']' :: r).length < fuel) (acc : Array Node) :
    Takes ⟨c, b, t ++ .char ']' :: r⟩ ⟨c, b, .char ']' :: r⟩ (room + 1)
      (turns (listStep (rules (n + 1))) fuel acc)
      fun l => l.map Node.shape = acc.toList.map Node.shape ++ trees := by
  induction h generalizing fuel acc with
  | @one source tree reads =>
      obtain ⟨fuel, rfl⟩ : ∃ m, fuel = m + 2 := ⟨fuel - 2, by
        rw [List.length_append, List.length_cons] at enough; omega⟩
      refine Takes.turns_again (takes_element reads hn (.item (.inr (.inl rfl)) b r)
        (lexes_isPunct (by decide) b r).begins rfl acc) fun a ha => ?_
      refine (takes_listEnd r fuel a).imp (Nat.le_refl _) fun l hl => ?_
      rw [hl, ha]
  | @more source t tree trees reads k rest ih =>
      have hclose := Ends.item (.inr (.inl rfl)) b r
      obtain ⟨hbegins, hsolid⟩ := rest.begins hclose
      rw [List.append_assoc, List.cons_append, List.append_assoc] at enough ⊢
      obtain ⟨fuel, rfl⟩ : ∃ m, fuel = m + 1 := ⟨fuel - 1, by omega⟩
      refine Takes.turns_again (takes_element reads hn (.item (.inl rfl) b _)
        (begins_notPunct (by decide) (by decide) b _) (takes_comma hsolid hbegins) acc)
        fun a ha => ?_
      have hrest : (t ++ .char ']' :: r).length < fuel := by
        simp only [List.length_append, List.length_cons] at enough ⊢
        omega
      refine (ih hrest a).imp (Nat.le_refl _) fun l hl => ?_
      rw [hl, ha, List.append_assoc]
      rfl

/-- The inside of a list: nothing, or expressions with commas between them. -/
def Elements (c : Context) (room : Nat) (t : Text) (trees : List Node) : Prop :=
  t = [] ∧ trees = [] ∨ Items c room t trees

/-- Texts that are read as items each make up one list together. -/
theorem elements_join {ι : Type} {text : ι → Text} {trees : ι → List Node} {l : List ι}
    (h : ∀ i ∈ l, Items c room (text i) (trees i)) :
    Elements c room (Text.join ", " (l.map text)) (l.flatMap trees) := by
  have hcons : ∀ i l, (∀ j ∈ i :: l, Items c room (text j) (trees j)) →
      Items c room (Text.join ", " ((i :: l).map text)) ((i :: l).flatMap trees) := by
    intro i l
    induction l generalizing i with
    | nil =>
        intro h
        rw [List.flatMap_singleton]
        exact h i List.mem_cons_self
    | cons j l ih =>
        intro h
        obtain ⟨hi, hl⟩ := List.forall_mem_cons.mp h
        have hjoin : Text.join ", " ((i :: j :: l).map text) =
            text i ++ .char ',' :: (gap 1 ++ Text.join ", " ((j :: l).map text)) :=
          List.append_assoc _ _ _
        rw [hjoin, List.flatMap_cons]
        exact hi.append 1 (ih j hl)
  cases l with
  | nil => exact .inl ⟨rfl, rfl⟩
  | cons i l => exact .inr (hcons i l h)

theorem Elements.solid (h : Elements c room t trees) (b : List Brace) (r : Text) :
    ∃ Q, Begins Q b (t ++ .char ']' :: r) ∧ Solid (t ++ .char ']' :: r) := by
  have hclose := Ends.item (.inr (.inl rfl)) b r
  rcases h with ⟨rfl, rfl⟩ | h
  · exact ⟨_, hclose.begins, hclose.solid⟩
  · exact ⟨_, h.begins hclose⟩

theorem Elements.takes (h : Elements c room t trees) (hn : room ≤ n) (b : List Brace) (r : Text) :
    Takes ⟨c, b, t ++ .char ']' :: r⟩ ⟨c, b, .char ']' :: r⟩ (room + 1)
      (loop #[] (listStep (rules (n + 1)))) fun l => l.map Node.shape = trees := by
  refine Takes.loop fun fuel hfuel => ?_
  rcases h with ⟨rfl, rfl⟩ | h
  · obtain ⟨fuel, rfl⟩ := Nat.exists_eq_add_one_of_ne_zero (Nat.ne_of_gt (Nat.zero_lt_of_lt hfuel))
    exact (takes_listEnd r fuel #[]).imp (Nat.le_refl _) fun l hl => by rw [hl]; rfl
  · exact (takes_elements h hn r hfuel #[]).imp (Nat.le_refl _) fun l hl => hl

theorem takes_arrayLiteral (h : Elements c room t trees) (hn : room ≤ n) (ends : Ends b r) :
    Takes ⟨c, b, .char '[' :: (t ++ .char ']' :: r)⟩ ⟨c, b, r⟩ (room + 2)
      (arrayLiteral (rules (n + 1)))
      fun e => e.shape = .mk .arrayExpression default (many .element trees) := by
  obtain ⟨Q, hbegins, hsolid⟩ := h.solid b r
  rw [arrayLiteral_eq]
  refine Takes.production (Takes.bind Takes.mark fun m _ => ?_)
  refine Takes.bind (y := ⟨c, b, t ++ .char ']' :: r⟩) (Takes.expect (k := 0)
    (lexes_isPunct (by decide) b _) hsolid hbegins (Nat.le_succ _)) fun _ _ => ?_
  refine Takes.bind (h.takes hn b r) fun l hl => ?_
  refine Takes.bind (y := ⟨c, b, r⟩) (Takes.expect (k := 0) (lexes_isPunct (by decide) b _)
    ends.solid ends.begins (Nat.le_succ _)) fun _ _ => ?_
  refine Takes.node fun span => ?_
  rw [Node.shape, shapes_many, hl]

theorem leads_of_bracket {k : Token} (kind : k.kind = .punctuator)
    (bracket : k.value ∈ Text.ofStrings ["[", "("]) : k.Leads where
  notKeyword := ne_of_eq_of_ne kind (by decide)
  bracket _ := bracket
  plain hkind := absurd (kind.symm.trans hkind) (by decide)

theorem punctuatedExpression_list {k : Token} (bracket : k.value = [.char '[']) (g : Rules)
    (m : Marker) : punctuatedExpression g m k = inherit (arrayLiteral g) := by
  have hword : Text.word [.char '['] = "[" := rfl
  rw [punctuatedExpression, bracket, hword]
  rfl

/-- A list of expressions in brackets is read as an array of them. -/
theorem reads_list (h : Elements c.inside room t trees) :
    Reads c (room + 17) (.char '[' :: (t ++ [CodePoint.char ']']))
      (.mk .arrayExpression default (many .element trees)) := by
  have htext : ∀ r : Text, CodePoint.char '[' :: (t ++ [CodePoint.char ']']) ++ r =
      CodePoint.char '[' :: (t ++ CodePoint.char ']' :: r) :=
    fun r => by simp
  have hlex := fun b r =>
    lexes_punctuator (x := .char '[') (by decide) b (t ++ CodePoint.char ']' :: r)
  refine Reads.of_primary (fun b r _ => ?_) (fun b r _ => solid_cons (by decide) rfl rfl _)
    (fun isAsync hkind => ?_) fun n b r hn ends => ?_
  · rw [htext]
    exact (hlex b r).begins.imp fun k hk => leads_of_bracket hk.1 (by rw [hk.2]; decide)
  · cases hkind
  · obtain ⟨n, rfl⟩ : ∃ m, n = m + 1 := ⟨n - 1, by omega⟩
    rw [htext]
    refine Takes.production (Takes.bind Takes.mark fun m _ => ?_)
    refine Takes.bind (Takes.ahead (hlex b r).begins) fun k hk => ?_
    rw [hk.1, punctuatedExpression_list hk.2]
    exact Takes.inherit (takes_arrayLiteral h (by omega) ends)

/-! ## Sequences -/

/-- The expression that expressions with commas between them are: a single one is itself. -/
def joined : List Node → Node
  | [e] => e
  | es => .mk .sequence default (many .expression es)

/-- One turn of the loop that reads the expressions of a sequence. -/
def sequenceStep (g : Rules) (acc : Array Node) : Parser (Turn (Array Node) (List Node)) := do
  if (← seesEnd) || !(← sees ",") then return .done acc.toList
  else
    discard next
    return .again (acc.push (← isolate (assignment g)))

theorem expression_eq (g : Rules) : expression g = production (do
    let first ← ahead
    let e ← isolate (assignment g)
    if ← sees "," then
      let items ← loop #[e] (sequenceStep g)
      node (markOf first) .sequence (many .expression items)
    else return e) := rfl

theorem Token.Closes.notEnd {k : Token} (h : k.Closes) : (k.kind == .eof) = false := by
  rcases h with ⟨hkind, -⟩ | ⟨hkind, -⟩ <;> rw [hkind] <;> rfl

theorem takes_sequenceItem {source : Text} (reads : Reads c room source tree) (hn : room ≤ n)
    (ends : Ends b r) (k : Nat) (acc : Array Node) :
    Takes ⟨c, b, .char ',' :: (gap k ++ (source ++ r))⟩ ⟨c, b, r⟩ (room + 1)
      (sequenceStep (rules n) acc)
      fun o => ∃ a, o = .again a ∧
        a.toList.map Node.shape = acc.toList.map Node.shape ++ [tree] := by
  have hcomma := lexes_isPunct (x := .char ',') (by decide) b (gap k ++ (source ++ r))
  have hcloses := (Ends.item (.inl rfl) b (gap k ++ (source ++ r))).begins
  refine Takes.bind (Takes.seesEnd (hcloses.imp fun k hk => hk.notEnd)) fun _ hend => ?_
  rw [hend]
  refine Takes.bind (Takes.sees hcomma.begins) fun _ hmore => ?_
  rw [hmore]
  refine Takes.bind (y := ⟨c, b, source ++ r⟩) (Takes.discard (Takes.next hcomma
    (reads.solid b r ends) (reads.begins b r ends)
    (((List.sublist_append_right _ _).cons _).length_le))) fun _ _ => ?_
  refine Takes.bind (Takes.isolate (reads.takes n b r hn ends)) fun e he => ?_
  refine Takes.pure ⟨_, rfl, ?_⟩
  rw [Array.toList_push, List.map_append, List.map_singleton, he]

theorem takes_sequenceEnd (ends : Ends b r) (last : Begins (fun k => k.isPunct "," = false) b r)
    (acc : Array Node) :
    Takes ⟨c, b, r⟩ ⟨c, b, r⟩ room (sequenceStep (rules n) acc) (· = .done acc.toList) := by
  refine Takes.bind (Takes.seesEnd (ends.begins.imp fun k hk => hk.notEnd)) fun _ hend => ?_
  rw [hend]
  refine Takes.bind (Takes.sees last) fun _ hmore => ?_
  rw [hmore]
  exact Takes.pure rfl

/-- The items behind a comma, in a loop that takes them one by one and gathers them in the end. -/
theorem takes_behindComma {β : Type} {step : Array Node → Parser (Turn (Array Node) β)}
    (gather : List Node → β)
    (item : ∀ {source tree r}, Reads c room source tree → Ends b r → ∀ k acc,
      Takes ⟨c, b, .char ',' :: (gap k ++ (source ++ r))⟩ ⟨c, b, r⟩ (room + 1) (step acc)
        fun o => ∃ a, o = .again a ∧
          a.toList.map Node.shape = acc.toList.map Node.shape ++ [tree])
    (stop : ∀ acc, Takes ⟨c, b, r⟩ ⟨c, b, r⟩ (room + 1) (step acc) (· = .done (gather acc.toList)))
    (h : Items c room t trees) (ends : Ends b r) {k fuel : Nat}
    (enough : (.char ',' :: (gap k ++ (t ++ r)) : Text).length < fuel) (acc : Array Node) :
    Takes ⟨c, b, .char ',' :: (gap k ++ (t ++ r))⟩ ⟨c, b, r⟩ (room + 1) (turns step fuel acc)
      fun o => ∃ l, o = gather l ∧ l.map Node.shape = acc.toList.map Node.shape ++ trees := by
  induction h generalizing k fuel acc with
  | @one source tree reads =>
      obtain ⟨x, more, hr, -⟩ := ends.exists_cons
      obtain ⟨fuel, rfl⟩ : ∃ m, fuel = m + 2 := ⟨fuel - 2, by
        simp only [hr, List.length_append, List.length_cons] at enough
        omega⟩
      refine Takes.turns_again (item reads ends k acc) fun a ha => ?_
      refine Takes.turns_done ((stop a).imp (Nat.le_refl _) fun o ho => ?_)
      exact ⟨gather a.toList, ho, a.toList, rfl, ha⟩
  | @more source t tree trees reads j rest ih =>
      rw [List.append_assoc, List.cons_append, List.append_assoc] at enough ⊢
      obtain ⟨fuel, rfl⟩ : ∃ m, fuel = m + 1 := ⟨fuel - 1, by omega⟩
      refine Takes.turns_again (item reads (.item (.inl rfl) b _) k acc) fun a ha => ?_
      have hrest : (.char ',' :: (gap j ++ (t ++ r)) : Text).length < fuel := by
        simp only [List.length_append, List.length_cons] at enough ⊢
        omega
      refine (ih hrest a).imp (Nat.le_refl _) fun o ho => ?_
      obtain ⟨l, ho, hl⟩ := ho
      refine ⟨l, ho, ?_⟩
      rw [hl, ha, List.append_assoc]
      rfl

theorem takes_expression (h : Items c room t trees) (hn : room ≤ n) (ends : Ends b r)
    (last : Begins (fun k => k.isPunct "," = false) b r) :
    Takes ⟨c, b, t ++ r⟩ ⟨c, b, r⟩ (room + 2) (expression (rules n))
      fun e => e.shape = joined trees := by
  rw [expression_eq]
  refine Takes.production (Takes.bind (Takes.ahead (h.begins ends).1) fun first _ => ?_)
  cases h with
  | one reads =>
      refine Takes.bind (Takes.isolate (reads.takes n b r hn ends)) fun e he => ?_
      refine Takes.bind (Takes.sees last) fun _ hmore => ?_
      rw [hmore]
      exact Takes.pure he
  | @more source t tree trees reads k rest =>
      rw [List.append_assoc, List.cons_append, List.append_assoc]
      refine Takes.bind (Takes.isolate (reads.takes n b _ hn (.item (.inl rfl) b _))) fun e he => ?_
      refine Takes.bind (Takes.sees (lexes_isPunct (by decide) b _).begins) fun _ hmore => ?_
      rw [hmore]
      refine Takes.bind (y := ⟨c, b, r⟩) (Takes.loop fun fuel hfuel =>
        takes_behindComma (fun l => l) (fun reads ends => takes_sequenceItem reads hn ends)
          (takes_sequenceEnd ends last) rest ends hfuel #[e]) fun items hitems => ?_
      obtain ⟨_, rfl, hitems⟩ := hitems
      refine Takes.node fun span => ?_
      have hmany : joined (tree :: trees) =
          .mk .sequence default (many .expression (tree :: trees)) := by
        cases rest <;> rfl
      rw [Node.shape, shapes_many, hitems, hmany]
      simp [he]

/-! ## Groups -/

/-- One turn of the loop that reads the expressions in parentheses. -/
def groupStep (g : Rules) (acc : Array Node) :
    Parser (Turn (Array Node) (Sum Node (List Node))) := do
  if (← seesEnd) || !(← sees ",") then return .done (.inr acc.toList)
  else
    discard next
    if ← sees ")" then
      discard next
      return .done (.inl (awaiting false (acc.toList.map Node.asPattern)))
    else if ← sees "..." then
      if !(← context).isBinding then unexpected (← ahead)
      let (rest, _) ← restParameter g
      expect ")"
      if !(← sees "=>") then expect "=>"
      modifyContext fun c => { c with isBinding := false }
      return .done (.inl (awaiting false ((acc.toList ++ [rest]).map Node.asPattern)))
    else return .again (acc.push (← inherit g.assignment))

theorem groupItems_eq (g : Rules) (first : Node) :
    groupItems g first = loop #[first] (groupStep g) := rfl

theorem takes_groupItem {source : Text} (reads : Reads c room source tree) (hn : room ≤ n)
    (ends : Ends b r) (k : Nat) (acc : Array Node) :
    Takes ⟨c, b, .char ',' :: (gap k ++ (source ++ r))⟩ ⟨c, b, r⟩ (room + 1)
      (groupStep (rules (n + 1)) acc)
      fun o => ∃ a, o = .again a ∧
        a.toList.map Node.shape = acc.toList.map Node.shape ++ [tree] := by
  have hcomma := lexes_isPunct (x := .char ',') (by decide) b (gap k ++ (source ++ r))
  have hcloses := (Ends.item (.inl rfl) b (gap k ++ (source ++ r))).begins
  have hbegins := reads.begins b r ends
  refine Takes.bind (Takes.seesEnd (hcloses.imp fun k hk => hk.notEnd)) fun _ hend => ?_
  rw [hend]
  refine Takes.bind (Takes.sees hcomma.begins) fun _ hmore => ?_
  rw [hmore]
  refine Takes.bind (y := ⟨c, b, source ++ r⟩) (Takes.discard (Takes.next hcomma
    (reads.solid b r ends) hbegins (((List.sublist_append_right _ _).cons _).length_le)))
    fun _ _ => ?_
  refine Takes.bind (Takes.sees (hbegins.imp fun k hk => hk.noGroupEnd)) fun _ hclosed => ?_
  subst hclosed
  refine Takes.bind (Takes.sees (hbegins.imp fun k hk => hk.noSpread)) fun _ hspread => ?_
  subst hspread
  refine Takes.bind (Takes.inherit (reads.takes n b r hn ends)) fun e he => ?_
  refine Takes.pure ⟨_, rfl, ?_⟩
  rw [Array.toList_push, List.map_append, List.map_singleton, he]

theorem takes_groupStop (acc : Array Node) :
    Takes ⟨c, b, .char ')' :: r⟩ ⟨c, b, .char ')' :: r⟩ room (groupStep (rules n) acc)
      (· = .done (.inr acc.toList)) := by
  have hcloses := (Ends.item (.inr (.inr rfl)) b r).begins
  refine Takes.bind (Takes.seesEnd (hcloses.imp fun k hk => hk.notEnd)) fun _ hend => ?_
  rw [hend]
  refine Takes.bind (Takes.sees (begins_notPunct (by decide) (by decide) b r)) fun _ hmore => ?_
  rw [hmore]
  exact Takes.pure rfl

theorem takes_groupEnd (ends : Ends b r) (e : Node) :
    Takes ⟨c, b, .char ')' :: r⟩ ⟨c, b, r⟩ room (groupEnd e) (· = e) := by
  refine Takes.bind (y := ⟨c, b, r⟩) (Takes.expect (k := 0) (lexes_isPunct (by decide) b _)
    ends.solid ends.begins (Nat.le_succ _)) fun _ _ => ?_
  refine Takes.bind (y := ⟨c, b, r⟩) (Q := (· = e)) ?_ fun e' he' => ?_
  · refine Takes.bind (Takes.sees (ends.begins.imp fun k hk => hk.isPunct (by decide)))
      fun _ harrow => ?_
    subst harrow
    exact Takes.pure rfl
  · exact Takes.bind (Takes.modifyContext (fun _ => rfl) fun _ h => h) fun _ _ => Takes.pure he'

theorem takes_group (h : Items c room t trees) (hn : room ≤ n) (ends : Ends b r) :
    Takes ⟨c, b, .char '(' :: (t ++ .char ')' :: r)⟩ ⟨c, b, r⟩ (room + 2) (group (rules (n + 1)))
      fun e => e.shape = joined trees := by
  have hclose := Ends.item (.inr (.inr rfl)) b r
  obtain ⟨hbegins, hsolid⟩ := h.begins hclose
  refine Takes.production (Takes.bind (y := ⟨c, b, t ++ .char ')' :: r⟩) (Takes.expect (k := 0)
    (lexes_isPunct (by decide) b _) hsolid hbegins (Nat.le_succ _)) fun _ _ => ?_)
  refine Takes.bind (Takes.sees (hbegins.imp fun k hk => hk.noGroupEnd)) fun _ hempty => ?_
  subst hempty
  refine Takes.bind (Takes.ahead hbegins) fun first _ => ?_
  refine Takes.bind (Takes.sees (hbegins.imp fun k hk => hk.noSpread)) fun _ hspread => ?_
  subst hspread
  refine Takes.bind (Takes.modifyContext (fun _ => rfl) fun _ h => h) fun _ _ => ?_
  cases h with
  | one reads =>
      refine Takes.bind (Takes.inherit (reads.takes n b _ hn hclose)) fun e he => ?_
      refine Takes.bind (Takes.sees (begins_notPunct (by decide) (by decide) b r)) fun _ hmore => ?_
      rw [hmore]
      exact (takes_groupEnd ends e).imp (Nat.le_refl _) fun e' he' => by rw [he', he]; rfl
  | @more source t tree trees reads k rest =>
      rw [List.append_assoc, List.cons_append, List.append_assoc]
      refine Takes.bind (Takes.inherit (reads.takes n b _ hn (.item (.inl rfl) b _))) fun e he => ?_
      refine Takes.bind (Takes.sees (lexes_isPunct (by decide) b _).begins) fun _ hmore => ?_
      rw [hmore]
      refine Takes.bind (Takes.modifyContext (fun _ => rfl) fun _ h => h) fun _ _ => ?_
      rw [groupItems_eq]
      refine Takes.bind (y := ⟨c, b, .char ')' :: r⟩) (Takes.loop fun fuel hfuel =>
        takes_behindComma .inr (fun reads ends => takes_groupItem reads hn ends) takes_groupStop
          rest hclose hfuel #[e]) fun o ho => ?_
      obtain ⟨items, rfl, hitems⟩ := ho
      refine Takes.bind (Takes.node (Q := fun e => e.shape = joined (tree :: trees)) fun span => ?_)
        fun e' he' => (takes_groupEnd ends e').imp (Nat.le_refl _) fun _ h => by rw [h, he']
      have hmany : joined (tree :: trees) =
          .mk .sequence default (many .expression (tree :: trees)) := by
        cases rest <;> rfl
      rw [Node.shape, shapes_many, hitems, hmany]
      simp [he]

theorem punctuatedExpression_group {k : Token} (bracket : k.value = [.char '(']) (g : Rules)
    (m : Marker) : punctuatedExpression g m k = (do
      modifyContext fun c => { c with isBinding := false }
      inherit (group g)) := by
  have hword : Text.word [.char '('] = "(" := rfl
  rw [punctuatedExpression, bracket, hword]
  rfl

theorem Items.joined_noParameters (h : Items c room t trees) (isAsync : Bool) :
    (joined trees).kind ≠ .arrowParameters isAsync := by
  cases h with
  | one reads => exact reads.noParameters isAsync
  | more reads k rest =>
      cases rest <;> exact fun hkind => by cases hkind

/-- Expressions in parentheses are read as one expression. -/
theorem reads_group (h : Items c.inside room t trees) :
    Reads c (room + 17) (.char '(' :: (t ++ [CodePoint.char ')'])) (joined trees) := by
  have htext : ∀ r : Text, CodePoint.char '(' :: (t ++ [CodePoint.char ')']) ++ r =
      CodePoint.char '(' :: (t ++ CodePoint.char ')' :: r) :=
    fun r => by simp
  have hlex := fun b r =>
    lexes_punctuator (x := .char '(') (by decide) b (t ++ CodePoint.char ')' :: r)
  refine Reads.of_primary (fun b r _ => ?_) (fun b r _ => solid_cons (by decide) rfl rfl _)
    h.joined_noParameters fun n b r hn ends => ?_
  · rw [htext]
    exact (hlex b r).begins.imp fun k hk => leads_of_bracket hk.1 (by rw [hk.2]; decide)
  · obtain ⟨n, rfl⟩ : ∃ m, n = m + 1 := ⟨n - 1, by omega⟩
    rw [htext]
    refine Takes.production (Takes.bind Takes.mark fun m _ => ?_)
    refine Takes.bind (Takes.ahead (hlex b r).begins) fun k hk => ?_
    rw [hk.1, punctuatedExpression_group hk.2]
    exact Takes.bind (Takes.modifyContext (fun _ => rfl) fun _ h => h) fun _ _ =>
      Takes.inherit (takes_group h (by omega) ends)

end Lists

end Readiness.Script
