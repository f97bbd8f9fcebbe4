import Readiness.Proofs.ParserPlaces

/-!
# Where markup stands

Inside of an element the parser reads characters: nothing is ahead of it, and its place is that of
the cursor. An element is entered at the start of the token ahead and left by reading the next
token behind it, so as an expression it stands where it was read.
-/

namespace Readiness.Script

open Readiness.Script.Parser
open Cursor (Along)

section

variable {t : Text} {w w' : Prop} {b b₀ m e : Nat} {g : Rules}

/-! ## Characters and tokens of markup -/

theorem readMarkup_ok {s s' : State} {k : Token} (h : readMarkup s = .ok k s') :
    Along s.cursor.rest s.cursor.index s'.cursor ∧
      (k.kind = .string → QuotedAt s.cursor s'.cursor) ∧ s'.start = s.start ∧
      s'.ahead = s.ahead ∧ s'.last = s.last := by
  obtain ⟨_, _, hget, h⟩ := ok_of_bind h
  cases hget
  cases hlex : lexMarkup s.cursor s.braces with
  | ok r =>
      simp only [hlex] at h
      obtain ⟨l, rfl, rfl, hcursor, hstart, hahead, hlast⟩ := lexed_ok h
      obtain ⟨halong, hstring⟩ := lexMarkup_ok hlex
      rw [hcursor]
      exact ⟨halong, hstring, hstart, hahead, hlast⟩
  | error p =>
      simp only [hlex] at h
      cases h

theorem Quiet.peekMarkup : Quiet peekMarkup fun _ => True := by
  intro s a s' h
  obtain ⟨_, _, hget, h⟩ := ok_of_bind h
  cases hget
  obtain ⟨_, _, hskip, h⟩ := ok_of_bind h
  cases hskip
  obtain ⟨k, s₁, hread, h⟩ := ok_of_bind h
  obtain ⟨_, _, hback, h⟩ := ok_of_bind h
  cases hback
  cases h
  obtain ⟨-, -, hstart, hahead, hlast⟩ := readMarkup_ok hread
  exact ⟨⟨rfl, hstart, hahead, hlast⟩, trivial⟩

theorem Quiet.seesMarkup {v : Text} : Quiet (seesMarkup v) fun _ => True :=
  .skip .peekMarkup fun _ => .ret trivial

namespace Keeps

theorem enterMarkup : Keeps t w w .tokens .characters b enterMarkup fun _ _ => True :=
  change fun _ hs => ⟨⟨hs.start, hs.start, by rintro ⟨⟩, hs.last, trivial⟩, Nat.le_refl _⟩

theorem leaveMarkup : Keeps t w True .characters .tokens b leaveMarkup fun _ _ => True :=
  discard next

theorem markCursor : Keeps t w w .characters .characters b markCursor fun _ m => b ≤ m.index :=
  bind get fun _ _ le hs => ret (Nat.le_trans le (Nat.le_of_eq hs.2.symm))

theorem markMarkup : Keeps t w w .characters .characters b markMarkup fun _ m => b ≤ m.index :=
  skip skipTrivia fun _ => markCursor

theorem takeUp : Keeps t w True .characters .characters b
    (modify fun s => { s with last := s.cursor.marker }) fun _ _ => True :=
  change fun _ hs =>
    ⟨⟨hs.cursor, hs.start, by rintro ⟨⟩, fun _ => Nat.le_refl _, trivial⟩, Nat.le_refl _⟩

theorem readMarkup : Keeps t w w .characters .characters b readMarkup fun _ _ => True := by
  intro s hs hb k s' h
  obtain ⟨halong, -, hstart, -, hlast⟩ := readMarkup_ok h
  exact ⟨hs.move halong hstart hlast, Nat.le_trans hb halong.index_le, trivial⟩

theorem nextMarkup : Keeps t w True .characters .characters b nextMarkup fun _ _ => True := by
  refine skip skipTrivia fun _ =>
    skip (change fun s hs => ?_ : Keeps t w w .characters .characters b _ _) fun _ =>
    skip readMarkup fun _ => skip takeUp fun _ => ret trivial
  exact ⟨⟨hs.cursor, hs.cursor, by rintro ⟨⟩, hs.last, trivial⟩, Nat.le_refl _⟩

theorem expectMarkup {v : Text} :
    Keeps t w True .characters .characters b (expectMarkup v) fun _ _ => True :=
  skip nextMarkup fun _ => ite (fun _ => quiet .unexpected) fun _ => ret trivial

theorem reenterMarkup : Keeps t w True .tokens .characters b reenterMarkup fun _ _ => True :=
  skip enterMarkup fun _ => expectMarkup

/-! ## Tags -/

theorem tagIdentifier : ReadsTree t w .characters b tagIdentifier :=
  seq markMarkup fun _ hm => skip nextMarkup fun _ => when (quiet .unexpected) <|
    ReadsLeaf.tree (leaf hm rfl)

theorem tagName : ReadsTree t w .characters b tagName :=
  seq markMarkup fun _ hm => bind tagIdentifier fun _ _ _ hname => look .seesMarkup fun _ => ite
    (fun _ => skip expectMarkup fun _ => bind tagIdentifier fun _ _ _ hinner =>
      node hm (.two hname hinner) rfl)
    fun _ => loop (I := fun e n => n.Fits t b e) (fun _ le => hname.later le) fun _ _ _ hobject =>
      look .seesMarkup fun _ => ite
        (fun _ => skip expectMarkup fun _ => bind tagIdentifier fun _ _ _ hproperty =>
          bind (node hm (.two hobject hproperty) rfl) fun _ _ _ hn =>
          again fun _ le => hn.later le)
        fun _ => done fun _ le => hobject.later le

theorem attributeName : ReadsTree t w .characters b attributeName :=
  seq markMarkup fun _ hm => bind tagIdentifier fun _ _ _ hname => look .seesMarkup fun _ => ite
    (fun _ => skip expectMarkup fun _ => bind tagIdentifier fun _ _ _ hinner =>
      node hm (.two hname hinner) rfl)
    fun _ => pure fun _ le => hname.later le

/-- A string that is taken starts where trivia was skipped to: there is nothing more to skip in
front of it. -/
theorem quoted_nextMarkup {s s₁ s' : State} {m : Marker} {k : Token}
    (stands : s.StandsIn t w .characters) (marked : Parser.markMarkup s = .ok m s₁)
    (taken : Parser.nextMarkup s₁ = .ok k s') (string : k.kind = .string) :
    IsQuoted t m.index s'.last.index := by
  obtain ⟨hs₁, -, -⟩ := markMarkup s stands (Nat.le_refl _) m s₁ marked
  obtain ⟨_, s₀, hskip, hmark⟩ := ok_of_bind marked
  have hs₀ : s₀.cursor = (s.cursor.skipTrivia !s.context.isModule).1 ∧ s₀.context = s.context := by
    cases hskip
    exact ⟨rfl, rfl⟩
  clear hskip
  obtain ⟨hcursor, hcontext⟩ := hs₀
  cases hmark
  obtain ⟨_, s₂, hskip, taken⟩ := ok_of_bind taken
  have hs₂ : s₂.cursor = (s₁.cursor.skipTrivia !s₁.context.isModule).1 := by
    cases hskip
    rfl
  clear hskip
  rw [hcontext, hcursor, Cursor.skipTrivia_again, ← hcursor] at hs₂
  obtain ⟨_, _, hstart, taken⟩ := ok_of_bind taken
  cases hstart
  obtain ⟨k', s₃, hread, taken⟩ := ok_of_bind taken
  obtain ⟨_, _, hlast, taken⟩ := ok_of_bind taken
  cases hlast
  cases taken
  obtain ⟨-, hstring, -⟩ := readMarkup_ok hread
  have hquoted : QuotedAt s₂.cursor s₃.cursor := hstring string
  rw [hs₂] at hquoted
  exact hquoted.isQuoted hs₁.cursor

theorem attributeString : ReadsTree t w .characters b (do
    let m ← Parser.markMarkup
    let k ← Parser.nextMarkup
    if k.kind != .string then Parser.unexpected k
    Parser.node m (.literal (.string k.value))) := by
  intro s hs hb n s' h
  obtain ⟨m, s₁, hmark, h⟩ := ok_of_bind h
  obtain ⟨hs₁, hb₁, hm⟩ := markMarkup s hs hb m s₁ hmark
  obtain ⟨k, s₂, hnext, h⟩ := ok_of_bind h
  obtain ⟨hs₂, hb₂, -⟩ := nextMarkup s₁ hs₁ hb₁ k s₂ hnext
  split at h
  · obtain ⟨_, _, hstop, -⟩ := ok_of_bind h
    exact (Quiet.unexpected (Q := fun _ => False) _ _ _ hstop).2.elim
  · next hkind =>
      have hstring : k.kind = .string := by simpa using hkind
      cases h
      exact ⟨hs₂, hb₂, .of_laid (.nil hb₂) (.inr ⟨hm, hs₂.last trivial⟩)
        ⟨by rintro ⟨⟩, fun _ _ => quoted_nextMarkup hs hmark hnext hstring⟩ (by rintro ⟨⟩)⟩

theorem attributeValue (hg : g.ReadFrom t) : ReadsTree t w .characters b (attributeValue g) :=
  production <| look .seesMarkup fun _ => ite
    (fun _ => seq markMarkup fun _ hm => skip expectMarkup fun _ => skip leaveMarkup fun _ =>
      look .sees fun _ => when (quiet .noteHere) <| bind (production hg.assignment) fun _ _ _ he =>
      skip reenterMarkup fun _ => node hm (.one he) rfl)
    fun _ => look .seesMarkup fun _ => ite (fun _ => hg.markup) fun _ =>
      attributeString

theorem namedAttribute (hg : g.ReadFrom t) : ReadsTree t w .characters b (namedAttribute g) :=
  production <| seq markMarkup fun _ hm => bind attributeName fun _ _ _ hname =>
    look .seesMarkup fun _ => ite
      (fun _ => skip expectMarkup fun _ => bind (attributeValue hg) fun _ _ _ hvalue =>
        node hm (.two hname hvalue) rfl)
      fun _ => node hm (.one hname) rfl

theorem spreadAttribute (hg : g.ReadFrom t) : ReadsTree t w .characters b (spreadAttribute g) :=
  production <| seq markMarkup fun _ hm => skip expectMarkup fun _ => skip expectMarkup fun _ =>
    skip leaveMarkup fun _ => bind hg.assignment fun _ _ _ he => skip reenterMarkup fun _ =>
    node hm (.one he) rfl

theorem attributes (hg : g.ReadFrom t) :
    Keeps t w w .characters .characters b (attributes g) fun e l => Row t b e l :=
  production <| collect
    (.skip .seesMarkup fun _ => .skip .seesMarkup fun _ => .ret trivial) fun _ =>
    look .seesMarkup fun _ => ite (fun _ => forget (spreadAttribute hg))
      fun _ => forget (namedAttribute hg)

theorem openingTail (hg : g.ReadFrom t) {m : Marker} (hm : b₀ ≤ m.index) (le : b₀ ≤ b) :
    Keeps t w True .characters .characters b (openingTail g m) fun e n => n.Fits t b₀ e :=
  production <| bind tagName fun _ _ _ hname => bind (attributes hg) fun _ _ _ hattrs =>
    look .seesMarkup fun _ => when expectMarkup <| skip expectMarkup fun _ =>
    node hm (.cons (hname.behind le) (.many hattrs)) rfl

theorem boundaryTag (hg : g.ReadFrom t) : ReadsTree t w .characters b (boundaryTag g) :=
  seq markMarkup fun _ hm => skip expectMarkup fun _ => look .seesMarkup fun _ => ite
    (fun _ => skip expectMarkup fun _ => bind tagName fun _ _ _ hname => skip expectMarkup fun _ =>
      node hm (.one hname) rfl)
    fun _ => openingTail hg hm (Nat.le_refl _)

/-! ## Elements -/

theorem container (hg : g.ReadFrom t) : ReadsTree t w .characters b (container g) :=
  production <| seq markMarkup fun _ hm => skip expectMarkup fun _ => look .seesMarkup fun _ => ite
    (fun _ => seq markCursor fun _ hm' => skip skipTrivia fun _ => skip takeUp fun _ =>
      bind (leaf hm' rfl) fun _ _ _ he => skip expectMarkup fun _ => node hm (.one he.1) rfl)
    fun _ => skip leaveMarkup fun _ => bind hg.assignment fun _ _ _ he =>
      skip reenterMarkup fun _ => node hm (.one he) rfl

theorem tagChildren (hg : g.ReadFrom t) :
    Keeps t True True .characters .characters b (tagChildren g) fun e l => Row t b e l := by
  refine production <| loop (I := fun e (acc : Array Node) => Row t b e acc.toList)
    (fun _ le => .nil le) fun e acc _ hacc => bind get fun e' s le hs =>
      ite (fun _ => done fun _ le' => hacc.later (Nat.le_trans le le')) fun _ => ?_
  have halong := along_afterTagText s.cursor.rest.length s.cursor
  have hfront : e' = s.cursor.index := hs.2.symm
  have hahead : e' ≤ (afterTagText s.cursor.rest.length s.cursor).index := by
    rw [hfront]
    exact halong.index_le
  refine bind (?_ : Keeps t True True .characters .characters e' _ fun _ _ => True)
    fun e₁ _ le₁ _ => ?_
  · exact set ⟨hs.1.cursor.trans halong, hs.1.cursor, by rintro ⟨⟩, fun _ => Nat.le_refl _, trivial⟩
      hahead
  have hrest : ∀ e₂ (acc : Array Node), Row t b e₂ acc.toList →
      Keeps t True True .characters .characters e₂
        (if (afterTagText s.cursor.rest.length s.cursor).rest.head? == some (.char '\x7b') then do
          return .again (acc.push (← Parser.container g))
        else return .done acc.toList)
        fun e => Turn.Holds (fun acc : Array Node => Row t b e acc.toList)
          fun l : List Node => Row t b e l := fun _ acc hacc =>
    ite (fun _ => bind (container hg) fun _ _ _ hn => again fun _ le => (hacc.push hn).later le)
      fun _ => done fun _ le => hacc.later le
  have hbefore := hacc.later le
  exact ite
    (fun _ => bind (node (Nat.le_of_eq hfront) (.nil le₁) rfl) fun e₂ _ _ hn =>
      seq (ret (hbefore.push hn)) (hrest e₂))
    fun _ => seq (ret (hbefore.later le₁)) (hrest e₁)

end Keeps

theorem Laid.elementParts {opening : Node} {children : List Node} (closing : Option Node)
    (h : Row t b e (opening :: (children ++ closing.toList))) :
    Laid t b e (elementParts opening children closing) := by
  have hclosing : (Parser.optional Role.closing closing).map Prod.snd = closing.toList := by
    cases closing <;> rfl
  refine ⟨?_, List.forall_mem_append.mpr
    ⟨List.forall_mem_cons.mpr ⟨ne_callee, Laid.many_others children⟩,
      Laid.optional_others closing⟩⟩
  rw [Parser.elementParts, List.cons_append, List.map_cons, List.map_append, map_snd_many, hclosing]
  exact h

/-- The open elements of which the last has been read up to `e`: what has been read of each stands
behind what has been read of the one around it. The outermost of them is opened by `opening`. -/
inductive OpenFits (t : Text) (b : Nat) (opening : Node) :
    Nat → OpenElement → List OpenElement → Prop
  | outermost {e : Nat} {el : OpenElement} (own : el.opening = opening)
      (row : Row t b e (el.opening :: el.children.toList)) : OpenFits t b opening e el []
  | inner {m e : Nat} {el outer : OpenElement} {stack : List OpenElement}
      (around : OpenFits t b opening m outer stack) (marked : m ≤ el.marker.index)
      (row : Row t m e (el.opening :: el.children.toList)) :
      OpenFits t b opening e el (outer :: stack)

namespace OpenFits

variable {opening : Node} {el outer : OpenElement} {stack : List OpenElement} {ns : List Node}

theorem more (h : OpenFits t b opening m el stack) (row : Row t m e ns) {children : Array Node}
    (all : children.toList = el.children.toList ++ ns) :
    OpenFits t b opening e { el with children } stack := by
  cases h with
  | outermost own hrow =>
      refine .outermost own ?_
      show Row t b e (el.opening :: children.toList)
      rw [all]
      exact hrow.append row
  | inner around marked hrow =>
      refine .inner around marked ?_
      show Row t _ e (el.opening :: children.toList)
      rw [all]
      exact hrow.append row

theorem push (h : OpenFits t b opening m el stack) {n : Node} (hn : n.Fits t m e) :
    OpenFits t b opening e { el with children := el.children.push n } stack :=
  h.more (.one hn) Array.toList_push

theorem later (h : OpenFits t b opening m el stack) (le : m ≤ e) :
    OpenFits t b opening e el stack :=
  h.more (.nil le) (List.append_nil _).symm

/-- The children of the last element stand behind the tag that opens the outermost. -/
theorem row (h : OpenFits t b opening e el stack) : Row t b e (opening :: el.children.toList) := by
  induction h with
  | outermost own row =>
      rw [← own]
      exact row
  | inner around marked row ih =>
      exact .cons (ih.parts _ (List.mem_cons_self ..)) (row.sublist (List.sublist_cons_self ..))

end OpenFits

namespace Keeps

/-- Each turn reads what stands in front of the next tag, and the tag: it opens an element, closes
the last one, or is one by itself. -/
theorem elementBody (hg : g.ReadFrom t) {outermost : OpenElement}
    (hout : OpenFits t b₀ outermost.opening b outermost []) :
    Keeps t True True .characters .characters b (elementBody g outermost) fun e x =>
      Row t b₀ e (outermost.opening :: (x.1 ++ x.2.toList)) := by
  refine production <| loop
    (I := fun e (acc : OpenElement × List OpenElement) =>
      OpenFits t b₀ outermost.opening e acc.1 acc.2)
    (fun _ le => hout.later le) fun e acc _ hacc => ?_
  obtain ⟨el, stack⟩ := acc
  refine look .get fun _ => ite (fun _ => done fun _ le => ?_) fun _ =>
    bind (tagChildren hg) fun e₁ more _ hmore => seq markCursor fun m hm =>
    bind (boundaryTag hg) fun e₂ tag _ htag => ?_
  · rw [Option.toList_none, List.append_nil]
    exact (hacc.later le).row
  have hall : OpenFits t b₀ outermost.opening e₁
      { el with children := el.children ++ more.toArray } stack :=
    hacc.more hmore (by rw [Array.toList_append, List.toList_toArray])
  dsimp only
  split
  · exact bind (node hm (.elementParts none (.one htag)) rfl) fun _ _ _ hn =>
      again fun _ le => (hall.push hn).later le
  · exact again fun _ le => .inner hall hm (.one (htag.later le))
  · refine when (quiet .noteHere) ?_
    cases hall with
    | outermost own row =>
        refine done fun _ le => ?_
        rw [← own]
        exact row.append (.one (htag.later le))
    | inner around marked row =>
        exact bind (node marked (.elementParts (some tag) (row.append (.one htag))) rfl)
          fun _ _ _ hn => again fun _ le => (around.push hn).later le

theorem element (hg : g.ReadFrom t) : ReadsTree t w .characters b (Parser.element g) := by
  refine production <| seq markMarkup fun m hm => bind (P := fun e n => n.Fits t b e)
    (seq markMarkup fun _ hm' => skip expectMarkup fun _ => openingTail hg hm' (Nat.le_refl _))
    fun _ opening _ hopening => ?_
  split
  · exact node hm (.elementParts none (.one hopening)) rfl
  · refine bind (elementBody hg (.outermost rfl (.one hopening))) fun _ _ _ hrow =>
      node hm (.elementParts _ hrow) rfl

theorem markupExpression (hg : g.ReadFrom t) : ReadsTree t w .tokens b (markupExpression g) :=
  production <| skip enterMarkup fun _ => bind (element hg) fun _ _ _ he =>
    skip leaveMarkup fun _ => pure fun _ le => he.later le

end Keeps

end

end Readiness.Script
