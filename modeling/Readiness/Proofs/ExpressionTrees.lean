import Readiness.Proofs.FunctionTrees
import Readiness.Proofs.MarkupTrees

/-!
# Where expressions stand

An expression stands behind what was taken before it and in front of what is taken next. The ones
that start with another expression take their start from the first token, so what has to be carried
along with an operand is where its first token stands.

Parameters in wait of their arrow cover nothing of their own. Nothing is claimed of where they
stand; the arrow function that they become starts at its first token again.
-/

namespace Readiness.Script

open Readiness.Script.Parser

variable {t : Text} {w : Prop} {b b₀ m e : Nat} {g : Rules} {n : Node} {ns : List Node}

theorem Node.Fits.awaiting {isAsync : Bool} (h : Row t b e ns) :
    (awaiting isAsync ns).Fits t b e :=
  .of_laid (.many h) (.inl ⟨rfl, Nat.le_refl _⟩) ⟨by rintro ⟨⟩, by rintro _ ⟨⟩⟩ (by rintro ⟨⟩)

namespace Keeps

/-! ## Parentheses and arguments -/

theorem groupItems (hg : g.ReadFrom t) {first : Node} (hfirst : first.Fits t b₀ b) :
    Keeps t True True .tokens .tokens b (groupItems g first) fun e r =>
      r.elim (fun n => n.Fits t b₀ e) fun items => Row t b₀ e items :=
  loop (I := fun e (acc : Array Node) => Row t b₀ e acc.toList)
    (fun _ le => (Row.one hfirst).later le) fun _ _ _ hacc => look .seesEnd fun _ =>
    look .sees fun _ => ite (fun _ => done fun _ le => hacc.later le) fun _ =>
    skip (discard next) fun _ => look .sees fun _ => ite
      (fun _ => skip (discard next) fun _ => done fun _ le =>
        .awaiting (hacc.asPatterns.later le))
      fun _ => look .sees fun _ => ite
        (fun _ => look .context fun _ => reject <| bind (restParameter hg) fun _ _ _ hn =>
          skip expect fun _ => look .sees fun _ => when expect <| look .modifyContext fun _ =>
          done fun _ le => .awaiting ((hacc.append (.one hn)).asPatterns.later le))
        fun _ => bind (inherit hg.assignment) fun _ _ _ hn =>
          again fun _ le => (hacc.push hn).later le

theorem groupEnd (hn : n.Fits t b₀ b) :
    Keeps t True True .tokens .tokens b (groupEnd n) fun e n => n.Fits t b₀ e := by
  refine skip expect fun _ => seq (Q := fun n => n.Fits t b₀ b) (look .sees fun _ => ite
      (fun _ => ite (fun _ => ret (.awaiting (.one hn))) fun _ =>
        look .context fun _ => reject ?_)
      fun _ => ret hn) fun _ hn => look .modifyContext fun _ => pure fun _ le => hn.later le
  split
  · exact ret (.awaiting (hn.fields _).asPatterns)
  · exact ret (.awaiting (.one hn.asPattern))

theorem group (hg : g.ReadFrom t) : ReadsTree t w .tokens b (group g) := by
  refine production <| skip expect fun _ => look .sees fun _ => ite
    (fun _ => skip (discard next) fun _ => look .sees fun _ => when expect <|
      pure fun _ le => .awaiting (.nil le))
    fun _ => seq ahead fun first hfirst => look .sees fun _ => ite
      (fun _ => bind (restParameter hg) fun _ _ _ hn => skip expect fun _ => look .sees fun _ =>
        when expect <| pure fun _ le => .awaiting ((Row.one hn).later le))
      fun _ => look .modifyContext fun _ => bind (inherit hg.assignment) fun e n _ hn =>
        look .sees fun _ => ite
          (fun _ => look .modifyContext fun _ => bind (groupItems hg hn) fun e' r _ hr => ?_)
          fun _ => groupEnd hn
  cases r with
  | inl params => exact pure fun _ le => Node.Fits.later hr le
  | inr items => exact bind (node (marked hfirst) (.many hr) rfl) fun _ _ _ hn => groupEnd hn

theorem arguments (hg : g.ReadFrom t) {item : Parser Node}
    (reads : ∀ e, ReadsTree t True .tokens e item) :
    Keeps t w True .tokens .tokens b (arguments g item) fun e l => Row t b e l := by
  refine production <| skip expect fun _ => bind
    (loop (I := fun e (acc : Array Node) => Row t b e acc.toList) (R := fun e l => Row t b e l)
      (fun _ le => .nil le) fun e acc _ hacc =>
      look .sees fun _ => ite (fun _ => done fun _ le => hacc.later le) fun _ =>
      look .sees fun _ => join (spread hg) (isolate (reads e)) fun _ _ _ hn => ?_)
    fun _ _ _ hargs => skip expect fun _ => pure fun _ le => hargs.later le
  exact look .sees fun _ => ite (fun _ => done fun _ le => (hacc.push hn).later le) fun _ =>
    skip expectComma fun _ => again fun _ le => (hacc.push hn).later le

theorem asyncArgument (hg : g.ReadFrom t) : ReadsTree t w .tokens b (asyncArgument g) :=
  production <| bind hg.assignment fun _ _ _ hn => look .modifyContext fun _ =>
    pure fun _ le => hn.later le

end Keeps

/-! ## Primary expressions -/

theorem Quiet.seesImportCall : Quiet seesImportCall fun _ => True :=
  .skip .seesWord fun _ => .ite (fun _ => .skip .peek fun _ => .ret trivial) fun _ => .ret trivial

namespace Keeps

theorem keywordExpression (hg : g.ReadFrom t) {m : Marker} {k : Token} (hm : b ≤ m.index) :
    ReadsTree t w .tokens b (keywordExpression g m k) :=
  look .context fun _ => ite (fun _ => anyName.tree) fun _ => ite
    (fun _ => skip (discard next) fun _ => ReadsLeaf.tree (leaf hm rfl)) fun _ =>
    look .notTarget fun _ =>
    ite (fun _ => functionExpression hg) fun _ => ite
      (fun _ => skip (discard next) fun _ => ReadsLeaf.tree (leaf hm rfl)) fun _ => ite
        (fun _ => classExpression hg fun _ => hg.leftHandSide) fun _ =>
        look .seesImportCall fun _ => ite
          (fun _ => seq mark fun _ hm => skip expectWord fun _ => ReadsLeaf.tree (leaf hm rfl))
          fun _ => skip next fun _ => unexpected

theorem punctuatedExpression (hg : g.ReadFrom t) {m : Marker} {k : Token} (hm : b ≤ m.index) :
    ReadsTree t w .tokens b (punctuatedExpression g m k) := by
  have hregExp : ReadsTree t w .tokens b (do
      Parser.notTarget
      let k ← Parser.nextRegExp
      Parser.node m (.literal (.regExp k.shown))) :=
    look .notTarget fun _ => skip nextRegExp fun _ => ReadsLeaf.tree (leaf hm rfl)
  unfold Parser.punctuatedExpression
  split
  · exact look .modifyContext fun _ => inherit (group hg)
  · exact inherit (arrayLiteral hg)
  · exact inherit (objectLiteral hg)
  · exact hregExp
  · exact hregExp
  · exact skip next fun _ => unexpected

theorem plainPrimary (hg : g.ReadFrom t) : ReadsTree t w .tokens b (plainPrimary g) := by
  refine production <| facing fun m k hm => ?_
  have htoken : ∀ kind : Kind, kind.isPlain = true →
      Keeps t w True (.facing m.index k) .tokens b (do
        Functor.discard Parser.next
        Parser.node m kind) fun e n => n.Fits t b e := fun _ plain =>
    skip (discard next) fun _ => ReadsLeaf.tree (leaf hm plain)
  split
  · exact look .context fun _ => when (quiet .noteUnexpected) <| look .seesAsyncFunction fun _ =>
      ite (fun _ => whatever (functionExpression hg)) fun _ => htoken _ rfl
  · next hkind =>
      rw [literalOf_numeric hkind]
      exact look .context fun _ => when (quiet .noteToken) <| look .notTarget fun _ => htoken _ rfl
  · next hkind =>
      rw [literalOf_string hkind]
      exact look .context fun _ => when (quiet .noteToken) <| look .notTarget fun _ =>
        skip (discard nextFacing) fun _ => (string hm hkind).imp fun _ _ _ hn => hn.1
  · exact look .notTarget fun _ => htoken _ rfl
  · exact look .notTarget fun _ => htoken _ rfl
  · exact whatever (templateLiteral hg)
  · exact whatever (punctuatedExpression hg hm)
  · exact whatever (keywordExpression hg hm)
  · exact skip next fun _ => unexpected

theorem primary (hg : g.ReadFrom t) : ReadsTree t w .tokens b (primary g) :=
  production <| look .sees fun _ => ite (fun _ => markupExpression hg) fun _ => plainPrimary hg

/-! ## Members and calls -/

theorem construction (hg : g.ReadFrom t) : ReadsTree t w .tokens b (construction g) :=
  production <| seq mark fun _ hm => bind anyName fun _ _ le hword => look .sees fun _ => ite
    (fun _ => skip (discard next) fun _ => look .ahead fun _ => look .context fun _ => ite
      (fun _ => bind anyName fun _ _ _ hname => node hm (.two hword.1 hname.1) rfl)
      fun _ => unexpected)
    fun _ => look .seesWord fun _ => ite (fun _ => look .ahead fun _ => unexpected) fun _ =>
      bind (isolate hg.newCallee) fun _ _ _ hcallee => look .sees fun _ =>
      join (P := fun e l => Row t _ e l) (arguments hg fun _ => hg.assignment)
        (pure fun _ le => .nil le) fun _ _ _ hargs => look .notTarget fun _ =>
        called hm (hcallee.behind le) hargs rfl

theorem access? (hg : g.ReadFrom t) {m : Marker} (hm : b₀ ≤ m.index) (hn : n.Fits t b₀ b) :
    Keeps t True True .tokens .tokens b (access? g m n) fun e o => Row t b₀ e o.toList :=
  look .ahead fun _ => ite
    (fun _ => look .modifyContext fun _ => skip expect fun _ => bind anyName fun _ _ _ hname =>
      given (node hm (.two hn hname.1) rfl))
    fun _ => ite
      (fun _ => look .modifyContext fun _ => skip expect fun _ =>
        bind (isolate hg.expression) fun _ _ _ hname => skip expect fun _ =>
        given (node hm (.two hn hname.1) rfl))
      fun _ => ite
        (fun _ => bind (templateLiteral hg) fun _ _ _ hquasi =>
          given (node hm (.two hn hquasi) rfl))
        fun _ => pure fun _ le => .nil (Nat.le_trans hn.le le)

theorem members {o : Option Node} (hn : n.Fits t b₀ b) :
    Row t b₀ b o.toList → Keeps t True True .tokens .tokens b
      (match o with
      | some n => Pure.pure (.again n)
      | none => Pure.pure (.done n) : Parser (Turn Node Node))
      fun e => Turn.Holds (Node.Fits t b₀ e) (Node.Fits t b₀ e) := by
  intro ho
  cases o with
  | none => exact done fun _ le => hn.later le
  | some n' => exact again fun _ le => (ho.parts n' (List.mem_singleton_self _)).later le

theorem newCallee (hg : g.ReadFrom t) : ReadsTree t w .tokens b (newCallee g) :=
  production <| seq ahead fun _ hfirst =>
    bind (P := Node.Fits t b)
      (look .seesWord fun _ => look .context fun _ => ite
        (fun _ => seq mark fun _ hm => skip expectWord fun _ => look .sees fun _ =>
          look .sees fun _ => reject <| ReadsLeaf.tree (leaf hm rfl))
        fun _ => look .seesWord fun _ => inherit <|
          ite (fun _ => construction hg) fun _ => primary hg)
      fun _ _ _ hn => loop (I := Node.Fits t b) (fun _ le => hn.later le)
        fun _ _ _ hn => bind (access? hg (marked hfirst) hn) fun _ _ le ho =>
          members (hn.later le) ho

theorem leftHandSide (hg : g.ReadFrom t) : ReadsTree t w .tokens b (leftHandSide g) := by
  refine production <| seq ahead fun first hfirst => look .context fun _ =>
    look .modifyContext fun _ =>
    bind (P := Node.Fits t b)
      (look .seesWord fun _ => look .context fun _ => ite
        (fun _ => seq mark fun _ hm => skip (discard next) fun _ =>
          bind (leaf hm rfl) fun _ _ _ hn => look .sees fun _ => look .sees fun _ =>
          look .sees fun _ => reject <| pure fun _ le => hn.1.later le)
        fun _ => look .seesWord fun _ => inherit <|
          ite (fun _ => construction hg) fun _ => primary hg)
      fun _ _ _ hn => bind
        (loop (I := Node.Fits t b) (R := Node.Fits t b)
          (fun _ le => hn.later le) fun e n _ hn => ?_)
        fun _ _ _ hn => look .modifyContext fun _ => pure fun _ le => hn.later le
  refine look .sees fun _ => ite
    (fun _ => look .ahead fun _ => look .notTarget fun _ => bind (arguments hg fun _ => ?_)
      fun e₁ args le hargs => ?_)
    fun _ => bind (access? hg (marked hfirst) hn) fun _ _ le ho => members (hn.later le) ho
  · exact ite (fun _ => asyncArgument hg) fun _ => hg.assignment
  · have hrest : ∀ asyncArrow : Bool, Keeps t True True .tokens .tokens e₁ (do
        let call ← Parser.node (markOf first) .call ((.callee, n) :: many .argument args)
        if asyncArrow && (← Parser.sees "=>") then
          return .again (Parser.awaiting true (args.map Node.asPattern))
        else return .again call)
        fun e => Turn.Holds (Node.Fits t b e) (Node.Fits t b e) := fun _ =>
      bind (called (marked hfirst) hn hargs rfl) fun _ _ _ hcall =>
        look .sees fun _ => ite
          (fun _ => again fun _ le' =>
            .awaiting ((hargs.behind hn.le).asPatterns.later (Nat.le_trans ‹_› le')))
          fun _ => again fun _ le => hcall.later le
    split
    · exact when (quiet .noteHere) (hrest _)
    · exact hrest _

end Keeps

/-! ## Operators -/

theorem Quiet.checkUpdate {k : Complaint} : Quiet (checkUpdate n k) fun _ => True :=
  skip context fun _ => when noteHere <| ite (fun _ => noteHere) fun _ => ret trivial

namespace Keeps

theorem update (hg : g.ReadFrom t) : ReadsTree t w .tokens b (update g) :=
  production <| seq ahead fun _ hfirst => ite
    (fun _ => skip (discard next) fun _ => bind (inherit hg.unary) fun _ _ _ hn =>
      look .checkUpdate fun _ => bind (node (marked hfirst) (.one hn) rfl) fun _ _ _ hn =>
      look .notTarget fun _ => pure fun _ le => hn.later le)
    fun _ => bind (inherit (leftHandSide hg)) fun _ _ _ hn => look .get fun _ => ite
      (fun _ => look .checkUpdate fun _ => look .notTarget fun _ => skip next fun _ =>
        node (marked hfirst) (.one hn) rfl)
      fun _ => pure fun _ le => hn.later le

theorem unary (hg : g.ReadFrom t) : ReadsTree t w .tokens b (unary g) :=
  production <| seq ahead fun _ hfirst => ite
    (fun _ => skip (discard next) fun _ => bind (inherit hg.unary) fun _ _ _ hn =>
      bind (node (marked hfirst) (.one hn) rfl) fun _ _ _ hn => look .context fun _ =>
      when (quiet .noteHere) <| look .notTarget fun _ => pure fun _ le => hn.later le)
    fun _ => look .context fun _ => ite
      (fun _ => production <| seq mark fun _ hm => skip (discard next) fun _ =>
        bind hg.unary fun _ _ _ hn => node hm (.one hn) rfl)
      fun _ => update hg

theorem exponentiation (hg : g.ReadFrom t) : ReadsTree t w .tokens b (exponentiation g) :=
  production <| seq ahead fun _ hfirst => bind (inherit (unary hg)) fun _ _ _ hn =>
    look .sees fun _ => ite
      (fun _ => skip (discard next) fun _ => look .notTarget fun _ =>
        bind (isolate hg.exponentiation) fun _ _ _ hright =>
        node (marked hfirst) (.two hn hright) rfl)
      fun _ => pure fun _ le => hn.later le

end Keeps

theorem isPlain_operationKind (operator : Text) : (operationKind operator).isPlain = true := by
  unfold operationKind
  split <;> rfl

/-- The left operands that wait, read up to `e` one after the other: each stands behind those
around it, and so does its first token. -/
inductive PendingFits (t : Text) (b : Nat) : Nat → List Pending → Prop
  | none {e : Nat} (le : b ≤ e) : PendingFits t b e []
  | more {m e : Nat} {p : Pending} {ps : List Pending} (around : PendingFits t b m ps)
      (first : m ≤ p.first.start) (left : p.left.Fits t m e) : PendingFits t b e (p :: ps)

theorem PendingFits.le {ps : List Pending} (h : PendingFits t b e ps) : b ≤ e := by
  induction h with
  | none le => exact le
  | more _ _ left ih => exact Nat.le_trans ih left.le

/-- The last operand stands behind the ones that wait. -/
inductive Parser.Operands.Fit (t : Text) (b e : Nat) (o : Operands) : Prop
  | mk {m : Nat} (pending : PendingFits t b m o.pending) (first : m ≤ o.first.start)
      (right : o.right.Fits t m e)

theorem Parser.Operands.Fit.later {o : Operands} (h : o.Fit t b m) (le : m ≤ e) : o.Fit t b e := by
  obtain ⟨pending, first, right⟩ := h
  exact ⟨pending, first, right.later le⟩

namespace Keeps

theorem reduce {strength : Nat} {ps : List Pending} {right : Node} {first : Token}
    (hps : PendingFits t b₀ m ps) (hfirst : m ≤ first.start) (hright : right.Fits t m b) :
    Keeps t True True .tokens .tokens b (reduce strength ps right first) fun e o =>
      o.Fit t b₀ e := by
  induction hps generalizing b right first with
  | none le => exact pure fun _ le' => ⟨.none le, hfirst, hright.later le'⟩
  | more around hp hleft ih =>
      exact ite
        (fun _ => bind (node (marked hp) (.two hleft hright) (isPlain_operationKind _))
          fun _ _ _ hn => ih hp hn)
        fun _ => pure fun _ le => ⟨.more around hp hleft, hfirst, hright.later le⟩

theorem reduceAll {ps : List Pending} {right : Node} {first : Token}
    (hps : PendingFits t b₀ m ps) (hright : right.Fits t m b) :
    Keeps t True True .tokens .tokens b (reduceAll ps right first) fun e n => n.Fits t b₀ e := by
  induction hps generalizing b right first with
  | none le => exact pure fun _ le' => (hright.behind le).later le'
  | more around hp hleft ih =>
      exact bind (node (marked hp) (.two hleft hright) (isPlain_operationKind _))
        fun _ _ _ hn => ih hn

theorem binary (hg : g.ReadFrom t) : ReadsTree t w .tokens b (binary g) :=
  production <| seq ahead fun _ hfirst =>
    bind (inherit (exponentiation hg)) fun _ _ _ hn => bind
      (loop (I := fun e o => Operands.Fit t b e o) (R := fun e o => Operands.Fit t b e o)
        (fun _ le => ⟨.none (Nat.le_refl _), hfirst, hn.later le⟩) fun _ _ _ ho =>
        look .ahead fun _ => look .context fun _ => ite (fun _ => done fun _ le => ho.later le)
        fun _ => bind (ho.rec fun hps hfirst hright => reduce hps hfirst hright)
        fun _ _ _ ho => skip (discard next) fun _ =>
        when (quiet .notTarget) <| seq ahead fun _ hnext =>
        bind (isolate (exponentiation hg)) fun _ _ _ hright => again fun _ le =>
        ho.rec fun hps hfirst hleft => ⟨.more hps hfirst hleft, hnext, hright.later le⟩)
      fun _ _ _ ho => ho.rec fun hps _ hright => reduceAll hps hright

theorem conditional (hg : g.ReadFrom t) : ReadsTree t w .tokens b (conditional g) :=
  production <| seq ahead fun _ hfirst => bind (inherit (binary hg)) fun _ _ _ hn =>
    look .sees fun _ => ite
      (fun _ => skip (discard next) fun _ => look .context fun _ => look .modifyContext fun _ =>
        bind (isolate hg.assignment) fun _ _ _ hyes => look .modifyContext fun _ =>
        skip expect fun _ => bind (isolate hg.assignment) fun _ _ _ hno =>
        bind (node (marked hfirst) (.cons hn (.two hyes hno)) rfl) fun _ _ _ hn =>
        look .notTarget fun _ => pure fun _ le => hn.later le)
      fun _ => pure fun _ le => hn.later le

end Keeps

/-! ## Arrow functions and assignments -/

mutual

theorem addPattern_params (strict : Bool) (o : Params) (n : Node) :
    (addPattern strict o n).params = o.params := by
  obtain ⟨kind, span, children⟩ := n
  rw [addPattern.eq_def]
  dsimp only
  split
  · exact o.addName_params ..
  · exact addAll_params strict o children
  · exact addFirst_params strict o children
  · exact addAll_params strict o children
  · exact addAll_params strict o children
  · exact addLast_params strict o children
  · rfl

theorem addAll_params (strict : Bool) (o : Params) (cs : List (Role × Node)) :
    (addPattern.addAll strict o cs).params = o.params := by
  cases cs with
  | nil => rw [addPattern.addAll]
  | cons c more =>
      obtain ⟨_, n⟩ := c
      rw [addPattern.addAll, addAll_params, addPattern_params]

theorem addFirst_params (strict : Bool) (o : Params) (cs : List (Role × Node)) :
    (addPattern.addFirst strict o cs).params = o.params := by
  cases cs with
  | nil => rw [addPattern.addFirst]
  | cons c more =>
      obtain ⟨_, n⟩ := c
      rw [addPattern.addFirst, addPattern_params]

theorem addLast_params (strict : Bool) (o : Params) (cs : List (Role × Node)) :
    (addPattern.addLast strict o cs).params = o.params := by
  match cs with
  | [] => rw [addPattern.addLast]
  | [(_, n)] => rw [addPattern.addLast, addPattern_params]
  | _ :: c :: more => rw [addPattern.addLast, addLast_params]

end

/-- A parameter, with the name for a default value that is a bare `yield`. -/
def Node.yieldNamed : Node → Node
  | .mk .assignmentPattern span [l, (r, .mk .yield s [])] =>
    .mk .assignmentPattern span [l, (r, .mk (.identifier "yield") s [])]
  | n => n

theorem replaces_yieldNamed (n : Node) : n.yieldNamed.Replaces n := by
  rw [Node.yieldNamed.eq_def]
  split
  · exact ⟨rfl, by rintro ⟨⟩⟩
  · exact .refl n

theorem Node.Fits.yieldNamed (h : n.Fits t b e) : n.yieldNamed.Fits t b e := by
  rw [Node.yieldNamed.eq_def]
  split
  · next span l r s =>
      obtain ⟨hl, hr⟩ := List.forall_mem_cons.mp h.row.parts
      have hyield : (Node.mk .yield s []).Fits t b e := hr _ (List.mem_singleton_self _)
      have hname : (Node.mk (.identifier "yield") s []).Fits t b e :=
        .of_row (.nil h.le) (hyield.settled (awaitsArrow_of_isPlain rfl _ _)) (Nat.zero_le 1) rfl
      have htwin : l.2.LeafTwin (.mk .yield s []) :=
        (List.pairwise_cons.mp h.twins).1 _ (List.mem_singleton_self _)
      exact .of_row ⟨h.le, List.forall_mem_cons.mpr ⟨hl, List.forall_mem_singleton.mpr hname⟩,
          List.pairwise_pair.mpr (htwin.replace (.refl _) ⟨rfl, fun _ => rfl⟩)⟩
        (h.settled (awaitsArrow_of_isPlain rfl _ _)) h.one rfl
  · exact h

theorem Row.yieldNamed (h : Row t b e ns) : Row t b e (ns.map Node.yieldNamed) :=
  h.map (fun _ _ hn => hn.yieldNamed) replaces_yieldNamed

namespace Quiet

theorem yieldAsName : Quiet (yieldAsName n) (· = n.yieldNamed) := by
  unfold Parser.yieldAsName
  split
  · next span l r s cs =>
      refine ite (fun hcs => ret ?_) fun _ => skip ahead fun _ => unexpected
      obtain rfl : cs = [] := List.isEmpty_iff.mp hcs
      rfl
  · next hplain =>
      refine ret ?_
      rw [Node.yieldNamed.eq_def]
      split
      · exact (hplain _ _ _ _ _ rfl).elim
      · rfl

/-- What has been made of an expression in front of an arrow: its parameters, if it can be some. -/
theorem arrowParams (hn : n.Fits t b e) :
    Quiet (arrowParams n) fun o =>
      (o = none → n.awaitsArrow = false) ∧ ∀ x ∈ o, Row t b e x.params.toList := by
  refine skip context fun c => ?_
  split
  case h_3 hplain =>
    have hsettled : n.awaitsArrow = false := by
      rw [Node.awaitsArrow.eq_def]
      split
      · next hkind => exact (hplain _ hkind).elim
      · rfl
    exact ret (a := none) ⟨fun _ => hsettled, by rintro _ ⟨⟩⟩
  -- Either way the parameters are parts of the node, or the node itself.
  case' h_1 => have hall : Row t b e [n] := .one hn
  case' h_2 => have hall : Row t b e (n.fields .param) := hn.fields _
  all_goals
    refine bind (forEach
      (I := fun ps (o : Params) => o.params.toList = ps.map Node.yieldNamed) rfl
      fun ps p o ho => bind yieldAsName fun p' hp => ?_) fun o ho => ?_
    · refine remark ahead (fun _ => unexpected) <| ret ⟨_, rfl, ?_⟩
      show ((addPattern c.strict o p').params.push p').toList = _
      rw [addPattern_params, Array.toList_push, ho, hp, List.map_append, List.map_singleton]
    · have hgood : ∀ x ∈ some o, Row t b e x.params.toList := by
        rintro _ ⟨⟩
        rw [ho]
        exact hall.yieldNamed
      have hdone : ∀ {c : Prop} [Decidable c] {k : Complaint}, Quiet (if c then do
          Parser.fail (← Parser.lastProblem k)
          return some o
        else return some o) fun r =>
          (r = none → n.awaitsArrow = false) ∧ ∀ x ∈ r, Row t b e x.params.toList :=
        remark lastProblem (fun _ => fail) (ret ⟨by rintro ⟨⟩, hgood⟩)
      refine ite (fun _ => skip (forIn (I := fun _ => True) trivial fun p _ _ _ => ?_)
        fun _ => hdone) fun _ => hdone
      split
      · exact skip ahead fun _ => skip unexpected fun _ => ret trivial
      · exact ret trivial

theorem seesExpression : Quiet seesExpression fun _ => True := by
  refine skip ahead fun _ => ?_
  split <;> exact ret trivial

end Quiet

namespace Keeps

theorem arrowFunction (hg : g.ReadFrom t) {first : Token} {isAsync : Bool} {o : Params}
    (hfirst : b₀ ≤ first.start) (ho : Row t b₀ b o.params.toList) :
    Keeps t True True .tokens .tokens b (arrowFunction g first isAsync o) fun e n =>
      n.Fits t b₀ e ∧ n.awaitsArrow = false :=
  look .get fun _ => remark .ahead (fun _ => .noteUnexpected) <| look .context fun _ =>
    look .modifyContext fun _ => skip expect fun _ => bind (P := fun e n => n.Fits t b e)
      (look .sees fun _ => ite
        (fun _ => look .context fun _ => look .modifyContext fun _ =>
          bind (functionBody hg) fun _ _ _ hbody => look .modifyContext fun _ =>
          pure fun _ le => hbody.later le)
        fun _ => isolate hg.assignment)
      fun _ _ _ hbody => look .failCulprit fun _ => look .noteCulprit fun _ =>
        finish (settled (marked hfirst)
          (.functionParts (.nil (Nat.le_refl _)) (ho.append (.one hbody))) rfl)
          fun _ => .skip .modifyContext fun _ => .ret rfl

theorem yieldExpression (hg : g.ReadFrom t) : ReadsSettled t w b (yieldExpression g) :=
  production <| seq mark fun _ hm => skip expectWord fun _ => look .get fun _ => ite
    (fun _ => settled hm (.nil (Nat.le_refl _)) rfl)
    fun _ => look .context fun _ => look .modifyContext fun _ =>
      bind (P := fun e (o : Option Node) => Row t b e o.toList)
        (look .sees fun _ => ite
          (fun _ => skip (discard next) fun _ => given hg.assignment)
          fun _ => look .seesExpression fun _ => ite (fun _ => given hg.assignment)
            fun _ => pure fun _ le => .nil le)
        fun _ _ _ hargument => look .modifyContext fun _ => settled hm (.optional hargument) rfl

theorem assignment (hg : g.ReadFrom t) : ReadsSettled t w b (assignment g) := by
  refine production <| look .context fun _ => look .seesWord fun _ => ite
    (fun _ => yieldExpression hg) fun _ => seq ahead fun first hfirst =>
      bind (conditional hg) fun _ _ _ hn => bind (P := Node.Fits t b)
        (look .ahead fun _ => ite
          (fun _ => bind (primary hg) fun _ _ _ harg =>
            pure fun _ le => .awaiting ((Row.one (harg.asPattern.behind hn.le)).later le))
          fun _ => pure fun _ le => hn.later le)
        fun e n _ hn => look .sees fun _ => ite
          (fun _ => look .notTarget fun _ => seq (quiet (.arrowParams hn)) fun o ho => ?_)
          fun hplain => look .ahead fun k => ite (fun _ => look .context fun c => ?_)
            fun _ => pure fun _ le => ⟨hn.later le, ?_⟩
  · cases o with
    | none => exact pure fun _ le => ⟨hn.later le, ho.1 rfl⟩
    | some o => exact arrowFunction hg hfirst (ho.2 o rfl)
  · have hleft : (if k.value == "=" then n.asPattern else n).Fits t b e := by
      split
      · exact hn.asPattern
      · exact hn
    have hassign : Keeps t True True .tokens .tokens e (do
        if k.value != "=" then Parser.notTarget
        let left := if k.value == "=" then n.asPattern else n
        Functor.discard Parser.next
        let right ← Parser.isolate g.assignment
        let n ← Parser.node (markOf first) (.assignment k.value) [(.left, left), (.right, right)]
        Parser.modifyContext fun c => { c with strayDefault := none }
        return n) fun e n => n.Fits t b e ∧ n.awaitsArrow = false :=
      when (quiet .notTarget) <| skip (discard next) fun _ =>
        bind (isolate hg.assignment) fun _ _ _ hright =>
        finish (settled (marked hfirst) (.two hleft hright) rfl)
          fun _ => .skip .modifyContext fun _ => .ret rfl
    refine when (quiet .noteHere) <| ite (fun _ => ?_) fun _ => hassign
    split
    · exact when (quiet .noteToken) <| when (quiet .noteToken) hassign
    · exact hassign
  · rw [Node.awaitsArrow.eq_def]
    split
    · next hkind => exact absurd (by simp [hkind]) hplain
    · rfl

theorem expression (hg : g.ReadFrom t) : ReadsSettled t w b (expression g) :=
  production <| seq ahead fun _ hfirst => bind (isolate (assignment hg)) fun _ _ _ hn =>
    look .sees fun _ => ite
      (fun _ => bind
        (loop (I := fun e (acc : Array Node) => Row t b e acc.toList) (R := fun e l => Row t b e l)
          (fun _ le => (Row.one hn.1).later le)
          fun _ _ _ hacc => look .seesEnd fun _ => look .sees fun _ => ite
            (fun _ => done fun _ le => hacc.later le) fun _ => skip (discard next) fun _ =>
            bind (isolate (assignment hg).tree) fun _ _ _ hn =>
            again fun _ le => (hacc.push hn).later le)
        fun _ _ _ hitems => settled (marked hfirst) (.many hitems) rfl)
      fun _ => pure fun _ le => ⟨hn.1.later le, hn.2⟩

end Keeps

end Readiness.Script
