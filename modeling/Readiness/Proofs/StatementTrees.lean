import Readiness.Proofs.ExpressionTrees

/-!
# Where statements stand

The parts of a statement are read one after the other; a name that is imported or exported as itself
is read once and makes two nodes. With the statements the grammar is closed: the rules of one level
read trees that stand where they were read if those of the next level do, and the rules of the last
level read nothing.
-/

namespace Readiness.Script

open Readiness.Script.Parser

variable {t : Text} {w : Prop} {b b₀ e : Nat} {g : Rules} {n : Node}

/-! ## Variables -/

theorem Quiet.checkVariable : Quiet (checkVariable n) fun _ => True :=
  skip context fun _ => ite (fun _ => noteHere) fun _ => ret trivial

theorem Quiet.seesLexical : Quiet seesLexical fun _ => True :=
  skip peek fun _ => ret trivial

namespace Keeps

theorem block (hg : g.ReadFrom t) : ReadsTree t w .tokens b (block g) :=
  production <| opened fun _ hm =>
    bind (collect (.skip .sees fun _ => .ret trivial) fun _ => hg.listItem) fun _ _ _ hitems =>
    skip expectPast fun _ => braces hm hitems

theorem classStatement (hg : g.ReadFrom t) {nameless : Bool} :
    ReadsTree t w .tokens b (classStatement g nameless) :=
  classDeclaration hg fun _ => leftHandSide hg

theorem declarators {one : Parser Node} (reads : ∀ e, ReadsTree t True .tokens e one) :
    Keeps t True True .tokens .tokens b (declarators one) fun e l => Row t b e l :=
  production <| bind (reads b) fun _ _ _ hfirst =>
    result (collect .sees fun e => skip (discard next) fun _ => reads e) fun _ _ _ hrest =>
    .cons hfirst hrest

theorem initializer (hg : g.ReadFrom t) : ReadsTree t w .tokens b (initializer g) :=
  skip expect fun _ => isolate (assignment hg).tree

theorem lexicalDeclarator (hg : g.ReadFrom t) {isConst inFor : Bool} :
    ReadsTree t w .tokens b (lexicalDeclarator g isConst inFor) :=
  production <| seq mark fun _ hm => bind (pattern hg) fun e _ _ hid => look .checkVariable fun _ =>
    bind (P := fun e' (o : Option Node) => Row t e e' o.toList)
      (ite
        (fun _ => look .seesWord fun _ => look .seesName fun _ => ite
          (fun _ => pure fun _ le => .nil le) fun _ =>
          look .sees fun _ => ite (fun _ => given (initializer hg)) fun _ => failHere)
        fun _ => look .sees fun _ => ite (fun _ => given (initializer hg))
          fun _ => pure fun _ le => .nil le)
      fun _ _ _ hinit => node hm (.cons hid (.optional hinit)) rfl

theorem variableDeclarator (hg : g.ReadFrom t) {inFor : Bool} :
    ReadsTree t w .tokens b (variableDeclarator g inFor) :=
  production <| seq mark fun _ hm => bind (pattern hg) fun e _ _ hid => look .checkVariable fun _ =>
    bind (P := fun e' (o : Option Node) => Row t e e' o.toList)
      (look .sees fun _ => ite (fun _ => given (initializer hg)) fun _ => when expect <|
        pure fun _ le => .nil le)
      fun _ _ _ hinit => node hm (.cons hid (.optional hinit)) rfl

theorem lexicalDeclaration (hg : g.ReadFrom t) : ReadsTree t w .tokens b (lexicalDeclaration g) :=
  production <| seq mark fun _ hm => skip next fun _ =>
    bind (declarators fun _ => lexicalDeclarator hg) fun _ _ _ hds => skip endStatement fun _ =>
    node hm (.many hds) rfl

theorem variableStatement (hg : g.ReadFrom t) : ReadsTree t w .tokens b (variableStatement g) :=
  production <| seq mark fun _ hm => skip expectWord fun _ =>
    bind (declarators fun _ => variableDeclarator hg) fun _ _ _ hds => skip endStatement fun _ =>
    node hm (.many hds) rfl

/-! ## Conditions and loops -/

theorem guarded {role : Role} [Fails role.isCallee] {body : Parser (List (Role × Node))}
    (reads : Keeps t True True .tokens .tokens b body fun e cs => Laid t b e cs) :
    Keeps t True True .tokens .tokens b (guarded role body) fun e cs => Laid t b e cs :=
  look .sees fun _ => ite (fun _ => skip expect fun _ => reads) fun _ => skip next fun _ =>
    look .noteUnexpected fun _ => seq mark fun _ hm =>
    result (leaf hm rfl) fun _ _ _ hn => .one hn.1

theorem branch (hg : g.ReadFrom t) : ReadsTree t w .tokens b (branch g) :=
  production <| look .context fun _ => look .seesWord fun _ => when (quiet .noteHere) hg.statement

theorem loopBody {body : Parser Node} (reads : ReadsTree t w .tokens b body) :
    ReadsTree t w .tokens b (loopBody body) :=
  look .context fun _ => look .modifyContext fun _ => bind reads fun _ _ _ hn =>
    look .modifyContext fun _ => pure fun _ le => hn.later le

theorem loopPart {body : Parser Node} (reads : ReadsTree t w .tokens b body) :
    Keeps t w True .tokens .tokens b (do return [(.body, ← Parser.loopBody body)])
      fun e cs => Laid t b e cs :=
  result (loopBody reads) fun _ _ _ hn => .one hn

theorem ifStatement (hg : g.ReadFrom t) : ReadsTree t w .tokens b (ifStatement g) :=
  production <| seq mark fun _ hm => skip expectWord fun _ => skip expect fun _ =>
    bind (expression hg) fun _ _ _ htest =>
    bind (guarded <| bind (branch hg) fun _ _ _ hyes => look .seesWord fun _ => ite
      (fun _ => skip (discard next) fun _ => result (branch hg) fun _ _ _ hno => .two hyes hno)
      fun _ => pure fun _ le => .one (hyes.later le)) fun _ _ _ hparts =>
    node hm (.cons htest.1 hparts) rfl

theorem doWhile (hg : g.ReadFrom t) : ReadsTree t w .tokens b (doWhile g) :=
  production <| seq mark fun _ hm => skip expectWord fun _ =>
    bind (loopBody hg.statement) fun _ _ _ hbody => skip expectWord fun _ => skip expect fun _ =>
    bind (expression hg) fun _ _ _ htest => look .sees fun _ => ite
      (fun _ => skip expect fun _ => look .sees fun _ => when (discard next) <|
        node hm (.two hbody htest.1) rfl)
      fun _ => skip next fun _ => look .noteUnexpected fun _ => node hm (.two hbody htest.1) rfl

theorem whileLoop (hg : g.ReadFrom t) : ReadsTree t w .tokens b (whileLoop g) :=
  production <| seq mark fun _ hm => skip expectWord fun _ => skip expect fun _ =>
    bind (expression hg) fun _ _ _ htest =>
    bind (guarded (loopPart hg.statement)) fun _ _ _ hbody => node hm (.cons htest.1 hbody) rfl

end Keeps

/-- What is known of the head of a `for` that has been read between two places. -/
def Parser.ForHead.Fits (t : Text) (b e : Nat) : ForHead → Prop
  | .over kind left right => kind.isPlain = true ∧ Laid t b e [(.left, left), (.right, right)]
  | .counted init => Row t b e init.toList

namespace Keeps

theorem forKeys (hg : g.ReadFrom t) {left : Node} (hleft : left.Fits t b₀ b) :
    Keeps t True True .tokens .tokens b (forKeys g left) fun e h => h.Fits t b₀ e :=
  skip (discard next) fun _ => result (expression hg) fun _ _ _ hn => ⟨rfl, .two hleft hn.1⟩

theorem forValues (hg : g.ReadFrom t) {left : Node} (hleft : left.Fits t b₀ b) :
    Keeps t True True .tokens .tokens b (forValues g left) fun e h => h.Fits t b₀ e :=
  skip (discard next) fun _ => result (assignment hg) fun _ _ _ hn => ⟨rfl, .two hleft hn.1⟩

theorem withoutIn {α : Type} {p : Parser α} {P : Nat → α → Prop}
    (reads : Keeps t True True .tokens .tokens b p P) :
    Keeps t True True .tokens .tokens b (withoutIn p) P :=
  look .context fun _ => look .modifyContext fun _ => finish reads fun _ =>
    .skip .modifyContext fun _ => .ret rfl

theorem forVar (hg : g.ReadFrom t) :
    Keeps t True True .tokens .tokens b (forVar g) fun e h => h.Fits t b e :=
  seq mark fun _ hm => skip (discard next) fun _ =>
    bind (withoutIn (declarators fun _ => variableDeclarator hg)) fun _ _ _ hds =>
    look .seesWord fun _ => ite
      (fun _ => look .context fun _ => when (quiet .noteHere) <|
        bind (node hm (.many hds) rfl) fun _ _ _ hn => forKeys hg hn)
      fun _ => look .seesName fun _ => ite
        (fun _ => bind (node hm (.many hds) rfl) fun _ _ _ hn => forValues hg hn)
        fun _ => bind (node hm (.many hds) rfl) fun _ _ _ hn => skip expect fun _ =>
          pure fun _ le => (Row.one hn).later le

theorem forLexical (hg : g.ReadFrom t) :
    Keeps t True True .tokens .tokens b (forLexical g) fun e h => h.Fits t b e :=
  seq mark fun _ hm => skip next fun _ => look .context fun _ => look .ahead fun _ => ite
    (fun _ => bind (leaf hm rfl) fun _ _ _ hn => forKeys hg hn.1)
    fun _ => bind (withoutIn (declarators fun _ => lexicalDeclarator hg)) fun _ _ _ hds =>
      look .seesWord fun _ => ite
        (fun _ => bind (node hm (.many hds) rfl) fun _ _ _ hn => forKeys hg hn)
      fun _ => look .seesName fun _ => ite
        (fun _ => bind (node hm (.many hds) rfl) fun _ _ _ hn => forValues hg hn) fun _ =>
        skip endStatement fun _ => bind (node hm (.many hds) rfl) fun _ _ _ hn =>
        pure fun _ le => (Row.one hn).later le

theorem forExpression (hg : g.ReadFrom t) :
    Keeps t True True .tokens .tokens b (forExpression g) fun e h => h.Fits t b e :=
  seq ahead fun _ hfirst => bind (withoutIn (inherit (assignment hg).tree)) fun _ _ _ hn =>
    look .context fun _ => look .seesWord fun _ => ite
      (fun _ => when (quiet .noteHere) <| forKeys hg hn.asPattern) fun _ =>
    look .seesName fun _ => ite
      (fun _ => when (quiet .noteHere) <| forValues hg hn.asPattern) fun _ =>
    bind (P := Node.Fits t b)
      (look .sees fun _ => ite
        (fun _ => bind (collect .sees fun _ => skip (discard next) fun _ =>
            isolate (assignment hg).tree) fun _ _ _ hrest =>
          node (marked hfirst) (.many (.cons hn hrest)) rfl)
        fun _ => pure fun _ le => hn.later le)
      fun _ _ _ hinit => skip expect fun _ => pure fun _ le => (Row.one hinit).later le

theorem forLoop (hg : g.ReadFrom t) : ReadsTree t w .tokens b (forLoop g) := by
  refine production <| seq mark fun _ hm => skip expectWord fun _ => skip expect fun _ =>
    bind (P := fun e h => ForHead.Fits t b e h)
      (look .sees fun _ => ite
        (fun _ => skip (discard next) fun _ => pure fun _ le => Row.nil le) fun _ =>
        look .seesWord fun _ => ite (fun _ => forVar hg) fun _ =>
        look .seesWord fun _ => look .seesWord fun _ => ite (fun _ => forLexical hg) fun _ =>
        forExpression hg)
      fun _ head _ hhead => bind
        (P := fun e (x : Kind × List (Role × Node)) => x.1.isPlain = true ∧ Laid t b e x.2) ?_
        fun _ _ _ hparts => bind (guarded (loopPart (isolate hg.statement))) fun _ _ _ hbody =>
          node hm (hparts.2.append hbody) hparts.1
  rcases head with ⟨kind, left, right⟩ | init
  · exact pure fun _ le => ⟨hhead.1, hhead.2.later le⟩
  · exact look .sees fun _ => otherwise (expression hg).tree fun _ _ _ htest =>
      skip expect fun _ => look .sees fun _ =>
      otherwise (expression hg).tree fun _ _ _ hupdate => pure fun _ le =>
      ⟨rfl, (((Laid.optional hhead).append (.optional htest)).append (.optional hupdate)).later le⟩

/-! ## Jumps -/

theorem jumpLabel :
    Keeps t True True .tokens .tokens b jumpLabel fun e o => Row t b e o.toList :=
  look .get fun _ => ite
    (fun _ => bind bindingName fun _ _ _ hid => look .context fun _ => when (quiet .failHere) <|
      pure fun _ le => .one (hid.1.later le))
    fun _ => pure fun _ le => .nil le

theorem continueStatement : ReadsTree t w .tokens b continueStatement :=
  seq mark fun _ hm => skip expectWord fun _ => bind jumpLabel fun _ _ _ hlabel =>
    skip endStatement fun _ => look .context fun _ => when (quiet .failHere) <|
    node hm (.optional hlabel) rfl

theorem breakStatement : ReadsTree t w .tokens b breakStatement :=
  seq mark fun _ hm => skip expectWord fun _ => bind jumpLabel fun _ _ _ hlabel =>
    skip endStatement fun _ => look .context fun _ => when (quiet .failHere) <|
    node hm (.optional hlabel) rfl

theorem returnStatement (hg : g.ReadFrom t) : ReadsTree t w .tokens b (returnStatement g) :=
  production <| look .context fun _ => when (quiet .noteHere) <| seq mark fun _ hm =>
    skip expectWord fun _ => look .get fun _ =>
    perhaps (expression hg).tree fun _ _ _ hargument =>
    skip endStatement fun _ => node hm (.optional hargument) rfl

theorem throwStatement (hg : g.ReadFrom t) : ReadsTree t w .tokens b (throwStatement g) :=
  production <| seq mark fun _ hm => skip expectWord fun _ => look .get fun _ =>
    when (quiet .failHere) <| bind (expression hg) fun _ _ _ hargument =>
    skip endStatement fun _ => node hm (.one hargument.1) rfl

/-! ## Other statements -/

theorem withStatement (hg : g.ReadFrom t) : ReadsTree t w .tokens b (withStatement g) :=
  production <| look .context fun _ => when (quiet .noteHere) <| seq mark fun _ hm =>
    skip expectWord fun _ => skip expect fun _ => bind (expression hg) fun _ _ _ hobject =>
    bind (guarded (result hg.statement fun _ _ _ hn => .one hn)) fun _ _ _ hbody =>
    node hm (.cons hobject.1 hbody) rfl

theorem switchCase (hg : g.ReadFrom t) : ReadsTree t w .tokens b (switchCase g) :=
  production <| seq mark fun _ hm => bind (P := fun e (o : Option Node) => Row t b e o.toList)
    (look .seesWord fun _ => ite
      (fun _ => skip (discard next) fun _ => pure fun _ le => .nil le)
      fun _ => skip expectWord fun _ => given (expression hg).tree)
    fun _ _ _ htest => skip expect fun _ =>
      bind (collect (.skip .sees fun _ => .skip .seesWord fun _ => .skip .seesWord fun _ =>
        .ret trivial) fun _ => hg.listItem) fun _ _ _ hitems =>
      node hm ((Laid.optional htest).append (.many hitems)) rfl

theorem switchStatement (hg : g.ReadFrom t) : ReadsTree t w .tokens b (switchStatement g) :=
  production <| seq mark fun _ hm => skip expectWord fun _ => skip expect fun _ =>
    bind (expression hg) fun e _ _ hdiscriminant => skip expect fun _ => look .context fun _ =>
    look .modifyContext fun _ => skip expect fun _ => bind
      (loop (I := fun e' (acc : Array Node × Bool) => Row t e e' acc.1.toList)
        (R := fun e' l => Row t e e' l) (fun _ le => .nil le) fun _ _ _ hacc =>
        look .sees fun _ => ite (fun _ => done fun _ le => hacc.later le) fun _ =>
        bind (switchCase hg) fun _ _ _ hn => when (quiet .failHere) <|
        again fun _ le => (hacc.push hn).later le)
      fun _ _ _ hcases => skip expect fun _ => look .modifyContext fun _ =>
        node hm (.cons hdiscriminant.1 (.many hcases)) rfl

theorem labelledBody (hg : g.ReadFrom t) : ReadsTree t w .tokens b (labelledBody g) :=
  look .ahead fun _ => ite (fun _ => look .noteUnexpected fun _ => classStatement hg) fun _ => ite
    (fun _ => bind (functionDeclaration hg) fun _ _ _ hn => look .context fun _ => ite
      (fun _ => look .noteToken fun _ => pure fun _ le => hn.later le)
      fun _ => when (quiet .noteToken) <| pure fun _ le => hn.later le)
    fun _ => hg.statement

theorem labelledStatement (hg : g.ReadFrom t) : ReadsTree t w .tokens b (labelledStatement g) := by
  refine production <| seq mark fun _ hm => bind (expression hg) fun _ _ _ hn =>
    look .sees fun _ => ?_
  split
  · exact skip (discard next) fun _ => look .context fun _ => when (quiet .failHere) <|
      look .modifyContext fun _ => bind (labelledBody hg) fun _ _ _ hbody =>
      look .modifyContext fun _ => node hm (.two hn.1 hbody) rfl
  · exact skip endStatement fun _ => node hm (.one hn.1) rfl

theorem catchClause (hg : g.ReadFrom t) : ReadsTree t w .tokens b (catchClause g) :=
  production <| seq mark fun _ hm => skip expectWord fun _ => skip expect fun _ =>
    look .sees fun _ => reject <| bind (pattern hg) fun _ _ _ hparam =>
    look (.forIn (I := fun _ => True) trivial fun _ _ _ _ => .when .noteHere <| .ret trivial)
      fun _ => look .context fun _ => when (quiet .noteHere) <| skip expect fun _ =>
      bind (block hg) fun _ _ _ hbody => node hm (.two hparam hbody) rfl

theorem tryStatement (hg : g.ReadFrom t) : ReadsTree t w .tokens b (tryStatement g) :=
  production <| seq mark fun _ hm => skip expectWord fun _ => bind (block hg) fun _ _ _ hbody =>
    look .seesWord fun _ => perhaps (catchClause hg) fun e _ _ hhandler =>
    bind (P := fun e' (o : Option Node) => Row t e e' o.toList)
      (look .seesWord fun _ => ite
        (fun _ => skip (discard next) fun _ => given (production (block hg)))
        fun _ => pure fun _ le => .nil le)
      fun _ _ _ hfinalizer => when (quiet .failHere) <| node hm
        ((Laid.cons hbody (.optional hhandler)).append (.optional hfinalizer)) rfl

theorem expressionStatement (hg : g.ReadFrom t) : ReadsTree t w .tokens b (expressionStatement g) :=
  production <| seq mark fun _ hm => bind (expression hg) fun _ _ _ hn =>
    skip endStatement fun _ => node hm (.one hn.1) rfl

theorem statement (hg : g.ReadFrom t) : ReadsTree t w .tokens b (statement g) := by
  refine production <| look .ahead fun _ => ?_
  split
  case h_7 =>
    split
    · exact block hg
    · exact seq mark fun _ hm => skip expect fun _ => ReadsLeaf.tree (leaf hm rfl)
    · exact expressionStatement hg
  case h_8 =>
    exact look .seesAsyncFunction fun _ => ite (fun _ => functionDeclaration hg) fun _ =>
      labelledStatement hg
  case h_9 =>
    split
    · exact breakStatement
    · exact continueStatement
    · exact seq mark fun _ hm => skip (discard next) fun _ => skip endStatement fun _ =>
        ReadsLeaf.tree (leaf hm rfl)
    · exact doWhile hg
    · exact forLoop hg
    · exact functionDeclaration hg
    · exact ifStatement hg
    · exact returnStatement hg
    · exact switchStatement hg
    · exact throwStatement hg
    · exact tryStatement hg
    · exact variableStatement hg
    · exact whileLoop hg
    · exact withStatement hg
    · exact expressionStatement hg
  case h_10 => exact unexpected
  all_goals exact expressionStatement hg

/-! ## Imports and exports -/

theorem moduleSpecifier : ReadsTree t w .tokens b moduleSpecifier :=
  facing fun _ _ hm => ite (fun _ => stop failHere) fun hkind => seq nextFacing fun _ _ =>
    (string hm (by simpa using hkind)).imp fun _ _ _ hn => hn.1

theorem expectFrom : Keeps t w True .tokens .tokens b expectFrom fun _ _ => True :=
  look .ahead fun _ => ite (fun _ => discard next) fun _ => ite (fun _ => failHere) fun _ =>
    ite (fun _ => throw) fun _ => failHere

/-- The name here is the name there as well if no other is given, and both are leaves. -/
theorem importSpecifier : ReadsTree t w .tokens b importSpecifier :=
  seq mark fun _ hm => look .ahead fun _ => join bindingName anyName fun _ _ _ himported =>
    bind (P := fun e n => n.Fits t b e ∧ n.children = [])
      (look .seesName fun _ => ite
        (fun _ => skip (discard next) fun _ => bindingName.imp fun _ _ _ hn =>
          ⟨hn.1.behind himported.1.le, hn.2⟩) fun _ =>
        ite (fun _ => pure fun _ le => ⟨himported.1.later le, himported.2⟩) fun _ =>
          skip next fun _ => unexpected)
      fun _ _ le hlocal => node hm (.twins hlocal.2 hlocal.1 (himported.1.later le)) rfl

theorem namedImports : Keeps t w True .tokens .tokens b namedImports fun e l => Row t b e l :=
  skip expect fun _ => bind
    (collect (.skip .sees fun _ => .ret trivial) fun _ => bind importSpecifier fun _ _ _ hn =>
      look .sees fun _ => when expect <| pure fun _ le => hn.later le)
    fun _ _ _ hspecifiers => skip expect fun _ => pure fun _ le => hspecifiers.later le

theorem namespaceImport : ReadsTree t w .tokens b namespaceImport :=
  seq mark fun _ hm => skip expect fun _ => look .seesName fun _ => when (quiet .failHere) <|
    skip (discard next) fun _ => bind anyName fun _ _ _ hname => node hm (.one hname.1) rfl

theorem importClause : Keeps t w True .tokens .tokens b importClause fun e l => Row t b e l :=
  look .ahead fun _ => ite (fun _ => namedImports) fun _ => ite
    (fun _ => result namespaceImport fun _ _ _ hn => .one hn) fun _ => ite
    (fun _ => seq mark fun _ hm => bind anyName fun _ _ _ hname =>
      bind (node hm (.one hname.1) rfl) fun _ _ _ hn => look .sees fun _ => ite
        (fun _ => skip (discard next) fun _ => look .sees fun _ => ite
          (fun _ => result namespaceImport fun _ _ _ hn' => .cons hn (.one hn'))
          fun _ => look .sees fun _ => ite
            (fun _ => result namedImports fun _ _ _ hns => .cons hn hns)
            fun _ => look .ahead fun _ => unexpected)
        fun _ => pure fun _ le => .one (hn.later le))
    fun _ => skip next fun _ => unexpected

theorem importDeclaration : ReadsTree t w .tokens b importDeclaration :=
  look .context fun _ => when (quiet .failHere) <| seq mark fun _ hm => skip expectWord fun _ =>
    bind (P := fun e (x : List Node × Node) =>
        Laid t b e (many .specifier x.1 ++ [(.source, x.2)]))
      (look .ahead fun _ => ite
        (fun _ => result moduleSpecifier fun _ _ _ hsource => .one hsource)
        fun _ => bind importClause fun _ _ _ hspecifiers => skip expectFrom fun _ =>
          result moduleSpecifier fun _ _ _ hsource => (Laid.many hspecifiers).append (.one hsource))
      fun _ _ _ hparts => skip endStatement fun _ => node hm hparts rfl

theorem exportSpecifier : ReadsTree t w .tokens b exportSpecifier :=
  seq mark fun _ hm => bind anyName fun _ _ _ hlocal =>
    bind (P := fun e n => n.Fits t b e ∧ n.children = [])
      (look .seesName fun _ => ite
        (fun _ => skip (discard next) fun _ => anyName.imp fun _ _ _ hn =>
          ⟨hn.1.behind hlocal.1.le, hn.2⟩)
        fun _ => pure fun _ le => ⟨hlocal.1.later le, hlocal.2⟩)
      fun _ _ le hexported => node hm (.twins hexported.2 hexported.1 (hlocal.1.later le)) rfl

theorem defaultExport (hg : g.ReadFrom t) {m : Marker} (hm : b ≤ m.index) :
    ReadsTree t w .tokens b (defaultExport g m) :=
  bind (P := Node.Fits t b)
    (look .seesWord fun _ => ite (fun _ => functionDeclaration hg) fun _ => look .seesWord fun _ =>
      ite (fun _ => classStatement hg) fun _ => look .seesName fun _ => ite
        (fun _ => look .seesAsyncFunction fun _ => ite (fun _ => functionDeclaration hg) fun _ =>
          (assignment hg).tree)
        fun _ => look .ahead fun _ => when (quiet .failHere) <| ite
          (fun _ => bind (objectLiteral hg) fun _ _ _ hn => skip endStatement fun _ =>
            pure fun _ le => hn.later le)
          fun _ => join (arrayLiteral hg) (assignment hg).tree fun _ _ _ hn =>
            skip endStatement fun _ => pure fun _ le => hn.later le)
    fun _ _ _ hn => node hm (.one hn) rfl

theorem bracedExports :
    Keeps t w True .tokens .tokens b bracedExports fun e x => Row t b e x.1 :=
  skip expect fun _ => bind
    (loop (I := fun e (acc : Array Node × Bool) => Row t b e acc.1.toList)
      (R := fun e (x : List Node × Bool) => Row t b e x.1) (fun _ le => .nil le)
      fun _ _ _ hacc => look .sees fun _ => ite (fun _ => done fun _ le => hacc.later le) fun _ =>
      look .seesWord fun _ =>
      bind exportSpecifier fun _ _ _ hn => look .sees fun _ => when expect <|
      again fun _ le => (hacc.push hn).later le)
    fun _ _ _ hx => skip expect fun _ => pure fun _ le => hx.later le

theorem exportDefaultSpecifier : ReadsTree t w .tokens b exportDefaultSpecifier :=
  seq mark fun _ hm => bind anyName fun _ _ _ hn => node hm (.one hn.1) rfl

theorem exportClause :
    Keeps t w True .tokens .tokens b exportClause fun e x => Row t b e x.1 :=
  look .ahead fun _ => ite
    (fun _ => bind exportDefaultSpecifier fun _ _ _ hn => look .sees fun _ => ite
      (fun _ => skip (discard next) fun _ => result bracedExports fun _ _ _ hns => .cons hn hns)
      fun _ => pure fun _ le => .one (hn.later le))
    fun _ => bracedExports

theorem namedExports {m : Marker} (hm : b ≤ m.index) : ReadsTree t w .tokens b (namedExports m) :=
  bind exportClause fun e _ _ hspecifiers =>
    bind (P := fun e' (o : Option Node) => Row t e e' o.toList)
      (look .seesName fun _ => ite
        (fun _ => skip (discard next) fun _ => bind moduleSpecifier fun _ _ _ hn =>
          skip endStatement fun _ => pure fun _ le => .one (hn.later le))
        fun _ => when expectFrom <| skip endStatement fun _ => pure fun _ le => .nil le)
      fun _ _ _ hsource => node hm ((Laid.many hspecifiers).append (.optional hsource)) rfl

theorem exportDeclaration (hg : g.ReadFrom t) : ReadsTree t w .tokens b (exportDeclaration g) :=
  production <| look .context fun _ => when (quiet .failHere) <| seq mark fun _ hm =>
    skip expectWord fun _ => look .ahead fun _ => ite
    (fun _ => skip (discard next) fun _ => defaultExport hg hm) fun _ => ite
    (fun _ => skip (discard next) fun _ => skip expectFrom fun _ =>
      bind moduleSpecifier fun _ _ _ hsource => skip endStatement fun _ =>
      node hm (.one hsource) rfl) fun _ =>
    ite
      (fun _ => bind (P := Node.Fits t b)
        (ite (fun _ => lexicalDeclaration hg) fun _ => ite (fun _ => hg.listItem) fun _ =>
          unexpected)
        fun _ _ _ hn => node hm (.one hn) rfl) fun _ =>
    look .seesAsyncFunction fun _ => ite
      (fun _ => bind (functionDeclaration hg) fun _ _ _ hn => node hm (.one hn) rfl)
      fun _ => namedExports hm

theorem listItem (hg : g.ReadFrom t) : ReadsTree t w .tokens b (listItem g) := by
  refine production <| look .modifyContext fun _ => look .ahead fun _ => ite (fun _ => ?_) fun _ =>
    statement hg
  split
  · exact look .context fun _ => when (quiet .noteToken) <| exportDeclaration hg
  · exact look .seesImportCall fun _ => ite (fun _ => expressionStatement hg) fun _ =>
      look .context fun _ => when (quiet .noteToken) importDeclaration
  · exact lexicalDeclaration hg
  · exact functionDeclaration hg
  · exact classStatement hg
  · exact look .seesLexical fun _ => ite (fun _ => lexicalDeclaration hg) fun _ => statement hg
  · exact statement hg

end Keeps

/-! ## The tower of rules -/

/-- The rules of every level read trees that stand where they were read. -/
theorem rules_readFrom (t : Text) (n : Nat) : (rules n).ReadFrom t := by
  induction n with
  | zero =>
      exact ⟨.failTooDeep, .failTooDeep, .failTooDeep, .failTooDeep, .failTooDeep, .failTooDeep,
        .failTooDeep, .failTooDeep, fun _ => .failTooDeep, .failTooDeep⟩
  | succ n ih =>
      exact ⟨(Keeps.assignment ih).tree, .expression ih, .exponentiation ih, .unary ih,
        .newCallee ih, .leftHandSide ih, .statement ih, .listItem ih, fun _ => .pattern ih,
        .element ih⟩

/-! ## Scripts -/

/-- In a tree, of siblings that cover the same the first is a leaf. -/
inductive Node.TwinsAreLeaves : Node → Prop
  | mk {kind : Kind} {span : Span} {children : List (Role × Node)}
      (own : children.Pairwise fun c c' => c.2.LeafTwin c'.2)
      (parts : ∀ c ∈ children, c.2.TwinsAreLeaves) : (Node.mk kind span children).TwinsAreLeaves

theorem Node.TwinsAreLeaves.own (h : n.TwinsAreLeaves) :
    n.children.Pairwise fun c c' => c.2.LeafTwin c'.2 := by
  cases h with
  | mk own => exact own

theorem Node.TwinsAreLeaves.part (h : n.TwinsAreLeaves) {c : Role × Node} (mem : c ∈ n.children) :
    c.2.TwinsAreLeaves := by
  cases h with
  | mk _ parts => exact parts c mem

/-- The parts of a program are read from its text. What the program itself covers is not said:
behind the first token, the end of the last token taken is moved past the one ahead. -/
def Node.IsProgram (t : Text) (n : Node) : Prop :=
  ∃ isModule span b cs, n = .mk (.program isModule) span cs ∧ Laid t b t.length cs

namespace Node.IsProgram

theorem part (h : n.IsProgram t) {c : Role × Node} (mem : c ∈ n.children) :
    c.2.Fits t 0 t.length := by
  obtain ⟨isModule, span, b, cs, rfl, hparts⟩ := h
  exact (List.forall_mem_map.mp hparts.row.parts c mem).behind (Nat.zero_le b)

theorem liesIn (h : n.IsProgram t) : n.LiesIn t := by
  have hpart := fun c hc => (h.part (c := c) hc).lies
  obtain ⟨isModule, span, b, cs, rfl, -⟩ := h
  exact .mk (by rintro ⟨⟩) hpart

theorem hasOneCallee (h : n.IsProgram t) : n.hasOneCallee = true := by
  have hpart := fun c hc => (h.part (c := c) hc).hasOneCallee
  obtain ⟨isModule, span, b, cs, rfl, hparts⟩ := h
  exact Node.hasOneCallee_mk hparts.callees_le hpart

end Node.IsProgram

theorem State.initial_standsIn (t : Text) : (State.initial t).StandsIn t False .tokens :=
  ⟨.here (.start t), .here (.start t), fun _ => .other (.here (.start t)) rfl rfl, False.elim,
    trivial⟩

theorem Quiet.node {m : Marker} {kind : Kind} {children : List (Role × Node)} :
    Quiet (Parser.node m kind children) fun n => ∃ span, n = .mk kind span children :=
  skip get fun _ => ret ⟨_, rfl⟩

theorem Keeps.program {isModule : Bool} :
    Keeps t False False .tokens .tokens b (Parser.program isModule) fun e n =>
      ∃ span cs, n = .mk (.program isModule) span cs ∧ Laid t b e cs := by
  have hg := rules_readFrom t mostOpen
  have hrest : Keeps t False False .tokens .tokens b (do
      let g := Parser.rules mostOpen
      let m ← Parser.mark
      let opening ← Parser.directives g
      let rest ← Parser.collect (return !(← Parser.seesEnd)) g.listItem
      Parser.node m (.program isModule) (Parser.many .body (opening ++ rest))) fun e n =>
        ∃ span cs, n = .mk (.program isModule) span cs ∧ Laid t b e cs := by
    refine skip mark fun _ => bind (directives hg) fun _ _ _ hopening =>
      bind (collect (.skip .seesEnd fun _ => .ret trivial) fun _ => forget hg.listItem)
      fun _ _ _ hrest => (quiet .node).imp fun _ n le hn => ?_
    obtain ⟨span, rfl⟩ := hn
    exact ⟨span, _, rfl, (Laid.many (hopening.append hrest)).later le⟩
  exact production <| skip (discard next) fun _ =>
    skip (change fun _ hs => ⟨⟨hs.cursor, hs.start, hs.ahead, False.elim, trivial⟩, Nat.le_refl _⟩)
      fun _ => ite (fun _ => look .modifyContext fun _ => hrest) fun _ => hrest

theorem parseAs_ok {isModule : Bool} {ps : List Problem}
    (h : parseAs isModule t = .ok (.ok (n, ps))) : n.IsProgram t := by
  rw [parseAs] at h
  split at h
  · next n' s hrun =>
      cases h
      obtain ⟨hs, -, span, cs, rfl, hparts⟩ :=
        Keeps.program (b := 0) _ (State.initial_standsIn t) (Nat.zero_le _) _ _ hrun
      exact ⟨_, span, 0, cs, rfl, hparts.later hs.start.index_le_length⟩
  · cases h
  · cases h

/-- A script that was parsed is what one of the two readings gives. -/
theorem parse_isProgram {s : Script} (h : Script.parse t = .ok (.ok s)) :
    s.program.IsProgram t := by
  rw [Script.parse] at h
  cases hmodule : parseAs true t with
  | error k => simp only [hmodule] at h; cases h
  | ok first =>
      simp only [hmodule] at h
      cases first with
      | ok r =>
          cases h
          exact parseAs_ok hmodule
      | error f =>
          cases hscript : parseAs false t with
          | error k => simp only [hscript] at h; cases h
          | ok second =>
              simp only [hscript] at h
              cases second with
              | ok r =>
                  cases h
                  exact parseAs_ok hscript
              | error f' => cases h

/-- The nodes of a script that was parsed stand where they were read, save the program itself. -/
theorem fits_of_mem_places {s : Script} {p : Place} (parsed : Script.parse t = .ok (.ok s))
    (mem : p ∈ s.places) : p.node.IsProgram t ∨ p.node.Fits t 0 t.length := by
  refine Place.forall_mem_walk (P := fun n => n.IsProgram t ∨ n.Fits t 0 t.length) ?_ _
    (.inl (parse_isProgram parsed)) p mem
  exact fun _ h _ hc => .inr (h.elim (·.part hc) (·.part hc))

theorem parse_hasOneCallee {s : Script} (h : Script.parse t = .ok (.ok s)) :
    s.program.hasOneCallee = true :=
  (parse_isProgram h).hasOneCallee

end Readiness.Script
