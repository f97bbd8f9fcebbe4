import Readiness.Proofs.ParserPlaces

/-!
# Where patterns, functions and literals stand

Each production keeps the parser in the text and reads a tree that stands where it was read, if the
rules that it calls do. The parts of a tree are read one after the other, so they stand in a row; a
property with a name for a value is the exception, since its name is read once and makes two nodes.
In a template the pieces are tokens, and what is read between two of them stands between the two.
-/

namespace Readiness.Script

open Readiness.Script.Parser

theorem literalOf_string {k : Token} (h : k.kind = .string) : literalOf k = .string k.value := by
  rw [literalOf, h]
  rfl

theorem literalOf_numeric {k : Token} (h : k.kind = .numeric) : literalOf k = .number k.number := by
  rw [literalOf, h]
  rfl

namespace Keeps

variable {t : Text} {w : Prop} {b b₀ : Nat} {g : Rules} {k : Binding}

/-! ## Names and keys -/

theorem anyName : ReadsLeaf t w .tokens b anyName :=
  seq mark fun _ hm => skip next fun _ => when (quiet .unexpected) <| leaf hm rfl

theorem bindingName : ReadsLeaf t w .tokens b (bindingName k) := by
  refine seq mark fun m hm => skip next fun tk => look .context fun c => ?_
  have hrest : ReadsLeaf t True .tokens b (Parser.node m (.identifier tk.value)) :=
    leaf hm rfl
  split
  · split
    · exact look .noteToken fun _ => hrest
    · exact when (quiet .unexpected) hrest
  · split
    · split
      · exact look .noteToken fun _ => hrest
      · exact when (quiet .unexpected) hrest
    · exact when (quiet .noteUnexpected) hrest

theorem propertyKey (hg : g.ReadFrom t) : ReadsTree t w .tokens b (propertyKey g) := by
  refine production <| taking fun m tk hm => ?_
  have hrest : ∀ kind : Kind, kind.isPlain = true →
      Keeps t True True (.behind t m.index tk) .tokens b (Parser.node m kind)
        fun e n => n.Fits t b e :=
    fun _ plain => whatever (ReadsLeaf.tree (leaf hm plain))
  split
  · next hkind =>
      rw [literalOf_string hkind]
      exact look .context fun _ => when (quiet .noteToken) <|
        (string hm hkind).imp fun _ _ _ hn => hn.1
  · next hkind =>
      rw [literalOf_numeric hkind]
      exact look .context fun _ => when (quiet .noteToken) <| hrest _ rfl
  · exact hrest _ rfl
  · exact hrest _ rfl
  · exact hrest _ rfl
  · exact hrest _ rfl
  · exact whatever <| ite
      (fun _ => bind (isolate hg.assignment) fun _ _ _ hkey => skip expect fun _ =>
        pure fun _ le => hkey.later le)
      fun _ => unexpected

/-! ## Patterns -/

theorem patternWithDefault (hg : g.ReadFrom t) :
    Keeps t w True .tokens .tokens b (patternWithDefault g k) fun e x => x.1.Fits t b e :=
  production <| seq ahead fun _ hfirst => bind (hg.pattern k) fun _ _ _ hp =>
    look .sees fun _ => ite
      (fun _ => skip (discard next) fun _ => look .context fun _ => look .modifyContext fun _ =>
        bind (isolate hg.assignment) fun _ _ _ hright => look .modifyContext fun _ =>
        result (node (marked hfirst) (.two hp hright) rfl) fun _ _ _ hn => hn)
      fun _ => pure fun _ le => hp.later le

theorem arrayPattern (hg : g.ReadFrom t) :
    Keeps t w True .tokens .tokens b (arrayPattern g k) fun e x => x.1.Fits t b e :=
  production <| seq mark fun _ hm => skip expect fun _ => bind
    (loop (I := fun e (acc : Array Node × Array Token) => Row t b e acc.1.toList)
      (R := fun e acc => Row t b e acc.1.toList) (fun _ le => .nil le) fun _ _ _ hacc =>
      look .sees fun _ => ite (fun _ => done fun _ le => hacc.later le) fun _ =>
      look .sees fun _ => ite
        (fun _ => skip (discard next) fun _ => again fun _ le => hacc.later le) fun _ =>
      look .sees fun _ => ite
        (fun _ => seq mark fun _ hm => skip expect fun _ => bind (hg.pattern k) fun _ _ _ hp =>
          bind (node hm (.one hp) rfl) fun _ _ _ hn =>
          done fun _ le => (hacc.push hn).later le)
        fun _ => bind (patternWithDefault hg) fun _ _ _ hp => look .sees fun _ =>
          when expect <| again fun _ le => (hacc.push hp).later le)
    fun _ _ _ hacc => skip expect fun _ =>
      result (node hm (.many hacc) rfl) fun _ _ _ hn => hn

/-- A name in a pattern is the key and, if no value comes behind it, the value as well. -/
theorem patternProperty (hg : g.ReadFrom t) :
    Keeps t w True .tokens .tokens b (patternProperty g k) fun e x => x.1.Fits t b e :=
  production <| seq mark fun _ hm => seq ahead fun _ hfirst => ite
    (fun _ => bind bindingName fun _ _ le hkey => bind (node hm (.nil le) rfl)
      fun _ _ le' hshort => bind (P := fun e (x : Node × List Token) => x.1.Fits t b e)
        (look .sees fun _ => ite
          (fun _ => skip (discard next) fun _ => bind hg.assignment fun _ _ _ hright =>
            result (node (marked hfirst) (.two hshort hright) rfl) fun _ _ _ hn => hn)
          fun _ => look .sees fun _ => ite
            (fun _ => skip expect fun _ => (patternWithDefault hg).imp fun _ _ _ hp =>
              hp.behind hshort.le)
            fun _ => pure fun _ le => hshort.later le)
        fun _ _ le'' hvalue => result
          (node hm (.twins hkey.2 (hkey.1.later (Nat.le_trans le' le'')) hvalue) rfl)
          fun _ _ _ hn => hn)
    fun _ => look .sees fun _ => bind (propertyKey hg) fun _ _ _ hkey => skip expect fun _ =>
      bind (patternWithDefault hg) fun _ _ _ hvalue =>
        result (node hm (.two hkey hvalue) rfl) fun _ _ _ hn => hn

theorem restProperty (hg : g.ReadFrom t) :
    Keeps t w True .tokens .tokens b (restProperty g k) fun e x => x.1.Fits t b e :=
  production <| seq mark fun _ hm => skip expect fun _ => bind (hg.pattern k) fun _ _ _ hp =>
    look .sees fun _ => when (quiet .failHere) <| look .sees fun _ => when (quiet .failHere) <|
      result (node hm (.one hp) rfl) fun _ _ _ hn => hn

theorem objectPattern (hg : g.ReadFrom t) :
    Keeps t w True .tokens .tokens b (objectPattern g k) fun e x => x.1.Fits t b e :=
  production <| seq mark fun _ hm => skip expect fun _ => bind
    (loop (I := fun e (acc : Array Node × Array Token) => Row t b e acc.1.toList)
      (R := fun e acc => Row t b e acc.1.toList) (fun _ le => .nil le) fun _ _ _ hacc =>
      look .sees fun _ => ite (fun _ => done fun _ le => hacc.later le) fun _ =>
      look .sees fun _ => join (restProperty hg) (patternProperty hg) fun _ _ _ hp =>
        look .sees fun _ => when expect <| again fun _ le => (hacc.push hp).later le)
    fun _ _ _ hacc => skip expect fun _ =>
      result (node hm (.many hacc) rfl) fun _ _ _ hn => hn

theorem pattern (hg : g.ReadFrom t) :
    Keeps t w True .tokens .tokens b (pattern g k) fun e x => x.1.Fits t b e :=
  production <| look .sees fun _ => ite (fun _ => arrayPattern hg) fun _ =>
    look .sees fun _ => ite (fun _ => objectPattern hg) fun _ =>
      look .ahead fun _ => when (quiet .noteToken) <| result bindingName fun _ _ _ hn => hn.1

/-! ## Functions -/

theorem restParameter (hg : g.ReadFrom t) :
    Keeps t w True .tokens .tokens b (restParameter g) fun e x => x.1.Fits t b e :=
  production <| seq mark fun _ hm => skip expect fun _ => bind (hg.pattern _) fun _ _ _ hp =>
    look .sees fun _ => when (quiet .failHere) <| look .sees fun _ => when (quiet .failHere) <|
      result (node hm (.one hp) rfl) fun _ _ _ hn => hn

end Keeps

theorem Params.addName_params (o : Params) (strict : Bool) (c : Culprit) (name : Text) :
    (o.addName strict c name).params = o.params := by
  rw [Params.addName]
  dsimp only
  repeat' split
  all_goals rfl

theorem Params.foldl_addName_params (o : Params) (strict : Bool) (names : List Token) :
    (names.foldl (fun o k => o.addName strict (.token k) k.value) o).params = o.params := by
  induction names generalizing o with
  | nil => rfl
  | cons k names ih => rw [List.foldl_cons, ih, Params.addName_params]

namespace Keeps

theorem parameters (hg : g.ReadFrom t) {restricted : Option Culprit} :
    Keeps t w True .tokens .tokens b (parameters g restricted) fun e o =>
      Row t b e o.params.toList := by
  refine production <| skip expect fun _ => bind
    (loop (I := fun e (o : Params) => Row t b e o.params.toList)
      (R := fun e o => Row t b e o.params.toList) (fun _ le => .nil le) fun _ o _ ho =>
      look .sees fun _ => look .seesEnd fun _ => ite (fun _ => done fun _ le => ho.later le)
        fun _ => bind (production <| look .sees fun _ =>
          ite (fun _ => restParameter hg) fun _ => patternWithDefault hg) fun e x _ hp => ?_)
    fun _ _ _ ho => skip expect fun _ => pure fun _ le => ho.later le
  obtain ⟨p, names⟩ := x
  refine look .context fun c => ?_
  have hmore : Row t b e ((names.foldl (fun o k => o.addName c.strict (.token k) k.value)
      o).params.push p).toList := by
    rw [Params.foldl_addName_params]
    exact ho.push hp
  exact look .sees fun _ => ite (fun _ => done fun _ le => hmore.later le) fun _ =>
    skip expect fun _ => again fun _ le => hmore.later le

theorem directive (hg : g.ReadFrom t) :
    Keeps t w True .tokens .tokens b (directive g) fun e x => x.1.Fits t b e :=
  production <| look .get fun _ => seq mark fun _ hm => bind hg.expression fun _ _ _ he =>
    skip endStatement fun _ => result (node hm (.one he.1) rfl) fun _ _ _ hn => hn

/-- There may be no directives at all, and then no token is taken. -/
theorem directives (hg : g.ReadFrom t) :
    Keeps t w w .tokens .tokens b (directives g) fun e l => Row t b e l := by
  refine production <| bind
    (loop (I := fun e (acc : Option Token × Array Node) => Row t b e acc.2.toList)
      (R := fun e acc => Row t b e acc.2.toList) (fun _ le => .nil le)
      fun _ acc _ hacc => ?_)
    fun _ _ _ hacc => pure fun _ le => hacc.later le
  obtain ⟨octal, body⟩ := acc
  refine look .ahead fun _ => ite (fun _ => done fun _ le => hacc.later le)
    fun _ => forget <| bind (directive hg) fun e x _ hn => ?_
  obtain ⟨n, words⟩ := x
  have hmore : ∀ e', e ≤ e' → Row t b e' (body.push n).toList :=
    fun _ le => (hacc.push hn).later le
  dsimp only
  split
  · exact done hmore
  · refine look .modifyContext fun _ => ?_
    cases octal with
    | none => exact look .context fun _ => when (quiet .noteToken) <| again hmore
    | some k =>
        exact look .noteToken fun _ => look .context fun _ => when (quiet .noteToken) <| again hmore
  · exact again hmore

theorem functionBody (hg : g.ReadFrom t) : ReadsTree t w .tokens b (functionBody g) :=
  production <| opened fun _ hm => bind (directives hg) fun _ _ _ hopening =>
    look .context fun _ => look .modifyContext fun _ =>
    bind (collect (.skip .seesEnd fun _ => .skip .sees fun _ => .ret trivial)
      fun _ => hg.listItem) fun _ _ _ hrest => skip expectPast fun _ => look .modifyContext fun _ =>
    braces hm (hopening.append hrest)

end Keeps

namespace Quiet

theorem seesAsyncFunction : Quiet seesAsyncFunction fun _ => True :=
  skip seesName fun _ => ite (fun _ => skip get fun _ => skip peek fun _ => ret trivial)
    fun _ => ret trivial

theorem nameCulprit {k : Token} : Quiet (nameCulprit k) fun _ => True :=
  skip context fun _ => ite (fun _ => when noteToken <| ret trivial) fun _ =>
    ite (fun _ => ret trivial) fun _ => ite (fun _ => ret trivial) fun _ => ret trivial

theorem culpritProblem {c : Culprit} {k : Complaint} :
    Quiet (culpritProblem c k) fun _ => True := by
  cases c with
  | token k => exact tokenProblem
  | reached => exact lastProblem

theorem failCulprit {c : Option Culprit} {k : Option Complaint} :
    Quiet (failCulprit c k) fun _ => True := by
  refine skip context fun _ => ite (fun _ => ?_) fun _ => ret trivial
  cases c with
  | none => exact ret trivial
  | some c => exact skip culpritProblem fun _ => fail

theorem noteCulprit {c : Option Culprit} {k : Option Complaint} :
    Quiet (noteCulprit c k) fun _ => True := by
  refine skip context fun _ => ite (fun _ => ?_) fun _ => ret trivial
  cases c with
  | none => exact ret trivial
  | some c => exact skip culpritProblem fun _ => note

end Quiet

namespace Keeps

theorem functionTail (hg : g.ReadFrom t) {restricted : Option Culprit}
    {complaint : Option Complaint} :
    Keeps t w True .tokens .tokens b (functionTail g restricted complaint) fun e x =>
      Row t b e (x.1 ++ [x.2]) :=
  bind (parameters hg) fun _ _ _ hparams => look .context fun _ => look .modifyContext fun _ =>
    bind (functionBody hg) fun _ _ _ hbody => look .failCulprit fun _ => look .noteCulprit fun _ =>
    look .modifyContext fun _ => pure fun _ le => (hparams.append (.one hbody)).later le

end Keeps

theorem Laid.functionParts {t : Text} {b m e : Nat} {id : Option Node} {params : List Node}
    {body : Node} (hid : Row t b m id.toList) (htail : Row t m e (params ++ [body])) :
    Laid t b e (functionParts id params body) := by
  rw [Parser.functionParts, List.append_assoc]
  refine (Laid.optional hid).append ⟨?_, ?_⟩
  · rw [List.map_append, map_snd_many]
    exact htail
  · exact List.forall_mem_append.mpr
      ⟨Laid.many_others params, List.forall_mem_singleton.mpr ne_callee⟩

namespace Keeps

theorem functionHead : Keeps t w True .tokens .tokens b functionHead fun _ _ => True :=
  look .seesName fun _ => when (forget (discard next)) <| skip expectWord fun _ =>
    join (P := fun _ _ => True) (ret trivial) (quiet .sees) fun _ _ _ _ =>
    when (discard next) <| ret trivial

theorem functionDeclaration (hg : g.ReadFrom t) {nameless : Bool} :
    ReadsTree t w .tokens b (functionDeclaration g nameless) :=
  production <| seq mark fun _ hm => skip functionHead fun _ =>
    bind (P := fun e (x : Option Node × Option Culprit × Option Complaint) => Row t b e x.1.toList)
      (look .sees fun _ => ite (fun _ => pure fun _ le => .nil le) fun _ => look .ahead fun _ =>
        bind bindingName fun _ _ _ hid => look .nameCulprit fun _ =>
        pure fun _ le => .one (hid.1.later le))
      fun _ _ _ hid => look .context fun _ => look .modifyContext fun _ =>
        bind (functionTail hg) fun _ _ _ htail => look .modifyContext fun _ =>
        node hm (.functionParts hid htail) rfl

theorem functionExpression (hg : g.ReadFrom t) :
    ReadsTree t w .tokens b (functionExpression g) :=
  production <| seq mark fun _ hm => skip functionHead fun _ => look .context fun _ =>
    look .modifyContext fun _ =>
    bind (P := fun e (x : Option Node × Option Culprit × Option Complaint) => Row t b e x.1.toList)
      (look .sees fun _ => ite (fun _ => pure fun _ le => .nil le) fun _ => look .ahead fun _ =>
        look .context fun _ => join anyName bindingName fun _ _ _ hid =>
        look .nameCulprit fun _ => pure fun _ le => .one (hid.1.later le))
      fun _ _ _ hid => bind (functionTail hg) fun _ _ _ htail =>
        look .modifyContext fun _ => node hm (.functionParts hid htail) rfl

/-! ## Methods -/

theorem methodBody (hg : g.ReadFrom t) {o : Params} :
    ReadsTree t w .tokens b (methodBody g o) :=
  production <| look .notTarget fun _ => look .context fun _ => look .modifyContext fun _ =>
    bind (isolate (functionBody hg)) fun _ _ _ hbody => look .noteCulprit fun _ =>
    look .noteCulprit fun _ => look .modifyContext fun _ => pure fun _ le => hbody.later le

theorem method (hg : g.ReadFrom t) {isAsync generator inParams inBody : Bool}
    {check : List Node → Parser Unit} (quietly : ∀ l, Quiet (check l) fun _ => True) :
    ReadsTree t w .tokens b (method g isAsync generator inParams inBody check) :=
  production <| seq mark fun _ hm => look .context fun _ => look .modifyContext fun _ =>
    bind (parameters hg) fun _ _ _ hparams => look (quietly _) fun _ => look .modifyContext fun _ =>
    bind (methodBody hg) fun _ _ _ hbody => look .modifyContext fun _ =>
    node hm (.functionParts (.nil (Nat.le_refl _)) (hparams.append (.one hbody))) rfl

theorem plainMethod (hg : g.ReadFrom t) : ReadsTree t w .tokens b (plainMethod g) :=
  method hg fun _ => .ret trivial

theorem asyncMethod (hg : g.ReadFrom t) : ReadsTree t w .tokens b (asyncMethod g) :=
  method hg fun _ => .ret trivial

theorem generatorMethod (hg : g.ReadFrom t) : ReadsTree t w .tokens b (generatorMethod g) :=
  method hg fun _ => .ret trivial

theorem getter (hg : g.ReadFrom t) : ReadsTree t w .tokens b (getter g) :=
  method hg fun _ => .ite (fun _ => .noteHere) fun _ => .ret trivial

theorem setter (hg : g.ReadFrom t) : ReadsTree t w .tokens b (setter g) :=
  method hg fun _ => by
    split
    · split
      · exact .noteHere
      · exact .ret trivial
    · exact .noteHere

/-! ## Arrays and objects -/

theorem spread (hg : g.ReadFrom t) : ReadsTree t w .tokens b (spread g) :=
  production <| seq mark fun _ hm => skip expect fun _ => bind (inherit hg.assignment)
    fun _ _ _ he => node hm (.one he) rfl

theorem arrayLiteral (hg : g.ReadFrom t) : ReadsTree t w .tokens b (arrayLiteral g) :=
  production <| seq mark fun _ hm => skip expect fun _ => bind
    (loop (I := fun e (acc : Array Node) => Row t b e acc.toList) (R := fun e l => Row t b e l)
      (fun _ le => .nil le) fun _ _ _ hacc =>
      look .sees fun _ => ite (fun _ => done fun _ le => hacc.later le) fun _ =>
      look .sees fun _ => ite
        (fun _ => skip (discard next) fun _ => again fun _ le => hacc.later le) fun _ =>
      look .sees fun _ => ite
        (fun _ => bind (spread hg) fun _ _ _ he => look .sees fun _ => ite
          (fun _ => look .notTarget fun _ => skip expect fun _ =>
            again fun _ le => (hacc.push he).later le)
          fun _ => again fun _ le => (hacc.push he).later le)
        fun _ => bind (inherit hg.assignment) fun _ _ _ he => look .sees fun _ =>
          when expect <| again fun _ le => (hacc.push he).later le)
    fun _ _ _ hacc => skip expect fun _ => node hm (.many hacc) rfl

/-- The value of a property stands behind its key, unless it is the name that the property starts
with. -/
theorem propertyValue (hg : g.ReadFrom t) {m : Marker} {first : Token} {isAsync : Bool}
    (hm : b₀ ≤ m.index) (le : b₀ ≤ b) :
    Keeps t True True .tokens .tokens b (propertyValue g m first isAsync) fun e n =>
      n.Fits t b e ∨ n.Fits t b₀ e ∧ first.kind = .identifier ∧ n.start = m.index :=
  look .sees fun _ => ite
    (fun _ => skip (discard next) fun _ => (inherit hg.assignment).imp fun _ _ _ => .inl)
    fun _ => look .sees fun _ => ite
      (fun _ => (ite (fun _ => asyncMethod hg) fun _ => plainMethod hg).imp fun _ _ _ => .inl)
      fun _ => ite
        (fun hname => bind (nodeAt hm (.nil le) rfl) fun _ _ _ hn => look .sees fun _ => ite
          (fun _ => look .ahead fun _ => look .modifyContext fun _ => skip (discard next) fun _ =>
            bind (isolate hg.assignment) fun _ _ _ hright =>
            (nodeAt hm (.two hn.1 hright) rfl).imp fun _ _ _ hn =>
              .inr ⟨hn.1, eq_of_beq hname, hn.2.1⟩)
          fun _ => pure fun _ le => .inr ⟨hn.1.later le, eq_of_beq hname, hn.2.1⟩)
        fun _ => skip next fun _ => unexpected

/-- What is known of the key of a property that starts at `m` with a token `k`: with a name there,
no value that starts at `m` as well is a twin of the key. -/
def KeyFits (t : Text) (b : Nat) (m : Marker) (k : Token) (e : Nat) (key : Node) : Prop :=
  key.Fits t b e ∧ (k.kind = .identifier → ∀ n : Node, n.start = m.index → key.LeafTwin n)

theorem objectProperty (hg : g.ReadFrom t) {hasProto : Bool} :
    Keeps t w True .tokens .tokens b (objectProperty g hasProto) fun e x => x.1.Fits t b e := by
  refine production <| named
    (P := fun m k e (x : Option Node × Bool × Bool) => ∀ key ∈ x.1, KeyFits t b m k e key)
    (fun m k hm => look .sees fun _ => look .get fun _ => ?_) (fun m k hname => ?_)
    fun m k e x hm le hkey => look .ahead fun _ => ite
      (fun _ => look .sees fun _ => bind (propertyKey hg) fun _ _ _ hkey =>
        look .modifyContext fun _ => bind (getter hg) fun _ _ _ hvalue =>
        result (node hm (.two (hkey.behind le) hvalue) rfl) fun _ _ _ hn => hn) fun _ =>
      ite (fun _ => look .sees fun _ => bind (propertyKey hg) fun _ _ _ hkey =>
          bind (setter hg) fun _ _ _ hvalue =>
          result (node hm (.two (hkey.behind le) hvalue) rfl) fun _ _ _ hn => hn) fun _ =>
      ite (fun _ => look .sees fun _ => bind (propertyKey hg) fun _ _ _ hkey =>
          bind (generatorMethod hg) fun _ _ _ hvalue =>
          result (node hm (.two (hkey.behind le) hvalue) rfl) fun _ _ _ hn => hn) fun _ => ?_
  · refine join (P := KeyFits t b m k) ((propertyKey hg).imp fun _ _ _ hn => ?_)
      ((nodeAt hm (.nil (Nat.le_succ_of_le hm)) rfl).imp fun _ _ _ hn =>
        ⟨hn.1, fun _ _ _ _ _ _ => hn.2.2⟩)
      fun _ _ _ hkey => pure fun _ le => ?_
    · refine ⟨hn.behind (Nat.le_succ_of_le hm), fun _ n hstart hcovers hsame _ => ?_⟩
      have hbehind := (hn.covers hcovers).1
      omega
    · rintro _ ⟨⟩
      exact ⟨hkey.1.later le, hkey.2⟩
  · exact ite (fun _ => skip (discard next) fun _ => pure fun _ _ => by
        rintro _ ⟨⟩) fun _ =>
      look .sees fun _ => result (propertyKey hg) fun _ _ _ hn => by
        rintro _ ⟨⟩
        exact ⟨hn, fun h => absurd h hname⟩
  · obtain ⟨key, computed, isAsync⟩ := x
    cases key with
    | none => exact look .ahead fun _ => unexpected
    | some key =>
        obtain ⟨hkey, htwin⟩ := hkey key rfl
        refine look .sees fun _ => when (quiet .noteHere) <|
          bind (propertyValue hg hm le) fun _ _ le' hvalue =>
          result (node hm ?_ rfl) fun _ _ _ hn => hn
        obtain hvalue | ⟨hvalue, hname, hstart⟩ := hvalue
        · exact .two hkey hvalue
        · exact .pair (hkey.later le') hvalue (htwin hname _ hstart)

theorem objectLiteral (hg : g.ReadFrom t) : ReadsTree t w .tokens b (objectLiteral g) :=
  production <| seq mark fun _ hm => skip expect fun _ => bind
    (loop (I := fun e (acc : Array Node × Bool) => Row t b e acc.1.toList)
      (R := fun e l => Row t b e l) (fun _ le => .nil le) fun _ _ _ hacc =>
      look .sees fun _ => ite (fun _ => done fun _ le => hacc.later le) fun _ =>
      look .sees fun _ => ite
        (fun _ => bind (spread hg) fun e _ _ hp =>
          seq (ret (Q := fun x : Node × Bool => x.1.Fits t _ e) hp) fun _ hp =>
          look .sees fun _ => when expectComma <|
            again fun _ le => (hacc.push hp).later le)
        fun _ => bind (objectProperty hg) fun _ _ _ hp => look .sees fun _ =>
          when expectComma <| again fun _ le => (hacc.push hp).later le)
    fun _ _ _ hacc => skip expect fun _ => node hm (.many hacc) rfl

end Keeps

/-! ## Templates -/

/-- The token ahead of a parser, when it is a piece of a template. -/
theorem State.StandsIn.piece {t : Text} {w : Prop} {s : State} (hs : s.StandsIn t w .tokens)
    (template : s.ahead.kind = .template) {q : Node} {cooked : Text}
    (kind : q.kind = .templateElement cooked s.ahead.tail) (start : q.start = s.start.index)
    (stop : q.stop = s.cursor.index) : Piece t s.ahead.head s.ahead.tail q := by
  obtain ⟨front, hfront, hindex⟩ := hs.start
  obtain ⟨r, hrest, raw, hr, hcursor⟩ := (hs.ahead rfl).piece template
  rw [Nat.zero_add] at hindex
  exact ⟨⟨cooked, kind⟩, front, raw, s.cursor.rest, by rw [hfront, hrest, hr],
    start.trans hindex, by rw [stop, hcursor, hindex]⟩

/-- A piece of a template is a leaf that is read where the token ahead stands, and the last token
taken. -/
theorem templatePiece_ok {t : Text} {w : Prop} {s s' : State} {q : Node} {tail : Bool}
    (hs : s.StandsIn t w .tokens) (h : templatePiece s = .ok (q, tail) s') :
    Piece t s.ahead.head tail q ∧ q.Fits t s.start.index s'.start.index ∧ q.children = [] ∧
      q.start = s.start.index ∧ q.stop = s'.last.index ∧ s'.StandsIn t True .tokens := by
  obtain ⟨_, _, hahead, h⟩ := ok_of_bind h
  cases hahead
  split at h
  · obtain ⟨_, _, hfail, -⟩ := ok_of_bind h
    cases hfail
  next hkind =>
  obtain ⟨_, _, hmark, h⟩ := ok_of_bind h
  cases hmark
  obtain ⟨_, s₁, hnext, h⟩ := ok_of_bind h
  obtain ⟨_, hnext⟩ := ok_of_discard hnext
  obtain ⟨-, hlast, hbehind, hs₁⟩ := next_ok hs hnext
  have htemplate : s.ahead.kind = .template := by simpa using hkind
  obtain ⟨_, _, hnode, h⟩ := ok_of_bind h
  cases hnode
  cases h
  have hle : s.start.index ≤ s'.start.index := Nat.le_trans hs.front_le hbehind
  exact ⟨hs.piece htemplate rfl rfl (congrArg Marker.index hlast),
    .of_row (.nil hle) ⟨Nat.le_refl _, hs₁.last trivial⟩ (Nat.zero_le 1) rfl,
    rfl, rfl, rfl, hs₁⟩

/-- A turn of the loop that reads a template: an expression and the piece behind it. -/
def templateTurn (g : Rules) (acc : Array Node × Array Node) :
    Parser (Turn (Array Node × Array Node) (Array Node × Array Node)) := do
  let e ← g.expression
  let (q, tail) ← templatePiece
  let acc := (acc.1.push q, acc.2.push e)
  return if tail then .done acc else .again acc

/-- Pieces of a template, which are leaves, and the expressions between them, read from a text
between two places. -/
structure TemplateParts (t : Text) (b e : Nat) (qs es : List Node) : Prop where
  leaves : ∀ q ∈ qs, q.children = []
  pieces : ∀ q ∈ qs, q.Fits t b e
  expressions : Row t b e es

namespace TemplateParts

variable {t : Text} {b m e : Nat} {q n : Node} {qs es : List Node}

theorem cons (hq : q.Fits t b e) (leaf : q.children = []) (h : TemplateParts t m e qs es)
    (le : b ≤ m) : TemplateParts t b e (q :: qs) es where
  leaves := List.forall_mem_cons.mpr ⟨leaf, h.leaves⟩
  pieces := List.forall_mem_cons.mpr ⟨hq, fun q hq => (h.pieces q hq).behind le⟩
  expressions := h.expressions.behind le

theorem between (hn : n.Fits t b m) (h : TemplateParts t m e qs es) :
    TemplateParts t b e qs (n :: es) where
  leaves := h.leaves
  pieces := fun q hq => (h.pieces q hq).behind hn.le
  expressions := .cons hn h.expressions

theorem laid (h : TemplateParts t b e qs es) :
    Laid t b e (many .quasi qs ++ many .expression es) where
  row := by
    rw [List.map_append, map_snd_many, map_snd_many]
    exact .leaves h.leaves h.pieces h.expressions
  others := List.forall_mem_append.mpr
    ⟨Laid.many_others qs, Laid.many_others es⟩

end TemplateParts

/-- Behind a piece that opens an interpolation, expressions and pieces follow up to one that ends
the template. -/
theorem templateTurns_ok {t : Text} {g : Rules} (hg : g.ReadFrom t) {n : Nat} {head : Bool}
    {q : Node} {acc res : Array Node × Array Node} {s s' : State} (hs : s.StandsIn t True .tokens)
    (piece : Piece t head false q) (stop : q.stop = s.last.index)
    (h : turns (templateTurn g) n acc s = .ok res s') :
    s'.StandsIn t True .tokens ∧ ∃ qs es, res.1.toList = acc.1.toList ++ qs ∧
      res.2.toList = acc.2.toList ++ es ∧ TemplateParts t s.start.index s'.start.index qs es ∧
      Interleaved t s'.last.index head q qs es := by
  induction n generalizing head q acc s with
  | zero => cases h
  | succ n ih =>
      obtain ⟨k, s₂, hturn, h⟩ := ok_of_bind h
      obtain ⟨e, s₁, he, hturn⟩ := ok_of_bind hturn
      obtain ⟨⟨q', tail⟩, _, hpiece, hturn⟩ := ok_of_bind hturn
      cases hturn
      obtain ⟨hs₁, horder, hfits, hplain⟩ := hg.expression s hs (Nat.le_refl _) e s₁ he
      obtain ⟨hq', hfits', hleaf, hstart, hstop, hs₂⟩ := templatePiece_ok hs₁ hpiece
      obtain ⟨hfront, hback⟩ := hfits.settled hplain
      have hlast : q.stop ≤ s.start.index := by
        rw [stop]
        exact hs.last trivial
      have hbefore : q.stop ≤ e.start := Nat.le_trans hlast hfront
      have hbehind : e.stop ≤ q'.start := by
        rw [hstart]
        exact hback
      have hnext : q.stop ≤ q'.start := by
        rw [hstart]
        exact Nat.le_trans hlast horder
      cases tail with
      | true =>
          cases h
          have hnone : TemplateParts t s'.start.index s'.start.index [] [] :=
            ⟨List.forall_mem_nil _, List.forall_mem_nil _, .nil (Nat.le_refl _)⟩
          exact ⟨hs₂, [q'], [e], Array.toList_push, Array.toList_push,
            (hnone.cons hfits' hleaf hfits'.le).between hfits,
            .more piece hbefore hbehind hnext (.last hq' hstop)⟩
      | false =>
          obtain ⟨hs', qs, es, hqs, hes, hparts, hrest⟩ := ih hs₂ hq' hstop h
          refine ⟨hs', q' :: qs, e :: es, ?_, ?_,
            (hparts.cons (hfits'.later hparts.expressions.le) hleaf hfits'.le).between hfits,
            .more piece hbefore hbehind hnext hrest⟩
          · rw [hqs, Array.toList_push, List.append_assoc, List.singleton_append]
          · rw [hes, Array.toList_push, List.append_assoc, List.singleton_append]

theorem Keeps.templateLiteral {t : Text} {w : Prop} {b : Nat} {g : Rules} (hg : g.ReadFrom t) :
    ReadsTree t w .tokens b (templateLiteral g) := by
  refine production fun s hs hb n s' h => ?_
  obtain ⟨_, _, hahead, h⟩ := ok_of_bind h
  cases hahead
  split at h
  · obtain ⟨_, _, hfail, -⟩ := ok_of_bind h
    cases hfail
  next hhead =>
  obtain ⟨_, _, hmark, h⟩ := ok_of_bind h
  cases hmark
  obtain ⟨⟨q, tail⟩, s₁, hpiece, h⟩ := ok_of_bind h
  obtain ⟨hq, hfits, hleaf, hstart, hstop, hs₁⟩ := templatePiece_ok hs hpiece
  have hopens : s.ahead.head = true := by simpa using hhead
  rw [hopens] at hq
  -- A template without interpolations is the case of no expressions.
  have hdone : ∀ {s₂ qs es}, s₂.StandsIn t True .tokens →
      TemplateParts t s₁.start.index s₂.start.index qs es →
      Interleaved t s₂.last.index true q qs es →
      ∀ n, Parser.node s.start.marker .templateLiteral
        (many .quasi (q :: qs) ++ many .expression es) s₂ = .ok n s' →
      s'.StandsIn t True .tokens ∧ b ≤ s'.start.index ∧ n.Fits t b s'.start.index := by
    intro s₂ qs es hs₂ hparts hinterleaved n h
    cases h
    have hall := (hparts.cons (hfits.later hparts.expressions.le) hleaf hfits.le).laid
    have hlaid := hall.behind hb
    exact ⟨hs₂, hlaid.le, .of_laid hlaid (.inr ⟨hb, hs₂.last trivial⟩)
      ⟨fun _ => ⟨q, qs, es, rfl, hstart, hinterleaved⟩, by rintro _ ⟨⟩⟩ (by rintro ⟨⟩)⟩
  cases tail with
  | true =>
      exact hdone hs₁ ⟨List.forall_mem_nil _, List.forall_mem_nil _, .nil (Nat.le_refl _)⟩
        (.last hq hstop) n h
  | false =>
      obtain ⟨res, s₂, hloop, h⟩ := ok_of_bind h
      obtain ⟨_, _, hget, hloop⟩ := ok_of_bind hloop
      cases hget
      obtain ⟨hs₂, qs, es, hqs, hes, hparts, hrest⟩ := templateTurns_ok hg hs₁ hq hstop hloop
      refine hdone hs₂ hparts hrest n ?_
      rw [← List.nil_append es, ← List.singleton_append (l := qs)]
      change Parser.node _ _ (many .quasi res.1.toList ++ many .expression res.2.toList) s₂ = _ at h
      rw [hqs, hes] at h
      exact h

/-! ## Classes -/

namespace Keeps

theorem memberHead (hg : g.ReadFrom t) :
    Keeps t w True .tokens .tokens b (memberHead g) fun e h => Row t b e h.key.toList := by
  refine look .ahead fun k => ite
    (fun _ => skip (discard next) fun _ => pure fun _ le => .nil le) fun _ =>
    look .sees fun _ => bind (propertyKey hg) fun _ key _ hkey => look .ahead fun _ =>
    bind (P := fun e (h : MemberHead) => Row t b e h.key.toList) ?_ fun _ h _ hh =>
      look .get fun _ => ite
        (fun _ => bind (propertyKey hg) fun _ _ le hkey => when (quiet .noteToken) <|
          pure fun _ le' => (Row.one (hkey.behind hh.le)).later le')
        fun _ => pure fun _ le => hh.later le
  exact ite
    (fun _ => ite (fun _ => skip (discard next) fun _ => pure fun _ le => (Row.one hkey).later le)
      fun _ => result (propertyKey hg) fun _ _ _ hkey' => .one (hkey'.behind hkey.le))
    fun _ => pure fun _ le => (Row.one hkey).later le

theorem memberValue (hg : g.ReadFrom t) {h : MemberHead} (hh : Row t b₀ b h.key.toList) :
    Keeps t True True .tokens .tokens b (memberValue g h) fun e x => Row t b₀ e [x.1, x.2.1] := by
  refine look .ahead fun _ => ite (fun _ => look .sees fun _ =>
      bind (propertyKey hg) fun _ _ _ hkey => look .modifyContext fun _ =>
      result (getter hg) fun _ _ _ hvalue => .cons (hkey.behind hh.le) (.one hvalue)) fun _ =>
    ite (fun _ => look .sees fun _ => bind (propertyKey hg) fun _ _ _ hkey =>
      result (setter hg) fun _ _ _ hvalue => .cons (hkey.behind hh.le) (.one hvalue)) fun _ =>
    ite (fun _ => look .sees fun _ => bind (propertyKey hg) fun _ _ _ hkey =>
      result (generatorMethod hg) fun _ _ _ hvalue => .cons (hkey.behind hh.le) (.one hvalue))
      fun _ => look .sees fun _ => ?_
  split
  · next key hkey =>
      have hfits : key.Fits t b₀ b := hh.parts key (by simp [hkey])
      exact join (asyncMethod hg) (plainMethod hg) fun _ _ _ hvalue =>
        pure fun _ le => (Row.cons hfits (.one hvalue)).later le
  · exact look .ahead fun _ => unexpected

theorem classMember (hg : g.ReadFrom t) {hasConstructor : Bool} :
    Keeps t w True .tokens .tokens b (classMember g hasConstructor) fun e x => x.1.Fits t b e := by
  refine production <| seq mark fun m hm => bind (memberHead hg) fun _ h _ hh =>
    bind (memberValue hg hh) fun e x _ hparts => ?_
  obtain ⟨key, value, computed, accessor⟩ := x
  have hfault : ∀ c, Quiet (do Parser.fail (← tokenProblem h.token c) : Parser Unit)
      fun _ => True := fun _ => .skip .tokenProblem fun _ => .fail
  have hlaid : Laid t _ e [(.key, key), (.value, value)] :=
    ⟨hparts, List.forall_mem_cons.mpr ⟨ne_callee, List.forall_mem_singleton.mpr ne_callee⟩⟩
  have hdone : ∀ {flag : Bool}, Keeps t True True .tokens .tokens e (do
      let n ← Parser.node m (.methodDefinition computed) [(.key, key), (.value, value)]
      return (n, flag)) fun e x => x.1.Fits t b e :=
    result (node hm hlaid rfl) fun _ _ _ hn => hn
  exact when (quiet (hfault _)) <| ite
    (fun _ => when (quiet (hfault _)) <| when (quiet (hfault _)) hdone) fun _ => hdone

theorem classMembers (hg : g.ReadFrom t) :
    Keeps t w True .tokens .tokens b (classMembers g) fun e l => Row t b e l :=
  production <| skip expect fun _ => bind
    (loop (I := fun e (acc : Array Node × Bool) => Row t b e acc.1.toList)
      (R := fun e l => Row t b e l) (fun _ le => .nil le) fun _ _ _ hacc =>
      look .sees fun _ => ite (fun _ => done fun _ le => hacc.later le) fun _ =>
      look .sees fun _ => ite
        (fun _ => skip (discard next) fun _ => again fun _ le => hacc.later le) fun _ =>
      bind (classMember hg) fun _ _ _ hn => again fun _ le => (hacc.push hn).later le)
    fun _ _ _ hacc => skip expect fun _ => pure fun _ le => hacc.later le

theorem classBody (hg : g.ReadFrom t) : ReadsTree t w .tokens b (classBody g) :=
  production <| seq mark fun _ hm => bind (classMembers hg) fun _ _ _ hmembers =>
    node hm (.many hmembers) rfl

theorem classTail (hg : g.ReadFrom t) {heritage : Parser Node} {named : Parser Bool} {kind : Kind}
    (inherits : ∀ e, ReadsTree t True .tokens e heritage) (test : Quiet named fun _ => True)
    (plain : kind.isPlain = true) :
    ReadsTree t w .tokens b (classTail g heritage named kind) :=
  production <| seq mark fun _ hm => look .context fun _ => look .modifyContext fun _ =>
    skip expectWord fun _ => look test fun _ => perhaps bindingName.tree fun _ _ _ hid =>
    bind (P := fun e (o : Option Node) => Row t _ e o.toList)
      (look .seesWord fun _ => ite
        (fun _ => skip (discard next) fun _ => given (isolate (inherits _)))
        fun _ => pure fun _ le => .nil le)
      fun _ _ _ hparent => bind (classBody hg) fun _ _ _ hbody => look .modifyContext fun _ =>
        node hm (((Laid.optional hid).append (.optional hparent)).append (.one hbody)) plain

theorem classDeclaration (hg : g.ReadFrom t) {heritage : Parser Node} {nameless : Bool}
    (inherits : ∀ e, ReadsTree t True .tokens e heritage) :
    ReadsTree t w .tokens b (classDeclaration g heritage nameless) :=
  classTail hg inherits (.skip .ahead fun _ => .ret trivial) rfl

theorem classExpression (hg : g.ReadFrom t) {heritage : Parser Node}
    (inherits : ∀ e, ReadsTree t True .tokens e heritage) :
    ReadsTree t w .tokens b (classExpression g heritage) :=
  classTail hg inherits (.skip .ahead fun _ => .ret trivial) rfl

end Keeps

end Readiness.Script
