import Readiness.Proofs.CursorSteps
import Readiness.Proofs.TemplateLayout

/-!
# Where the nodes of a tree stand

A tree that was read between two places of a text has all its nodes between them, save those that
cover nothing of their own. `Node.Fits` says so of a tree, and `Row` of trees that were read one
after the other. Of two trees that were read one after the other, only one that covers nothing
starts where the other does; where the parser makes two nodes of the same characters, the first of
them is a leaf. An expression that turns out to be a pattern stands where it stood. No node has two
callees: only calls have any, and `Laid` says of the parts of all other nodes that they are none.
A string is written with its quotes, and the parts of a block stand between its braces.
-/

namespace Readiness.Script

variable {t : Text} {b b' m e e' : Nat} {n n' : Node} {ns ns' : List Node}
  {cs cs' : List (Role × Node)} {role role' : Role}

/-! ## Siblings -/

/-- Of two siblings that cover the same, the first is a leaf. -/
def Node.LeafTwin (n n' : Node) : Prop :=
  n.start < n.stop → n'.start = n.start → n'.stop = n.stop → n.children = []

/-- A node that takes the place of another: it covers the same, and is a leaf if the other is. -/
structure Node.Replaces (n' n : Node) : Prop where
  span : n'.span = n.span
  leaf : n.children = [] → n'.children = []

theorem Node.Replaces.refl (n : Node) : n.Replaces n := ⟨rfl, id⟩

theorem Node.LeafTwin.replace {m m' : Node} (h : n.LeafTwin m) (hn : n'.Replaces n)
    (hm : m'.Replaces m) : n'.LeafTwin m' := by
  have hstart : n'.start = n.start := congrArg Span.start hn.span
  have hstop : n'.stop = n.stop := congrArg Span.stop hn.span
  have hstart' : m'.start = m.start := congrArg Span.start hm.span
  have hstop' : m'.stop = m.stop := congrArg Span.stop hm.span
  intro hcovers hsame hsame'
  rw [hstart, hstop] at hcovers
  rw [hstart, hstart'] at hsame
  rw [hstop, hstop'] at hsame'
  exact hn.leaf (h hcovers hsame hsame')

/-! ## Trees -/

/-- Whether a role is that of a callee. -/
@[reducible]
def Role.isCallee : Role → Bool
  | .callee => true
  | _ => false

/-- A test that fails. For a closed one this is seen by evaluation. -/
class Fails (test : Bool) : Prop where
  fails : test = false

instance : Fails false := ⟨rfl⟩

theorem ne_callee [h : Fails role.isCallee] : role ≠ .callee := by
  rintro rfl
  exact Bool.noConfusion h.fails

/-- How many of the parts of a node are callees. -/
def callees (cs : List (Role × Node)) : Nat := cs.countP fun c => c.1 == .callee

theorem callees_map (f : Role × Node → Node) (cs : List (Role × Node)) :
    callees (cs.map fun c => (c.1, f c)) = callees cs :=
  List.countP_map

mutual

/-- Whether no node of a tree has two callees. -/
def Node.hasOneCallee : Node → Bool
  | .mk _ _ children => decide (callees children ≤ 1) && Node.haveOneCallee children

/-- Whether no node of the children has. -/
def Node.haveOneCallee : List (Role × Node) → Bool
  | [] => true
  | (_, c) :: more => c.hasOneCallee && Node.haveOneCallee more

end

theorem Node.haveOneCallee_of_forall {cs : List (Role × Node)}
    (h : ∀ c ∈ cs, c.2.hasOneCallee = true) : Node.haveOneCallee cs = true := by
  induction cs with
  | nil => rw [Node.haveOneCallee]
  | cons c more ih =>
      obtain ⟨hc, hmore⟩ := List.forall_mem_cons.mp h
      rw [Node.haveOneCallee, hc, ih hmore, Bool.and_self]

theorem Node.hasOneCallee_mk {kind : Kind} {span : Span} {cs : List (Role × Node)}
    (one : callees cs ≤ 1) (parts : ∀ c ∈ cs, c.2.hasOneCallee = true) :
    (Node.mk kind span cs).hasOneCallee = true := by
  rw [Node.hasOneCallee, decide_eq_true one, Node.haveOneCallee_of_forall parts, Bool.and_self]

/-- Whether a node stands for parameters that wait for their arrow; it covers nothing of its own. -/
def Node.awaitsArrow (n : Node) : Bool :=
  match n.kind with
  | .arrowParameters _ => true
  | _ => false

/-- The kinds of nodes that cover something of their own and may be written in any way. -/
def Kind.isPlain : Kind → Bool
  | .templateLiteral | .literal (.string _) | .block | .arrowParameters _ => false
  | _ => true

theorem Kind.ne_block_of_isPlain {kind : Kind} (h : kind.isPlain = true) : kind ≠ .block := by
  rintro rfl
  cases h

/-- A part of a text starts with a quote and ends with it, or with the text. -/
structure Delimited (t : Text) (quote : CodePoint) (start stop : Nat) : Prop where
  lt : start < stop
  within : stop ≤ t.length
  first : t[start]? = some quote
  last : t[stop - 1]? = some quote ∨ stop = t.length

theorem IsTemplate.delimited {span : Span} (h : IsTemplate t span cs) :
    Delimited t (opener true) span.start span.stop := by
  obtain ⟨q, qs, es, -, hstart, hlaid⟩ := h
  obtain ⟨tail, hpiece⟩ := hlaid.first
  obtain ⟨hlast, hwithin⟩ := hlaid.getElem?_stop
  rw [← hstart]
  exact ⟨hlaid.start_lt, hwithin, hpiece.getElem?_start, .inl hlast⟩

/-- A string of a text. -/
def IsQuoted (t : Text) (start stop : Nat) : Prop :=
  ∃ quote ∈ stringQuotes, Delimited t quote start stop

theorem QuotedAt.isQuoted {c after : Cursor} (h : QuotedAt c after) (here : Cursor.Along t 0 c) :
    IsQuoted t c.index after.index := by
  obtain ⟨q, hq, r, hrest, hend⟩ := h
  obtain ⟨passed, rfl, hindex⟩ := here
  rw [Nat.zero_add] at hindex
  have hfirst : (passed ++ c.rest)[c.index]? = some q := by
    rw [hindex, List.getElem?_append_right (Nat.le_refl _), Nat.sub_self, hrest]
    rfl
  rcases hend with ⟨body, rfl, hstop⟩ | ⟨⟨body, hr, hstop⟩, hnil⟩
  · rw [List.length_singleton] at hstop
    have hplace : after.index - 1 - passed.length = body.length + 1 := by omega
    have hlast : (passed ++ c.rest)[after.index - 1]? = some q := by
      rw [hrest, List.getElem?_append_right (by omega), hplace, List.getElem?_cons_succ,
        List.getElem?_append_right (Nat.le_refl _), Nat.sub_self]
      rfl
    refine ⟨q, hq, by omega, ?_, hfirst, .inl hlast⟩
    rw [hrest, List.length_append, List.length_cons, List.length_append, List.length_append,
      List.length_singleton]
    omega
  · rw [hnil, List.append_nil] at hr
    have hlength : after.index = (passed ++ c.rest).length := by
      rw [hrest, hr, List.length_append, List.length_cons]
      omega
    exact ⟨q, hq, by omega, Nat.le_of_eq hlength, hfirst, .inr hlength⟩

/-- What nodes of some kinds are written with: a template with its pieces, a string with its
quotes. -/
structure IsWritten (t : Text) (kind : Kind) (span : Span) (children : List (Role × Node)) :
    Prop where
  template : kind = .templateLiteral → IsTemplate t span children
  string : ∀ v, kind = .literal (.string v) → IsQuoted t span.start span.stop

theorem IsWritten.of_isPlain {kind : Kind} (h : kind.isPlain = true) (span : Span)
    (cs : List (Role × Node)) : IsWritten t kind span cs := by
  refine ⟨?_, fun v => ?_⟩
  · rintro rfl
    cases h
  · rintro rfl
    cases h

theorem awaitsArrow_of_isPlain {kind : Kind} (h : kind.isPlain = true) (span : Span)
    (cs : List (Role × Node)) : (Node.mk kind span cs).awaitsArrow = false := by
  rw [Node.awaitsArrow.eq_def]
  split
  · next hkind =>
      rw [show kind = _ from hkind] at h
      cases h
  · rfl

/-- A tree that was read from a text between two places. Every node of it stands between them,
unless it waits for an arrow and covers nothing, and the parts of a block stand between its braces.
Templates and strings are written as such, of siblings that cover the same the first is a leaf, and
one of them at most is a callee. -/
inductive Node.Fits (t : Text) : Nat → Nat → Node → Prop
  | mk {b e : Nat} {kind : Kind} {span : Span} {children : List (Role × Node)} (le : b ≤ e)
      (covers : (Node.mk kind span children).awaitsArrow = true ∧ span.stop ≤ span.start ∨
        b ≤ span.start ∧ span.stop ≤ e)
      (own : IsWritten t kind span children)
      (inner : kind = .block → ∀ c ∈ children, Node.Fits t (span.start + 1) (span.stop - 1) c.2)
      (parts : ∀ c ∈ children, Node.Fits t b e c.2)
      (twins : children.Pairwise fun c c' => c.2.LeafTwin c'.2) (one : callees children ≤ 1) :
      Node.Fits t b e (.mk kind span children)

/-- Trees that were read from a text between two places. -/
structure Row (t : Text) (b e : Nat) (ns : List Node) : Prop where
  le : b ≤ e
  parts : ∀ n ∈ ns, n.Fits t b e
  twins : ns.Pairwise Node.LeafTwin

/-- The parts of a node that is no call, read from a text between two places. -/
structure Laid (t : Text) (b e : Nat) (cs : List (Role × Node)) : Prop where
  row : Row t b e (cs.map Prod.snd)
  others : ∀ c ∈ cs, c.1 ≠ .callee

namespace Node.Fits

theorem le (h : n.Fits t b e) : b ≤ e := by
  cases h with
  | mk le => exact le

theorem mono (h : n.Fits t b e) (hb : b' ≤ b) (he : e ≤ e') : n.Fits t b' e' := by
  induction h with
  | mk le covers own inner _ twins one _ ih =>
      exact .mk (Nat.le_trans hb (Nat.le_trans le he))
        (covers.imp_right fun h => ⟨Nat.le_trans hb h.1, Nat.le_trans h.2 he⟩) own inner
        (fun c hc => ih c hc hb he) twins one

theorem later (h : n.Fits t b e) (he : e ≤ e') : n.Fits t b e' := h.mono (Nat.le_refl _) he

theorem behind (h : n.Fits t b e) (hb : b' ≤ b) : n.Fits t b' e := h.mono hb (Nat.le_refl _)

theorem lies (h : n.Fits t b e) : n.LiesIn t := by
  induction h with
  | mk _ _ own _ _ _ _ _ ih => exact .mk own.template ih

theorem hasOneCallee (h : n.Fits t b e) : n.hasOneCallee = true := by
  induction h with
  | mk _ _ _ _ _ _ one _ ih => exact Node.hasOneCallee_mk one ih

/-- A node that waits for no arrow stands between the two places. -/
theorem settled (h : n.Fits t b e) (plain : n.awaitsArrow = false) : b ≤ n.start ∧ n.stop ≤ e := by
  cases h with
  | mk _ covers =>
      refine covers.resolve_left fun h => ?_
      rw [plain] at h
      exact Bool.false_ne_true h.1

theorem covers (h : n.Fits t b e) (covers : n.start < n.stop) : b ≤ n.start ∧ n.stop ≤ e := by
  cases h with
  | mk _ hcovers => exact hcovers.resolve_left fun h => Nat.not_lt_of_le h.2 covers

theorem part (h : n.Fits t b e) {c : Role × Node} (mem : c ∈ n.children) : c.2.Fits t b e := by
  cases h with
  | mk _ _ _ _ parts => exact parts c mem

theorem braced (h : n.Fits t b e) (block : n.kind = .block) {c : Role × Node}
    (mem : c ∈ n.children) : c.2.Fits t (n.start + 1) (n.stop - 1) := by
  cases h with
  | mk _ _ _ inner => exact inner block c mem

theorem quoted (h : n.Fits t b e) {v : Text} (string : n.string? = some v) :
    IsQuoted t n.start n.stop := by
  cases h with
  | mk _ _ own =>
      rw [Node.string?] at string
      split at string
      · next hkind => exact own.string _ hkind
      · cases string

theorem twins (h : n.Fits t b e) : n.children.Pairwise fun c c' => c.2.LeafTwin c'.2 := by
  cases h with
  | mk _ _ _ _ _ twins => exact twins

theorem one (h : n.Fits t b e) : callees n.children ≤ 1 := by
  cases h with
  | mk _ _ _ _ _ _ one => exact one

theorem row (h : n.Fits t b e) : Row t b e (n.children.map Prod.snd) := by
  refine ⟨h.le, fun n' mem => ?_, List.pairwise_map.mpr h.twins⟩
  obtain ⟨c, hc, rfl⟩ := List.mem_map.mp mem
  exact h.part hc

/-- Of two trees that were read one after the other, only one that covers nothing starts where the
other does. -/
theorem twin (h : n.Fits t b m) (h' : n'.Fits t m e) : n.LeafTwin n' := by
  intro hcovers hstart hstop
  have hfront := (h.covers hcovers).2
  have hback := (h'.covers (by omega)).1
  omega

end Node.Fits

/-! ## Rows -/

namespace Row

theorem nil (le : b ≤ e) : Row t b e [] := ⟨le, List.forall_mem_nil _, .nil⟩

theorem mono (h : Row t b e ns) (hb : b' ≤ b) (he : e ≤ e') : Row t b' e' ns :=
  ⟨Nat.le_trans hb (Nat.le_trans h.le he), fun n hn => (h.parts n hn).mono hb he, h.twins⟩

theorem later (h : Row t b e ns) (he : e ≤ e') : Row t b e' ns := h.mono (Nat.le_refl _) he

theorem behind (h : Row t b e ns) (hb : b' ≤ b) : Row t b' e ns := h.mono hb (Nat.le_refl _)

theorem one (h : n.Fits t b e) : Row t b e [n] :=
  ⟨h.le, List.forall_mem_singleton.mpr h, List.pairwise_singleton _ _⟩

theorem append (h : Row t b m ns) (h' : Row t m e ns') : Row t b e (ns ++ ns') where
  le := Nat.le_trans h.le h'.le
  parts := List.forall_mem_append.mpr
    ⟨(h.later h'.le).parts, (h'.behind h.le).parts⟩
  twins := List.pairwise_append.mpr
    ⟨h.twins, h'.twins, fun n hn n' hn' => (h.parts n hn).twin (h'.parts n' hn')⟩

theorem cons (h : n.Fits t b m) (h' : Row t m e ns) : Row t b e (n :: ns) := (one h).append h'

theorem push {acc : Array Node} (h : Row t b m acc.toList) (hn : n.Fits t m e) :
    Row t b e (acc.push n).toList := by
  rw [Array.toList_push]
  exact h.append (one hn)

/-- Leaves may stand anywhere. -/
theorem leaves (leaves : ∀ n ∈ ns, n.children = []) (h : ∀ n ∈ ns, n.Fits t b e)
    (h' : Row t b e ns') : Row t b e (ns ++ ns') where
  le := h'.le
  parts := List.forall_mem_append.mpr ⟨h, h'.parts⟩
  twins := by
    have hleaf : ∀ n ∈ ns, ∀ n', n.LeafTwin n' := fun n hn n' _ _ _ => leaves n hn
    refine List.pairwise_append.mpr ⟨?_, h'.twins, fun n hn n' _ => hleaf n hn n'⟩
    exact List.pairwise_of_forall_mem_list fun n hn n' _ => hleaf n hn n'

theorem sublist (h : Row t b e ns) (sub : ns'.Sublist ns) : Row t b e ns' :=
  ⟨h.le, fun n hn => h.parts n (sub.subset hn), h.twins.sublist sub⟩

/-- Nodes that take the places of others stand in a row as the others do. -/
theorem map {f : Node → Node} (h : Row t b e ns)
    (fits : ∀ n ∈ ns, n.Fits t b e → (f n).Fits t b e) (replaces : ∀ n, (f n).Replaces n) :
    Row t b e (ns.map f) where
  le := h.le
  parts := List.forall_mem_map.mpr fun n hn => fits n hn (h.parts n hn)
  twins := List.pairwise_map.mpr (h.twins.imp fun htwin => htwin.replace (replaces _) (replaces _))

end Row

theorem fields_sublist (n : Node) (r : Role) : (n.fields r).Sublist (n.children.map Prod.snd) := by
  have hfields : n.fields r = (n.children.filter fun c => c.1 = r).map Prod.snd := by
    rw [Node.fields, ← List.filterMap_eq_filter, List.map_filterMap]
    simp [Option.guard, apply_ite]
  rw [hfields]
  exact List.filter_sublist.map _

theorem Node.Fits.fields (h : n.Fits t b e) (r : Role) : Row t b e (n.fields r) :=
  Row.sublist h.row (fields_sublist n r)

theorem map_snd_many (role : Role) (ns : List Node) :
    (Parser.many role ns).map Prod.snd = ns := by
  rw [Parser.many, List.map_map]
  exact List.map_id ns

namespace Laid

theorem le (h : Laid t b e cs) : b ≤ e := h.row.le

theorem later (h : Laid t b e cs) (he : e ≤ e') : Laid t b e' cs := ⟨h.row.later he, h.others⟩

theorem behind (h : Laid t b e cs) (hb : b' ≤ b) : Laid t b' e cs := ⟨h.row.behind hb, h.others⟩

theorem nil (le : b ≤ e) : Laid t b e [] := ⟨Row.nil le, List.forall_mem_nil _⟩

theorem append (h : Laid t b m cs) (h' : Laid t m e cs') : Laid t b e (cs ++ cs') where
  row := by
    rw [List.map_append]
    exact h.row.append h'.row
  others := List.forall_mem_append.mpr ⟨h.others, h'.others⟩

section Roles

variable [Fails role.isCallee] [Fails role'.isCallee]

theorem cons (h : n.Fits t b m) (h' : Laid t m e cs) : Laid t b e ((role, n) :: cs) :=
  ⟨Row.cons h h'.row, List.forall_mem_cons.mpr ⟨ne_callee, h'.others⟩⟩

theorem one (h : n.Fits t b e) : Laid t b e [(role, n)] := cons h (nil (Nat.le_refl e))

theorem two (h : n.Fits t b m) (h' : n'.Fits t m e) : Laid t b e [(role, n), (role', n')] :=
  cons h (one h')

theorem pair (h : n.Fits t b e) (h' : n'.Fits t b e) (twin : n.LeafTwin n') :
    Laid t b e [(role, n), (role', n')] where
  row := ⟨h.le, List.forall_mem_cons.mpr ⟨h, List.forall_mem_singleton.mpr h'⟩,
    List.pairwise_pair.mpr twin⟩
  others := List.forall_mem_cons.mpr ⟨ne_callee, List.forall_mem_singleton.mpr ne_callee⟩

theorem twins (leaf : n.children = []) (h : n.Fits t b e) (h' : n'.Fits t b e) :
    Laid t b e [(role, n), (role', n')] :=
  pair h h' fun _ _ _ => leaf

theorem many_others (ns : List Node) : ∀ c ∈ Parser.many role ns, c.1 ≠ .callee := by
  rw [Parser.many, List.forall_mem_map]
  exact fun _ _ => ne_callee

theorem optional_others (o : Option Node) : ∀ c ∈ Parser.optional role o, c.1 ≠ .callee := by
  cases o with
  | none => exact List.forall_mem_nil _
  | some n => exact List.forall_mem_singleton.mpr ne_callee

theorem many (h : Row t b e ns) : Laid t b e (Parser.many role ns) := by
  refine ⟨?_, many_others ns⟩
  rw [map_snd_many]
  exact h

theorem optional {o : Option Node} (h : Row t b e o.toList) :
    Laid t b e (Parser.optional role o) := by
  cases o with
  | none => exact nil h.le
  | some n => exact one (h.parts n (List.mem_singleton_self n))

end Roles

end Laid

theorem callees_eq_zero (h : ∀ c ∈ cs, c.1 ≠ .callee) : callees cs = 0 :=
  List.countP_eq_zero.mpr fun c hc heq => h c hc (eq_of_beq heq)

theorem callees_called (n : Node) (args : List Node) :
    callees ((.callee, n) :: Parser.many .argument args) = 1 := by
  rw [callees, List.countP_cons, if_pos (beq_self_eq_true Role.callee), ← callees,
    callees_eq_zero (Laid.many_others args)]

/-- A node whose parts are laid out between two places fits between them as soon as its own ends
do. -/
theorem Node.Fits.of_row {kind : Kind} {span : Span} (parts : Row t b e (cs.map Prod.snd))
    (covers : b ≤ span.start ∧ span.stop ≤ e) (one : callees cs ≤ 1) (plain : kind.isPlain = true) :
    (Node.mk kind span cs).Fits t b e :=
  .mk parts.le (.inr covers) (.of_isPlain plain span cs)
    (fun h => absurd h (Kind.ne_block_of_isPlain plain)) (List.forall_mem_map.mp parts.parts)
    (List.pairwise_map.mp parts.twins) one

theorem Laid.callees_le (h : Laid t b e cs) : callees cs ≤ 1 := by
  rw [callees_eq_zero h.others]
  exact Nat.zero_le 1

theorem Node.Fits.of_laid {kind : Kind} {span : Span} (parts : Laid t b e cs)
    (covers : (Node.mk kind span cs).awaitsArrow = true ∧ span.stop ≤ span.start ∨
      b ≤ span.start ∧ span.stop ≤ e) (own : IsWritten t kind span cs)
    (inner : kind = .block → ∀ c ∈ cs, c.2.Fits t (span.start + 1) (span.stop - 1)) :
    (Node.mk kind span cs).Fits t b e :=
  .mk parts.le covers own inner (List.forall_mem_map.mp parts.row.parts)
    (List.pairwise_map.mp parts.row.twins) parts.callees_le

/-! ## Patterns -/

/-- A property of an object as one of a pattern. -/
def Node.asProperty : Node → Node
  | .mk kind span children =>
    match kind with
    | .property _ => .mk kind span (asValues children)
    | .spreadElement => .mk .restElement span (asPatterns children)
    | _ => .mk kind span children

theorem asPatterns_eq_map (cs : List (Role × Node)) :
    asPatterns cs = cs.map fun c => (c.1, c.2.asPattern) := by
  induction cs with
  | nil => rw [asPatterns, List.map_nil]
  | cons c cs ih => rw [asPatterns, ih, List.map_cons]

theorem asValues_eq_map (cs : List (Role × Node)) :
    asValues cs = cs.map fun c => (c.1, if c.1 = .value then c.2.asPattern else c.2) := by
  induction cs with
  | nil => rw [asValues, List.map_nil]
  | cons c cs ih => rw [asValues, ih, List.map_cons]

theorem asTargets_eq_map (cs : List (Role × Node)) :
    asTargets cs = cs.map fun c => (c.1, if c.1 = .left then c.2.asPattern else c.2) := by
  induction cs with
  | nil => rw [asTargets, List.map_nil]
  | cons c cs ih => rw [asTargets, ih, List.map_cons]

theorem asProperties_eq_map (cs : List (Role × Node)) :
    asProperties cs = cs.map fun c => (c.1, c.2.asProperty) := by
  induction cs with
  | nil => rw [asProperties, List.map_nil]
  | cons c cs ih =>
      obtain ⟨r, kind, span, children⟩ := c
      rw [asProperties.eq_def, List.map_cons, ← ih]
      dsimp only
      split
      · rfl
      · rfl
      · next hproperty hspread =>
          rw [Node.asProperty.eq_def]
          dsimp only
          split
          · exact (hproperty _ rfl).elim
          · exact (hspread rfl).elim
          · rfl

theorem span_asPattern (n : Node) : n.asPattern.span = n.span := by
  obtain ⟨kind, span, children⟩ := n
  rw [Node.asPattern.eq_def]
  dsimp only
  split <;> rfl

theorem replaces_asPattern (n : Node) : n.asPattern.Replaces n := by
  obtain ⟨kind, span, children⟩ := n
  refine ⟨span_asPattern _, fun h => ?_⟩
  obtain rfl : children = [] := h
  rw [Node.asPattern.eq_def]
  dsimp only
  split
  · exact asPatterns_eq_map []
  · exact asPatterns_eq_map []
  · exact asProperties_eq_map []
  · exact asTargets_eq_map []
  · rfl

theorem replaces_asProperty (n : Node) : n.asProperty.Replaces n := by
  obtain ⟨kind, span, children⟩ := n
  rw [Node.asProperty.eq_def]
  dsimp only
  split
  · exact ⟨rfl, fun h => by obtain rfl : children = [] := h; exact asValues_eq_map []⟩
  · exact ⟨rfl, fun h => by obtain rfl : children = [] := h; exact asPatterns_eq_map []⟩
  · exact .refl _

/-- The node that a change of parts leaves fits where the node before it did. -/
theorem Node.Fits.recast {kind kind' : Kind} {span : Span} {f : Role × Node → Node}
    (h : (Node.mk kind span cs).Fits t b e) (plain : kind.isPlain = true)
    (plain' : kind'.isPlain = true) (fits : ∀ c ∈ cs, (f c).Fits t b e)
    (replaces : ∀ c, (f c).Replaces c.2) :
    (Node.mk kind' span (cs.map fun c => (c.1, f c))).Fits t b e := by
  refine .of_row ⟨h.le, ?_, ?_⟩ (h.settled (awaitsArrow_of_isPlain plain _ _)) ?_ plain'
  · rw [List.map_map]
    exact List.forall_mem_map.mpr fits
  · rw [List.map_map]
    exact List.pairwise_map.mpr
      (h.twins.imp fun htwin => htwin.replace (replaces _) (replaces _))
  · rw [callees_map]
    exact h.one

theorem Node.Fits.asPattern_and (h : n.Fits t b e) :
    n.asPattern.Fits t b e ∧ n.asProperty.Fits t b e := by
  induction h with
  | @mk b e kind span children le covers own inner parts twins one _ ih =>
      have hn : (Node.mk kind span children).Fits t b e := .mk le covers own inner parts twins one
      have hwhere : ∀ r, ∀ c ∈ children,
          Node.Fits t b e (if c.1 = r then c.2.asPattern else c.2) := by
        intro r c hc
        split
        · exact (ih c hc).1
        · exact parts c hc
      have hreplaces : ∀ (r : Role) (c : Role × Node),
          Node.Replaces (if c.1 = r then c.2.asPattern else c.2) c.2 := by
        intro r c
        split
        · exact replaces_asPattern _
        · exact .refl _
      have hpatterns : ∀ {kind' : Kind}, kind.isPlain = true → kind'.isPlain = true →
          (Node.mk kind' span (asPatterns children)).Fits t b e := by
        intro kind' hplain hplain'
        rw [asPatterns_eq_map]
        exact hn.recast hplain hplain' (fun c hc => (ih c hc).1) fun _ => replaces_asPattern _
      constructor
      · rw [Node.asPattern.eq_def]
        dsimp only
        split
        · exact hpatterns rfl rfl
        · exact hpatterns rfl rfl
        · rw [asProperties_eq_map]
          exact hn.recast rfl rfl (fun c hc => (ih c hc).2) fun _ => replaces_asProperty _
        · rw [asTargets_eq_map]
          exact hn.recast rfl rfl (hwhere _) (hreplaces _)
        · exact hn
      · rw [Node.asProperty.eq_def]
        dsimp only
        split
        · rw [asValues_eq_map]
          exact hn.recast rfl rfl (hwhere _) (hreplaces _)
        · exact hpatterns rfl rfl
        · exact hn

/-- An expression that turned out to be a pattern fits where it did. -/
theorem Node.Fits.asPattern (h : n.Fits t b e) : n.asPattern.Fits t b e := h.asPattern_and.1

theorem Row.asPatterns (h : Row t b e ns) : Row t b e (ns.map Node.asPattern) :=
  h.map (fun _ _ hn => hn.asPattern) replaces_asPattern

end Readiness.Script
