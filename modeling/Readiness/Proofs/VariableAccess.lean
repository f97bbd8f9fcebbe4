import Readiness.Proofs.ExpressionReading

/-!
# Reading the variable of a secret

What takes the place of a secret is `process.env.` with the name of a variable behind it. The first
part is about paths of plain names: whatever may follow an expression inside of brackets, the
parser reads the whole path as one expression, a member of a member (`reads_path`). The names of
variables are plain names, so this holds of every read that a repair can put in (`reads_variable`).

The second part is about finding the name, which can break down. A property's key that is a whole
number is written in decimal digits, and a number with too many of them is not written at all. This
happens to the key of the property that the secret goes to, and to the other keys of an object that
has a password. Nothing else is in the way of a name (`environmentVariable_total`).
-/

namespace Readiness.Script

open Readiness.Script.Parser

/-! ## Paths of names -/

/-- Names behind dots. -/
def dotted : List Text → Text
  | [] => []
  | name :: more => '.' :: (name ++ dotted more)

/-- The property of a name that is accessed of an expression. -/
def memberTree (object : Node) (name : Text) : Node :=
  .mk (.member false) default
    [(.memberObject, object), (.memberProperty, .mk (.identifier name) default [])]

theorem PlainName.solid {name : Text} (h : PlainName name) (r : Text) : Solid (name ++ r) := by
  obtain ⟨x, more, rfl, hx⟩ := h.start
  exact solid_identifier hx _

theorem not_point_or_digit {x : CodePoint} (h : isIdentifierStart x = true) :
    x ≠ '.' ∧ x.isDigit = false := by
  have hnone : ∀ n ∈ List.range' 46 12, isIdentifierStart (.ofNat n) = false := by decide
  have hout : x.toNat ∉ List.range' 46 12 := by
    intro hmem
    have hno := hnone _ hmem
    rw [CodePoint.ofNat_toNat, h] at hno
    cases hno
  constructor
  · rintro rfl
    exact hout (by decide)
  · cases x with
    | surrogate n => rfl
    | char x =>
        rw [CodePoint.isDigit, Bool.eq_false_iff]
        intro hdigit
        refine hout (List.mem_range'_1.mpr ?_)
        simp only [Char.isDigit, Bool.and_eq_true, decide_eq_true_eq] at hdigit
        have hlow : 48 ≤ x.toNat := hdigit.1
        have hhigh : x.toNat ≤ 57 := hdigit.2
        exact ⟨Nat.le_trans (by decide) hlow, Nat.lt_succ_of_le hhigh⟩

theorem lexes_dot {x : CodePoint} (h : isIdentifierStart x = true) (b : List Brace) (r : Text) :
    Lexes (fun k => k.kind = .punctuator ∧ k.value = ".") b ('.' :: x :: r) b (x :: r) := by
  rintro ⟨rest, index, line, lineStart⟩ hc
  cases hc
  obtain ⟨hpoint, hdigit⟩ := not_point_or_digit h
  have hpunctuator : punctuator? ('.' :: x :: r) = some "." := by
    rw [punctuator?]
    · rfl
    · intro more _ hmore
      exact hpoint (List.cons.inj hmore).1
  have hlex : lex ⟨'.' :: x :: r, index, line, lineStart⟩ b =
      .ok ⟨Token.between .punctuator "." ⟨'.' :: x :: r, index, line, lineStart⟩
        ⟨x :: r, index + 1, line, lineStart⟩, ⟨x :: r, index + 1, line, lineStart⟩, b, []⟩ := by
    have hlex : lex ⟨'.' :: x :: r, index, line, lineStart⟩ b =
        lexPunctuator ⟨'.' :: x :: r, index, line, lineStart⟩ b := by
      change (if x.isDigit then _ else _) = _
      rw [hdigit]
      rfl
    rw [hlex, lexPunctuator, hpunctuator]
    rfl
  refine ⟨_, hlex, rfl, Nat.lt_succ_self index, fun strict => ?_, rfl, rfl⟩
  rw [Token.seen_of_ne fun h => by cases h]
  exact ⟨rfl, rfl⟩

section Paths

variable {c : Context} {b : List Brace} {r : Text} {path : List Text}

/-- No name goes on and nothing is skipped where a path goes on or ends. -/
theorem dotted_boundary (names : ∀ name ∈ path, PlainName name) (ends : Ends b r) :
    EndsName (dotted path ++ r) ∧ Solid (dotted path ++ r) ∧
      Begins (fun k => k.isPunct "(" = false) b (dotted path ++ r) := by
  cases path with
  | nil => exact ⟨ends.endsName, ends.solid, ends.begins.imp fun k hk => hk.isPunct (by decide)⟩
  | cons name more =>
      obtain ⟨x, w, rfl, hx⟩ := (names name List.mem_cons_self).start
      refine ⟨?_, solid_cons (by decide) rfl rfl _, ?_⟩
      · rintro y ⟨⟩
        rfl
      · refine (lexes_dot hx b _).begins.imp fun k hk => ?_
        rw [Token.isPunct, hk.2]
        exact Bool.and_false _

theorem takes_anyName {name t : Text} {Q : Token → Prop} {room : Nat} (h : PlainName name)
    (stop : EndsName t) (solid : Solid t) (begins : Begins Q b t) :
    Takes ⟨c, b, name ++ t⟩ ⟨c, b, t⟩ room anyName
      fun e => e.shape = .mk (.identifier name) default [] := by
  have hlex := lexes_word (b := b) h stop
  refine Takes.bind Takes.mark fun m _ => ?_
  refine Takes.bind (Takes.next (k := 0) hlex solid begins
    (List.sublist_append_right name t).length_le) fun k hk => ?_
  have hname : k.isAnyName = true := by
    rw [Token.isAnyName, hk.1]
    rfl
  rw [hname, hk.2]
  exact Takes.node fun span => rfl

/-- A dot and a name behind an expression are an access of it. -/
theorem takes_access {g : Rules} {room : Nat} {name : Text}
    (names : ∀ n ∈ name :: path, PlainName n) (ends : Ends b r) {m : Marker} {e tree : Node}
    (h : e.shape = tree) :
    Takes ⟨c, b, dotted (name :: path) ++ r⟩ ⟨c, b, dotted path ++ r⟩ room (access? g m e)
      fun o => ∃ e', o = some e' ∧ e'.shape = memberTree tree name := by
  obtain ⟨hname, hpath⟩ := List.forall_mem_cons.mp names
  obtain ⟨hstop, hsolid, hbegins⟩ := dotted_boundary hpath ends
  obtain ⟨x, w, hcons, hx⟩ := hname.start
  have hdot : Lexes (fun k => k.kind = .punctuator ∧ k.value = ".") b
      (dotted (name :: path) ++ r) b (name ++ (dotted path ++ r)) := by
    rw [dotted, List.cons_append, List.append_assoc, hcons]
    exact lexes_dot hx b _
  have hmember := (lexes_word (b := b) hname hstop).begins
  have hpoint : Lexes (fun k => k.isPunct "." = true) b (dotted (name :: path) ++ r) b
      (name ++ (dotted path ++ r)) := hdot.imp fun k hk => by
    rw [Token.isPunct, hk.1, hk.2]
    rfl
  refine Takes.bind (Takes.ahead hpoint.begins) fun k hk => ?_
  rw [hk]
  refine Takes.bind (Takes.modifyContext (fun _ => rfl) fun _ h => h) fun _ _ => ?_
  refine Takes.bind (y := ⟨c, b, name ++ (dotted path ++ r)⟩)
    (Takes.expect (k := 0) hpoint (hname.solid _) hmember ?_) fun _ _ => ?_
  · rw [dotted, List.cons_append, List.append_assoc]
    exact Nat.le_succ _
  refine Takes.bind (takes_anyName hname hstop hsolid hbegins) fun property hproperty => ?_
  refine Takes.bind (Takes.node (Q := fun e' => e'.shape = memberTree tree name) fun span => ?_)
    fun e' he' => Takes.pure ⟨e', rfl, he'⟩
  rw [Node.shape, shapes, shapes, shapes, h, hproperty]
  rfl

/-- A path is read by one access after the other. -/
theorem takes_accesses {g : Rules} {room : Nat} (names : ∀ name ∈ path, PlainName name)
    (ends : Ends b r) {first : Token} {maybeAsync : Bool} {e tree : Node} (h : e.shape = tree) :
    Takes ⟨c, b, dotted path ++ r⟩ ⟨c, b, r⟩ room (loop e (accessStep g first maybeAsync))
      fun e' => e'.shape = path.foldl memberTree tree := by
  refine Takes.loop fun n hn => ?_
  change (dotted path ++ r).length < n at hn
  induction path generalizing e tree n with
  | nil => exact takes_noAccess (Q := fun e' => e'.shape = tree) ends.begins h hn
  | cons name more ih =>
      obtain ⟨n, rfl⟩ := Nat.exists_eq_add_one_of_ne_zero (Nat.ne_of_gt (Nat.zero_lt_of_lt hn))
      have hmore : (dotted more ++ r).length < n := by
        simp only [dotted, List.cons_append, List.length_cons, List.length_append] at hn ⊢
        omega
      refine Takes.turns_again (y := ⟨c, b, dotted more ++ r⟩)
        (P := fun e' => e'.shape = memberTree tree name) ?_ fun e' he' =>
          ih (fun n hn => names n (List.mem_cons_of_mem name hn)) he' n hmore
      refine Takes.bind (Takes.sees (dotted_boundary names ends).2.2) fun _ hparen => ?_
      subst hparen
      refine Takes.bind (takes_access names ends h) fun o ho => ?_
      obtain ⟨e', rfl, he'⟩ := ho
      exact Takes.pure ⟨e', rfl, he'⟩

theorem path_noParameters {tree : Node} (h : ∀ isAsync, tree.kind ≠ .arrowParameters isAsync)
    (isAsync : Bool) : (path.foldl memberTree tree).kind ≠ .arrowParameters isAsync := by
  induction path generalizing tree with
  | nil => exact h isAsync
  | cons name more ih =>
      have hmember : ∀ isAsync, (memberTree tree name).kind ≠ .arrowParameters isAsync :=
        fun _ => nofun
      exact ih hmember

/-- A path of plain names is read as the member of a member, whatever its length. -/
theorem reads_path {name : Text} (h : PlainName name) (names : ∀ n ∈ path, PlainName n)
    (c : Context) :
    Reads c 14 (name ++ dotted path)
      (path.foldl memberTree (.mk (.identifier name) default [])) := by
  have hleads : ∀ b r, Ends b r → Begins Token.Leads b (name ++ (dotted path ++ r)) :=
    fun b r ends => (lexes_word h (dotted_boundary names ends).1).begins.imp
      fun k hk => h.leads hk.1 hk.2
  have hnone : ∀ isAsync, (path.foldl memberTree (.mk (.identifier name) default [])).kind ≠
      .arrowParameters isAsync := path_noParameters fun _ => nofun
  refine ⟨fun b r ends => ?_, fun b r ends => ?_, hnone, fun n b r hn ends => ?_⟩
  · rw [List.append_assoc]
    exact (hleads b r ends).imp fun k hk => hk.opens
  · rw [List.append_assoc]
    exact h.solid _
  · rw [List.append_assoc]
    obtain ⟨hstop, hsolid, hbegins⟩ := dotted_boundary names ends
    refine Takes.assignment_leftHandSide (hleads b r ends) ends.begins
      (fun e he isAsync => ?_) (takes_accessed (hleads b r ends)
        (Takes.primary (hleads b r ends)
          (takes_name h c.inside _ hstop hsolid hbegins : Takes _ _ 1 _ _))
        fun first maybeAsync e he => takes_accesses names ends he)
    rw [← kind_shape, he]
    exact hnone isAsync

end Paths

end Readiness.Script

namespace Readiness.Secret

open Script

/-! ## Names of variables as plain names -/

theorem isIdentifierStart_of_isCapital {x : CodePoint} (h : Credential.isCapital x = true) :
    isIdentifierStart x = true := by
  have hall : ∀ n ∈ List.range' 65 26, isIdentifierStart (.ofNat n) = true := by decide
  simp only [Credential.isCapital, Bool.and_eq_true, decide_eq_true_eq] at h
  have hlow : 65 ≤ x.toNat := h.1
  have hhigh : x.toNat ≤ 90 := h.2
  rw [← CodePoint.ofNat_toNat x]
  exact hall _ (List.mem_range'_1.mpr ⟨hlow, Nat.lt_succ_of_le hhigh⟩)

/-- The words that are no plain names. -/
def languageWords : List Text :=
  Token.keywords ++ Text.ofStrings ["null", "true", "false", "async", "await"]

/-- No word of the language begins with a capital. -/
theorem plainName_of_isVariable {name : Text} (h : isVariable name = true) : PlainName name := by
  have hword := isWord_of_isVariable h
  obtain ⟨hhead, -⟩ := Bool.and_eq_true_iff.mp h
  cases name with
  | nil => cases hhead
  | cons x more =>
      have hcapital : Credential.isCapital x = true := hhead
      have hother : x :: more ∉ languageWords := by
        intro hmem
        have hsmall : ∀ w ∈ languageWords, w.head?.any Credential.isCapital = false := by decide
        have hno := hsmall _ hmem
        rw [List.head?_cons, Option.any_some, hcapital] at hno
        cases hno
      have hfree : Token.isStrictReserved (x :: more) = false := by
        rw [Token.isStrictReserved, List.contains_eq_mem, decide_eq_false_iff_not]
        intro hmem
        have hsmall : ∀ w ∈ ["implements", "interface", "package", "private", "protected", "public",
            "static", "yield", "let"],
            w.toList.head?.any (fun c => Credential.isCapital (.char c)) = false := by decide
        have hno := hsmall _ hmem
        rw [Text.word, String.toList_ofList, List.map_cons, List.head?_cons, Option.any_some] at hno
        cases x with
        | surrogate n =>
            simp only [Credential.isCapital, Bool.and_eq_true, decide_eq_true_eq] at hcapital
            exact absurd hcapital.2 (Nat.not_le.mpr (Nat.lt_of_lt_of_le (by decide)
              (Nat.le_add_right 0xD800 n.val)))
        | char x =>
            rw [Text.word.shown, hcapital] at hno
            cases hno
      simp only [languageWords, Text.ofStrings, List.map_cons, List.map_nil, List.mem_append,
        List.mem_cons, List.not_mem_nil, or_false, not_or] at hother
      obtain ⟨hkeyword, hnull, htrue, hfalse, hasync, hawait⟩ := hother
      refine ⟨⟨x, more, rfl, isIdentifierStart_of_isCapital hcapital⟩, hword, ?_, hfree, hasync,
        hawait⟩
      rw [classOfName, List.contains_eq_mem, decide_eq_false hkeyword,
        beq_eq_false_iff_ne.mpr hnull, beq_eq_false_iff_ne.mpr htrue,
        beq_eq_false_iff_ne.mpr hfalse]
      exact ite_self _

/-- The tree of a read of an environment variable, less the places of its nodes. -/
def variableTree (name : Text) : Node :=
  memberTree (memberTree (.mk (.identifier "process") default []) "env") name

theorem reads_variable {name : Text} (h : isVariable name = true) (c : Script.Context) :
    Reads c 14 (environment ++ name) (variableTree name) := by
  have hwords : ∀ w ∈ Text.ofStrings ["process", "env"], IsWord w := by
    unfold IsWord
    decide
  have hprocess : PlainName "process" :=
    ⟨⟨_, _, rfl, rfl⟩, hwords _ (by decide), by decide +kernel, rfl, by decide⟩
  have henv : PlainName "env" :=
    ⟨⟨_, _, rfl, rfl⟩, hwords _ (by decide), by decide +kernel, rfl, by decide⟩
  have hpath : environment ++ name = "process" ++ dotted ["env", name] := by
    rw [dotted, dotted, dotted, List.append_nil]
    rfl
  rw [hpath]
  exact reads_path hprocess (List.forall_mem_cons.mpr ⟨henv, List.forall_mem_singleton.mpr
    (plainName_of_isVariable h)⟩) c

/-! ## Keys that cannot be written -/

/-- Whether the key of a property is a number with more digits than are written. -/
def hasLongKey (n : Node) : Bool :=
  match (n.field? .key).map Node.kind with
  | some (.literal (.number v)) => v.isLong
  | _ => false

/-- Whether a node is a property of an object. -/
def isProperty (n : Node) : Bool :=
  match n.kind with
  | .property _ => true
  | _ => false

/-- Whether a value goes to a property whose key cannot be written. -/
def goesToLongKey (p : Place) : Bool :=
  match Place.aboveChoices p.above with
  | s :: _ =>
    match s.parent.kind, s.role with
    | .property _, .value => hasLongKey s.parent
    | _, _ => false
  | [] => false

/-- Whether a value goes to a password of an object that has a key which cannot be written, and
nothing else gives it a name. -/
def besideLongKey (d : Destination) : Bool :=
  match d.receiver, d.holder.bind objectAround? with
  | .property, some object =>
    d.name.any isPasswordKey &&
      ((callAround? object).bind fun c => providerName? (callLabel c) none d.name).isNone &&
      (object.node.fields .property).any fun n => isProperty n && hasLongKey n
  | _, _ => false

/-- Whether a key that cannot be written has to be read to find the variable for a value. -/
def meetsLongKey (p : Place) : Bool :=
  goesToLongKey p || p.destination.toOption.any besideLongKey

/-- A computation breaks down if a key is too long, and else gives a result. -/
def BreaksIf {α : Type} (long : Bool) (r : Except Breakdown α) : Prop :=
  if long then r = .error .longNumber else ∃ a, r = .ok a

theorem BreaksIf.ok {α : Type} (a : α) : BreaksIf false (.ok a) := ⟨a, rfl⟩

/-- Behind a computation, only what comes next can break down. -/
theorem BreaksIf.bind {α β : Type} {long next : Bool} {r : Except Breakdown α}
    {f : α → Except Breakdown β} (first : BreaksIf long r)
    (rest : ∀ a, r = .ok a → BreaksIf next (f a)) : BreaksIf (long || next) (r >>= f) := by
  cases long with
  | true =>
      rw [show r = .error .longNumber from first]
      rfl
  | false =>
      obtain ⟨a, rfl⟩ := first
      exact rest a rfl

theorem breaksIf_keyName (n : Node) : BreaksIf (hasLongKey n) n.keyName? := by
  rw [hasLongKey, Node.keyName?]
  split
  · next v hkey =>
      simp only [hkey, Node.literalKey?]
      cases v.isLong with
      | true => rfl
      | false => exact .ok _
  · next hnot =>
      split
      · exact .ok _
      · next l hkey =>
          cases l with
          | number v => exact absurd hkey (hnot v)
          | boolean b => cases b <;> exact .ok _
          | _ => exact .ok _
      · exact .ok _

theorem breaksIf_mapM {α β : Type} {f : α → Except Breakdown β} {long : α → Bool}
    (h : ∀ x, BreaksIf (long x) (f x)) (l : List α) : BreaksIf (l.any long) (l.mapM f) := by
  induction l with
  | nil => exact .ok _
  | cons x l ih =>
      rw [List.any_cons, List.mapM_cons]
      refine (h x).bind fun b _ => ?_
      rw [← Bool.or_false (l.any long)]
      exact ih.bind fun bs _ => .ok _

theorem breaksIf_destination (p : Place) : BreaksIf (goesToLongKey p) p.destination := by
  rw [goesToLongKey, Place.destination]
  cases Place.aboveChoices p.above with
  | nil => exact .ok _
  | cons s more =>
      dsimp only
      split
      · next c hkind hrole =>
          simp only [hkind, hrole]
          rw [← Bool.or_false (hasLongKey s.parent)]
          exact (breaksIf_keyName s.parent).bind fun name _ => .ok _
      · next hnot =>
          split
          · exact .ok _
          · next c hkind hrole => exact (hnot c hkind hrole).elim
          · exact .ok _
          · exact .ok _
          · exact .ok _
          · exact .ok _
          · split
            · split <;> exact .ok _
            · exact .ok _
          · exact .ok _

theorem breaksIf_isDatabaseObject (object : Place) :
    BreaksIf ((object.node.fields .property).any fun n => isProperty n && hasLongKey n)
      (isDatabaseObject object) := by
  rw [isDatabaseObject, ← Bool.or_false (List.any _ _)]
  refine (breaksIf_mapM (fun n => ?_) _).bind fun keys _ => .ok _
  rw [isProperty]
  cases n.kind with
  | property c => exact breaksIf_keyName n
  | _ => exact .ok _

theorem breaksIf_propertyVariable (holder : Place) (name : Option Text) :
    BreaksIf (besideLongKey ⟨name, .property, some holder⟩) (propertyVariable? holder name) := by
  rw [besideLongKey, propertyVariable?, Option.bind_some]
  cases objectAround? holder with
  | none => exact .ok _
  | some object =>
      dsimp only
      cases (callAround? object).bind fun c => providerName? (callLabel c) none name with
      | some provider =>
          rw [Option.isNone_some, Bool.and_false, Bool.false_and]
          exact .ok _
      | none =>
          rw [Option.isNone_none, Bool.and_true]
          cases name.any isPasswordKey with
          | false => exact .ok _
          | true =>
              rw [Bool.true_and, ← Bool.or_false (List.any _ _)]
              exact (breaksIf_isDatabaseObject object).bind fun database _ => .ok _

theorem breaksIf_surroundingVariable (p : Place) (value : Text) (d : Destination) :
    BreaksIf (besideLongKey d) (surroundingVariable? p value d) := by
  obtain ⟨name, receiver, holder⟩ := d
  cases holder with
  | none => cases receiver <;> exact .ok _
  | some holder =>
      cases receiver with
      | property => exact breaksIf_propertyVariable holder name
      | _ => exact .ok _

/-- Finding the variable for a literal breaks down exactly at a key that cannot be written. -/
theorem breaksIf_environmentVariable (p : Place) (value : Text) :
    BreaksIf (meetsLongKey p) (environmentVariable p value) := by
  have hdestination := breaksIf_destination p
  rw [meetsLongKey, environmentVariable]
  refine hdestination.bind fun d hd => ?_
  rw [hd, Except.toOption, Option.any_some, ← Bool.or_false (besideLongKey d)]
  refine (breaksIf_surroundingVariable p value d).bind fun surrounding _ => ?_
  split
  · exact .ok _
  · exact .ok _
  · split <;> exact .ok _

/-- Whatever a tree looks like and whatever the program calls things, there are two outcomes. Where
a key that cannot be written has to be read, finding the variable for a literal breaks down.
Everywhere else there is a name for it, in capitals, digits and underscores and with a capital
first; and the read of that name is one member expression, wherever one may stand inside of
brackets. -/
theorem environmentVariable_total (p : Place) (value : Text) :
    (meetsLongKey p = true ∧ environmentVariable p value = .error .longNumber) ∨
      (meetsLongKey p = false ∧ ∃ name, environmentVariable p value = .ok name ∧
        isVariable name = true ∧
        ∀ c, Reads c 14 (environment ++ name) (variableTree name)) := by
  have hbreaks := breaksIf_environmentVariable p value
  cases hmeets : meetsLongKey p with
  | true =>
      rw [hmeets] at hbreaks
      exact .inl ⟨rfl, hbreaks⟩
  | false =>
      rw [hmeets] at hbreaks
      obtain ⟨name, hname⟩ := hbreaks
      have hvariable := environmentVariable_isVariable hname
      exact .inr ⟨rfl, name, hname, hvariable, reads_variable hvariable⟩

/-! A key in hexadecimal digits, as many as a number of 4302 decimal digits has. -/

namespace LongKey

def key : Text := List.replicate 3572 'F'

def secret : Text := "sk_live_abcd1234"

def text : Text := "x=\x7b0x" ++ (key ++ (":\"" ++ (secret ++ ("\"\x7d" : Text))))

theorem facts : Script.isPlain text = true ∧
    ∃ p ∈ (Script.ofText text).places, p.node.string? = some secret ∧ meetsLongKey p = true := by
  decide +kernel

end LongKey

/-- A script can have a secret that no variable is found for. -/
theorem secret_without_variable : ∃ s p, Script.parse LongKey.text = .ok (.ok s) ∧ p ∈ s.places ∧
    p.node.string? = some LongKey.secret ∧
    environmentVariable p LongKey.secret = .error .longNumber := by
  obtain ⟨hplain, p, hp, hstring, hmeets⟩ := LongKey.facts
  have hbreaks := breaksIf_environmentVariable p LongKey.secret
  rw [hmeets] at hbreaks
  exact ⟨_, p, Script.parse_of_isPlain hplain, hp, hstring, hbreaks⟩

end Readiness.Secret
