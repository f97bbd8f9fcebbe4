import Readiness.Proofs.EnclosingParens
import Readiness.Proofs.QueryParameters
import Readiness.Proofs.QuerySpellings
import Readiness.Proofs.ReportedCall

/-!
# Where the list of parameters stands

A query that is built in the call itself is repaired by two edits next to each other:
the argument gives way to the literal, and the list is put in behind it. All that this
takes of the syntax tree is how the arguments lie in the call (`LaidOut`): one after the
other, between the parentheses of the call. Then the edits can always be made, and the
list stands behind the first argument, before the second one if there is one, and inside
of the parentheses of the call (`propose_applies`).

Where exactly it stands is read off the text. With a second argument the list goes in
front of that, and no parenthesis around the first one reaches so far. With a single
argument it goes behind the parentheses around the argument, as far as they hug it:
from the first comment in a gap on they are not seen, and the list ends up inside of
them. There it is no argument but the last part of a sequence, and the query is run
without its text (`list_inside_parens`).
-/

namespace Readiness

namespace Edit

theorem apply_pair {t : Text} {a b : Edit} (order : a.stop ≤ b.start) (within : b.stop ≤ t.length) :
    Edit.apply t [a, b] = .ok (t.take a.start ++ a.replacement ++
      (t.slice a.stop b.start ++ b.replacement ++ t.drop b.stop)) := by
  have ha := a.ordered
  have hb := b.ordered
  have hfirst : comesFirst a b = true := by
    rw [comesFirst, decide_eq_true_iff]
    omega
  have hsorted : sorted [a, b] = [a, b] := by
    refine List.mergeSort_of_pairwise (List.pairwise_cons.mpr ⟨fun c hc => ?_,
      List.pairwise_singleton _ _⟩)
    rw [List.mem_singleton.mp hc]
    exact hfirst
  have hclear : refusal? t.length [a, b] = none := by
    have hnoOverlap : overlap? [a, b] = none := by
      rw [overlap?, if_neg (Nat.not_lt.mpr order)]
      rfl
    rw [refusal?, hnoOverlap]
    exact if_neg (Nat.not_lt.mpr within)
  have hrest : (t.drop a.stop).drop (b.stop - a.stop) = t.drop b.stop := by
    rw [List.drop_drop]
    congr 1
    omega
  rw [apply_of_refusal? (by rw [hsorted]; exact hclear), hsorted]
  simp only [splice, Nat.sub_zero, hrest]
  rfl

theorem apply_single {t : Text} {a : Edit} (within : a.stop ≤ t.length) :
    Edit.apply t [a] = .ok (t.take a.start ++ a.replacement ++ t.drop a.stop) := by
  have hsorted : sorted [a] = [a] := List.mergeSort_singleton a
  have hclear : refusal? t.length [a] = none := by
    rw [refusal?, overlap?]
    · exact if_neg (Nat.not_lt.mpr within)
    · intro _ _ _ hmore
      cases hmore
  rw [apply_of_refusal? (by rw [hsorted]; exact hclear), hsorted]
  simp only [splice, Nat.sub_zero]

end Edit

namespace Text

theorem indexOf?_le {q : CodePoint} {t : Text} {i : Nat} (h : t[i]? = some q) :
    ∃ k, indexOf? [q] t = some k ∧ k ≤ i := by
  obtain ⟨back, rest, rfl, hfirst⟩ := List.eq_append_cons_of_mem (List.mem_of_getElem? h)
  refine ⟨back.length, indexOf?_of_split hfirst, ?_⟩
  by_contra hless
  rw [List.getElem?_append_left (by omega)] at h
  exact hfirst (List.mem_of_getElem? h)

end Text

namespace Query

open Script Repair

/-! ## How a call lies in its text -/

/-- Where the callee of a call ends. -/
def calleeEnd (call : Node) : Nat := ((call.field? .callee).map Node.stop).getD call.start

/-- How a call with the opening parenthesis at the given offset lies in a text: behind the callee
come the arguments, one after the other with commas between them, between that parenthesis and the
closing one, which is the last character of the call. -/
structure LaidOut (t : Text) (call : Node) (opening : Nat) : Prop where
  behindCallee : calleeEnd call ≤ opening
  opens : t[opening]? = some (.char '(')
  closes : t[call.stop - 1]? = some (.char ')')
  ordered : ∀ a ∈ call.arguments, a.start ≤ a.stop
  separated : call.arguments.Pairwise fun a b =>
    ∃ comma, a.stop ≤ comma ∧ comma < b.start ∧ t[comma]? = some (.char ',')
  inside : ∀ a ∈ call.arguments, opening < a.start ∧ a.stop < call.stop

variable {s : Script} {call : Node} {opening : Nat}

theorem LaidOut.stop_le (h : LaidOut s.text call opening) : call.stop - 1 < s.text.length :=
  (List.getElem?_eq_some_iff.mp h.closes).1

/-- The parentheses around an argument are looked for from some offset on that is not behind the
opening one of the call, and up to the closing one. -/
theorem LaidOut.argumentSpan (h : LaidOut s.text call opening) (argument : Node) :
    ∃ lo, lo ≤ opening + 1 ∧ argumentSpan s call argument =
      .ok (widenOverParens s.text lo (call.stop - 1) argument.start argument.stop) := by
  have hle := h.behindCallee
  have hopens : (s.text.drop (calleeEnd call))[opening - calleeEnd call]? = some (.char '(') := by
    rw [List.getElem?_drop, Nat.add_sub_cancel' hle]
    exact h.opens
  obtain ⟨k, hk, hkle⟩ := Text.indexOf?_le hopens
  refine ⟨calleeEnd call + k + 1, by omega, ?_⟩
  have hfound : Text.indexOf? (Text.ofString "(")
      (s.text.drop (((call.field? .callee).map Node.stop).getD call.start)) = some k := hk
  rw [Query.argumentSpan, hfound]
  rfl

/-! ## The place of the list -/

/-- The place of a list in a call whose first argument is given, and what is put in there: behind a
sole argument, or in front of the second one. -/
inductive ListPlaced (t : Text) (call : Node) (opening : Nat) (params : List Text) (first : Node) :
    List Node → Nat → Text → Prop where
  /-- The list stands behind the parentheses that hug a sole argument, and so behind all that are
  around it just when every pair does. -/
  | behind {place : Nat} (inCall : place < call.stop)
      (hugged : ∀ ps, Enclosed t (opening + 1) (call.stop - 1) first.start first.stop ps →
        place = first.stop + (closings (ps.takeWhile Enclosure.hugs)).length ∧
          (place = first.stop + (closings ps).length ↔ ∀ p ∈ ps, p.hugs = true)) :
      ListPlaced t call opening params first [] place (", " ++ listText params)
  /-- The list stands behind the comma in front of the second argument, and behind everything that
  closes around the first one. Only what opens around the second one can follow. -/
  | inFront {second : Node} {more : List Node} {place comma : Nat}
      (isComma : t[comma]? = some (.char ',')) (behindFirst : first.stop ≤ comma)
      (behindComma : comma < place) (inCall : place ≤ second.start)
      (between : ∀ c ∈ t.slice place second.start, isLooseBlank c = true ∨ c = .char '(')
      (cleared : ∀ ps sep, t.slice first.stop second.start = closings ps ++ sep →
        first.stop + (closings ps).length ≤ place) :
      ListPlaced t call opening params first (second :: more) place (listText params ++ ", ")

theorem exists_behind (h : LaidOut s.text call opening) {first : Node}
    (only : call.arguments = [first]) (params : List Text) :
    ∃ place list, insertion s call params = .ok [Edit.insert place list] ∧
      first.stop ≤ place ∧ place < call.stop ∧
      ListPlaced s.text call opening params first [] place list := by
  obtain ⟨lo, hlo, hspan⟩ := h.argumentSpan first
  obtain ⟨hopening, hstop⟩ := h.inside first (only ▸ List.mem_cons_self)
  have hwithin : first.stop ≤ call.stop - 1 := by omega
  obtain ⟨hbehind, hbound⟩ :=
    @widenOverParens_stop s.text lo (call.stop - 1) first.start first.stop hwithin
  have hcall : (widenOverParens s.text lo (call.stop - 1) first.start first.stop).2 < call.stop := by
    omega
  refine ⟨_, _, ?_, hbehind, hcall, .behind hcall fun ps hps =>
    widenOverParens_enclosed ⟨?_, hps.back, hps.gaps⟩⟩
  · rw [insertion, only]
    show (Query.argumentSpan s call first >>= _) = _
    rw [hspan]
    rfl
  · -- What is looked at begins no later than the inside of the call does.
    have hfront : s.text.slice (opening + 1) first.start =
        (s.text.slice lo first.start).drop (opening + 1 - lo) := by
      have hoffset : lo + (opening + 1 - lo) = opening + 1 := by omega
      have hlength : first.start - lo - (opening + 1 - lo) = first.start - (opening + 1) := by omega
      rw [Text.slice, Text.slice, List.drop_take, List.drop_drop, hoffset, hlength]
    exact hps.front.trans (hfront ▸ List.drop_suffix _ _)

/-- Characters that nothing is widened over stand in front of what a range is widened to. -/
theorem lt_of_notWidened {t : Text} {place stop o : Nat} {c : CodePoint}
    (chars : ∀ c ∈ t.slice place stop, isLooseBlank c = true ∨ c = .char '(')
    (hc : t[o]? = some c) (solid : isLooseBlank c = false) (notOpening : c ≠ .char '(')
    (ho : o < stop) : o < place := by
  by_contra hge
  have hindex : (t.slice place stop)[o - place]? = some c := by
    rw [Text.slice, List.getElem?_take_of_lt (by omega), List.getElem?_drop,
      Nat.add_sub_cancel' (by omega)]
    exact hc
  rcases chars c (List.mem_of_getElem? hindex) with hblank | hopen
  · rw [solid] at hblank
    cases hblank
  · exact notOpening hopen

/-- The last character of what closes around a range is a parenthesis. -/
theorem exists_lastClosing {t : Text} {start stop : Nat} {ps : List Enclosure} {sep : Text}
    (some : ps ≠ []) (closes : t.slice start stop = closings ps ++ sep) :
    ∃ n, (closings ps).length = n + 1 ∧ start + n < stop ∧ t[start + n]? = .some (.char ')') := by
  obtain ⟨shut, hshut⟩ := closings_getLast some
  have hcount := congrArg List.length closes
  rw [hshut, Text.slice, List.length_take, List.length_append, List.length_append,
    List.length_singleton] at hcount
  refine ⟨shut.length, ?_, by omega, ?_⟩
  · rw [hshut, List.length_append, List.length_singleton]
  · have hget : (t.slice start stop)[shut.length]? = .some (.char ')') := by
      rw [closes, hshut, List.append_assoc, List.getElem?_append_right (Nat.le_refl _),
        Nat.sub_self]
      rfl
    rw [Text.slice, List.getElem?_take_of_lt (by omega), List.getElem?_drop] at hget
    exact hget

theorem exists_inFront (h : LaidOut s.text call opening) {first second : Node} {more : List Node}
    (several : call.arguments = first :: second :: more) (params : List Text) :
    ∃ place list, insertion s call params = .ok [Edit.insert place list] ∧
      first.stop ≤ place ∧ place < call.stop ∧
      ListPlaced s.text call opening params first (second :: more) place list := by
  obtain ⟨lo, hlo, hspan⟩ := h.argumentSpan second
  have hsecond : second ∈ call.arguments := several ▸ List.mem_cons_of_mem first List.mem_cons_self
  have hordered := h.ordered second hsecond
  have hinside := (h.inside second hsecond).2
  obtain ⟨comma, hfirst, hcomma, hisComma⟩ : ∃ comma, first.stop ≤ comma ∧ comma < second.start ∧
      s.text[comma]? = some (.char ',') := by
    have hpairs := h.separated
    rw [several] at hpairs
    exact List.rel_of_pairwise_cons hpairs List.mem_cons_self
  have hlength : second.start ≤ s.text.length := by
    have := h.stop_le
    omega
  obtain ⟨place, hplace⟩ : ∃ place,
      (widenOverParens s.text lo (call.stop - 1) second.start second.stop).1 = place := ⟨_, rfl⟩
  obtain ⟨hle, hchars⟩ :=
    @widenOverParens_start s.text lo (call.stop - 1) second.start second.stop hlength
  rw [hplace] at hle hchars
  have hbehind := lt_of_notWidened hchars hisComma rfl (by decide) hcomma
  refine ⟨place, _, ?_, by omega, by omega, .inFront hisComma hfirst hbehind hle hchars
    fun ps sep hsep => ?_⟩
  · rw [insertion, several]
    show (Query.argumentSpan s call second >>= _) = _
    rw [hspan, ← hplace]
    rfl
  · rcases eq_or_ne ps [] with rfl | hps
    · rw [closings, List.length_nil]
      omega
    · obtain ⟨n, hn, hlt, hchar⟩ := exists_lastClosing hps hsep
      have := lt_of_notWidened hchars hchar rfl (by decide) hlt
      omega

/-! ## The repair of a query in its call -/

theorem propose_of_target {i : Issue} {call : Place} {query : Node} {literal : Text}
    {params : List Text} {main : Edit} {more : List Edit}
    (found : nearest? (s.places.filter isCandidate) i.line i.column = some call)
    (bare : isParameterized call.node = false) (targeted : target s call = .ok query)
    (literals : parameterized s query = .ok (literal, params))
    (replaced : replacement query literal = .ok main)
    (inserted : (if params.isEmpty then .ok [] else insertion s call.node params) = .ok more) :
    ∃ explanation, propose s i = .ok ⟨main :: more, explanation⟩ := by
  refine ⟨"Converted string concatenation to parameterized query to prevent SQL injection", ?_⟩
  rw [propose, found]
  simp only [bare, Bool.false_eq_true, if_false]
  rw [targeted]
  show ((parameterized s query).mapError Fault.breakdown >>= _) = _
  rw [literals]
  show (replacement query literal >>= _) = _
  rw [replaced]
  cases hempty : params.isEmpty with
  | true =>
      rw [hempty] at inserted
      cases inserted
      simp only [bind, Except.bind, if_true]
      rfl
  | false =>
      simp only [hempty, Bool.false_eq_true, if_false] at inserted
      simp only [bind, Except.bind, Bool.false_eq_true, if_false, inserted]
      rfl

/-- A query that is built in the call itself is always repaired: there are edits, and they can be
made. What comes of them is the text with the literal in the place of the argument and, if there are
parameters, with their list behind the argument and inside of the parentheses of the call. -/
theorem propose_applies {i : Issue} {call : Place} {first : Node} {rest : List Node}
    (found : nearest? (s.places.filter isCandidate) i.line i.column = some call)
    (bare : isParameterized call.node = false) (several : call.node.arguments = first :: rest)
    (built : concatenates first = true) (laidOut : LaidOut s.text call.node opening) :
    ∃ literal params p result, parameterized s first = .ok (literal, params) ∧
      propose s i = .ok p ∧ Edit.apply s.text p.edits = .ok result ∧
      (params = [] →
        result = s.text.take first.start ++ literal ++ s.text.drop first.stop) ∧
      (params ≠ [] → ∃ place list,
        result = s.text.take first.start ++ literal ++
          (s.text.slice first.stop place ++ list ++ s.text.drop place) ∧
        opening < first.start ∧ first.stop ≤ place ∧ place < call.node.stop ∧
        ListPlaced s.text call.node opening params first rest place list) := by
  have hfirst : first ∈ call.node.arguments := several ▸ List.mem_cons_self
  have hordered := laidOut.ordered first hfirst
  have hinside := laidOut.inside first hfirst
  have hlength := laidOut.stop_le
  obtain ⟨q, hq⟩ := exists_assemble (alternates_pieces s first)
  have hliterals : parameterized s first = .ok (requote (quoteStyle s (parts first)) q.sql,
      q.params) := by
    rw [parameterized, hq]
    rfl
  have htarget : target s call = .ok first := by
    have hbuilt : builtText? s call = some (first, none) := by
      rw [builtText?, several]
      exact if_pos built
    rw [target, hbuilt]
  obtain ⟨main, hmain⟩ : ∃ main,
      replacement first (requote (quoteStyle s (parts first)) q.sql) = .ok main := by
    rw [replacement, Edit.ofRange, dif_pos ⟨Int.natCast_nonneg _, Int.ofNat_le.mpr hordered⟩]
    exact ⟨_, rfl⟩
  obtain ⟨hstart, hstop, hliteral⟩ := replacement_ok hmain
  cases hparams : q.params with
  | nil =>
      have hinserted : (if q.params.isEmpty then .ok [] else insertion s call.node q.params) =
          (.ok [] : Except Fault (List Edit)) := if_pos (by rw [hparams]; rfl)
      obtain ⟨explanation, hp⟩ := propose_of_target found bare htarget hliterals hmain hinserted
      refine ⟨_, _, _, _, hliterals, hp, ?_, fun _ => rfl, fun hsome => absurd hparams hsome⟩
      rw [Edit.apply_single (by omega), hstart, hstop, hliteral]
  | cons param others =>
      have hsome : q.params ≠ [] := by
        rw [hparams]
        exact List.cons_ne_nil _ _
      obtain ⟨place, list, hinsertion, hbehind, hcall, hplaced⟩ : ∃ place list,
          insertion s call.node q.params = .ok [Edit.insert place list] ∧ first.stop ≤ place ∧
          place < call.node.stop ∧
          ListPlaced s.text call.node opening q.params first rest place list := by
        cases rest with
        | nil => exact exists_behind laidOut several q.params
        | cons second more => exact exists_inFront laidOut several q.params
      have hnonempty : ¬ q.params.isEmpty = true := by
        rw [hparams]
        exact Bool.false_ne_true
      have hinserted : (if q.params.isEmpty then .ok [] else insertion s call.node q.params) =
          .ok [Edit.insert place list] := (if_neg hnonempty).trans hinsertion
      obtain ⟨explanation, hp⟩ := propose_of_target found bare htarget hliterals hmain hinserted
      refine ⟨_, _, _, _, hliterals, hp, ?_, fun hnone => absurd hnone hsome,
        fun _ => ⟨place, list, rfl, hinside.1, hbehind, hcall, hplaced⟩⟩
      have hapart : main.stop ≤ (Edit.insert place list).start := hstop ▸ hbehind
      have hwithin : (Edit.insert place list).stop ≤ s.text.length := by
        show place ≤ s.text.length
        omega
      rw [Edit.apply_pair hapart hwithin, hstart, hstop, hliteral]
      rfl

/-! ## Queries in parentheses -/

/-- An argument of a call: its range, whether it is built from values, and what it is repaired
to. -/
structure ArgumentReading where
  start : Nat
  stop : Nat
  built : Bool
  repaired : Option (Text × List Text)
deriving DecidableEq

/-- A call that runs a query: its position, where its callee and the call itself end, and its
arguments. -/
structure CallReading where
  line : Nat
  column : Option Int
  calleeEnd : Nat
  stop : Nat
  arguments : List ArgumentReading
deriving DecidableEq

def callReading (s : Script) (p : Place) : CallReading where
  line := p.node.line
  column := p.node.column
  calleeEnd := calleeEnd p.node
  stop := p.node.stop
  arguments := p.node.arguments.map fun a =>
    ⟨a.start, a.stop, concatenates a, (parameterized s a).toOption⟩

/-- How the call at the start of a text is reported. -/
def firstMark : Issue.Mark := ⟨IssueType.sqlInjection, 1, some 0⟩

/-- A text with one call that runs a query, at its start, and the query is built in the call. -/
theorem exists_sole {t : Text} {callee callStop start stop : Nat} {literal : Text}
    {params : List Text} (plain : Script.isPlain t = true)
    (found : ((Script.ofText t).found "input.js").map Issue.mark = [firstMark])
    (calls : ((Script.ofText t).places.filter isCandidate).map (callReading (Script.ofText t)) =
      [⟨1, some 0, callee, callStop, [⟨start, stop, true, some (literal, params)⟩]⟩]) :
    ∃ a i call first, scanTextFor none t "input.js" = .ok a ∧ a.issues = [i] ∧
      i.mark = firstMark ∧
      nearest? ((Script.ofText t).places.filter isCandidate) i.line i.column = some call ∧
      isParameterized call.node = false ∧ call.node.arguments = [first] ∧
      concatenates first = true ∧
      parameterized (Script.ofText t) first = .ok (literal, params) ∧
      calleeEnd call.node = callee ∧ call.node.stop = callStop ∧ first.start = start ∧
      first.stop = stop := by
  obtain ⟨x, others, hfound, hxmark, hothers⟩ := List.map_eq_cons_iff.mp found
  rw [List.map_eq_nil_iff.mp hothers] at hfound
  obtain ⟨a, i, hscan, hissues, -, himark, -⟩ := scan_singleton plain hfound
  have hmark : i.mark = firstMark := himark.trans hxmark
  obtain ⟨call, others, hcalls, hcall, hothers⟩ := List.map_eq_cons_iff.mp calls
  rw [List.map_eq_nil_iff.mp hothers] at hcalls
  obtain ⟨hline, hcolumn, hcallee, hstop, hargs⟩ := CallReading.mk.inj hcall
  obtain ⟨first, more, hfirst, hread, hmore⟩ := List.map_eq_cons_iff.mp hargs
  rw [List.map_eq_nil_iff.mp hmore] at hfirst
  obtain ⟨hfrom, hto, hbuilt, hparams⟩ := ArgumentReading.mk.inj hread
  refine ⟨a, i, call, first, hscan, hissues, hmark, ?_, ?_, hfirst, hbuilt, ok_of_toOption hparams,
    hcallee, hstop, hfrom, hto⟩
  · have hmem : call ∈ (Script.ofText t).places.filter isCandidate :=
      hcalls ▸ List.mem_singleton_self call
    have hnearest := nearest?_eq_find? hmem
    obtain ⟨-, hiline, hicolumn⟩ := Issue.Mark.mk.inj hmark
    rw [hline, hcolumn, ← hiline, ← hicolumn, hcalls,
      List.find?_cons_of_pos call.startsWith_self] at hnearest
    rw [hcalls]
    exact hnearest
  · rw [isParameterized, hfirst]

/-- How a call with one argument lies in its text. -/
theorem laidOut_sole {t : Text} {call first : Node} {opening : Nat}
    (only : call.arguments = [first]) (behindCallee : calleeEnd call ≤ opening)
    (opens : t[opening]? = some (.char '(')) (closes : t[call.stop - 1]? = some (.char ')'))
    (ordered : first.start ≤ first.stop) (inside : opening < first.start ∧ first.stop < call.stop) :
    LaidOut t call opening := by
  refine ⟨behindCallee, opens, closes, ?_, ?_, ?_⟩
  · rw [only]
    intro a ha
    rw [List.mem_singleton.mp ha]
    exact ordered
  · rw [only]
    exact List.pairwise_singleton _ _
  · rw [only]
    intro a ha
    rw [List.mem_singleton.mp ha]
    exact inside

/-! A pair of parentheses with blanks in it. -/

namespace Hugged

def text : Text := "run(( \"a\"+b ))"

def repaired : Text := "run(( \"a?\" ), [b])"

def reading : CallReading := ⟨1, some 0, 3, 14, [⟨6, 11, true, some ("\"a?\"", ["b"])⟩]⟩

def pair : Enclosure := ⟨" ", " "⟩

theorem text_facts :
    Script.isPlain text = true ∧
      ((Script.ofText text).found "input.js").map Issue.mark = [firstMark] ∧
      ((Script.ofText text).places.filter isCandidate).map (callReading (Script.ofText text)) =
        [reading] := by
  rw [text, Text.ofString_ofList]
  decide +kernel

end Hugged

theorem propose_applies_sample :
    ∃ (s : Script) (i : Issue) (call : Place) (first : Node) (p : Proposal),
      Script.parse Hugged.text = .ok (.ok s) ∧
      nearest? (s.places.filter isCandidate) i.line i.column = some call ∧
      isParameterized call.node = false ∧ call.node.arguments = [first] ∧
      concatenates first = true ∧ LaidOut s.text call.node 3 ∧ propose s i = .ok p ∧
      Edit.apply s.text p.edits = .ok Hugged.repaired := by
  obtain ⟨hplain, hfound, hcalls⟩ := Hugged.text_facts
  obtain ⟨-, i, call, first, -, -, -, hcall, hbare, hfirst, hbuilt, hparams, hcallee, hstop, hfrom,
    hto⟩ := exists_sole hplain hfound hcalls
  have htext : (Script.ofText Hugged.text).text = Hugged.text :=
    Script.text_of_parse (Script.parse_of_isPlain hplain)
  have hlaid : LaidOut (Script.ofText Hugged.text).text call.node 3 := by
    refine laidOut_sole hfirst (by omega) ?_ ?_ (by omega) (by omega)
    · rw [htext]
      rfl
    · rw [htext, hstop]
      rfl
  obtain ⟨literal, params, p, result, hparams', hp, hresult, -, hlist⟩ :=
    propose_applies hcall hbare hfirst hbuilt hlaid
  rw [hparams] at hparams'
  cases hparams'
  obtain ⟨place, list, rfl, -, -, -, hplaced⟩ := hlist (List.cons_ne_nil _ _)
  refine ⟨_, i, call, first, p, Script.parse_of_isPlain hplain, hcall, hbare, hfirst, hbuilt, hlaid,
    hp, hresult.trans ?_⟩
  cases hplaced with
  | behind inCall hugged =>
      have henclosed : Enclosed (Script.ofText Hugged.text).text (3 + 1) (call.node.stop - 1)
          first.start first.stop [Hugged.pair] := by
        rw [htext, hstop, hfrom, hto]
        exact ⟨by decide, ⟨[], by decide, by decide⟩, by decide⟩
      obtain ⟨hplace, -⟩ := hugged _ henclosed
      rw [hplace, htext, hfrom, hto]
      rfl

/-! A pair of parentheses with a comment in it. -/

namespace Noted

def text : Text := "run((/*c*/\"a\"+b))"

def repaired : Text := "run((/*c*/\"a?\", [b]))"

def reading : CallReading := ⟨1, some 0, 3, 17, [⟨10, 15, true, some ("\"a?\"", ["b"])⟩]⟩

def pair : Enclosure := ⟨"/*c*/", []⟩

def proposed : Proposal where
  edits := [⟨10, 15, "\"a?\"", by decide⟩, Edit.insert 15 ", [b]"]
  explanation := "Converted string concatenation to parameterized query to prevent SQL injection"

theorem text_facts :
    Script.isPlain text = true ∧
      ((Script.ofText text).found "input.js").map Issue.mark = [firstMark] ∧
      ((Script.ofText text).places.filter isCandidate).map (callReading (Script.ofText text)) =
        [reading] ∧
      (Query.fixer.propose (Script.ofText text)
        (Issue.someAt firstMark.line firstMark.column)).toOption = some proposed := by
  rw [text, Text.ofString_ofList]
  decide +kernel

def isSequence (n : Node) : Bool :=
  match n.kind with
  | .sequence => true
  | _ => false

/-- The query of the repaired text is a sequence. -/
theorem repaired_facts : Script.isRead repaired = true ∧
    ∃ d ∈ (Script.ofText repaired).places, isCandidate d = true ∧
      d.node.arguments.map isSequence = [true] := by
  rw [repaired, Text.ofString_ofList]
  decide +kernel

end Noted

/-- A list can end up inside of the parentheses around an argument. In this text a comment stands
behind the opening one. The list of the repaired text stands in front of the closing one, and
the call runs one argument, a sequence. -/
theorem list_inside_parens :
    ∃ (a : Analysis) (i : Issue) (s s' : Script) (call d : Place) (first query : Node)
      (p : Proposal) (ps : List Enclosure),
      scanTextFor none Noted.text "input.js" = .ok a ∧ a.issues = [i] ∧
      Script.parse Noted.text = .ok (.ok s) ∧
      nearest? (s.places.filter isCandidate) i.line i.column = some call ∧
      isParameterized call.node = false ∧ call.node.arguments = [first] ∧
      concatenates first = true ∧ LaidOut s.text call.node 3 ∧
      Enclosed s.text 4 (call.node.stop - 1) first.start first.stop ps ∧
      propose s i = .ok p ∧ p.edits.map Edit.start = [first.start, first.stop] ∧
      0 < (closings ps).length ∧ Edit.apply s.text p.edits = .ok Noted.repaired ∧
      Script.parse Noted.repaired = .ok (.ok s') ∧ d ∈ s'.places ∧ isCandidate d = true ∧
      d.node.arguments = [query] ∧ query.kind = .sequence := by
  obtain ⟨hplain, hfound, hcalls, hpropose⟩ := Noted.text_facts
  obtain ⟨hread, d, hd, hcandidate, hargs⟩ := Noted.repaired_facts
  obtain ⟨a, i, call, first, hscan, hissues, hmark, hcall, hbare, hfirst, hbuilt, -, hcallee, hstop,
    hfrom, hto⟩ := exists_sole hplain hfound hcalls
  obtain ⟨query, more, hquery, hsequence, hmore⟩ := List.map_eq_cons_iff.mp hargs
  rw [List.map_eq_nil_iff.mp hmore] at hquery
  have htext : (Script.ofText Noted.text).text = Noted.text :=
    Script.text_of_parse (Script.parse_of_isPlain hplain)
  refine ⟨a, i, _, _, call, d, first, query, _, [Noted.pair], hscan, hissues,
    Script.parse_of_isPlain hplain, hcall, hbare, hfirst, hbuilt, ?_, ?_, 
    Query.propose_of_mark hpropose hmark, ?_,
    by decide, ?_, Script.parse_of_isRead hread, hd, hcandidate, hquery, ?_⟩
  · refine laidOut_sole hfirst (by omega) ?_ ?_ (by omega) (by omega)
    · rw [htext]
      rfl
    · rw [htext, hstop]
      rfl
  · rw [htext, hstop, hfrom, hto]
    exact ⟨by decide, ⟨[], by decide, by decide⟩, by decide⟩
  · rw [hfrom, hto]
    rfl
  · rw [htext, Edit.apply, Noted.proposed, Edit.sorted, StableSort.mergeSort_pair]
    decide
  · rw [Noted.isSequence] at hsequence
    split at hsequence
    · assumption
    · cases hsequence

end Query

end Readiness
