import Readiness.Proofs.PlaceholderOrder
import Readiness.Proofs.TemplateText

/-!
# What a query with placeholders says

Give every expression a value, put the values of the parameters where the placeholders
are, with the quotes back where quotes were taken off: what comes out is the query that
the pieces would have built, but for the lengths of runs of blanks. That is the reason
for which a query may be repaired at all.

It holds of queries whose strings are in single quotes and are closed in the text
behind each run inside of them. The proof follows the slots of `Placed`, with two more
facts at every step. The query that stands has as many quotes as the pieces, up to an
even number, so the repair and a reader of the pieces agree on whether a run is inside
of a string; and the quotes in front of the last placeholder are even in number, so the
one that is open at the end stands behind it.
-/

namespace Readiness.Query

open Script

/-! ## Texts up to the lengths of blanks -/

/-- A text with a character in front of it, where a blank does not repeat the one before. -/
def glue (c : CodePoint) (t : Text) : Text :=
  if isSpacing c then (if t.head? = some blank then t else blank :: t) else c :: t

/-- The text with one blank for each run of spaces and tabs. -/
def squeeze (t : Text) : Text := t.foldr glue []

theorem squeeze_append (t u : Text) : squeeze (t ++ u) = t.foldr glue (squeeze u) :=
  List.foldr_append

theorem squeeze_congr_right {t u : Text} (a : Text) (same : squeeze t = squeeze u) :
    squeeze (a ++ t) = squeeze (a ++ u) := by
  rw [squeeze_append, squeeze_append, same]

theorem glue_spacing {c : CodePoint} (h : isSpacing c = true) (t : Text) :
    glue c t = glue blank t := by
  have hblank : isSpacing blank = true := rfl
  rw [glue, glue, if_pos h, if_pos hblank]

theorem glue_glue_blank (t : Text) : glue blank (glue blank t) = glue blank t := by
  have hblank : isSpacing blank = true := rfl
  have hglue : ∀ t : Text, ∃ u, glue blank t = blank :: u := by
    intro t
    rw [glue, if_pos hblank]
    split
    · next hhead => exact ⟨t.tail, (List.cons_head?_tail hhead).symm⟩
    · exact ⟨t, rfl⟩
  obtain ⟨u, hu⟩ := hglue t
  rw [hu, glue, if_pos hblank]
  exact if_pos rfl

theorem squeeze_run {w : Text} (nonempty : w ≠ []) (spacing : ∀ c ∈ w, isSpacing c = true)
    (t : Text) : squeeze (w ++ t) = squeeze (blank :: t) := by
  induction w with
  | nil => exact absurd rfl nonempty
  | cons c w ih =>
      have hc : squeeze (c :: w ++ t) = glue blank (squeeze (w ++ t)) :=
        glue_spacing (spacing c List.mem_cons_self) _
      rw [hc]
      cases w with
      | nil => rfl
      | cons d w =>
          rw [ih (by simp) fun e he => spacing e (List.mem_cons_of_mem c he)]
          exact glue_glue_blank _

theorem squeeze_shortenEnd (t u : Text) : squeeze (shortenEnd t ++ u) = squeeze (t ++ u) := by
  rcases shortenEnd_cases t with hsame | ⟨a, w, tail, ht, hshort, hnonempty, hspacing⟩
  · rw [hsame]
  · rw [hshort, ht, List.append_assoc, List.append_assoc, List.append_assoc]
    exact squeeze_congr_right a (squeeze_run hnonempty hspacing _).symm

/-! ## Values in place of placeholders -/

/-- The text with the given texts in place of its placeholders, one after the other. -/
def fill : List Text → Text → Text
  | _, [] => []
  | [], c :: t => c :: fill [] t
  | v :: values, c :: t => if c = mark then v ++ fill values t else c :: fill (v :: values) t

theorem fill_plain {t : Text} (plain : mark ∉ t) (values : List Text) (u : Text) :
    fill values (t ++ u) = t ++ fill values u := by
  induction t with
  | nil => rfl
  | cons c t ih =>
      rw [List.mem_cons, not_or] at plain
      have ht := ih plain.2
      cases values with
      | nil => rw [List.cons_append, fill, ht, List.cons_append]
      | cons v values =>
          rw [List.cons_append, fill, if_neg (Ne.symm plain.1), ht, List.cons_append]

theorem fill_mark (v : Text) (values : List Text) (t : Text) :
    fill (v :: values) (mark :: t) = v ++ fill values t := by
  rw [fill, if_pos rfl]

/-- A text, in single quotes if it was taken out of them. -/
def enclose (quoted : Bool) (v : Text) : Text := if quoted then single :: v ++ [single] else v

/-- For each run of values behind a text with `n` single quotes, whether the number of single quotes
in front of it is odd. -/
def enclosedFrom (n : Nat) : List Piece → List Bool
  | [] => []
  | .text t :: more => enclosedFrom (n + t.count single) more
  | .values _ :: more => (n % 2 == 1) :: enclosedFrom n more

/-- For each run of values, whether an odd number of single quotes stands in the texts in front
of it. -/
def enclosed (pieces : List Piece) : List Bool := enclosedFrom 0 pieces

/-- The number of single quotes in the texts of pieces. -/
def quotes (pieces : List Piece) : Nat := (items pieces).count (.char single)

/-- The expressions of pieces. -/
def sources (pieces : List Piece) : List Text :=
  pieces.flatMap fun | .text _ => [] | .values run => run

/-- What a piece adds to the query that is built, for given values of expressions. -/
def Piece.worth (value : Text → Text) : Piece → Text
  | .text t => t
  | .values run => run.flatMap value

theorem quotes_cons (piece : Piece) (pieces : List Piece) :
    quotes (piece :: pieces) = piece.items.count (.char single) + quotes pieces := by
  rw [quotes, items, List.flatMap_cons, List.count_append]
  rfl

theorem quotes_more (before : List Piece) (run : List Text) (t : Text) :
    quotes (before ++ [Piece.values run, .text t]) = quotes before + t.count single := by
  rw [quotes, items_more, List.count_append, List.count_cons_of_ne (by simp), count_chars]
  rfl

theorem enclosedFrom_append (n : Nat) (l m : List Piece) :
    enclosedFrom n (l ++ m) = enclosedFrom n l ++ enclosedFrom (n + quotes l) m := by
  induction l generalizing n with
  | nil => rfl
  | cons piece l ih =>
      rw [quotes_cons, ← Nat.add_assoc]
      cases piece with
      | text t =>
          rw [Piece.items, count_chars]
          exact ih _
      | values run =>
          have hnone : (Piece.values run).items.count (.char single) = 0 := by simp [Piece.items]
          rw [hnone, List.cons_append, enclosedFrom, ih]
          rfl

theorem enclosed_more (before : List Piece) (run : List Text) (t : Text) :
    enclosed (before ++ [Piece.values run, .text t]) =
      enclosed before ++ [quotes before % 2 == 1] := by
  rw [enclosed, enclosedFrom_append, Nat.zero_add]
  rfl

/-- What an item adds to the query that is built. -/
def Item.worth (value : Text → Text) : Item → Text
  | .char c => [c]
  | .run l => l.flatMap value

theorem worth_chars (value : Text → Text) (t : Text) :
    (chars t).flatMap (Item.worth value) = t := by
  rw [chars, List.flatMap_map]
  exact List.flatMap_singleton' t

theorem worth_items (value : Text → Text) (pieces : List Piece) :
    (items pieces).flatMap (Item.worth value) = pieces.flatMap (Piece.worth value) := by
  rw [items, List.flatMap_assoc]
  refine List.flatMap_congr fun piece _ => ?_
  cases piece with
  | text t => exact worth_chars value t
  | values run =>
      rw [Piece.items, List.flatMap_singleton]
      rfl

theorem mem_sources {pieces : List Piece} {run : List Text} (h : .run run ∈ items pieces)
    {source : Text} (hsource : source ∈ run) : source ∈ sources pieces := by
  obtain ⟨piece, hpiece, hmem⟩ := List.mem_flatMap.mp h
  cases piece with
  | text t =>
      obtain ⟨c, -, hc⟩ := List.mem_map.mp hmem
      cases hc
  | values run' =>
      cases List.mem_singleton.mp hmem
      exact List.mem_flatMap.mpr ⟨_, hpiece, hsource⟩

/-! ## Values of parameters -/

/-- A template of a run and the texts around it comes to the texts with the values between them. -/
theorem templateValue_run {expressions : List Text} {value : Text → Text} {run : List Text}
    (known : ∀ source ∈ run, source ∈ expressions) (front back : Text) :
    TemplateValue expressions value
      (requoteInside backquote front ++
        (run.map fun source => dollar :: openBrace :: (source ++ [closeBrace])).flatten ++
        (requoteInside backquote back ++ [backquote]))
      (front ++ run.flatMap value ++ back) := by
  induction run generalizing front with
  | nil =>
      have happend : requoteInside backquote front ++ requoteInside backquote back =
          requoteInside backquote (front ++ back) := List.flatMap_append.symm
      simpa [← List.append_assoc, happend] using templateValue_last (front ++ back)
  | cons source run ih =>
      have hrest := ih (fun s hs => known s (List.mem_cons_of_mem source hs)) []
      have hwhole := templateValue_interpolated front (known source List.mem_cons_self) hrest
      simpa [requoteInside] using hwhole

/-- A parameter comes to the value of its run with the texts that were taken with it. -/
theorem evaluates_parameter {expressions : List Text} {value : Text → Text} {run : List Text}
    (known : ∀ source ∈ run, source ∈ expressions) (front back : Text) :
    Evaluates expressions value (parameter run front back)
      (front ++ run.flatMap value ++ back) := by
  rw [parameter.eq_def]
  split
  · next source =>
      have hvalue : ([] ++ [source].flatMap value ++ [] : Text) = value source := by simp
      rw [hvalue]
      exact .expression (known source List.mem_cons_self)
  · have hwhole : Evaluates expressions value _ _ :=
      .template (templateValue_run known front back)
    rw [← List.append_assoc] at hwhole
    exact hwhole

/-! ## Strings that are closed behind their runs -/

/-- The texts of the pieces have no placeholders and no double quotes, and the text behind a run
closes the string that is open in front of it. -/
structure WellQuoted (pieces : List Piece) : Prop where
  plain : ∀ t, .text t ∈ pieces → mark ∉ t ∧ double ∉ t
  closed : ∀ before run more, pieces = before ++ .values run :: more → quotes before % 2 = 1 →
    ∃ t rest, more = .text t :: rest ∧ single ∈ t

theorem WellQuoted.before {before : List Piece} {run : List Text} {t : Text}
    (h : WellQuoted (before ++ [Piece.values run, .text t])) : WellQuoted before := by
  refine ⟨fun u hu => h.plain u (List.mem_append_left _ hu), fun l r more hsplit hodd => ?_⟩
  subst hsplit
  obtain ⟨u, rest, hmore, hmem⟩ :=
    h.closed l r (more ++ [Piece.values run, .text t]) (by simp) hodd
  cases more with
  | nil => cases hmore
  | cons piece more =>
      cases hmore
      exact ⟨u, more, rfl, hmem⟩

theorem WellQuoted.next {before : List Piece} {run : List Text} {t : Text}
    (h : WellQuoted (before ++ [Piece.values run, .text t])) (odd : quotes before % 2 = 1) :
    single ∈ t := by
  obtain ⟨u, rest, hmore, hmem⟩ := h.closed before run [.text t] rfl odd
  cases hmore
  exact hmem

theorem WellQuoted.addEmpty {pieces : List Piece} (h : WellQuoted pieces) :
    WellQuoted (pieces ++ [Piece.text []]) := by
  constructor
  · intro t ht
    rcases List.mem_append.mp ht with ht | ht
    · exact h.plain t ht
    · cases List.mem_singleton.mp ht
      exact ⟨List.not_mem_nil, List.not_mem_nil⟩
  · intro before run more hsplit hodd
    rcases List.eq_nil_or_concat more with rfl | ⟨init, last, rfl⟩
    · obtain ⟨-, hlast⟩ := List.append_inj' hsplit rfl
      cases hlast
    · rw [List.concat_eq_append, ← List.cons_append, ← List.append_assoc] at hsplit
      obtain ⟨hpieces, -⟩ := List.append_inj' hsplit rfl
      obtain ⟨t, rest, rfl, hmem⟩ := h.closed before run init hpieces hodd
      exact ⟨t, rest ++ [last], by simp, hmem⟩

/-- The query and the pieces agree on quotes: the same runs stand between them, they are single
ones, and none is open in front of the last placeholder. -/
structure Balanced (pieces : List Piece) (p : Parameterized) (slots : List Slot) (tail : Text) :
    Prop extends Placed pieces p slots tail where
  flags : enclosed pieces = slots.map fun s => s.quotation.isSome
  quote : ∀ s ∈ slots, ∀ u, s.quotation = some u → u.quote = single
  even : (slots.flatMap Slot.sql).count single % 2 = 0
  plain : double ∉ p.sql
  odd : p.sql.count single % 2 = quotes pieces % 2

theorem count_slot (slots : List Slot) (s : Slot) :
    ((slots ++ [s]).flatMap Slot.sql).count single =
      (slots.flatMap Slot.sql ++ s.lead).count single := by
  rw [List.flatMap_append, List.flatMap_singleton, Slot.sql, List.count_append,
    count_placeholder rfl (by decide), List.count_append]
  rfl

theorem Balanced.kept {before : List Piece} {p : Parameterized} {slots : List Slot} {tail : Text}
    (h : Balanced before p slots tail) (run : List Text) {t : Text} (plain : double ∉ t)
    (closed : quotes before % 2 = 0) :
    Balanced (before ++ [Piece.values run, .text t])
      ⟨shortenEnd p.sql ++ mark :: t, p.params ++ [parameter run [] []]⟩
      (slots ++ [⟨tail, run, none⟩]) t := by
  have hodd := h.odd
  refine ⟨h.toPlaced.kept run t, ?_, ?_, ?_, ?_, ?_⟩
  · rw [enclosed_more, h.flags, closed, List.map_append]
    rfl
  · intro s hs u hu
    rcases List.mem_append.mp hs with hs | hs
    · exact h.quote s hs u hu
    · cases List.mem_singleton.mp hs
      cases hu
  · rw [count_slot, ← h.sql]
    exact hodd.trans closed
  · have hdouble := h.plain
    rw [← List.count_eq_zero] at hdouble plain ⊢
    rw [count_placeholder rfl (by decide), hdouble, plain]
  · rw [quotes_more, count_placeholder rfl (by decide)]
    omega

theorem Balanced.taken {before : List Piece} {p : Parameterized} {slots : List Slot}
    {lead front : Text} (h : Balanced before p slots (lead ++ single :: front))
    (last : single ∉ front) (run : List Text) {back rest : Text} (first : single ∉ back)
    (plain : double ∉ back ++ single :: rest) (closed : quotes before % 2 = 1) :
    Balanced (before ++ [Piece.values run, .text (back ++ single :: rest)])
      ⟨shortenEnd (slots.flatMap Slot.sql ++ lead) ++ mark :: rest,
        p.params ++ [parameter run front back]⟩
      (slots ++ [⟨lead, run, some ⟨single, front, back⟩⟩]) rest := by
  have hodd := h.odd
  have heven := h.even
  rw [← List.count_eq_zero] at last first
  have hsql : p.sql.count single =
      (slots.flatMap Slot.sql).count single + lead.count single + 1 := by
    rw [h.sql, List.count_append, List.count_append, List.count_cons_self, last]
    omega
  refine ⟨h.toPlaced.taken run back rest, ?_, ?_, ?_, ?_, ?_⟩
  · rw [enclosed_more, h.flags, closed, List.map_append]
    rfl
  · intro s hs u hu
    rcases List.mem_append.mp hs with hs | hs
    · exact h.quote s hs u hu
    · cases List.mem_singleton.mp hs
      cases hu
      rfl
  · rw [count_slot, List.count_append]
    dsimp only
    omega
  · have hdouble := h.plain
    rw [h.sql] at hdouble
    simp only [List.mem_append, List.mem_cons, not_or] at hdouble plain
    have hcut : (slots.flatMap Slot.sql ++ lead).count double = 0 := by
      rw [List.count_eq_zero, List.mem_append, not_or]
      exact ⟨hdouble.1, hdouble.2.1⟩
    rw [← List.count_eq_zero, count_placeholder rfl (by decide), hcut,
      List.count_eq_zero.mpr plain.2.2]
  · rw [quotes_more, count_placeholder rfl (by decide), List.count_append, List.count_append,
      List.count_cons_self, first]
    omega

/-- Where no double quote stands, single quotes decide. -/
theorem openQuote?_of_plain {sql : Text} (plain : double ∉ sql) {q : CodePoint}
    (isOpen : openQuote? sql = some q) : q = single := by
  rcases quote_of_openQuote? isOpen with rfl | rfl
  · rfl
  · exact absurd (mem_of_openQuote? isOpen) plain

theorem balanced_step {before : List Piece} {run : List Text} {t : Text} {p p' : Parameterized}
    (h : ∃ slots tail, Balanced before p slots tail)
    (quoted : WellQuoted (before ++ [Piece.values run, .text t])) (step : Step p run t p') :
    ∃ slots tail, Balanced (before ++ [Piece.values run, .text t]) p' slots tail := by
  obtain ⟨slots, tail, h⟩ := h
  have hodd := h.odd
  have hdouble : double ∉ t := (quoted.plain t (by simp)).2
  cases step with
  | kept closed =>
      have heven : quotes before % 2 = 0 := by
        by_contra hne
        have hquotes : quotes before % 2 = 1 := by omega
        have hopen : openQuote? p.sql = some single := by
          rw [openQuote?_eq, if_pos (by omega)]
        exact closed single hopen (quoted.next hquotes)
      exact ⟨_, _, h.kept run hdouble heven⟩
  | @taken q cut front back rest isOpen sql last next first =>
      cases openQuote?_of_plain h.plain isOpen
      have hopen := odd_of_openQuote? isOpen
      have heven := h.even
      -- The slots have an even number of quotes, so the last of an odd number is in the tail.
      have htail : single ∈ tail := by
        rw [h.sql, List.count_append] at hopen
        exact List.count_pos_iff.mp (by omega)
      obtain ⟨lead, front', rfl, hlast⟩ := Text.exists_last htail
      have hsame : (slots.flatMap Slot.sql ++ lead) ++ single :: front' =
          cut ++ single :: front := by
        rw [← sql, h.sql, List.append_assoc]
      obtain ⟨rfl, rfl⟩ := Text.last_unique hlast last hsame
      subst next
      exact ⟨_, _, h.taken last run first hdouble (by omega)⟩

theorem balanced_of_woven {pieces : List Piece} (woven : Woven pieces)
    (quoted : WellQuoted pieces) :
    ∃ p slots tail, assemble pieces = .ok p ∧ Balanced pieces p slots tail := by
  have hquote : ∀ s ∈ ([] : List Slot), ∀ u, s.quotation = some u → u.quote = single :=
    fun _ hs => absurd hs List.not_mem_nil
  have htext : ∀ t, WellQuoted [.text t] → ∃ slots tail, Balanced [.text t] ⟨t, []⟩ slots tail := by
    intro t ht
    refine ⟨[], t, ⟨by simp [items, Piece.items], rfl, rfl⟩, rfl, hquote, rfl,
      (ht.plain t (by simp)).2, ?_⟩
    rw [quotes, ← count_chars]
    simp [items, Piece.items]
  obtain ⟨p, hp, hbalanced, -⟩ := assemble_invariant
    (P := fun pieces p => WellQuoted pieces → ∃ slots tail, Balanced pieces p slots tail)
    (fun _ => ⟨[], [], ⟨rfl, rfl, rfl⟩, rfl, hquote, rfl, List.not_mem_nil, rfl⟩) htext
    (fun _ _ h hstep hquoted => balanced_step (h hquoted.before) hquoted hstep) woven
  obtain ⟨slots, tail, hslots⟩ := hbalanced quoted
  exact ⟨p, slots, tail, hp, hslots⟩

/-! ## The query that is said -/

theorem fill_slots {slots : List Slot} {tail : Text} (leads : ∀ s ∈ slots, mark ∉ s.lead)
    (plain : mark ∉ tail) (worth : Slot → Text) :
    fill (slots.map worth) (slots.flatMap Slot.sql ++ tail) =
      slots.flatMap (fun s => shortenEnd s.lead ++ worth s) ++ tail := by
  induction slots with
  | nil => simpa [fill] using fill_plain plain [] []
  | cons s slots ih =>
      have hlead : mark ∉ shortenEnd s.lead := by
        rw [← List.count_eq_zero, count_shortenEnd rfl, List.count_eq_zero]
        exact leads s List.mem_cons_self
      rw [List.flatMap_cons, List.map_cons, Slot.sql, List.append_assoc, List.append_assoc,
        fill_plain hlead, List.singleton_append, fill_mark,
        ih fun s' hs' => leads s' (List.mem_cons_of_mem s hs')]
      simp

theorem squeeze_slots (slots : List Slot) (tail : Text) (worth : Slot → Text) :
    squeeze (slots.flatMap (fun s => shortenEnd s.lead ++ worth s) ++ tail) =
      squeeze (slots.flatMap (fun s => s.lead ++ worth s) ++ tail) := by
  induction slots with
  | nil => rfl
  | cons s slots ih =>
      simp only [List.flatMap_cons, List.append_assoc] at ih ⊢
      rw [squeeze_shortenEnd]
      exact squeeze_congr_right _ (squeeze_congr_right _ ih)

/-- What stands in a slot, for given values of expressions. -/
def Slot.worth (value : Text → Text) (s : Slot) : Text :=
  s.opening ++ s.run.flatMap value ++ s.closing

theorem Slot.worth_items (value : Text → Text) (s : Slot) :
    s.items.flatMap (Item.worth value) = s.lead ++ s.worth value := by
  rw [Slot.items, List.flatMap_append, List.flatMap_cons, worth_chars, worth_chars, Slot.worth]
  simp [Item.worth]

/-- What the parameter of a slot comes to. -/
def Slot.value (value : Text → Text) (s : Slot) : Text :=
  match s.quotation with
  | none => s.run.flatMap value
  | some u => u.front ++ s.run.flatMap value ++ u.back

theorem Slot.evaluates {expressions : List Text} (value : Text → Text) {s : Slot}
    (known : ∀ source ∈ s.run, source ∈ expressions) :
    Evaluates expressions value s.parameter (s.value value) := by
  rw [Slot.parameter, Slot.value]
  cases s.quotation with
  | none => simpa using evaluates_parameter known [] []
  | some u => exact evaluates_parameter known u.front u.back

/-- The value of a parameter, in the quotes that were taken off, is what stood in its slot. -/
theorem Slot.enclose_value (value : Text → Text) {s : Slot}
    (quote : ∀ u, s.quotation = some u → u.quote = single) :
    enclose s.quotation.isSome (s.value value) = s.worth value := by
  rw [Slot.worth, Slot.opening, Slot.closing, Slot.value]
  cases hquotation : s.quotation with
  | none => simp [enclose]
  | some u => simp [enclose, quote u hquotation]

/-- What holds of a query and the values of its parameters when the expressions have values. -/
def Renders (pieces : List Piece) (value : Text → Text) (p : Parameterized) (values : List Text) :
    Prop :=
  List.Forall₂ (Evaluates (sources pieces) value) p.params values ∧
    p.sql.count mark = (enclosed pieces).length ∧ values.length = (enclosed pieces).length ∧
    squeeze (fill (List.zipWith enclose (enclosed pieces) values) p.sql) =
      squeeze (pieces.flatMap (Piece.worth value))

theorem Balanced.renders {pieces : List Piece} {p : Parameterized} {slots : List Slot} {tail : Text}
    (h : Balanced pieces p slots tail) (quoted : WellQuoted pieces) (value : Text → Text) :
    Renders pieces value p (slots.map (Slot.value value)) := by
  obtain ⟨hleads, htail⟩ := h.toPlaced.unmarked fun t ht => (quoted.plain t ht).1
  refine ⟨?_, ?_, ?_, ?_⟩
  · rw [h.params, List.forall₂_map_left_iff, List.forall₂_map_right_iff, List.forall₂_same]
    intro s hs
    refine Slot.evaluates value fun source hsource => mem_sources ?_ hsource
    rw [h.items]
    refine List.mem_append_left _ (List.mem_flatMap.mpr ⟨s, hs, ?_⟩)
    simp [Slot.items]
  · rw [h.sql, List.count_append, count_slots hleads, List.count_eq_zero.mpr htail, h.flags,
      List.length_map, Nat.add_zero]
  · rw [h.flags, List.length_map, List.length_map]
  · have hvalues : List.zipWith enclose (enclosed pieces) (slots.map (Slot.value value)) =
        slots.map (Slot.worth value) := by
      rw [h.flags, List.zipWith_map, List.zipWith_self]
      exact List.map_congr_left fun s hs => Slot.enclose_value value (h.quote s hs)
    have hworth : pieces.flatMap (Piece.worth value) =
        slots.flatMap (fun s => s.lead ++ s.worth value) ++ tail := by
      rw [← worth_items, h.items, List.flatMap_append, List.flatMap_assoc, worth_chars]
      simp only [Slot.worth_items]
    rw [hvalues, h.sql, fill_slots hleads htail, squeeze_slots, hworth]

/-- An empty text at the end changes nothing. -/
theorem renders_of_full {pieces full : List Piece}
    (h : full = pieces ∨ full = pieces ++ [Piece.text []]) {value : Text → Text}
    {p : Parameterized} {values : List Text} (renders : Renders full value p values) :
    Renders pieces value p values := by
  rcases h with rfl | rfl
  · exact renders
  · have henclosed : enclosed (pieces ++ [Piece.text []]) = enclosed pieces := by
      rw [enclosed, enclosedFrom_append]
      exact List.append_nil _
    have hsources : sources (pieces ++ [Piece.text []]) = sources pieces := by
      rw [sources, List.flatMap_append]
      exact List.append_nil _
    have hworth : (pieces ++ [Piece.text []]).flatMap (Piece.worth value) =
        pieces.flatMap (Piece.worth value) := by
      rw [List.flatMap_append]
      exact List.append_nil _
    rw [Renders, henclosed, hsources, hworth] at renders
    exact renders

/-- A query that is put together from texts and runs in turn says what the pieces say, where strings
are in single quotes and each run inside of one has its end in the text behind it. Whatever the
values of the expressions are, the parameters have values, and the query with these in place of its
placeholders, in single quotes exactly if an odd number of them stood in front of the run, is the
query that the pieces build, up to the lengths of runs of blanks. If templates are given their
values as well, the values of the parameters are theirs. Doubled quotes may occur: they change
nothing here. -/
theorem fill_assemble {pieces : List Piece} (alternates : Alternates pieces)
    (quoted : WellQuoted pieces) (value : Text → Text) :
    ∃ p values, assemble pieces = .ok p ∧
      List.Forall₂ (Evaluates (sources pieces) value) p.params values ∧
      p.sql.count mark = (enclosed pieces).length ∧ values.length = (enclosed pieces).length ∧
      squeeze (fill (List.zipWith enclose (enclosed pieces) values) p.sql) =
        squeeze (pieces.flatMap (Piece.worth value)) ∧
      ((∀ t v, TemplateValue (sources pieces) value t v → value (backquote :: t) = v) →
        values = p.params.map value) := by
  obtain ⟨full, hwoven, hassemble, hfull⟩ := exists_full alternates
  have hquoted : WellQuoted full := by
    rcases hfull with rfl | rfl
    · exact quoted
    · exact quoted.addEmpty
  obtain ⟨p, slots, tail, hp, hbalanced⟩ := balanced_of_woven hwoven hquoted
  obtain ⟨hevaluates, hmarks, hlength, hsame⟩ :=
    renders_of_full hfull (hbalanced.renders hquoted value)
  refine ⟨p, _, hassemble.symm.trans hp, hevaluates, hmarks, hlength, hsame, fun law => ?_⟩
  have hvalues := hevaluates.imp fun t v h => h.eq_value law
  rw [← List.forall₂_eq_eq_eq, List.forall₂_map_right_iff]
  exact hvalues.flip

/-! A value between two wildcards. -/

namespace Wildcard

def pieces : List Piece := [.text "name  LIKE '%", .values ["x"], .text "%'"]

theorem wellQuoted : WellQuoted pieces := by
  constructor
  · intro t ht
    simp only [pieces, List.mem_cons, Piece.text.injEq, reduceCtorEq, List.not_mem_nil, or_false,
      false_or] at ht
    rcases ht with rfl | rfl <;> decide
  · intro before run more hsplit _
    match before with
    | [] => cases hsplit
    | [_] =>
        cases hsplit
        exact ⟨_, _, rfl, by decide⟩
    | [_, _] => cases hsplit
    | _ :: _ :: _ :: before => simp [pieces] at hsplit

end Wildcard

theorem fill_assemble_sample :
    ∃ value : Text → Text, Alternates Wildcard.pieces ∧ WellQuoted Wildcard.pieces ∧
      (∀ t v, TemplateValue (sources Wildcard.pieces) value t v → value (backquote :: t) = v) ∧
      value "x" = "Ann" ∧ assemble Wildcard.pieces = .ok ⟨"name  LIKE ?", ["`%$\x7bx\x7d%`"]⟩ ∧
      squeeze (fill [enclose true (value "`%$\x7bx\x7d%`")] "name  LIKE ?") =
        "name LIKE '%Ann%'" := by
  have halternates : Alternates Wildcard.pieces := by decide
  have hplain : ∀ source ∈ sources Wildcard.pieces,
      closeBrace ∉ source ∧ source.head? ≠ some backquote := by decide
  obtain ⟨value, hvalue, hlaw⟩ := exists_valuation hplain fun _ => "Ann"
  have hx : value "x" = "Ann" := hvalue "x" (by decide)
  have hassemble : assemble Wildcard.pieces =
      .ok ⟨"name  LIKE ?", ["`%$\x7bx\x7d%`"]⟩ := by rfl
  obtain ⟨p, values, hp, -, -, -, hsame, hlawful⟩ :=
    fill_assemble halternates Wildcard.wellQuoted value
  obtain rfl := Except.ok.inj (hassemble.symm.trans hp)
  rw [hlawful hlaw] at hsame
  refine ⟨value, halternates, Wildcard.wellQuoted, hlaw, hx, hassemble, hsame.trans ?_⟩
  have hworth : Wildcard.pieces.flatMap (Piece.worth value) =
      ("name  LIKE '%" : Text) ++ (value "x" ++ ("%'" : Text)) := by
    simp [Wildcard.pieces, Piece.worth]
  rw [hworth, hx]
  decide

end Readiness.Query
