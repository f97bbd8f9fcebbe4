import Mathlib.Algebra.GroupWithZero.Nat
import Mathlib.Data.List.Forall2
import Readiness.Proofs.PatchReading
import Readiness.Report.Html
import Readiness.Report.Time

/-!
# Texts add nothing to the markup of a page

Two pages are compared that tell of the same issues in other words. What a browser takes for markup
is the angle brackets and what stands in tags (`markup`). A line of a page is made of pieces that
the library writes, which leave no tag open, and of texts in which no bracket is left
(`plain_escape`), so lines that differ in such texts have the same markup (`SameMarkup.around`).
From the lines this goes to the page.

Other names of files put the issues in another order. Then the lines of the issues are the same
only up to their order, and so is the number of brackets, as long as none of them is cut off.
-/

namespace Readiness.Report

/-! ## Markup -/

/-- Whether a reader stands in a tag behind a character. -/
def stepInTag (inside : Bool) (c : CodePoint) : Bool :=
  if c = '<' then true else if c = '>' then false else inside

/-- Whether a reader stands in a tag at the end of a text. -/
def inTag (inside : Bool) (t : Text) : Bool := t.foldl stepInTag inside

/-- The angle brackets of a text, in order, with what stands in its tags. -/
def markup (inside : Bool) : Text → Text
  | [] => []
  | c :: r =>
    if c = '<' ∨ c = '>' ∨ inside then c :: markup (stepInTag inside c) r
    else markup (stepInTag inside c) r

/-- A text without angle brackets. -/
def Plain (t : Text) : Prop := ∀ c ∈ t, c ≠ '<' ∧ c ≠ '>'

instance (t : Text) : Decidable (Plain t) :=
  inferInstanceAs (Decidable (∀ c ∈ t, c ≠ '<' ∧ c ≠ '>'))

variable {inside : Bool} {s s' t t' : Text}

theorem inTag_append : inTag inside (s ++ t) = inTag (inTag inside s) t :=
  List.foldl_append

theorem markup_append : markup inside (s ++ t) = markup inside s ++ markup (inTag inside s) t := by
  induction s generalizing inside with
  | nil => rfl
  | cons c s ih =>
      rw [List.cons_append, markup, markup, ih]
      split <;> rfl

theorem Plain.inTag_eq (h : Plain t) : inTag inside t = inside := by
  induction t with
  | nil => rfl
  | cons c t ih =>
      obtain ⟨hc, ht⟩ := List.forall_mem_cons.mp h
      rw [inTag, List.foldl_cons, stepInTag, if_neg hc.1, if_neg hc.2]
      exact ih ht

theorem Plain.markup_eq_nil (h : Plain t) : markup false t = [] := by
  induction t with
  | nil => rfl
  | cons c t ih =>
      obtain ⟨hc, ht⟩ := List.forall_mem_cons.mp h
      rw [markup, stepInTag, if_neg hc.1, if_neg hc.2]
      simp [hc.1, hc.2, ih ht]

/-- No angle bracket is left out of the markup. -/
theorem count_markup {c : CodePoint} (hc : c = '<' ∨ c = '>') :
    (markup inside t).count c = t.count c := by
  induction t generalizing inside with
  | nil => rfl
  | cons d t ih =>
      rw [markup]
      split
      · rw [List.count_cons, List.count_cons, ih]
      · next hd =>
          have hne : d ≠ c := by
            rintro rfl
            exact hd (hc.elim .inl fun h => .inr (.inl h))
          rw [ih, List.count_cons_of_ne hne]

/-! ## Texts with the same markup -/

/-- Two texts that leave no tag open and have the same markup. -/
structure SameMarkup (s t : Text) : Prop where
  same : markup false s = markup false t
  left : inTag false s = false
  right : inTag false t = false

namespace SameMarkup

theorem refl (h : inTag false t = false) : SameMarkup t t := ⟨rfl, h, h⟩

theorem of_plain (hs : Plain s) (ht : Plain t) : SameMarkup s t :=
  ⟨hs.markup_eq_nil.trans ht.markup_eq_nil.symm, hs.inTag_eq, ht.inTag_eq⟩

theorem append (h : SameMarkup s t) (h' : SameMarkup s' t') : SameMarkup (s ++ s') (t ++ t') := by
  refine ⟨?_, ?_, ?_⟩
  · rw [markup_append, markup_append, h.left, h.right, h.same, h'.same]
  · rw [inTag_append, h.left, h'.left]
  · rw [inTag_append, h.right, h'.right]

/-- The pieces of a line around what differs are the same ones. -/
theorem around (h : SameMarkup s t) (before behind : Text)
    (hbefore : inTag false before = false) (hbehind : inTag false behind = false) :
    SameMarkup (before ++ s ++ behind) (before ++ t ++ behind) :=
  ((refl hbefore).append h).append (refl hbehind)

theorem join {lines others : List Text} (h : List.Forall₂ SameMarkup lines others) :
    SameMarkup (Text.join "\n" lines) (Text.join "\n" others) := by
  induction h with
  | nil => exact refl rfl
  | cons hline hmore ih =>
      cases hmore with
      | nil => exact hline
      | cons => exact (hline.append (refl rfl)).append ih

theorem count_eq (h : SameMarkup s t) {c : CodePoint} (hc : c = '<' ∨ c = '>') :
    s.count c = t.count c := by
  rw [← count_markup hc, h.same, count_markup hc]

end SameMarkup

/-! ## Texts without brackets -/

theorem Plain.append (hs : Plain s) (ht : Plain t) : Plain (s ++ t) :=
  List.forall_mem_append.mpr ⟨hs, ht⟩

theorem plain_natText (n : Nat) : Plain (toString n) := by
  intro c hc
  have hdigit := Diff.isDigit_of_mem_toString hc
  constructor
  · rintro rfl
    exact absurd hdigit (by decide)
  · rintro rfl
    exact absurd hdigit (by decide)

theorem plain_intText (n : Int) : Plain (toString n) := by
  cases n with
  | ofNat n => exact plain_natText n
  | negSucc n =>
      have hminus : (toString (Int.negSucc n) : Text) = "-" ++ (toString (n + 1) : Text) := by
        rw [Text.ofString, Int.toString_eq_repr, Int.repr, String.toList_append, List.map_append]
        rfl
      rw [hminus]
      exact Plain.append (by decide) (plain_natText (n + 1))

theorem plain_twoDigits (n : Nat) : Plain (twoDigits n) := by
  rw [twoDigits]
  split
  · exact Plain.append (by decide) (plain_natText n)
  · exact plain_natText n

theorem plain_minuteText (seconds : Nat) : Plain (minuteText seconds) := by
  have hday := ((plain_intText (Day.ofCount (seconds / 86400)).year).append
    (t := "-") (by decide)).append (plain_twoDigits (Day.ofCount (seconds / 86400)).month)
  have hdate := (hday.append (t := "-") (by decide)).append
    (plain_twoDigits (Day.ofCount (seconds / 86400)).day)
  have hhour := (hdate.append (t := " ") (by decide)).append
    (plain_twoDigits (seconds % 86400 / 60 / 60))
  have hminute := (hhour.append (t := ":") (by decide)).append
    (plain_twoDigits (seconds % 86400 / 60 % 60))
  exact hminute.append (by decide)

theorem plain_escape (s : Text) : Plain (escape s) := by
  intro c hc
  obtain ⟨d, -, hd⟩ := List.mem_flatMap.mp hc
  have hplain : Plain (escapeChar d) := by
    unfold escapeChar
    split <;> try decide
    next _ hopen hclose _ _ =>
      exact List.forall_mem_singleton.mpr ⟨hopen, hclose⟩
  exact hplain c hd

/-! ## Lists that agree item by item -/

section Lists

variable {α β : Type} {R : α → α → Prop} {l m : List α}

theorem map_eq_of_forall₂ {f : α → β} (h : List.Forall₂ R l m) (hf : ∀ x y, R x y → f x = f y) :
    l.map f = m.map f := by
  rw [← List.forall₂_eq_eq_eq, List.forall₂_map_left_iff, List.forall₂_map_right_iff]
  exact h.imp hf

theorem forall₂_and {S : α → α → Prop} (h : List.Forall₂ R l m) (h' : List.Forall₂ S l m) :
    List.Forall₂ (fun x y => R x y ∧ S x y) l m := by
  induction h with
  | nil => exact .nil
  | cons hxy _ ih =>
      obtain ⟨hxy', hmore⟩ := List.forall₂_cons.mp h'
      exact .cons ⟨hxy, hxy'⟩ (ih hmore)

/-- Sorting moves the items of both lists alike, if their order does not tell them apart. -/
theorem forall₂_mergeSort (le : α → α → Bool) (h : List.Forall₂ R l m)
    (hle : ∀ x y x' y', R x y → R x' y' → le x x' = le y y') :
    List.Forall₂ R (l.mergeSort le) (m.mergeSort le) := by
  obtain ⟨hlength, hzip⟩ := List.forall₂_iff_zip.mp h
  have hl : (l.zip m).map Prod.fst = l := List.map_fst_zip (Nat.le_of_eq hlength)
  have hm : (l.zip m).map Prod.snd = m := List.map_snd_zip (Nat.le_of_eq hlength.symm)
  have hpairs : ∀ p ∈ l.zip m, R p.1 p.2 := fun p hp => hzip hp
  generalize l.zip m = pairs at hl hm hpairs
  subst hl hm
  rw [← List.map_mergeSort (r := fun p q => le p.1 q.1) (f := Prod.fst) fun _ _ _ _ => rfl,
    ← List.map_mergeSort (r := fun p q => le p.1 q.1) (f := Prod.snd) fun p hp q hq =>
      hle _ _ _ _ (hpairs p hp) (hpairs q hq),
    List.forall₂_map_left_iff, List.forall₂_map_right_iff, List.forall₂_same]
  exact fun p hp => hpairs p (List.mem_mergeSort.mp hp)

end Lists

/-! ## Analyses that tell of the same issues -/

/-- Two issues that differ at most in the names of their files and in the texts of message, impact
and lesson, where one has no impact or no lesson if the other has none. -/
structure Reworded (i j : Issue) : Prop where
  same : j = { i with
    location := { i.location with file := j.file }
    message := j.message
    impact := j.impact
    education := j.education }
  impact : i.impact = [] ↔ j.impact = []
  education : i.education = [] ↔ j.education = []

namespace Reworded

variable {i j : Issue}

theorem type_eq (h : Reworded i j) : i.type = j.type := by rw [h.same]

theorem severity_eq (h : Reworded i j) : i.severity = j.severity := by rw [h.same]

theorem category_eq (h : Reworded i j) : i.category = j.category := by rw [h.same]

theorem line_eq (h : Reworded i j) : i.line = j.line := by rw [h.same]; rfl

end Reworded

variable {a b : Analysis}

/-- Issues in other words count the same by severity and by category. -/
theorem countP_eq_of_reworded (h : List.Forall₂ Reworded a.issues b.issues) :
    (∀ s, a.issues.countP (·.severity == s) = b.issues.countP (·.severity == s)) ∧
      ∀ c, a.issues.countP (·.category == c) = b.issues.countP (·.category == c) := by
  have hseverity := map_eq_of_forall₂ h fun _ _ => Reworded.severity_eq
  have hcategory := map_eq_of_forall₂ h fun _ _ => Reworded.category_eq
  constructor
  · intro s
    have hcount := congrArg (List.countP (· == s)) hseverity
    rwa [List.countP_map, List.countP_map] at hcount
  · intro c
    have hcount := congrArg (List.countP (· == c)) hcategory
    rwa [List.countP_map, List.countP_map] at hcount

theorem byCategory_eq_of_reworded (h : List.Forall₂ Reworded a.issues b.issues) :
    a.byCategory = b.byCategory := by
  simp only [Analysis.byCategory, (countP_eq_of_reworded h).2]

theorem recommendations_eq_of_reworded (hscore : a.score = b.score)
    (h : List.Forall₂ Reworded a.issues b.issues) : recommendations a = recommendations b := by
  have hcritical : a.issues.any (·.severity == .critical) =
      b.issues.any (·.severity == .critical) := by
    have hany := congrArg (List.any · (· == Severity.critical))
      (map_eq_of_forall₂ h fun _ _ => Reworded.severity_eq)
    rwa [List.any_map, List.any_map] at hany
  have hcount (c : Category) : countOf a c = countOf b c := (countP_eq_of_reworded h).2 c
  unfold recommendations
  rw [hcritical, hcount, hcount, hscore]

/-! ## The sections of a page -/

theorem badge_same (s : Severity) : SameMarkup (badge s) (badge s) :=
  .refl (by cases s <;> rfl)

theorem summaryLine_same {label : Text} (hlabel : Plain label) (h : SameMarkup s t) :
    SameMarkup (summaryLine label s) (summaryLine label t) := by
  have hbefore : inTag false ("<p><strong>" ++ label ++ ":</strong> ") = false := by
    rw [inTag_append, inTag_append, hlabel.inTag_eq]
    rfl
  exact h.around _ _ hbefore rfl

/-- The names of frameworks are the only texts of the summary. -/
theorem summary_same (hscore : a.score = b.score) (hissues : a.issues.length = b.issues.length)
    (hframework : Option.Rel (fun f g => f = [] ↔ g = []) a.context.framework
      b.context.framework) : List.Forall₂ SameMarkup (summary a) (summary b) := by
  have htier : SameMarkup (Text.upper (tierOf b.score).name) (Text.upper (tierOf b.score).name) :=
    .refl (by cases tierOf b.score <;> rfl)
  have hnumber (n m : Nat) : SameMarkup (toString n : String) (toString m : String) :=
    .of_plain (plain_natText n) (plain_natText m)
  have hscoreLine := (SameMarkup.of_plain (plain_intText b.score) (plain_intText b.score)).around
    "<div class=\"score\">" "/100</div>" rfl rfl
  unfold summary
  rw [hscore, hissues]
  refine List.rel_append ?_ ?_
  · refine .cons (.refl rfl) (.cons (.refl rfl) (.cons hscoreLine (.cons (.refl rfl) ?_)))
    refine .cons (summaryLine_same (by decide) htier) ?_
    refine .cons (summaryLine_same (by decide) (hnumber _ _)) ?_
    exact .cons (summaryLine_same (by decide) (hnumber _ _)) .nil
  · rw [List.concat_eq_append, List.concat_eq_append]
    refine List.rel_append ?_ (.cons (.refl rfl) .nil)
    generalize a.context.framework = found, b.context.framework = found' at hframework ⊢
    cases hframework with
    | none => exact .nil
    | @some f g hempty =>
        simp only [List.isEmpty_iff, hempty]
        split
        · exact .nil
        · have hline := SameMarkup.of_plain (plain_escape f) (plain_escape g)
          exact .cons (summaryLine_same (by decide) hline) .nil

theorem enclosed_same {first second last : Text} {lines others : List Text}
    (hfirst : inTag false first = false) (hsecond : inTag false second = false)
    (hlast : inTag false last = false) (h : List.Forall₂ SameMarkup lines others) :
    List.Forall₂ SameMarkup (first :: second :: lines.concat last)
      (first :: second :: others.concat last) := by
  rw [List.concat_eq_append, List.concat_eq_append]
  exact .cons (.refl hfirst) (.cons (.refl hsecond) (List.rel_append h (.cons (.refl hlast) .nil)))

/-- The tables show numbers only. -/
theorem tables_same (h : List.Forall₂ Reworded a.issues b.issues) :
    List.Forall₂ SameMarkup (tables a) (tables b) := by
  have hempty : a.issues.isEmpty = b.issues.isEmpty := by
    have hmap := congrArg List.isEmpty (map_eq_of_forall₂ h fun _ _ => Reworded.severity_eq)
    rwa [List.isEmpty_map, List.isEmpty_map] at hmap
  have hrow (s : Severity) (row : Text) (hs : severityRow? b s = some row) :
      SameMarkup row row := by
    simp only [severityRow?] at hs
    split at hs
    · cases hs
    · obtain rfl := Option.some.inj hs
      have hcount (n : Nat) := SameMarkup.of_plain (plain_natText n) (plain_natText n)
      exact (((badge_same s).around "<tr><td>" "</td><td>" rfl rfl).append
        (hcount _)).append (.refl rfl)
  have hcategory (c : Text) (n : Nat) :
      SameMarkup ("<tr><td>" ++ escape c ++ "</td><td>" ++ (toString n : String) ++ "</td></tr>")
        ("<tr><td>" ++ escape c ++ "</td><td>" ++ (toString n : String) ++ "</td></tr>") := by
    have hname := SameMarkup.of_plain (plain_escape c) (plain_escape c)
    have hcount := SameMarkup.of_plain (plain_natText n) (plain_natText n)
    exact ((hname.around _ _ rfl rfl).append hcount).append (.refl rfl)
  have hrows : severityRow? a = severityRow? b := by
    funext s
    unfold severityRow?
    rw [(countP_eq_of_reworded h).1]
  unfold tables
  rw [hempty, hrows, byCategory_eq_of_reworded h]
  split
  · exact .nil
  · refine List.rel_append (enclosed_same rfl rfl rfl ?_) (enclosed_same rfl rfl rfl ?_)
    · refine List.forall₂_same.mpr fun row hmem => ?_
      obtain ⟨s, -, hs⟩ := List.mem_filterMap.mp hmem
      exact hrow s row hs
    · rw [List.forall₂_map_left_iff, List.forall₂_map_right_iff, List.forall₂_same]
      exact fun p _ => hcategory p.1 p.2

theorem nextSteps_same (hscore : a.score = b.score) (h : List.Forall₂ Reworded a.issues b.issues) :
    List.Forall₂ SameMarkup (nextSteps a) (nextSteps b) := by
  unfold nextSteps
  rw [recommendations_eq_of_reworded hscore h]
  split
  · exact .nil
  · refine enclosed_same rfl rfl rfl ?_
    rw [List.forall₂_map_left_iff, List.forall₂_map_right_iff, List.forall₂_same]
    exact fun r _ => (SameMarkup.of_plain (plain_escape r) (plain_escape r)).around _ _ rfl rfl

/-- There is something to learn about the same kinds of issues. -/
theorem education_same (h : List.Forall₂ Reworded a.issues b.issues) :
    List.Forall₂ (fun p q => p.1 = q.1) (education a) (education b) := by
  refine List.rel_foldl ?_ .nil h
  -- what was found so far has the same kinds on both sides
  intro found found' hfound i j hij
  have hknown : found.any (·.1 == i.type) = found'.any (·.1 == j.type) := by
    have hany := congrArg (List.any · (· == i.type)) (map_eq_of_forall₂ hfound fun _ _ hp => hp)
    rw [List.any_map, List.any_map] at hany
    rw [← hij.type_eq]
    exact hany
  have hempty : i.education.isEmpty = j.education.isEmpty := by
    rw [Bool.eq_iff_iff, List.isEmpty_iff, List.isEmpty_iff]
    exact hij.education
  beta_reduce
  rw [hknown, hempty]
  split
  · exact hfound
  · exact List.rel_append hfound (.cons hij.type_eq .nil)

/-- The lessons come by kind, whatever they say. -/
theorem lessons_same (h : List.Forall₂ Reworded a.issues b.issues) :
    List.Forall₂ SameMarkup (lessons a) (lessons b) := by
  have hsorted := forall₂_mergeSort (fun x y => decide (x.1 ≤ y.1)) (education_same h) (by
    intro p q p' q' hp hq
    rw [hp, hq])
  have hentry (p q : Text × Text) (hkey : p.1 = q.1) : SameMarkup
      ("<dt><code>" ++ escape p.1 ++ "</code></dt><dd>" ++ escape p.2 ++ "</dd>")
      ("<dt><code>" ++ escape q.1 ++ "</code></dt><dd>" ++ escape q.2 ++ "</dd>") := by
    have hkind := SameMarkup.of_plain (plain_escape p.1) (plain_escape q.1)
    have hlesson := SameMarkup.of_plain (plain_escape p.2) (plain_escape q.2)
    exact ((hkind.around _ _ rfl rfl).append hlesson).append (.refl rfl)
  unfold lessons
  generalize (education a).mergeSort (fun x y => decide (x.1 ≤ y.1)) = es,
    (education b).mergeSort (fun x y => decide (x.1 ≤ y.1)) = fs at hsorted
  cases hsorted with
  | nil => exact .nil
  | cons hkey hmore =>
      refine enclosed_same rfl rfl rfl ?_
      rw [List.forall₂_map_left_iff, List.forall₂_map_right_iff]
      exact .cons (hentry _ _ hkey) (hmore.imp hentry)

theorem issueBlock_same {i j : Issue} (h : Reworded i j) :
    SameMarkup (issueBlock i) (issueBlock j) := by
  have hplace := SameMarkup.of_plain (plain_escape (place i)) (plain_escape (place j))
  have hmessage := SameMarkup.of_plain (plain_escape i.message) (plain_escape j.message)
  have himpact : SameMarkup
      (if i.impact.isEmpty then []
        else "<div class=\"impact\">" ++ escape i.impact ++ "</div>")
      (if j.impact.isEmpty then []
        else "<div class=\"impact\">" ++ escape j.impact ++ "</div>") := by
    simp only [List.isEmpty_iff, h.impact]
    split
    · exact .refl rfl
    · exact (SameMarkup.of_plain (plain_escape i.impact) (plain_escape j.impact)).around _ _ rfl rfl
  unfold issueBlock
  rw [h.severity_eq]
  have hbadge := (badge_same j.severity).around "<div class=\"issue\">"
    " <code>" rfl rfl
  exact (((((hbadge.append hplace).append (.refl rfl)).append hmessage).append himpact).append
    (.refl rfl))

theorem issueBlocks_same {listed others : List Issue} (h : List.Forall₂ Reworded listed others) :
    List.Forall₂ SameMarkup (issueBlocks listed) (issueBlocks others) := by
  have hheading (n : Nat) := (SameMarkup.of_plain (plain_natText n) (plain_natText n)).around
    "<h2>Top " " Issues</h2>" rfl rfl
  unfold issueBlocks
  rw [h.length_eq]
  cases h with
  | nil => exact .nil
  | cons hij hmore =>
      refine .cons (hheading _) ?_
      rw [List.forall₂_map_left_iff, List.forall₂_map_right_iff]
      exact .cons (issueBlock_same hij) (hmore.imp fun _ _ => issueBlock_same)

/-- The order of issues goes by their files, not by what they say. -/
theorem top_same (h : List.Forall₂ (fun i j => Reworded i j ∧ i.file = j.file) a.issues b.issues)
    (n : Int) : List.Forall₂ Reworded (top a n) (top b n) := by
  have hsorted := forall₂_mergeSort comesFirst h (by
    rintro i j i' j' ⟨hi, hfile⟩ ⟨hj, hfile'⟩
    simp only [comesFirst, hi.severity_eq, hj.severity_eq, hi.line_eq, hj.line_eq, hfile, hfile'])
  have hreworded := hsorted.imp fun _ _ hij => hij.1
  unfold top first
  rw [hsorted.length_eq]
  split
  · exact List.forall₂_take _ hreworded
  · exact List.forall₂_take _ hreworded

/-! ## The page -/

/-- The head of a page ends behind the tag that opens the body. -/
theorem pageHead_same (score color : Text) :
    SameMarkup (pageHead score color) (pageHead score color) := by
  have hend (head : Text) : inTag false (head ++ "</style>\n</head>\n<body>\n") = false := by
    rw [inTag_append]
    cases inTag false head <;> rfl
  exact .refl (hend _)

/-- The brackets of a page are those of its lines. -/
theorem count_join {c : CodePoint} (hc : c = '<' ∨ c = '>') (lines : List Text) :
    (Text.join "\n" lines).count c = (lines.map (·.count c)).sum := by
  have hbreak : List.count c "\n" = 0 := by
    rcases hc with rfl | rfl <;> rfl
  induction lines with
  | nil => rfl
  | cons line more ih =>
      cases more with
      | nil => simp [Text.join]
      | cons line' more =>
          have hjoin : Text.join "\n" (line :: line' :: more) =
              line ++ "\n" ++ Text.join "\n" (line' :: more) := rfl
          rw [hjoin, List.count_append, List.count_append, ih, hbreak]
          simp only [List.map_cons, List.sum_cons]
          omega

/-- The order of the listed issues is nothing to the number of brackets. -/
theorem sum_count_issueBlocks {listed issues : List Issue} (h : listed.Perm issues)
    (c : CodePoint) : ((issueBlocks listed).map (·.count c)).sum =
      ((issueBlocks issues).map (·.count c)).sum := by
  have hempty : listed.isEmpty = issues.isEmpty := by
    rw [Bool.eq_iff_iff, List.isEmpty_iff, List.isEmpty_iff]
    exact ⟨fun hl => (hl ▸ h).nil_eq.symm, fun hi => (hi ▸ h).eq_nil⟩
  unfold issueBlocks
  rw [hempty, h.length_eq]
  split
  · rfl
  · rw [List.map_cons, List.map_cons, List.sum_cons, List.sum_cons]
    exact congrArg _ ((h.map issueBlock).map (·.count c)).sum_nat

/-- All issues are listed if there are not more than so many. -/
theorem top_perm {n : Int} (h : a.issues.length ≤ n) : (top a n).Perm a.issues := by
  have hlength := (List.mergeSort_perm a.issues comesFirst).length_eq
  rw [top, first, if_pos (by omega), List.take_of_length_le (by omega)]
  exact List.mergeSort_perm ..

/-- The lines of a page above its issues. -/
def above (a : Analysis) : List Text := summary a ++ tables a

/-- The lines of a page below its issues. -/
def below (now : Text) (a : Analysis) : List Text :=
  nextSteps a ++ lessons a ++ ["<footer>Generated by " ++ signature ++ " &bull; " ++ now ++
    "</footer>"]

theorem pageBody_eq (now : Text) (n : Int) (a : Analysis) :
    pageBody now n a = above a ++ issueBlocks (top a n) ++ below now a := by
  simp only [pageBody, above, below, List.append_assoc]

theorem above_same (hscore : a.score = b.score) (hissues : List.Forall₂ Reworded a.issues b.issues)
    (hframework : Option.Rel (fun f g => f = [] ↔ g = []) a.context.framework
      b.context.framework) : List.Forall₂ SameMarkup (above a) (above b) :=
  List.rel_append (summary_same hscore hissues.length_eq hframework) (tables_same hissues)

theorem below_same (hscore : a.score = b.score) (hissues : List.Forall₂ Reworded a.issues b.issues)
    {now now' : Text} (hnow : Plain now) (hnow' : Plain now') :
    List.Forall₂ SameMarkup (below now a) (below now' b) := by
  have hfooter := (SameMarkup.of_plain hnow hnow').around
    ("<footer>Generated by " ++ signature ++ " &bull; ") "</footer>"
    (by decide) rfl
  exact List.rel_append (List.rel_append (nextSteps_same hscore hissues) (lessons_same hissues))
    (.cons hfooter .nil)

theorem count_html {c : CodePoint} (hc : c = '<' ∨ c = '>') (now : Text) (n : Int) (a : Analysis) :
    (html now n a).count c = (pageHead (toString a.score) (tierColor (tierOf a.score))).count c +
      (((above a).map (·.count c)).sum + ((issueBlocks (top a n)).map (·.count c)).sum +
        ((below now a).map (·.count c)).sum) + List.count c "\n</body>\n</html>\n" := by
  rw [html, pageBody_eq, List.count_append, List.count_append, count_join hc, List.map_append,
    List.map_append, List.sum_append, List.sum_append]

/-- Two results that tell of the same issues in other words, with frameworks that are both shown or
both not, make pages with the same brackets and the same text in the tags. Where every issue is
listed, other names of files leave the numbers of brackets as they are. -/
theorem html_brackets (hscore : a.score = b.score)
    (hframework : Option.Rel (fun f g => f = [] ↔ g = []) a.context.framework b.context.framework)
    (hissues : List.Forall₂ Reworded a.issues b.issues) (n : Int) (seconds seconds' : Nat) :
    (List.Forall₂ (fun i j => i.file = j.file) a.issues b.issues →
      markup false (html (minuteText seconds) n a) =
        markup false (html (minuteText seconds') n b)) ∧
    (List.Forall₂ (fun i j => i.file = j.file) a.issues b.issues ∨ a.issues.length ≤ n →
      (html (minuteText seconds) n a).count (.char '<') =
        (html (minuteText seconds') n b).count (.char '<') ∧
      (html (minuteText seconds) n a).count (.char '>') =
        (html (minuteText seconds') n b).count (.char '>')) := by
  have habove := above_same hscore hissues hframework
  have hbelow := below_same hscore hissues (plain_minuteText seconds) (plain_minuteText seconds')
  have hsame (hfiles : List.Forall₂ (fun i j => i.file = j.file) a.issues b.issues) :
      SameMarkup (html (minuteText seconds) n a) (html (minuteText seconds') n b) := by
    have htop := top_same (forall₂_and hissues hfiles) n
    unfold html
    rw [pageBody_eq, pageBody_eq, hscore]
    exact (((pageHead_same _ _).append (.join (List.rel_append
      (List.rel_append habove (issueBlocks_same htop)) hbelow))).append (.refl (by decide)))
  have hcount {c : CodePoint} (hc : c = '<' ∨ c = '>') (hall : a.issues.length ≤ n) :
      (html (minuteText seconds) n a).count c = (html (minuteText seconds') n b).count c := by
    have hsum {lines others : List Text} (h : List.Forall₂ SameMarkup lines others) :
        (lines.map (·.count c)).sum = (others.map (·.count c)).sum :=
      congrArg List.sum (map_eq_of_forall₂ h fun _ _ hline => hline.count_eq hc)
    have hall' : b.issues.length ≤ n := hissues.length_eq ▸ hall
    rw [count_html hc, count_html hc, hscore, hsum habove, hsum hbelow,
      sum_count_issueBlocks (top_perm hall), sum_count_issueBlocks (top_perm hall'),
      hsum (issueBlocks_same hissues)]
  refine ⟨fun hfiles => (hsame hfiles).same, ?_⟩
  rintro (hfiles | hall)
  · exact ⟨(hsame hfiles).count_eq (.inl rfl), (hsame hfiles).count_eq (.inr rfl)⟩
  · exact ⟨hcount (.inl rfl) hall, hcount (.inr rfl) hall⟩

theorem html_brackets_sample :
    let told : Issue :=
      { id := "parse-error-1", type := IssueType.parseError, severity := .high
        category := .reliability, location := ⟨"b.js", 3, none⟩, message := "Unexpected token <"
        impact := "a < b", education := [], fix := none, facts := [], fingerprint := []
        known := by decide }
    let retold : Issue := { told with message := "</code><script>", impact := ">" }
    let moved : Issue := { retold with location := ⟨"<a>.js", 3, none⟩ }
    let a : Analysis := ⟨90, [told], ["b.js"], { framework := some "react" }⟩
    let b : Analysis := ⟨90, [retold], ["b.js"], { framework := some "<i>" }⟩
    let c : Analysis := ⟨90, [moved], ["<a>.js"], { framework := some "<i>" }⟩
    markup false (html (minuteText 0) 50 a) = markup false (html (minuteText 60) 50 b) ∧
      (html (minuteText 0) 50 a).count (.char '<') =
        (html (minuteText 60) 50 c).count (.char '<') ∧
      (html (minuteText 0) 50 a).count (.char '>') =
        (html (minuteText 60) 50 c).count (.char '>') := by
  intro told retold moved a b c
  have hretold : Reworded told retold := ⟨rfl, by decide, by decide⟩
  have hmoved : Reworded told moved := ⟨rfl, by decide, by decide⟩
  have hframework : Option.Rel (fun f g : Text => f = [] ↔ g = []) (some "react") (some "<i>") :=
    .some (by decide)
  have hfiles : List.Forall₂ (fun i j => i.file = j.file) [told] [retold] := .cons rfl .nil
  have hlisted : ([told].length : Int) ≤ 50 := by decide
  have hb := html_brackets (a := a) (b := b) rfl hframework (.cons hretold .nil) 50 0 60
  have hc := html_brackets (a := a) (b := c) rfl hframework (.cons hmoved .nil) 50 0 60
  exact ⟨hb.1 hfiles, hc.2 (.inr hlisted)⟩

/-- The result with another framework. -/
def withFramework (a : Analysis) (framework : Text) : Analysis :=
  { a with context := { a.context with framework := some framework } }

/-- A framework has a line of its own on a page, with two tags and their ends, unless its name is
empty. -/
theorem count_withFramework {framework : Text} (h : framework ≠ []) (now : Text) (n : Int)
    (a : Analysis) : (html now n (withFramework a framework)).count (.char '<') =
      (html now n (withFramework a [])).count (.char '<') + 4 := by
  have hline : (summaryLine "Framework" (escape framework)).count (.char '<') = 4 := by
    have hname : (escape framework).count (.char '<') = 0 :=
      List.count_eq_zero.mpr fun hmem => (plain_escape framework _ hmem).1 rfl
    rw [summaryLine, List.count_append, List.count_append, hname]
    rfl
  obtain ⟨counts, hshown, hunshown⟩ : ∃ counts : List Text,
      summary (withFramework a framework) =
        counts ++ [summaryLine "Framework" (escape framework)].concat "</div>" ∧
      summary (withFramework a []) = counts ++ ([] : List Text).concat "</div>" := by
    simp only [summary, withFramework, List.isEmpty_iff, h, if_true, if_false]
    exact ⟨_, rfl, rfl⟩
  have htables : tables (withFramework a framework) = tables (withFramework a []) := rfl
  have htop : top (withFramework a framework) n = top (withFramework a []) n := rfl
  have hbelow : below now (withFramework a framework) = below now (withFramework a []) := rfl
  have hscore : (withFramework a framework).score = (withFramework a []).score := rfl
  rw [count_html (.inl rfl), count_html (.inl rfl), hscore, htop, hbelow, above, above, hshown,
    hunshown, htables]
  simp only [List.concat_eq_append, List.map_append, List.sum_append, List.map_cons,
    List.sum_cons, List.map_nil, List.sum_nil, hline]
  omega

theorem empty_framework_unshown :
    (html (minuteText 0) 50 (withFramework ⟨100, [], [], {}⟩ [])).count (.char '<') ≠
      (html (minuteText 0) 50 (withFramework ⟨100, [], [], {}⟩ "react")).count (.char '<') := by
  have hmore {k l : Nat} (h : l = k + 4) : k ≠ l := by omega
  exact hmore (count_withFramework (by decide) _ _ _)

end Readiness.Report
