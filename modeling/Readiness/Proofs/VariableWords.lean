import Readiness.Proofs.SecretRead

/-!
# The words in the name of a variable

What a program calls a secret in one word, `stripeApiKey`, is written with underscores between
its words as the name of a variable, `STRIPE_API_KEY`. Where one word ends is seen from the case of
the letters around (`parts`), and `wordsParted` has an underscore in each of these places.

The conversion goes from left to right. An underscore takes the characters on both its sides along,
and the small letter too that tells the last capital of a run from those before it. No further
underscore is put in right behind a character that was taken along (`parted`), so that a short word
can be glued to the next one: `isAWord` is `IS_AWORD`. Two shapes of four characters are all that
this comes from (`map_parted_eq_iff`), and names without them have all their underscores
(`variableName_words`).
-/

namespace Readiness.Secret

open Credential

/-! ## Underscores between words -/

/-- Whether the next character is a small letter. -/
def startsSmall (t : Text) : Bool := t.head?.any isSmall

/-- Whether a word ends in a small letter or digit, in front of a capital. -/
def partsCase (x : CodePoint) (behind : Text) : Bool :=
  (isSmall x || isDigit x) && behind.head?.any isCapital

/-- Whether a run of capitals ends in front of the capital that begins a word. -/
def partsRun (x : CodePoint) (behind : Text) : Bool :=
  isCapital x && behind.head?.any isCapital && startsSmall behind.tail

/-- Whether a word ends with a character, by what stands behind it. -/
def parts (x : CodePoint) (behind : Text) : Bool := partsCase x behind || partsRun x behind

/-- The name with an underscore behind each word but the last. -/
def wordsParted : Text → Text
  | [] => []
  | x :: behind =>
    if parts x behind then x :: '_' :: wordsParted behind else x :: wordsParted behind

/-- The name with underscores put in from left to right, where so many of its first characters were
taken along with the last underscore: none is put in behind one of these. -/
def parted : Nat → Text → Text
  | _, [] => []
  | k + 1, x :: behind => x :: parted k behind
  | 0, x :: behind =>
    if partsCase x behind then x :: '_' :: parted 1 behind
    else if partsRun x behind then x :: '_' :: parted 2 behind
    else x :: parted 0 behind

/-- Whether two words end so close to each other at the start of a text that the characters which
the first underscore takes along hide the second: a small letter or digit before two
capitals and a small letter, or two capitals before a small letter and a capital. -/
def crowdedAt : Text → Bool
  | a :: b :: c :: d :: _ =>
    (isSmall a || isDigit a) && isCapital b && isCapital c && isSmall d ||
      isCapital a && isCapital b && isSmall c && isCapital d
  | _ => false

/-- Whether two words end too close to each other anywhere in a name. -/
def crowded : Text → Bool
  | [] => false
  | x :: behind => crowdedAt (x :: behind) || crowded behind

/-! ## Cases of letters -/

theorem not_isCapital_of_isSmall {c : CodePoint} (h : isSmall c = true) : isCapital c = false := by
  simp only [isSmall, isCapital, Bool.and_eq_true, Bool.and_eq_false_iff, decide_eq_true_eq,
    decide_eq_false_iff_not] at h ⊢
  exact .inr fun hle => absurd (Nat.le_trans h.1 hle) (by decide)

theorem not_isCapital_of_isDigit {c : CodePoint} (h : isDigit c = true) : isCapital c = false := by
  simp only [isDigit, isCapital, Bool.and_eq_true, Bool.and_eq_false_iff, decide_eq_true_eq,
    decide_eq_false_iff_not] at h ⊢
  exact .inl fun hle => absurd (Nat.le_trans hle h.2) (by decide)

theorem not_lower_of_isCapital {c : CodePoint} (h : isCapital c = true) :
    (isSmall c || isDigit c) = false := by
  rw [Bool.or_eq_false_iff]
  refine ⟨Bool.eq_false_iff.mpr fun hsmall => ?_, Bool.eq_false_iff.mpr fun hdigit => ?_⟩
  · rw [not_isCapital_of_isSmall hsmall] at h
    cases h
  · rw [not_isCapital_of_isDigit hdigit] at h
    cases h

/-- What the upper case of a letter or digit is: a capital or the digit itself. -/
theorem upperChar_alnum {c : CodePoint} (h : isAlnum c = true) :
    Text.upperChar c = [c.toUpper] ∧ isVariableChar c.toUpper = true ∧ c.toUpper ≠ '_' ∧
      isCapital c.toUpper = !isDigit c := by
  have hsmall : c.toNat < 128 := by
    simp only [isAlnum, isDigit, isSmall, isCapital, Bool.or_eq_true, Bool.and_eq_true,
      decide_eq_true_eq] at h
    rcases h with (⟨-, hle⟩ | ⟨-, hle⟩) | ⟨-, hle⟩ <;> exact Nat.lt_of_le_of_lt hle (by decide)
  have hall : ∀ n < 128, isAlnum (CodePoint.ofNat n) = true →
      Text.upperChar (CodePoint.ofNat n) = [(CodePoint.ofNat n).toUpper] ∧
        isVariableChar (CodePoint.ofNat n).toUpper = true ∧ (CodePoint.ofNat n).toUpper ≠ '_' ∧
        isCapital (CodePoint.ofNat n).toUpper = !isDigit (CodePoint.ofNat n) := by
    decide +kernel
  rw [← CodePoint.ofNat_toNat c] at h ⊢
  exact hall _ hsmall h

/-! ## What the conversion takes along -/

/-- A run of capitals has its underscore before the last one, if a small letter follows. -/
theorem parted_run {capitals : Text} {e : CodePoint} {behind : Text}
    (h : ∀ c ∈ capitals, isCapital c = true) (two : 2 ≤ capitals.length)
    (small : isSmall e = true) :
    parted 0 (capitals ++ e :: behind) =
      capitals.dropLast ++ "_" ++ capitals.drop (capitals.length - 1) ++ e :: parted 0 behind := by
  induction capitals with
  | nil => cases two
  | cons x more ih =>
      obtain ⟨hx, hmore⟩ := List.forall_mem_cons.mp h
      have hcase : ∀ t, partsCase x t = false := fun t => by
        rw [partsCase, not_lower_of_isCapital hx, Bool.false_and]
      cases more with
      | nil => exact absurd two (Nat.lt_irrefl 1)
      | cons y more =>
          obtain ⟨hy, hrest⟩ := List.forall_mem_cons.mp hmore
          cases more with
          | nil =>
              have hrun : partsRun x (y :: e :: behind) = true := by
                simp [partsRun, startsSmall, hx, hy, small]
              simp only [List.cons_append, List.nil_append, parted, hcase, hrun]
              rfl
          | cons z more =>
              have hz := (List.forall_mem_cons.mp hrest).1
              have hnot : isSmall z = false :=
                (Bool.or_eq_false_iff.mp (not_lower_of_isCapital hz)).1
              have hrun : partsRun x (y :: z :: (more ++ e :: behind)) = false := by
                simp [partsRun, startsSmall, hnot]
              rw [List.cons_append, parted]
              simp only [hcase, Bool.false_eq_true, if_false, List.cons_append, hrun]
              rw [← List.cons_append, ← List.cons_append, ih hmore (by simp)]
              simp [List.dropLast]

theorem partsCase_iff {x : CodePoint} {behind : Text} : partsCase x behind = true ↔
    ∃ y more, behind = y :: more ∧ (isSmall x || isDigit x) = true ∧ isCapital y = true := by
  cases behind <;> simp [partsCase]

theorem partsRun_iff {x : CodePoint} {behind : Text} : partsRun x behind = true ↔
    ∃ y e more, behind = y :: e :: more ∧ isCapital x = true ∧ isCapital y = true ∧
      isSmall e = true := by
  rcases behind with - | ⟨y, - | ⟨e, more⟩⟩ <;> simp [partsRun, startsSmall, and_assoc]

/-- Where a run of capitals ends, the two capitals before the small letter are all that is left of
it. -/
theorem split_of_partsRun {x : CodePoint} {behind : Text} (h : partsRun x behind = true) :
    ∃ y e more, (x :: behind).takeWhile isCapital = [x, y] ∧
      (x :: behind).dropWhile isCapital = e :: more ∧ isSmall e = true := by
  obtain ⟨y, e, more, rfl, hx, hy, he⟩ := partsRun_iff.mp h
  have hstop := not_isCapital_of_isSmall he
  refine ⟨y, e, more, ?_, ?_, he⟩
  · rw [List.takeWhile_cons_of_pos hx, List.takeWhile_cons_of_pos hy,
      List.takeWhile_cons_of_neg (Bool.eq_false_iff.mp hstop)]
  · rw [List.dropWhile_cons_of_pos hx, List.dropWhile_cons_of_pos hy,
      List.dropWhile_cons_of_neg (Bool.eq_false_iff.mp hstop)]

theorem parted_of_case {x : CodePoint} {behind : Text} (h : partsCase x behind = true) :
    parted 0 (x :: behind) = x :: '_' :: parted 1 behind := by
  rw [parted, h, if_pos rfl]

theorem parted_of_run {x : CodePoint} {behind : Text} (small : partsCase x behind = false)
    (run : partsRun x behind = true) : parted 0 (x :: behind) = x :: '_' :: parted 2 behind := by
  rw [parted, small, run, if_neg Bool.false_ne_true, if_pos rfl]

theorem parted_one {x : CodePoint} {behind : Text} (small : partsCase x behind = false)
    (run : partsRun x behind = false) : parted 0 (x :: behind) = x :: parted 0 behind := by
  rw [parted, small, run, if_neg Bool.false_ne_true, if_neg Bool.false_ne_true]

/-- Left to right, in the turns that the conversion has. -/
theorem go_eq_parted {n : Nat} {t : Text} (enough : t.length ≤ n) :
    separated.go n t = parted 0 t := by
  induction n using Nat.strongRecOn generalizing t with
  | ind n ih =>
      match n, t, enough with
      | 0, [], _ => rfl
      | n + 1, [], _ => rfl
      | n + 1, [c], _ =>
          rw [parted_one (by simp [partsCase]) (by simp [partsRun])]
          rfl
      | n + 1, c :: d :: more, enough =>
          have enough : (d :: more).length ≤ n := Nat.le_of_succ_le_succ enough
          have hcase : partsCase c (d :: more) = ((isSmall c || isDigit c) && isCapital d) := rfl
          have hone : ∀ hno : partsCase c (d :: more) = false, partsRun c (d :: more) = false →
              c :: separated.go n (d :: more) = parted 0 (c :: d :: more) := fun hno hrun => by
            rw [parted_one hno hrun, ih n (Nat.lt_succ_self n) enough]
          have hsplit := List.takeWhile_append_dropWhile (p := isCapital) (l := c :: d :: more)
          rw [separated.go, ← hcase]
          cases hno : partsCase c (d :: more) with
          | true =>
              rw [if_pos rfl, ih n (Nat.lt_succ_self n) (Nat.le_of_succ_le enough),
                parted_of_case hno, parted]
          | false =>
              rw [if_neg Bool.false_ne_true]
              split
              · next e behind hrest =>
                  rw [hrest] at hsplit
                  split
                  · next htwo =>
                      obtain ⟨htwo, hsmall⟩ := Bool.and_eq_true_iff.mp htwo
                      have hlength := congrArg List.length hsplit
                      rw [List.length_append, List.length_cons, List.length_cons] at hlength
                      rw [ih n (Nat.lt_succ_self n) (by simp at *; omega)]
                      conv => rhs; rw [← hsplit]
                      exact (parted_run (List.all_eq_true.mp List.all_takeWhile)
                        (of_decide_eq_true htwo) hsmall).symm
                  · next hnot =>
                      refine hone hno (Bool.eq_false_iff.mpr fun hrun => hnot ?_)
                      obtain ⟨y, e', back, hcapitals, hbehind, hsmall⟩ := split_of_partsRun hrun
                      obtain ⟨rfl, -⟩ := List.cons.inj (hbehind.symm.trans hrest)
                      rw [hcapitals, hsmall]
                      rfl
              · next hrest =>
                  refine hone hno (Bool.eq_false_iff.mpr fun hrun => ?_)
                  obtain ⟨y, e, back, -, hbehind, -⟩ := split_of_partsRun hrun
                  cases hbehind.symm.trans hrest

/-! ## Underscores that are missing -/

theorem head?_parted (k : Nat) (t : Text) : (parted k t).head? = t.head? := by
  cases t with
  | nil => cases k <;> rfl
  | cons x behind =>
      cases k with
      | succ k => rfl
      | zero =>
          rw [parted]
          split
          · rfl
          · split <;> rfl

/-- At a character that was taken along, the same is written exactly if no word ends there. -/
theorem map_taken_eq_iff {f : CodePoint → CodePoint} (mark : f '_' = '_') {x : CodePoint}
    {behind : Text} (plain : ∀ c ∈ behind, f c ≠ '_') (k : Nat) :
    (x :: parted k behind).map f = (wordsParted (x :: behind)).map f ↔
      parts x behind = false ∧ (parted k behind).map f = (wordsParted behind).map f := by
  rw [wordsParted]
  cases parts x behind with
  | false => simp
  | true =>
      refine iff_of_false (fun heq => ?_) (fun hno => Bool.noConfusion hno.1)
      have hhead := congrArg List.head? (List.cons.inj heq).2
      rw [List.head?_map, head?_parted, List.map_cons, List.head?_cons, mark] at hhead
      obtain ⟨c, hc, hmark⟩ := Option.map_eq_some_iff.mp hhead
      exact plain c (List.mem_of_mem_head? hc) hmark

/-- Two words end too close to each other only where the first one ends. -/
theorem parts_of_crowdedAt {x : CodePoint} {behind : Text} (h : crowdedAt (x :: behind) = true) :
    parts x behind = true := by
  rcases behind with - | ⟨y, - | ⟨c, - | ⟨d, more⟩⟩⟩
  all_goals
    simp only [crowdedAt, Bool.or_eq_true, Bool.and_eq_true, Bool.false_eq_true] at h
  rcases h with ((⟨⟨⟨hx, hy⟩, -⟩, -⟩) | ⟨⟨⟨hx, hy⟩, hc⟩, -⟩)
  · exact Bool.or_eq_true_iff.mpr (.inl (partsCase_iff.mpr ⟨y, _, rfl, by simpa using hx, hy⟩))
  · exact Bool.or_eq_true_iff.mpr (.inr (partsRun_iff.mpr ⟨y, c, _, rfl, hx, hy, hc⟩))

/-- Behind a small letter or digit and a capital, there is too little room exactly if a word ends
with that capital. -/
theorem crowdedAt_of_case {x y : CodePoint} {more : Text} (hx : (isSmall x || isDigit x) = true)
    (hy : isCapital y = true) :
    (crowdedAt (x :: y :: more) || crowdedAt (y :: more)) = parts y more := by
  have hnot : (isSmall y || isDigit y) = false := not_lower_of_isCapital hy
  have hcapital : isCapital x = false := by
    rcases Bool.or_eq_true_iff.mp hx with hx | hx
    · exact not_isCapital_of_isSmall hx
    · exact not_isCapital_of_isDigit hx
  have hwide : crowdedAt (x :: y :: more) = parts y more := by
    rcases more with - | ⟨c, - | ⟨d, more⟩⟩ <;>
      simp [crowdedAt, parts, partsCase, partsRun, startsSmall, hx, hy, hnot, hcapital]
  rw [hwide, Bool.or_eq_left_iff_imp]
  exact parts_of_crowdedAt

/-- Behind the two capitals that a run ends with and a small letter, there is too little room
exactly if a word ends with that letter. -/
theorem crowdedAt_of_run {x y e : CodePoint} {more : Text} (hx : isCapital x = true)
    (hy : isCapital y = true) (he : isSmall e = true) :
    (crowdedAt (x :: y :: e :: more) || (crowdedAt (y :: e :: more) || crowdedAt (e :: more))) =
      parts e more := by
  have hnone : parts y (e :: more) = false := by
    simp [parts, partsCase, partsRun, not_lower_of_isCapital hy, not_isCapital_of_isSmall he]
  have hshut : crowdedAt (y :: e :: more) = false :=
    Bool.eq_false_iff.mpr fun h => Bool.eq_false_iff.mp hnone (parts_of_crowdedAt h)
  have hwide : crowdedAt (x :: y :: e :: more) = parts e more := by
    cases more <;>
      simp [crowdedAt, parts, partsCase, partsRun, hx, hy, he, not_lower_of_isCapital hx,
        not_isCapital_of_isSmall he]
  rw [hshut, Bool.false_or, hwide, Bool.or_eq_left_iff_imp]
  exact parts_of_crowdedAt

/-- Under a map that makes no character of the text an underscore, the words are parted alike
exactly if nowhere two of them end too close to each other. -/
theorem map_parted_eq_iff {f : CodePoint → CodePoint} (mark : f '_' = '_') :
    ∀ (t : Text), (∀ c ∈ t, f c ≠ '_') →
      ((parted 0 t).map f = (wordsParted t).map f ↔ crowded t = false)
  | [], _ => by simp [parted, wordsParted, crowded]
  | x :: behind, plain => by
      have hplain := (List.forall_mem_cons.mp plain).2
      have hwords : parts x behind = true →
          wordsParted (x :: behind) = x :: '_' :: wordsParted behind :=
        fun h => by rw [wordsParted, h, if_pos rfl]
      have hmark : ∀ u v : Text,
          (x :: '_' :: u).map f = (x :: '_' :: v).map f ↔ u.map f = v.map f := fun u v => by
        simp only [List.map_cons, List.cons_inj_right]
      cases hcase : partsCase x behind with
      | true =>
          -- the capital behind the underscore is taken along
          have hparts : parts x behind = true := by rw [parts, hcase, Bool.true_or]
          obtain ⟨y, more, rfl, hx, hy⟩ := partsCase_iff.mp hcase
          have hmore := (List.forall_mem_cons.mp hplain).2
          rw [parted_of_case hcase, hwords hparts, hmark, parted, map_taken_eq_iff mark hmore,
            map_parted_eq_iff mark more hmore, crowded, crowded, ← Bool.or_assoc,
            crowdedAt_of_case hx hy, Bool.or_eq_false_iff]
      | false =>
          cases hrun : partsRun x behind with
          | true =>
              -- the capital behind the underscore is taken along, and so is the small letter
              have hparts : parts x behind = true := by rw [parts, hrun, Bool.or_true]
              obtain ⟨y, e, more, rfl, hx, hy, he⟩ := partsRun_iff.mp hrun
              have hbehind := (List.forall_mem_cons.mp hplain).2
              have hmore := (List.forall_mem_cons.mp hbehind).2
              have hnone : parts y (e :: more) = false := by
                simp [parts, partsCase, partsRun, not_lower_of_isCapital hy,
                  not_isCapital_of_isSmall he]
              rw [parted_of_run hcase hrun, hwords hparts, hmark, parted,
                map_taken_eq_iff mark hbehind, and_iff_right hnone, parted,
                map_taken_eq_iff mark hmore, map_parted_eq_iff mark more hmore, crowded, crowded,
                crowded, ← Bool.or_assoc, ← Bool.or_assoc, Bool.or_assoc (crowdedAt _),
                crowdedAt_of_run hx hy he, Bool.or_eq_false_iff]
          | false =>
              have hnone : parts x behind = false := by rw [parts, hcase, hrun, Bool.or_false]
              have hroom : crowdedAt (x :: behind) = false :=
                Bool.eq_false_iff.mpr fun h => Bool.eq_false_iff.mp hnone (parts_of_crowdedAt h)
              rw [parted_one hcase hrun, wordsParted, hnone, if_neg Bool.false_ne_true,
                List.map_cons, List.map_cons, List.cons_inj_right, crowded, hroom, Bool.false_or]
              exact map_parted_eq_iff mark behind hplain

/-! ## The name of the variable -/

theorem mem_parted {c : CodePoint} {k : Nat} {t : Text} (h : c ∈ parted k t) : c ∈ t ∨ c = '_' := by
  fun_induction parted k t with
  | case1 => exact .inl h
  | case2 _ _ _ ih | case3 _ _ _ ih | case4 _ _ _ _ ih | case5 _ _ _ _ ih =>
      simp only [List.mem_cons] at h ⊢
      tauto

theorem mem_wordsParted {c : CodePoint} {t : Text} (h : c ∈ wordsParted t) : c ∈ t ∨ c = '_' := by
  fun_induction wordsParted t with
  | case1 => exact .inl h
  | case2 _ _ _ ih | case3 _ _ _ ih =>
      simp only [List.mem_cons] at h ⊢
      tauto

theorem upper_eq_map {t : Text} (h : ∀ c ∈ t, isAlnum c = true ∨ c = '_') :
    Text.upper t = t.map CodePoint.toUpper := by
  have hone : ∀ c ∈ t, Text.upperChar c = [c.toUpper] := by
    intro c hc
    rcases h c hc with halnum | rfl
    · exact (upperChar_alnum halnum).1
    · decide
  rw [Text.upper, List.flatMap_congr hone, List.map_eq_flatMap]

/-- What stands in front of the words, for a name that begins with a digit. -/
def leading (name : Text) : Text := if name.head?.any isDigit then "SECRET_" else []

/-- A name of letters and digits is written in capitals, with underscores from left to right. They
stand at the ends of all words, and nowhere else, if and only if no two words end too close to
each other. -/
theorem variableName_words {name : Text} (plain : ∀ c ∈ name, isAlnum c = true)
    (nonempty : name ≠ []) :
    variableName name = leading name ++ Text.upper (parted 0 name) ∧
      (variableName name = leading name ++ Text.upper (wordsParted name) ↔
        crowded name = false) := by
  have hparted : Text.upper (parted 0 name) = (parted 0 name).map CodePoint.toUpper :=
    upper_eq_map fun c hc => (mem_parted hc).imp_left (plain c)
  have hwords : Text.upper (wordsParted name) = (wordsParted name).map CodePoint.toUpper :=
    upper_eq_map fun c hc => (mem_wordsParted hc).imp_left (plain c)
  have hname : variableName name = leading name ++ Text.upper (parted 0 name) := by
    have hchars : ((parted 0 name).map CodePoint.toUpper).map
        (fun c => if isVariableChar c then c else '_') = (parted 0 name).map CodePoint.toUpper := by
      rw [List.map_map]
      refine List.map_congr_left fun c hc => ?_
      have hc : isVariableChar c.toUpper = true := by
        rcases mem_parted hc with hc | rfl
        · exact (upperChar_alnum (plain c hc)).2.1
        · decide
      exact if_pos hc
    rw [variableName, separated, go_eq_parted (Nat.le_refl _), hparted]
    simp only [hchars]
    obtain ⟨x, behind, rfl⟩ := List.exists_cons_of_ne_nil nonempty
    obtain ⟨-, -, -, hx⟩ := upperChar_alnum (plain x List.mem_cons_self)
    obtain ⟨w, hw⟩ := List.head?_eq_some_iff.mp (head?_parted 0 (x :: behind))
    rw [hw, List.map_cons]
    cases hdigit : isDigit x with
    | true => simp [leading, hx, hdigit]
    | false => simp [leading, hx, hdigit]
  refine ⟨hname, ?_⟩
  rw [hname, List.append_cancel_left_eq, hparted, hwords]
  exact map_parted_eq_iff (by decide) name fun c hc => (upperChar_alnum (plain c hc)).2.2.1

theorem variableName_words_sample :
    variableName "4thAWSSecretKey" = "SECRET_4TH_AWS_SECRET_KEY" ∧
      variableName "oauth2ClientID" = "OAUTH2_CLIENT_ID" := by
  have hplain : ∀ c ∈ ("oauth2ClientID" : Text), isAlnum c = true := by decide
  have hcrowded : ∀ c ∈ ("4thAWSSecretKey" : Text), isAlnum c = true := by decide
  refine ⟨(variableName_words hcrowded (by decide)).1.trans (by decide), ?_⟩
  exact ((variableName_words hplain (by decide)).2.mpr (by decide)).trans (by decide)

/-- A word of one letter is lost, and so is the end of a short word behind a run of capitals. -/
theorem variableName_short_words :
    variableName "isAWord" = "IS_AWORD" ∧
      leading "isAWord" ++ Text.upper (wordsParted "isAWord") = "IS_A_WORD" ∧
      variableName "AWSIdKey" = "AWS_IDKEY" ∧
      leading "AWSIdKey" ++ Text.upper (wordsParted "AWSIdKey") = "AWS_ID_KEY" := by
  decide

end Readiness.Secret
