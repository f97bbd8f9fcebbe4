import Readiness.Text.Utf8

/-!
# The bytes of a text that was read from bytes

Reading bytes as UTF-8 loses nothing: where it succeeds, the bytes of the text are the
bytes that were read. One character at a time, this is arithmetic. A first byte says
how many bytes follow and gives the highest digits of the code, every byte that
follows gives six more, and the ranges that `lead?` asks for are those in which the
code needs exactly that many bytes and is a character's. Writing then takes the
same digits apart again.
-/

namespace Readiness

namespace Utf8

/-- What the first byte of a character says about it, by numbers. -/
theorem lead?_eq_some {b lo hi : UInt8} {n : Nat} (h : lead? b = some (n, lo, hi)) :
    n = 0 ∧ b.toNat < 0x80 ∨
    n = 1 ∧ 0xC2 ≤ b.toNat ∧ b.toNat < 0xE0 ∧ lo.toNat = 0x80 ∧ hi.toNat = 0xBF ∨
    n = 2 ∧ 0xE0 ≤ b.toNat ∧ b.toNat < 0xF0 ∧ 0x80 ≤ lo.toNat ∧ hi.toNat ≤ 0xBF ∧
      (b.toNat ≠ 0xE0 ∨ lo.toNat = 0xA0) ∧ (b.toNat ≠ 0xED ∨ hi.toNat = 0x9F) ∨
    n = 3 ∧ 0xF0 ≤ b.toNat ∧ b.toNat ≤ 0xF4 ∧ 0x80 ≤ lo.toNat ∧ hi.toNat ≤ 0xBF ∧
      (b.toNat ≠ 0xF0 ∨ lo.toNat = 0x90) ∧ (b.toNat ≠ 0xF4 ∨ hi.toNat = 0x8F) := by
  unfold lead? at h
  simp only [beq_iff_eq, UInt8.lt_iff_toNat_lt, ← UInt8.toNat_inj, UInt8.reduceToNat] at h
  repeat' split at h
  all_goals cases h
  · next hb => exact .inl ⟨rfl, hb⟩
  · exact .inr (.inl ⟨rfl, by omega, by omega, rfl, rfl⟩)
  · exact .inr (.inr (.inl ⟨rfl, by omega, by omega, by decide, by decide, .inr rfl,
      .inl (by omega)⟩))
  · exact .inr (.inr (.inl ⟨rfl, by omega, by omega, by decide, by decide, .inl (by omega),
      .inr rfl⟩))
  · exact .inr (.inr (.inl ⟨rfl, by omega, by omega, by decide, by decide, .inl (by omega),
      .inl (by omega)⟩))
  · exact .inr (.inr (.inr ⟨rfl, by omega, by omega, by decide, by decide, .inr rfl,
      .inl (by omega)⟩))
  · exact .inr (.inr (.inr ⟨rfl, by omega, by omega, by decide, by decide, .inl (by omega),
      .inl (by omega)⟩))
  · exact .inr (.inr (.inr ⟨rfl, by omega, by omega, by decide, by decide, .inl (by omega),
      .inr rfl⟩))

theorem readTail_succ {code seen n : Nat} {lo hi : UInt8} {bytes rest : List UInt8} {r : Nat}
    (h : readTail code seen lo hi (n + 1) bytes = .ok (r, rest)) :
    ∃ b more, bytes = b :: more ∧ lo.toNat ≤ b.toNat ∧ b.toNat ≤ hi.toNat ∧
      readTail (code * 64 + b.toNat % 64) (seen + 1) 0x80 0xBF n more = .ok (r, rest) := by
  cases bytes with
  | nil =>
      rw [readTail] at h
      cases h
  | cons b more =>
      rw [readTail] at h
      split at h
      · next hrange =>
          rw [Bool.and_eq_true, decide_eq_true_iff, decide_eq_true_iff] at hrange
          exact ⟨b, more, rfl, UInt8.le_iff_toNat_le.mp hrange.1,
            UInt8.le_iff_toNat_le.mp hrange.2, h⟩
      · cases h

theorem toNat_ofNat {code : Nat} (h : code < 0xD800 ∨ 0xDFFF < code ∧ code < 0x110000) :
    (Char.ofNat code).val.toNat = code := by
  have hvalid : code.isValidChar := h
  rw [Char.ofNat, dif_pos hvalid]
  rfl

theorem eq_ofNat {b : UInt8} {n : Nat} (h : n = b.toNat) : UInt8.ofNat n = b := by
  rw [h, UInt8.ofNat_toNat]

theorem utf8EncodeChar_of_readTail {b lo hi : UInt8} {n code : Nat} {bytes rest : List UInt8}
    (lead : lead? b = some (n, lo, hi))
    (tail : readTail (leadCode b n) 1 lo hi n bytes = .ok (code, rest)) :
    String.utf8EncodeChar (Char.ofNat code) ++ rest = b :: bytes := by
  -- the lead byte tells how many bytes follow it: none, one, two or three
  rcases lead?_eq_some lead with ⟨rfl, hb⟩ | ⟨rfl, hb, hb', hlo, hhi⟩ |
    ⟨rfl, hb, hb', hlo, hhi, hlow, hhigh⟩ | ⟨rfl, hb, hb', hlo, hhi, hlow, hhigh⟩
  · rw [readTail] at tail
    cases tail
    have hcode : (Char.ofNat (leadCode b 0)).val.toNat = b.toNat :=
      toNat_ofNat (.inl (by rw [leadCode]; omega))
    rw [String.utf8EncodeChar]
    simp only [hcode]
    rw [if_pos (by omega), eq_ofNat rfl]
    rfl
  · obtain ⟨c, more, rfl, hc, hc', tail⟩ := readTail_succ tail
    rw [readTail] at tail
    cases tail
    have hcode : (Char.ofNat (leadCode b 1 * 64 + c.toNat % 64)).val.toNat =
        b.toNat % 32 * 64 + c.toNat % 64 := toNat_ofNat (.inl (by rw [leadCode]; omega))
    rw [String.utf8EncodeChar]
    simp only [hcode]
    rw [if_neg (by omega), if_pos (by omega), eq_ofNat (b := b) (by omega),
      eq_ofNat (b := c) (by omega)]
    rfl
  · obtain ⟨c, more, rfl, hc, hc', tail⟩ := readTail_succ tail
    obtain ⟨d, more, rfl, hd, hd', tail⟩ := readTail_succ tail
    rw [readTail] at tail
    cases tail
    simp only [UInt8.reduceToNat] at hd hd'
    have hcode : (Char.ofNat ((leadCode b 2 * 64 + c.toNat % 64) * 64 + d.toNat % 64)).val.toNat =
        (b.toNat % 16 * 64 + c.toNat % 64) * 64 + d.toNat % 64 :=
      toNat_ofNat (by rw [leadCode]; omega)
    rw [String.utf8EncodeChar]
    simp only [hcode]
    rw [if_neg (by omega), if_neg (by omega), if_pos (by omega), eq_ofNat (b := b) (by omega),
      eq_ofNat (b := c) (by omega), eq_ofNat (b := d) (by omega)]
    rfl
  · obtain ⟨c, more, rfl, hc, hc', tail⟩ := readTail_succ tail
    obtain ⟨d, more, rfl, hd, hd', tail⟩ := readTail_succ tail
    obtain ⟨e, more, rfl, he, he', tail⟩ := readTail_succ tail
    rw [readTail] at tail
    cases tail
    simp only [UInt8.reduceToNat] at hd hd' he he'
    have hcode : (Char.ofNat (((leadCode b 3 * 64 + c.toNat % 64) * 64 + d.toNat % 64) * 64 +
        e.toNat % 64)).val.toNat =
        ((b.toNat % 8 * 64 + c.toNat % 64) * 64 + d.toNat % 64) * 64 + e.toNat % 64 :=
      toNat_ofNat (by rw [leadCode] <;> omega)
    rw [String.utf8EncodeChar]
    simp only [hcode]
    rw [if_neg (by omega), if_neg (by omega), if_neg (by omega), eq_ofNat (b := b) (by omega),
      eq_ofNat (b := c) (by omega), eq_ofNat (b := d) (by omega), eq_ofNat (b := e) (by omega)]
    rfl

theorem readTail_length {code seen : Nat} {lo hi : UInt8} {n : Nat} {bytes rest : List UInt8}
    {r : Nat} (h : readTail code seen lo hi n bytes = .ok (r, rest)) :
    rest.length ≤ bytes.length := by
  induction n generalizing code seen lo hi bytes with
  | zero =>
      rw [readTail] at h
      cases h
      exact Nat.le_refl _
  | succ n ih =>
      obtain ⟨b, more, rfl, -, -, htail⟩ := readTail_succ h
      exact Nat.le_succ_of_le (ih htail)

end Utf8

namespace Text

theorem utf8_append (t u : Text) : utf8 (t ++ u) = utf8 t ++ utf8 u := List.flatMap_append

theorem utf8_cons (c : CodePoint) (t : Text) : utf8 (c :: t) = utf8Bytes c ++ utf8 t :=
  List.flatMap_cons

theorem utf8_singleton (c : CodePoint) : utf8 [c] = utf8Bytes c := List.flatMap_singleton _ _

end Text

/-! ## Reading and writing -/

namespace Utf8

/-- The text so far has the bytes so far, turn by turn; each turn takes one character. -/
theorem utf8_decodeWithin {t : Text} :
    ∀ {fuel position : Nat} {bytes : List UInt8} {done : Text}, bytes.length ≤ fuel →
      (∀ c ∈ done, c.isSurrogate = false) → decodeWithin fuel position bytes done = .ok t →
      Text.utf8 t = Text.utf8 done.reverse ++ bytes ∧ ∀ c ∈ t, c.isSurrogate = false := by
  -- `done` is what has been decoded, last first; each turn moves one code point there
  intro fuel
  induction fuel with
  | zero =>
      intro position bytes done hlength hdone h
      rw [List.length_eq_zero_iff.mp (Nat.le_zero.mp hlength), decodeWithin] at h
      cases h
      rw [List.length_eq_zero_iff.mp (Nat.le_zero.mp hlength), List.append_nil]
      exact ⟨rfl, fun c hc => hdone c (List.mem_reverse.mp hc)⟩
  | succ fuel ih =>
      intro position bytes done hlength hdone h
      cases bytes with
      | nil =>
          rw [decodeWithin] at h
          · cases h
            rw [List.append_nil]
            exact ⟨rfl, fun c hc => hdone c (List.mem_reverse.mp hc)⟩
          · exact Nat.succ_ne_zero fuel
      | cons b bytes =>
          rw [decodeWithin] at h
          split at h
          · cases h
          · next n lo hi hlead =>
              split at h
              · cases h
              · next code rest htail =>
                  have hshorter := readTail_length htail
                  have hchars : ∀ c ∈ CodePoint.char (Char.ofNat code) :: done,
                      c.isSurrogate = false := by
                    intro c hc
                    rcases List.mem_cons.mp hc with rfl | hc
                    · rfl
                    · exact hdone c hc
                  obtain ⟨hbytes, ht⟩ := ih (by rw [List.length_cons] at hlength; omega) hchars h
                  refine ⟨?_, ht⟩
                  rw [hbytes, List.reverse_cons, Text.utf8_append, List.append_assoc,
                    Text.utf8_singleton, ← utf8EncodeChar_of_readTail hlead htail]
                  rfl

/-- An ASCII byte is found in the bytes of its own character only. -/
theorem toNat_of_mem_utf8EncodeChar {c : Char} {x : UInt8} (ascii : x.toNat < 0x80)
    (h : x ∈ String.utf8EncodeChar c) : c.val.toNat = x.toNat := by
  have hbyte : ∀ n : Nat, 0x80 ≤ n → n < 0x100 → x ≠ UInt8.ofNat n := by
    rintro n hlow hhigh rfl
    rw [UInt8.toNat_ofNat', Nat.mod_eq_of_lt hhigh] at ascii
    omega
  unfold String.utf8EncodeChar at h
  dsimp only at h
  split at h
  · next hv =>
      rw [List.mem_singleton.mp h, UInt8.toNat_ofNat', Nat.mod_eq_of_lt (by omega)]
  · split at h
    · simp only [List.mem_cons, List.not_mem_nil, or_false] at h
      rcases h with h | h <;> exact absurd h (hbyte _ (by omega) (by omega))
    · split at h
      · simp only [List.mem_cons, List.not_mem_nil, or_false] at h
        rcases h with h | h | h <;> exact absurd h (hbyte _ (by omega) (by omega))
      · simp only [List.mem_cons, List.not_mem_nil, or_false] at h
        rcases h with h | h | h | h <;> exact absurd h (hbyte _ (by omega) (by omega))

theorem char_of_mem_utf8Bytes {c : CodePoint} {d : Char} {x : UInt8} (ascii : x.toNat < 0x80)
    (same : d.val.toNat = x.toNat) (h : x ∈ utf8Bytes c) : c = .char d := by
  cases c with
  | char e =>
      have hcode := toNat_of_mem_utf8EncodeChar ascii h
      rw [← same] at hcode
      exact congrArg CodePoint.char (Char.ext (UInt32.toNat_inj.mp hcode))
  | surrogate n => cases h

/-- The first byte of a text tells its first character, if it is one of ASCII. -/
theorem char_of_head_utf8 {c : CodePoint} {t : Text} {d : Char} {x : UInt8} (ascii : x.toNat < 0x80)
    (same : d.val.toNat = x.toNat) (character : c.isSurrogate = false)
    (h : (Text.utf8 (c :: t)).head? = some x) : c = .char d := by
  cases c with
  | surrogate n => cases character
  | char e =>
      have hlength : (utf8Bytes (.char e)).length = e.utf8Size := String.length_utf8EncodeChar e
      rw [Text.utf8_cons] at h
      cases hbytes : utf8Bytes (.char e) with
      | nil =>
          have hpos := e.utf8Size_pos
          rw [hbytes, List.length_nil] at hlength
          omega
      | cons y more =>
          rw [hbytes, List.cons_append, List.head?_cons] at h
          cases h
          exact char_of_mem_utf8Bytes ascii same (hbytes ▸ List.mem_cons_self)

end Utf8

namespace Text

/-- A text that was read from bytes has just these bytes. -/
theorem utf8_of_ofUtf8 {bytes : List UInt8} {t : Text} (h : ofUtf8 bytes = .ok t) :
    t.utf8 = bytes :=
  (Utf8.utf8_decodeWithin (Nat.le_refl _) (fun _ hc => absurd hc List.not_mem_nil) h).1

theorem isSurrogate_of_ofUtf8 {bytes : List UInt8} {t : Text} (h : ofUtf8 bytes = .ok t) :
    ∀ c ∈ t, c.isSurrogate = false :=
  (Utf8.utf8_decodeWithin (Nat.le_refl _) (fun _ hc => absurd hc List.not_mem_nil) h).2

end Text

/-! ## Line ends -/

/-- The byte of a line feed. -/
def lineFeedByte : UInt8 := 10

/-- The byte of a carriage return. -/
def returnByte : UInt8 := 13

/-- Bytes with a line feed at the end of each line: a carriage return in front of one goes, and any
other becomes one. -/
def lineFeedBytes : List UInt8 → List UInt8
  | [] => []
  | b :: more =>
    if b ≠ returnByte then b :: lineFeedBytes more
    else if more.head? = some lineFeedByte then lineFeedBytes more
    else lineFeedByte :: lineFeedBytes more

theorem lineFeedBytes_append {front : List UInt8} (h : returnByte ∉ front) (rest : List UInt8) :
    lineFeedBytes (front ++ rest) = front ++ lineFeedBytes rest := by
  induction front with
  | nil => rfl
  | cons b front ih =>
      rw [List.mem_cons, not_or] at h
      rw [List.cons_append, lineFeedBytes, if_pos (Ne.symm h.1), ih h.2, List.cons_append]

theorem returnByte_not_mem_lineFeedBytes (bytes : List UInt8) :
    returnByte ∉ lineFeedBytes bytes := by
  induction bytes with
  | nil => exact List.not_mem_nil
  | cons b more ih =>
      rw [lineFeedBytes]
      split
      · next hb => exact List.not_mem_cons_of_ne_of_not_mem (Ne.symm hb) ih
      · split
        · exact ih
        · exact List.not_mem_cons_of_ne_of_not_mem (by decide) ih

/-- The bytes that have line feeds at the ends of their lines already are those without a carriage
return. -/
theorem lineFeedBytes_eq_self {bytes : List UInt8} :
    lineFeedBytes bytes = bytes ↔ returnByte ∉ bytes := by
  constructor
  · intro h
    rw [← h]
    exact returnByte_not_mem_lineFeedBytes bytes
  · intro h
    have happend := lineFeedBytes_append h []
    rwa [List.append_nil, lineFeedBytes, List.append_nil] at happend

/-- Putting line feeds at the ends of the lines of a text puts them there in its bytes. -/
theorem Text.utf8_withLineFeeds {t : Text} (h : ∀ c ∈ t, c.isSurrogate = false) :
    t.withLineFeeds.utf8 = lineFeedBytes t.utf8 := by
  have hnewline : utf8Bytes (.char '\n') = [lineFeedByte] := by decide
  have hreturn : utf8Bytes (.char '\r') = [returnByte] := by decide
  fun_induction withLineFeeds t with
  | case1 => rfl
  | case2 r ih =>
      have hr := ih fun c hc => h c (List.mem_cons_of_mem _ (List.mem_cons_of_mem _ hc))
      rw [utf8_cons, hr, utf8_cons, utf8_cons, hreturn, hnewline]
      rfl
  | case3 r hnext ih =>
      have hr := ih fun c hc => h c (List.mem_cons_of_mem _ hc)
      have hhead : (utf8 r).head? ≠ some lineFeedByte := by
        intro hfirst
        cases r with
        | nil => cases hfirst
        | cons c r =>
            have hc := Utf8.char_of_head_utf8 (d := '\n') (by decide) (by decide)
              (h c (List.mem_cons_of_mem _ List.mem_cons_self)) hfirst
            exact hnext r (congrArg (· :: r) hc)
      rw [utf8_cons, hr, utf8_cons, hreturn, hnewline, List.singleton_append, List.singleton_append,
        lineFeedBytes, if_neg (by decide), if_neg hhead]
  | case4 c r hpair hreturn' ih =>
      have hr := ih fun c hc => h c (List.mem_cons_of_mem _ hc)
      have hbytes : returnByte ∉ utf8Bytes c := by
        intro hmem
        have hc := Utf8.char_of_mem_utf8Bytes (d := '\r') (by decide) (by decide) hmem
        exact hreturn' hc
      rw [utf8_cons, hr, utf8_cons, lineFeedBytes_append hbytes]

end Readiness
