import Readiness.Script.Alphabet
import Readiness.Script.Complaint
import Readiness.Text.Utf8

/-!
# Escapes

The numeric escapes of strings, templates and identifiers. A surrogate code point is kept as its
stand-in, so two halves of a pair stay two characters.
-/

namespace Readiness.Script

/-- Reads at most `n` hexadecimal digits onto `acc`: the value if all `n` are there, how many were
read, and what is left. -/
def hexDigits : Nat → Nat → Text → Option Nat × Nat × Text
  | 0, acc, t => (some acc, 0, t)
  | _ + 1, _, [] => (none, 0, [])
  | n + 1, acc, c :: r =>
    match hexDigit? c with
    | some d =>
      let (v, k, rest) := hexDigits n (acc * 16 + d) r
      (v, k + 1, rest)
    | none => (none, 0, c :: r)

theorem hexDigits_length (n acc : Nat) (t : Text) :
    (hexDigits n acc t).2.2.length ≤ t.length := by
  induction n generalizing acc t with
  | zero => simp [hexDigits]
  | succ n ih =>
    cases t with
    | nil => simp [hexDigits]
    | cons c r =>
      simp only [hexDigits]
      split
      · exact Nat.le_succ_of_le (ih _ _)
      · simp

/-- Reads all hexadecimal digits at the front: their value, their number, and what is left. -/
def hexRun (acc : Nat) : Text → Nat × Nat × Text
  | [] => (acc, 0, [])
  | c :: r =>
    match hexDigit? c with
    | some d =>
      let (v, k, rest) := hexRun (acc * 16 + d) r
      (v, k + 1, rest)
    | none => (acc, 0, c :: r)

theorem hexRun_length (acc : Nat) (t : Text) : (hexRun acc t).2.2.length ≤ t.length := by
  induction t generalizing acc with
  | nil => simp [hexRun]
  | cons c r ih =>
    simp only [hexRun]
    split
    · exact Nat.le_succ_of_le (ih _)
    · simp

/-- The outcome of reading an escape: the character and what follows it, or how many characters had
been passed when it turned out to be none. -/
inductive Escape where
  | char (c : CodePoint) (passed : Nat) (rest : Text)
  | bad (passed : Nat)

/-- Reads what follows the brace of `\u{`: at least one digit, a code point, a closing brace. -/
def bracedEscape (t : Text) : Escape :=
  match t with
  | .char '}' :: _ => .bad 0
  | _ =>
    match hexRun 0 t with
    | (v, k, .char '}' :: rest) => if v ≤ 0x10FFFF then .char (.ofNat v) (k + 1) rest else .bad (k + 1)
    | (_, k, _ :: _) => .bad (k + 1)
    | (_, k, []) => .bad k

/-- Reads exactly `n` hexadecimal digits. -/
def fixedEscape (n : Nat) (t : Text) : Escape :=
  match hexDigits n 0 t with
  | (some v, k, rest) => .char (.ofNat v) k rest
  | (none, k, _) => .bad k

theorem bracedEscape_length {t : Text} {c : CodePoint} {k : Nat} {rest : Text}
    (h : bracedEscape t = .char c k rest) : rest.length ≤ t.length := by
  have hr := hexRun_length 0 t
  simp only [bracedEscape] at h
  split at h
  · simp at h
  · split at h
    next v k' rest' heq =>
      split at h
      · simp only [Escape.char.injEq] at h
        obtain ⟨_, _, rfl⟩ := h
        simp only [heq, List.length_cons] at hr
        omega
      · simp at h
    · simp at h
    · simp at h

theorem fixedEscape_length {n : Nat} {t : Text} {c : CodePoint} {k : Nat} {rest : Text}
    (h : fixedEscape n t = .char c k rest) : rest.length ≤ t.length := by
  have hr := hexDigits_length n 0 t
  simp only [fixedEscape] at h
  split at h
  next v k' rest' heq =>
    simp only [Escape.char.injEq] at h
    obtain ⟨_, _, rfl⟩ := h
    simpa only [heq] using hr
  · simp at h

/-- Reads a legacy octal escape whose first digit is `d`: its code, whether it is a legacy form
(a lone zero is not), how many further digits it has, and what is left. Three digits are read only
after a first digit below four. -/
def octalEscape (d : CodePoint) (t : Text) : Nat × Bool × Nat × Text :=
  let v := d.toNat - 48
  match t with
  | a :: r =>
    if isOctalDigit a then
      let v := v * 8 + (a.toNat - 48)
      match r with
      | b :: r' =>
        if d ≤ '3' && isOctalDigit b then (v * 8 + (b.toNat - 48), true, 2, r')
        else (v, true, 1, b :: r')
      | [] => (v, true, 1, [])
    else (v, d != '0', 0, a :: r)
  | [] => (v, d != '0', 0, [])

theorem octalEscape_length (d : CodePoint) (t : Text) :
    (octalEscape d t).2.2.2.length ≤ t.length := by
  simp only [octalEscape]
  split
  · split
    · split
      · split
        · simp
          omega
        · simp
      · simp
    · simp
  · simp

end Readiness.Script
