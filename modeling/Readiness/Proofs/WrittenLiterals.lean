import Readiness.Proofs.ExpressionEnds
import Readiness.Proofs.StringText

/-!
# Literals that were written are read as they were meant

A repair writes a text into a script as a literal, in one of the two quotes of
strings or in that of templates. The scanner reads the literal back as one token:
a string, or a template of a single piece. Its value is the text, whatever characters
the text is made of, and it ends with the last character that was written
(`requote_reads`).

The token is the same wherever the literal stands. No character that was written goes
past the closing quote, and none ends the line, so neither the text behind the literal
nor the braces that are open have a say in it. What stands between tokens has none
either: a script that consists of the literal is read as this token alone, and that is
why different texts are written differently.
-/

namespace Readiness.Script

/-! ## The tokens of a script -/

/-- The tokens from a cursor to the end of the script, with the braces that are open at the cursor.
What stands between the tokens is passed. -/
inductive Tokens (markup : Bool) : Cursor → List Brace → List Token → Prop
  | done {c : Cursor} {braces : List Brace} {l : Lexeme}
      (read : lex (c.skipTrivia markup).1 braces = .ok l) (last : l.token.kind = .eof) :
      Tokens markup c braces []
  | token {c : Cursor} {braces : List Brace} {l : Lexeme} {more : List Token}
      (read : lex (c.skipTrivia markup).1 braces = .ok l) (notLast : l.token.kind ≠ .eof)
      (rest : Tokens markup l.after l.braces more) : Tokens markup c braces (l.token :: more)

/-- A script has one reading at most. -/
theorem Tokens.unique {markup : Bool} {c : Cursor} {braces : List Brace} {ts us : List Token}
    (h : Tokens markup c braces ts) (h' : Tokens markup c braces us) : ts = us := by
  induction h generalizing us with
  | done read last =>
      cases h' with
      | done => rfl
      | token read' notLast' =>
          cases read.symm.trans read'
          exact absurd last notLast'
  | token read notLast _ ih =>
      cases h' with
      | done read' last' =>
          cases read.symm.trans read'
          exact absurd last' notLast
      | token read' _ rest' =>
          cases read.symm.trans read'
          rw [ih rest']

theorem tokens_end (markup : Bool) {c : Cursor} (nothing : c.rest = []) (braces : List Brace) :
    Tokens markup c braces [] := by
  obtain ⟨rest, index, line, lineStart⟩ := c
  cases nothing
  have hskip : (Cursor.skipTrivia markup ⟨[], index, line, lineStart⟩).1 =
      ⟨[], index, line, lineStart⟩ := rfl
  refine .done (l := ⟨Token.between .eof "" ⟨[], index, line, lineStart⟩
    ⟨[], index, line, lineStart⟩, ⟨[], index, line, lineStart⟩, braces, []⟩) ?_ rfl
  rw [hskip]
  rfl

/-! ## Literals -/

/-- The quotes of literals. -/
inductive Quote where
  | single
  | double
  | back
deriving DecidableEq

/-- The character that opens a literal and closes it. -/
def Quote.mark : Quote → CodePoint
  | .single => '\''
  | .double => '"'
  | .back => '`'

/-- The token of a text that is written as a literal at a cursor. A template is a single piece,
which opens the template and closes it. -/
def Quote.token (q : Quote) (t : Text) (c : Cursor) : Token :=
  let after := c.move [] (requote q.mark t).length
  match q with
  | .single | .double => Token.between .string t c after
  | .back =>
    { Token.between .template (requoteInside backquote t) c after with
      cooked := t, head := true, tail := true }

/-- What a literal denotes. -/
def Token.denoted (k : Token) : Text := if k.kind = .template then k.cooked else k.value

theorem Quote.token_denoted (q : Quote) (t : Text) (c : Cursor) : (q.token t c).denoted = t := by
  cases q <;> rfl

theorem Quote.token_kind (q : Quote) (t : Text) (c : Cursor) : (q.token t c).kind ≠ .eof := by
  cases q <;> exact nofun

theorem requote_length (quote : CodePoint) (t : Text) :
    (requote quote t).length = (requoteInside quote t).length + 2 := by
  rw [requote, List.length_append, List.length_cons, List.length_singleton]

/-- A template without interpolations is one token, which denotes its text. -/
theorem lex_template (t : Text) {c : Cursor} {more : Text}
    (here : c.rest = requote backquote t ++ more) (braces : List Brace) :
    lex c braces = .ok ⟨Quote.back.token t c, c.move more (requote backquote t).length, braces, []⟩ := by
  have hbody : c.rest = backquote :: (requoteInside backquote t ++ backquote :: more) := by
    rw [here, requote]
    simp
  have hskip : c.skip 1 = c.move (requoteInside backquote t ++ backquote :: more) 1 := by
    rw [Cursor.skip, hbody]
    rfl
  have hread : templateBody (c.skip 1) [] =
      .ok ⟨t, true, c.move more (requote backquote t).length⟩ := by
    have hclose := templateFrom_ender true more
      ((c.move (requoteInside backquote t ++ backquote :: more) 1).move (backquote :: more)
        (requoteInside backquote t).length) (t.reverse ++ [])
    rw [List.append_nil, List.reverse_reverse, Cursor.move_move, Cursor.move_move] at hclose
    have hlength : 1 + (requoteInside backquote t).length + (ender true).length =
        (requote backquote t).length := by
      rw [requote_length]
      show 1 + (requoteInside backquote t).length + 1 = _
      omega
    rw [hlength] at hclose
    rw [hskip, ← hclose, ← Cursor.move_move c (requoteInside backquote t ++ backquote :: more)]
    have hinside := templateFrom_requoteInside t (backquote :: more)
      (c := c.move (requoteInside backquote t ++ backquote :: more) 1) rfl []
    rwa [List.append_nil] at hinside
  -- What is cut out as the spelling of the piece is what was written between the quotes.
  have hraw : (c.rest.drop 1).take ((c.move more (requote backquote t).length).index - 1 -
      (c.index + 1)) = requoteInside backquote t := by
    have hcount : c.index + (requote backquote t).length - 1 - (c.index + 1) =
        (requoteInside backquote t).length := by
      rw [requote_length]
      omega
    rw [hbody]
    show (requoteInside backquote t ++ backquote :: more).take
      (c.index + (requote backquote t).length - 1 - (c.index + 1)) = _
    rw [hcount, List.take_left]
  have htemplate : lexTemplate true c braces =
      .ok ⟨Quote.back.token t c, c.move more (requote backquote t).length, braces, []⟩ := by
    rw [lexTemplate, hread]
    show Except.ok _ = Except.ok _
    simp only [if_true, hraw]
    rfl
  rw [lex, hbody]
  exact htemplate

/-- What was written as a literal is one token, wherever in a script it stands. -/
theorem lex_literal (q : Quote) (t : Text) {c : Cursor} {more : Text}
    (here : c.rest = requote q.mark t ++ more) (braces : List Brace) :
    lex c braces = .ok ⟨q.token t c, c.move more (requote q.mark t).length, braces, []⟩ := by
  cases q with
  | single => exact lex_requote (.inl rfl) t here braces
  | double => exact lex_requote (.inr rfl) t here braces
  | back => exact lex_template t here braces

theorem solid_literal (q : Quote) (t more : Text) : Solid (requote q.mark t ++ more) := by
  cases q <;> exact solid_cons (by decide) rfl rfl _

/-- A text that was written as a literal is read back by the scanner as it was meant. Wherever the
literal stands, the token at its first character is a string, or a template of one piece, that
denotes the text and ends with the last character. A script that is the literal has no other
token. So no two texts are written alike. -/
theorem requote_reads (q : Quote) :
    (∀ (t more : Text) (index line lineStart : Nat) (braces : List Brace),
      lex ⟨requote q.mark t ++ more, index, line, lineStart⟩ braces =
        .ok ⟨q.token t ⟨requote q.mark t ++ more, index, line, lineStart⟩,
          ⟨more, index + (requote q.mark t).length, line, lineStart⟩, braces, []⟩) ∧
    (∀ (t : Text) (markup : Bool) (ts : List Token),
      Tokens markup (Cursor.start (requote q.mark t)) [] ts ↔
        ts = [q.token t (Cursor.start (requote q.mark t))]) ∧
    (∀ (t : Text) (c : Cursor), (q.token t c).denoted = t ∧
      (q.token t c).kind = (if q = .back then .template else .string) ∧
      (q.token t c).start = c.index ∧
      (q.token t c).stop = c.index + (requote q.mark t).length) ∧
    Function.Injective (requote q.mark) := by
  have hlex : ∀ (t more : Text) (index line lineStart : Nat) (braces : List Brace),
      lex ⟨requote q.mark t ++ more, index, line, lineStart⟩ braces =
        .ok ⟨q.token t ⟨requote q.mark t ++ more, index, line, lineStart⟩,
          ⟨more, index + (requote q.mark t).length, line, lineStart⟩, braces, []⟩ :=
    fun t more index line lineStart braces => lex_literal q t rfl braces
  refine ⟨hlex, fun t markup ts => ?_, fun t c => ⟨q.token_denoted t c, ?_, ?_, ?_⟩, ?_⟩
  · have hsolid := solid_literal q t []
    rw [List.append_nil] at hsolid
    have hskip : ((Cursor.start (requote q.mark t)).skipTrivia markup).1 =
        Cursor.start (requote q.mark t) := by
      rw [Cursor.skipTrivia]
      show (skipTrivia markup _ (requote q.mark t) 0 _ 0).1 = _
      rw [hsolid]
      rfl
    have hread : Tokens markup (Cursor.start (requote q.mark t)) []
        [q.token t (Cursor.start (requote q.mark t))] := by
      refine .token (l := ⟨q.token t (Cursor.start (requote q.mark t)),
        (Cursor.start (requote q.mark t)).move [] (requote q.mark t).length, [], []⟩) ?_
        (q.token_kind t _) (tokens_end markup rfl [])
      rw [hskip]
      exact lex_literal q t (List.append_nil _).symm []
    constructor
    · intro h
      exact h.unique hread
    · rintro rfl
      exact hread
  · cases q <;> rfl
  · cases q <;> rfl
  · cases q <;> rfl
  · intro t u h
    have ht := hlex t [] 0 0 0 []
    have hu := hlex u [] 0 0 0 []
    rw [h] at ht
    have htoken := congrArg Lexeme.token (Except.ok.inj (ht.symm.trans hu))
    calc t = (q.token t ⟨requote q.mark u ++ [], 0, 0, 0⟩).denoted := (q.token_denoted t _).symm
      _ = (q.token u ⟨requote q.mark u ++ [], 0, 0, 0⟩).denoted := congrArg Token.denoted htoken
      _ = u := q.token_denoted u _

end Readiness.Script
