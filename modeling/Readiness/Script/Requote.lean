import Readiness.Text.Basic

/-!
# Writing string literals

A text written as a literal of a script, in quotes of the caller's choice. What would end the
literal, break the line or start an escape or an interpolation is escaped.
-/

namespace Readiness.Script

/-- A character inside a literal in the given quotes. -/
def requoteChar (quote c : CodePoint) : Text :=
  if c == '\\' then ['\\', '\\']
  else if c == '\n' then ['\\', 'n']
  else if c == '\r' then ['\\', 'r']
  else if c == '\t' then ['\\', 't']
  else if c == '\u2028' then "\\u2028"
  else if c == '\u2029' then "\\u2029"
  else if c == quote then ['\\', c]
  else if quote == '`' && c == '$' then ['\\', '$']
  else [c]

/-- The inside of the literal for a text. -/
def requoteInside (quote : CodePoint) (t : Text) : Text := t.flatMap (requoteChar quote)

/-- The literal for a text. -/
def requote (quote : CodePoint) (t : Text) : Text := quote :: requoteInside quote t ++ [quote]

end Readiness.Script
