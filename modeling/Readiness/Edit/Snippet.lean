import Readiness.Text.Blank

/-!
# Snippets

The lines around a line, for showing where something is.
-/

namespace Readiness

/-- The lines from `before` above the line, which is counted from one, to `after` below it, joined
by line feeds. Without a line, as many of the first lines. -/
def Text.snippet (t : Text) (line : Int) (before after : Nat) : Text :=
  let ls := t.lines
  if line ≤ 0 then join ['\n'] (ls.take (before + after + 1))
  else
    let n := line.toNat
    join ['\n'] ((ls.take (n + after)).drop (n - 1 - before))

/-- How many lines a preview shows above and below. -/
def Text.previewLines : Nat := 2

end Readiness
