import Conch.Text.Blank
import Conch.Text.Utf8

/-!
Captured output as one argument: the lines that are not empty, with one space
between them and no blanks at the ends.
-/

namespace Conch.Bytes

/-- Output as the argument that a substitution puts in its place. -/
def asArgument (bytes : Bytes) : Text :=
  let lines := (shown bytes).splitOnP (· == '\n')
  let lines := lines.map fun line => (Text.beforeEnd? ['\r'] line).getD line
  Text.trim (Text.join " " (lines.filter (!·.isEmpty)))

end Conch.Bytes
