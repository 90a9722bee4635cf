import Conch.Text.Cluster
import Conch.Text.Utf8

/-!
Lines as they are typed where the line cannot be edited on the screen: a backspace
that arrives as a character of its own takes back the cluster before it.
-/

namespace Conch.Front

/-- What is kept of a line so far. -/
structure Typed where
  /-- The characters, latest first. -/
  kept : Text := []
  /-- The lengths of the clusters, latest first. -/
  sizes : List Nat := []
  deriving DecidableEq, Repr

namespace Typed

/-- The character that takes back the cluster before it. -/
def backspace : Char := Char.ofNat 8

/-- One more than the largest length that is remembered: lengths are kept in one byte
and start again at zero behind it. -/
def sizeLimit : Nat := 256

/-- Drops characters from the front until `size` bytes are gone. -/
def dropBytes : Nat → Text → Text
  | 0, s => s
  | _ + 1, [] => []
  | size + 1, c :: rest => dropBytes (size + 1 - c.utf8Size) rest

/-- The line with one more cluster. -/
def add (typed : Typed) (cluster : Text) : Typed :=
  if cluster = [backspace] then
    match typed.sizes with
    | [] => typed
    | size :: sizes => ⟨dropBytes size typed.kept, sizes⟩
  else ⟨cluster.reverse ++ typed.kept, Text.byteLength cluster % sizeLimit :: typed.sizes⟩

end Typed

/-- What a line reads once its backspaces have done their work. -/
def withBackspaces (line : Text) : Text :=
  ((Text.clusters line).foldl Typed.add {}).kept.reverse

example : withBackspaces ['a', 'b', Typed.backspace, 'c'] = ['a', 'c'] := by decide +kernel

end Conch.Front
