import Conch.Text.Letter

/-!
Texts in upper and lower case. A letter may become several characters, and a
capital sigma at the end of a word becomes the final form of the small letter.
-/

namespace Conch.Text

/-- Maps one character by a table of sequences and a table of runs. -/
def mapCase (sequences : List (Nat × List Nat)) (runs : List CaseRun) (c : Char) : Text :=
  match sequences.lookup c.toNat with
  | some codes => codes.map Char.ofNat
  | none =>
    match runs.find? (·.has c.toNat) with
    | some run => [Char.ofNat (Int.toNat (c.toNat + run.offset))]
    | none => [c]

/-- The upper case of a character. -/
def upperChar (c : Char) : Text := mapCase upperSequences upperRuns c

/-- The lower case of a character, its place in a word apart. -/
def lowerChar (c : Char) : Text := mapCase lowerSequences lowerRuns c

/-- The upper case of a text. -/
def toUpper (s : Text) : Text := s.flatMap upperChar

/-- Whether the next character that is not passed over has a case. -/
def meetsCased (s : Text) : Bool :=
  match s.dropWhile isCaseIgnorable with
  | [] => false
  | c :: _ => isCased c

/-- The capital sigma, the small sigma and its final form. -/
def capitalSigma : Char := 'Σ'
@[inherit_doc capitalSigma] def smallSigma : Char := 'σ'
@[inherit_doc capitalSigma] def finalSigma : Char := 'ς'

/-- The lower case of the characters after `before`, which holds what was read,
latest first; `done` is the result so far, latest first. -/
def toLowerFrom (before done : Text) : Text → Text
  | [] => done.reverse
  | c :: rest =>
    let lowered :=
      if c = capitalSigma then
        if meetsCased before && !meetsCased rest then [finalSigma] else [smallSigma]
      else lowerChar c
    toLowerFrom (c :: before) (lowered.reverse ++ done) rest

/-- The lower case of a text. -/
def toLower (s : Text) : Text := toLowerFrom [] [] s

end Conch.Text
