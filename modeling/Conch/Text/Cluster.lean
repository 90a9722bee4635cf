import Conch.Text.ClusterTable

/-!
Clusters of characters: what a reader takes for one character, such as a letter
with its accents, a syllable block, a flag, or a picture joined from several. A
text is cut into its clusters at every place where no rule holds its two sides
together (the extended grapheme clusters of Unicode).
-/

namespace Conch.Text

/-- What a character does at the edge of a cluster. -/
inductive ClusterRole where
  | carriageReturn
  | newline
  | control
  /-- Extends the character before it. -/
  | extend
  /-- Joins the pictures on its two sides. -/
  | joiner
  /-- Half of a flag. -/
  | regional
  /-- Belongs to the character after it. -/
  | prepended
  /-- A mark with a width of its own. -/
  | spacing
  | leading
  | vowel
  | trailing
  /-- A syllable that a trailing consonant may still close. -/
  | openSyllable
  | closedSyllable
  | other
  deriving DecidableEq, Repr

/-- The first and the last of the syllables that are characters of their own. -/
def firstSyllable : Nat := 0xAC00
@[inherit_doc firstSyllable] def lastSyllable : Nat := 0xD7A3

/-- The number of ways to close a syllable, staying open included. -/
def syllableClosings : Nat := 28

/-- The character that joins pictures. -/
def pictureJoiner : Nat := 0x200D

/-- The character that extends another only to keep it apart from the next. -/
def nonJoiner : Nat := 0x200C

/-- What a character does at the edge of a cluster. -/
def clusterRole (c : Char) : ClusterRole :=
  let n := c.toNat
  if c = '\r' then .carriageReturn
  else if c = '\n' then .newline
  else if 0x20 ≤ n && n < 0x7F then .other
  else if n = pictureJoiner then .joiner
  else if isExtender c || (0x1F3FB ≤ n && n ≤ 0x1F3FF) then .extend
  else if liesIn controlRanges n then .control
  else if 0x1F1E6 ≤ n && n ≤ 0x1F1FF then .regional
  else if firstSyllable ≤ n && n ≤ lastSyllable then
    if (n - firstSyllable) % syllableClosings = 0 then .openSyllable else .closedSyllable
  else if liesIn leadingRanges n then .leading
  else if liesIn vowelRanges n then .vowel
  else if liesIn trailingRanges n then .trailing
  else if liesIn prependedRanges n then .prepended
  else if liesIn spacingRanges n then .spacing
  else .other

/-- How far a consonant has come on its way to the next. -/
inductive Conjunct where
  | none
  /-- Only extending characters stand behind the consonant. -/
  | consonant
  /-- A linker is among them. -/
  | linked
  deriving DecidableEq, Repr

/-- What the rules need to know about the text before a place. -/
structure ClusterEdge where
  /-- The role of the last character. -/
  role : ClusterRole
  /-- Only extending characters stand behind a picture. -/
  afterPicture : Bool
  /-- The last character joins such a picture. -/
  joining : Bool
  conjunct : Conjunct
  /-- An odd number of halves of flags stands before the place. -/
  halfFlag : Bool
  deriving DecidableEq, Repr

namespace ClusterEdge

/-- The edge at the start of a text, where nothing holds anything together. -/
def start : ClusterEdge := ⟨.control, false, false, .none, false⟩

/-- The edge behind one more character. -/
def step (edge : ClusterEdge) (c : Char) : ClusterEdge :=
  let role := clusterRole c
  { role
    afterPicture := liesIn pictographRanges c.toNat || (edge.afterPicture && role == .extend)
    joining := edge.afterPicture && role == .joiner
    conjunct :=
      if liesIn conjunctConsonantRanges c.toNat then .consonant
      else if edge.conjunct = .none then .none
      else if liesIn conjunctLinkerRanges c.toNat then .linked
      else if (role == .extend && c.toNat != nonJoiner) || role == .joiner then edge.conjunct
      else .none
    halfFlag := role == .regional && !edge.halfFlag }

/-- Whether a role stands on its own whatever is around it. -/
def standsAlone (role : ClusterRole) : Bool :=
  role == .control || role == .carriageReturn || role == .newline

/-- Whether the character behind an edge belongs to the cluster before it. -/
def holds (edge : ClusterEdge) (c : Char) : Bool :=
  let role := clusterRole c
  if edge.role == .carriageReturn && role == .newline then true
  else if standsAlone edge.role || standsAlone role then false
  else
    match edge.role, role with
    | .leading, .leading | .leading, .vowel | .leading, .openSyllable
    | .leading, .closedSyllable => true
    | .openSyllable, .vowel | .openSyllable, .trailing | .vowel, .vowel | .vowel, .trailing => true
    | .closedSyllable, .trailing | .trailing, .trailing => true
    | _, .extend | _, .joiner | _, .spacing => true
    | .prepended, _ => true
    | .regional, .regional => edge.halfFlag
    | _, _ =>
      (edge.conjunct == .linked && liesIn conjunctConsonantRanges c.toNat) ||
        (edge.joining && liesIn pictographRanges c.toNat)

end ClusterEdge

/-- Cuts a text behind an edge. `cluster` is the cluster being read, latest character
first, and `done` are the clusters before it, latest first. -/
def clustersFrom (edge : ClusterEdge) (done : List Text) (cluster : Text) : Text → List Text
  | [] => (if cluster.isEmpty then done else cluster.reverse :: done).reverse
  | c :: rest =>
    if cluster.isEmpty || edge.holds c then clustersFrom (edge.step c) done (c :: cluster) rest
    else clustersFrom (edge.step c) (cluster.reverse :: done) [c] rest

/-- The clusters of a text. -/
def clusters (s : Text) : List Text := clustersFrom .start [] [] s

theorem flatten_clustersFrom (edge : ClusterEdge) (done : List Text) (cluster s : Text) :
    (clustersFrom edge done cluster s).flatten = done.reverse.flatten ++ cluster.reverse ++ s := by
  induction s generalizing edge done cluster with
  | nil => by_cases h : cluster.isEmpty <;> simp_all [clustersFrom]
  | cons c rest ih =>
    rw [clustersFrom]
    split <;> simp [ih]

/-- No character is lost between the clusters. -/
@[simp] theorem flatten_clusters (s : Text) : (clusters s).flatten = s := by
  simp [clusters, flatten_clustersFrom]

end Conch.Text
