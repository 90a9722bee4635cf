import Conch.Process.Task
import Conch.Program.Options
import Conch.Program.Quote
import Conch.Text.Numeral

/-!
The program that replaces, deletes or squeezes bytes. Sets of bytes are written as
texts: single characters, ranges, escapes, named classes and repetitions, in which
the order of the bytes matters.
-/

namespace Conch.Program.Tr

open Process

/-- Why the arguments make no sense. -/
inductive Fault where
  | option (fault : OptionFault)
  | missingOperand
  | missingSecond (first rule : Text)
  | extraOperand (operand : Text) (rule : Option Text)
  | reversedRange (low high : Char)
  | noClassName
  | noEquivalent
  | badClass (name : Text)
  | badEquivalent (written : Text)
  | badRepetition (count : Text)
  | openInFirst
  | severalOpen
  | openWithoutReplacing
  | equivalentInSecond
  | classInSecond
  | misaligned
  | emptySecond
  | classAtEnd
  | severalTargets
  deriving DecidableEq, Repr

/-- An octet as messages show it. -/
def shownOctet (c : Char) : Text := if Quote.isShown c then [c] else '\\' :: Quote.octal c

/-- Octets as messages show them. -/
def shownOctets (written : Text) : Text :=
  written.flatMap fun c =>
    if c = '\\' then ['\\', '\\'] else if Quote.isShown c then [c] else Quote.escape c

/-- What the user is told. -/
def Fault.message : Fault → Text
  | .option fault => fault.message
  | .missingOperand => "missing operand"
  | .missingSecond first _ => "missing operand after " ++ Quote.text first
  | .extraOperand operand _ => "extra operand " ++ Quote.text operand
  | .reversedRange low high =>
    "range-endpoints of '" ++ shownOctet low ++ "-" ++ shownOctet high ++
      "' are in reverse collating sequence order"
  | .noClassName => "missing character class name '[::]'"
  | .noEquivalent => "missing equivalence class character '[==]'"
  | .badClass name => "invalid character class " ++ Quote.text (shownOctets name)
  | .badEquivalent written =>
    shownOctets written ++ ": equivalence class operand must be a single character"
  | .badRepetition count =>
    "invalid repeat count " ++ Quote.text (shownOctets count) ++ " in [c*n] construct"
  | .openInFirst => "the [c*] repeat construct may not appear in string1"
  | .severalOpen => "only one [c*] repeat construct may appear in string2"
  | .openWithoutReplacing => "the [c*] construct may appear in string2 only when translating"
  | .equivalentInSecond => "[=c=] expressions may not appear in string2 when translating"
  | .classInSecond =>
    "when translating, the only character classes that may appear in\n" ++
      "string2 are 'upper' and 'lower'"
  | .misaligned => "misaligned [:upper:] and/or [:lower:] construct"
  | .emptySecond => "when not truncating set1, string2 must be non-empty"
  | .classAtEnd =>
    "when translating with string1 longer than string2,\n" ++
      "the latter string must not end with a character class"
  | .severalTargets =>
    "when translating with complemented character classes,\n" ++
      "string2 must map all characters in the domain to one"

/-- The rule that the user is reminded of. -/
def Fault.rule? : Fault → Option Text
  | .missingSecond _ rule => some rule
  | .extraOperand _ rule => rule
  | _ => none

/-- Whether the user is told where to find help. -/
def Fault.isMisuse : Fault → Bool
  | .option _ | .missingOperand | .missingSecond .. | .extraOperand .. => true
  | _ => false

/-! ### Written sets -/

/-- An octet of a written set, which an escape may protect from meaning more. -/
structure Mark where
  octet : Char
  escaped : Bool := false
  deriving DecidableEq, Repr

/-- Whether an octet stands for itself in the rules of sets. -/
def Mark.is (mark : Mark) (c : Char) : Bool := mark.octet == c && !mark.escaped

/-- Whether an octet is an octal digit. -/
def isOctal (c : Char) : Bool := '0' ≤ c && c ≤ '7'

/-- The value of octal digits. -/
def octalValue (digits : Text) : Nat := digits.foldl (fun n d => n * 8 + (d.toNat - 48)) 0

/-- The digits of an octal escape: as many of three as make a byte. -/
def octalDigits (written : Text) : Text :=
  let digits := (written.takeWhile isOctal).take 3
  if octalValue digits < 256 then digits else digits.take 2

/-- The octets of a written set with its escapes undone, and what the user is warned
about, behind what was found before, latest first. The first `skip` octets are passed
over. -/
def unescape (marks : List Mark) (warnings : List Text) (skip : Nat) :
    Text → List Mark × List Text
  | [] => (marks.reverse, warnings.reverse)
  | c :: rest =>
    match skip with
    | skip + 1 => unescape marks warnings skip rest
    | 0 =>
      if c ≠ '\\' then unescape (⟨c, false⟩ :: marks) warnings 0 rest
      else
        match rest.head? with
        | none =>
          let warning : Text := "an unescaped backslash at end of string is not portable"
          unescape (⟨c, false⟩ :: marks) (warning :: warnings) 0 rest
        | some d =>
          if isOctal d then
            let digits := octalDigits rest
            let all := (rest.takeWhile isOctal).take 3
            let warning : Text :=
              "the ambiguous octal escape \\" ++ all ++
                " is being\n\tinterpreted as the 2-byte sequence \\0" ++ digits ++ ", " ++
                all.drop 2
            unescape (⟨Char.ofNat (octalValue digits), true⟩ :: marks)
              (if digits.length < all.length then warning :: warnings else warnings)
              digits.length rest
          else
            let meant := [('a', 7), ('b', 8), ('f', 12), ('n', 10), ('r', 13), ('t', 9), ('v', 11)]
            let octet := ((meant.lookup d).map Char.ofNat).getD d
            unescape (⟨octet, true⟩ :: marks) warnings 1 rest

/-- The classes that differ by case. -/
inductive Case where
  | upper
  | lower
  deriving DecidableEq, Repr

/-- A part of a set. -/
inductive Part where
  | octet (c : Char)
  | range (low high : Char)
  | class (name : Text) (members : Text)
  | equivalent (c : Char)
  /-- An octet as often as the count says, or as often as it is needed. -/
  | repeated (c : Char) (count : Option Nat)
  deriving DecidableEq, Repr

/-- The octets from one to another. -/
def octets (low high : Nat) : Text :=
  (List.range (high + 1 - low)).map fun n => Char.ofNat (low + n)

/-- Every octet. -/
def allOctets : Text := octets 0 255

/-- The members of a named class. -/
def class? (name : Text) : Option Text :=
  let small := octets 97 122
  let capitals := octets 65 90
  let digits := octets 48 57
  let punctuation := octets 33 47 ++ octets 58 64 ++ octets 91 96 ++ octets 123 126
  let known : List (Text × Text) :=
    [("lower", small), ("upper", capitals), ("digit", digits), ("alpha", capitals ++ small),
      ("alnum", digits ++ capitals ++ small), ("punct", punctuation),
      ("space", octets 9 13 ++ [' ']), ("blank", ['\t', ' ']),
      ("cntrl", octets 0 31 ++ octets 127 127), ("print", octets 32 126),
      ("graph", octets 33 126), ("xdigit", digits ++ octets 65 70 ++ octets 97 102)]
  known.lookup name

/-- What lies before the first occurrence of two marks in a row. -/
def beforeClosing? (delimiter : Char) : List Mark → Option Text
  | first :: second :: rest =>
    if first.is delimiter && second.is ']' then some []
    else (beforeClosing? delimiter (second :: rest)).map (first.octet :: ·)
  | _ => none

/-- Whether marks begin with a star, digits and a closing bracket. -/
def isRepetition (marks : List Mark) : Bool :=
  match marks with
  | star :: rest =>
    let behind := rest.dropWhile (·.octet.isDigit)
    star.is '*' && ((behind.head?.map (·.is ']')).getD false)
  | [] => false

/-- The largest count of a repetition. -/
def largestCount : Nat := Text.largestNat - 1

/-- The repetition that follows an opening bracket, and the number of marks in it. -/
def repetition? (marks : List Mark) : Except Fault (Option (Part × Nat)) :=
  match marks with
  | c :: star :: rest =>
    if !star.is '*' then .ok none
    else
      let count := rest.takeWhile fun mark => !mark.escaped && mark.octet != ']'
      match rest.drop count.length with
      | close :: _ =>
        let digits := count.map (·.octet)
        let octal := digits.head? = some '0'
        if !close.is ']' then .ok none
        else if digits.isEmpty then .ok (some (.repeated c.octet none, 3))
        else if digits.all (if octal then isOctal else Char.isDigit) then
          let value := if octal then octalValue digits else (Text.digitsValue? digits).getD 0
          if value ≤ largestCount then
            let count := if value = 0 then none else some value
            .ok (some (.repeated c.octet count, digits.length + 3))
          else .error (.badRepetition digits)
        else .error (.badRepetition digits)
      | [] => .ok none
  | _ => .ok none

/-- The class that follows an opening bracket, and the number of marks in it. -/
def bracketed? (marks : List Mark) : Except Fault (Option (Part × Nat)) :=
  match marks with
  | kind :: rest =>
    if !(kind.is ':' || kind.is '=') then .ok none
    else
      match beforeClosing? kind.octet rest with
      | none => .ok none
      | some [] => .error (if kind.octet = ':' then .noClassName else .noEquivalent)
      | some name =>
        if kind.octet = ':' then
          match class? name with
          | some members => .ok (some (.class name members, name.length + 3))
          | none => if isRepetition rest then .ok none else .error (.badClass name)
        else
          match name with
          | [c] => .ok (some (.equivalent c, 4))
          | _ => if isRepetition rest then .ok none else .error (.badEquivalent name)
  | [] => .ok none

/-- The part that a mark begins, and the number of marks behind it that belong to it.
Brackets and dashes mean nothing among the last two marks. -/
def nextPart (first : Mark) (rest : List Mark) : Except Fault (Part × Nat) := do
  match rest with
  | second :: third :: _ =>
    let found ←
      if first.is '[' then
        match ← bracketed? rest with
        | some part => pure (some part)
        | none => repetition? rest
      else pure none
    match found with
    | some part => return part
    | none =>
      if !second.is '-' then return (.octet first.octet, 0)
      else if third.octet < first.octet then throw (.reversedRange first.octet third.octet)
      else return (.range first.octet third.octet, 2)
  | _ => return (.octet first.octet, 0)

/-- Reads the parts of a set behind those that were found before, latest first. The
first `skip` marks are passed over. -/
def readParts (found : List Part) (skip : Nat) : List Mark → Except Fault (List Part)
  | [] => .ok found.reverse
  | first :: rest =>
    match skip with
    | skip + 1 => readParts found skip rest
    | 0 =>
      match nextPart first rest with
      | .ok (part, size) => readParts (part :: found) size rest
      | .error fault => .error fault

/-! ### What is asked for -/

/-- A unit of a set when two sets are laid side by side: an octet, or a class that
differs by case and may be met by another one as a whole. -/
inductive Unit where
  | octet (c : Char)
  | case (case : Case) (members : Text)
  deriving DecidableEq, Repr

/-- The case of a class. -/
def case? (name : Text) : Option Case :=
  if name = ("upper" : Text) then some .upper
  else if name = ("lower" : Text) then some .lower
  else none

namespace Part

/-- The octets of a part, when a repetition without a count stands `more` times. -/
def members (more : Nat) : Part → Text
  | .octet c | .equivalent c => [c]
  | .range low high => octets low.toNat high.toNat
  | .class _ members => members
  | .repeated c count => List.replicate (count.getD more) c

/-- The units of a part. -/
def units (more : Nat) (part : Part) : List Unit :=
  match part with
  | .class name members =>
    match case? name with
    | some case => [.case case members]
    | none => members.map .octet
  | part => (part.members more).map .octet

/-- The number of octets in a part; a repetition without a count has none. -/
def size (part : Part) : Nat :=
  match part with
  | .repeated _ count => count.getD 0
  | part => (part.members 0).length

/-- Whether a part stands as often as it is needed. -/
def isOpen : Part → Bool
  | .repeated _ none => true
  | _ => false

/-- Whether a part is a named class. -/
def isClass : Part → Bool
  | .class .. => true
  | _ => false

/-- Whether a part is a class of equivalents. -/
def isEquivalent : Part → Bool
  | .equivalent _ => true
  | _ => false

/-- Whether a part is a class that does not differ by case. -/
def isOtherClass : Part → Bool
  | .class name _ => (case? name).isNone
  | _ => false

/-- The octet that fills up what a set lacks, if its last part has one. -/
def filler? : Part → Option Char
  | .octet c | .equivalent c | .repeated c _ => some c
  | .range _ high => some high
  | .class .. => none

end Part

/-- The other case of a letter. -/
def changeCase (source target : Case) (c : Char) : Char :=
  match source, target with
  | .lower, .upper => c.toUpper
  | .upper, .lower => c.toLower
  | _, _ => c

/-- Lays two sets side by side, behind the pairs that were found before, latest first.
A class that differs by case in the second set has to meet the start of one in the
first. -/
def align (found : List (Char × Char)) :
    Nat → List Unit → List Unit → Except Fault (List (Char × Char))
  | 0, _, _ => .ok found.reverse
  | _ + 1, _, [] => .ok found.reverse
  | _ + 1, [], .case .. :: _ => .error .misaligned
  | _ + 1, [], .octet _ :: _ => .ok found.reverse
  | fuel + 1, .case source members :: rest, .case target _ :: rest' =>
    align ((members.map fun c => (c, changeCase source target c)).reverse ++ found) fuel rest rest'
  | _ + 1, .octet _ :: _, .case .. :: _ => .error .misaligned
  | fuel + 1, .octet c :: rest, .octet d :: rest' => align ((c, d) :: found) fuel rest rest'
  | fuel + 1, .case _ members :: rest, .octet d :: rest' =>
    match members with
    | [] => align found fuel rest (.octet d :: rest')
    | c :: members => align ((c, d) :: found) fuel (members.map .octet ++ rest) rest'

/-- The number of pairs when two sets are laid side by side until one of them ends,
counting classes that meet as one, and what is left over of the first. -/
def unitCount (units : List Unit) (other : List Unit) : Nat :=
  let whole := other.filter fun unit => unit matches .case ..
  let sizes := units.map fun unit =>
    match unit with
    | .octet _ => 1
    | .case _ members => members.length
  total sizes - (whole.length * 25)

/-- What is done with the bytes. -/
structure Options where
  complement : Bool := false
  delete : Bool := false
  squeeze : Bool := false
  truncate : Bool := false
  deriving DecidableEq, Repr

/-- The options of the program. -/
def rules : OptionRules where
  plain := "AcCdst"
  long :=
    [⟨"complement", 'c', false⟩, ⟨"delete", 'd', false⟩, ⟨"squeeze-repeats", 's', false⟩,
      ⟨"truncate-set1", 't', false⟩]
  anywhere := false

/-- The options with one more letter. -/
def Options.add (options : Options) : Char → Options
  | 'c' | 'C' => { options with complement := true }
  | 'd' => { options with delete := true }
  | 's' => { options with squeeze := true }
  | 't' => { options with truncate := true }
  | _ => options

/-- What happens to octets: some are deleted, some become others, and runs of some
become one. -/
structure Change where
  deleted : Text := []
  /-- What octets become; of several that are given for one, the last counts. -/
  replaced : List (Char × Char) := []
  squeezed : Text := []

/-- What happens to each byte. -/
structure Rule where
  deleted : Bool
  image : UInt8
  squeezed : Bool

/-- The rule for each byte. -/
def Change.rules (change : Change) : Array Rule :=
  let latest := change.replaced.reverse
  let image (c : Char) : Char := (latest.lookup c).getD c
  let rule (c : Char) : Rule :=
    ⟨change.deleted.contains c, (image c).toNat.toUInt8, change.squeezed.contains (image c)⟩
  (allOctets.map rule).toArray

/-- What is still to be written. -/
structure Done where
  /-- The bytes, latest first. -/
  reversed : Bytes := []
  /-- The number of bytes. -/
  count : Nat := 0
  /-- The last byte before and with these. -/
  last : Option UInt8 := none

/-- One more byte. -/
def Done.step (rules : Array Rule) (done : Done) (b : UInt8) : Done :=
  let rule := rules.getD b.toNat ⟨false, b, false⟩
  if rule.deleted || (rule.squeezed && done.last == some rule.image) then done
  else ⟨rule.image :: done.reversed, done.count + 1, some rule.image⟩

/-- The octets that are not among the given ones. -/
def others (octets : Text) : Text := allOctets.filter (!octets.contains ·)

/-- The number of octets in a set; a repetition without a count has none. -/
def sizeOf (parts : List Part) : Nat := total (parts.map Part.size)

/-- The octets of a written set that is not laid beside another. -/
def membersOf (parts : List Part) : Text := parts.flatMap (Part.members 0)

/-- The number of octets that are replaced. -/
def Options.sourceCount (options : Options) (first : List Part) : Nat :=
  if options.complement then (others (membersOf first)).length else sizeOf first

/-- How often a repetition without a count stands in the second set. -/
def Options.missing (options : Options) (first second : List Part) : Nat :=
  options.sourceCount first - sizeOf second

/-- What the octets of the first set become. -/
def replacements (options : Options) (first second : List Part) :
    Except Fault (List (Char × Char)) := do
  let named := membersOf first
  let firstSize := options.sourceCount first
  let more := options.missing first second
  if (second.filter Part.isOpen).length > 1 then throw .severalOpen
  if second.any Part.isEquivalent then throw .equivalentInSecond
  if second.any Part.isOtherClass then throw .classInSecond
  let sources : List Unit :=
    if options.complement then (others named).map .octet else first.flatMap (Part.units 0)
  let targets := second.flatMap (Part.units more)
  let meeting := if options.complement then [] else targets
  if !options.complement then
    let _ ← align [] (firstSize + 256) sources targets
  let firstCount := unitCount sources meeting
  let secondCount := unitCount targets meeting
  let filler ←
    if options.truncate || firstCount ≤ secondCount then pure []
    else
      match second.getLast? with
      | none => throw .emptySecond
      | some last =>
        match last.filler? with
        | none => throw .classAtEnd
        | some c => pure (List.replicate (firstCount - secondCount) (Unit.octet c))
  let expanded :=
    if options.complement then second.flatMap fun part => (part.members more).map Unit.octet
    else targets
  if expanded.isEmpty && filler.isEmpty && 0 < firstCount && !options.truncate then
    throw .emptySecond
  let targets := expanded ++ filler
  if options.complement && first.any Part.isClass then
    let distinct := targets.eraseDups
    if !(targets.length = firstSize && distinct.length = 1) then throw .severalTargets
  align [] (firstSize + targets.length + 256) sources targets

/-- Reads a written set; warnings come with it. -/
def readSet (written : Text) : List Text × Except Fault (List Part) :=
  let (marks, warnings) := unescape [] [] 0 written
  (warnings, readParts [] 0 marks)

/-- The change that two sets ask for, of which the second may be missing. -/
def Options.change (options : Options) (first : List Part) (second : Option (List Part)) :
    Except Fault Change := do
  if first.any Part.isOpen then throw .openInFirst
  let named := membersOf first
  let source := if options.complement then others named else named
  match second with
  | none =>
    return if options.delete then { deleted := source } else { squeezed := source }
  | some second =>
    if options.delete then
      if (second.filter Part.isOpen).length > 1 then throw .severalOpen
      if second.any Part.isOpen then throw .openWithoutReplacing
      return { deleted := source, squeezed := membersOf second }
    else
      let replaced ← replacements options first second
      let squeezed := second.flatMap (Part.members (min 1 (options.missing first second)))
      return { replaced, squeezed := if options.squeeze then squeezed else [] }

/-- Checks that there are as many sets as the options want. -/
def Options.checkCount (options : Options) (operands : List Text) : Except Fault PUnit := do
  let least := if options.delete == options.squeeze then 2 else 1
  let most := if options.delete && !options.squeeze then 1 else 2
  match operands.getLast? with
  | none => throw .missingOperand
  | some last =>
    if operands.length < least then
      throw (.missingSecond last
        (if options.squeeze then
          "Two strings must be given when both deleting and squeezing repeats."
        else "Two strings must be given when translating."))
    match operands[most]? with
    | none => return ()
    | some extra =>
      throw (.extraOperand extra
        (if operands.length = 2 then
          some "Only one string may be given when deleting without squeezing repeats."
        else none))

end Tr

open Process

/-- Ends the program that replaces bytes because of a fault. -/
def Tr.refuse (task : Task) (fault : Tr.Fault) : Course Status := do
  if fault.isMisuse then task.misused fault.message fault.rule?
  else
    task.complain fault.message
    return .failure

/-- Reads the written sets; warnings are reported as they arise. -/
def Tr.readSets (task : Task) : List Text → Course (Except Tr.Fault (List (List Tr.Part)))
  | [] => pure (.ok [])
  | written :: rest => do
    let (warnings, parts) := Tr.readSet written
    for warning in warnings do
      task.complain ("warning: " ++ warning)
    match parts with
    | .error fault => return .error fault
    | .ok parts =>
      match ← Tr.readSets task rest with
      | .error fault => return .error fault
      | .ok more => return .ok (parts :: more)

/-- The number of bytes that are read at once, and the number that are written at once
unless they are the last. -/
def Tr.blockSize : Nat := 4096

/-- Copies the input of a task with a change. -/
def Tr.copy (task : Task) (change : Tr.Change) : Course Status :=
  let rules := change.rules
  Course.iterate
    (fun (done : Tr.Done) => do
      match ← task.readSome 0 Tr.blockSize with
      | .error error =>
        let _ ← task.deliver done.reversed.reverse
        task.complain ("read error: " ++ error.name)
        return .inr .failure
      | .ok [] => return .inr (← task.deliver done.reversed.reverse)
      | .ok bytes =>
        let done := bytes.foldl (Tr.Done.step rules) done
        if done.count < Tr.blockSize then return .inl done
        else
          match ← task.deliver done.reversed.reverse with
          | .exited 0 => return .inl { last := done.last }
          | status => return .inr status)
    Task.portionLimit {}

/-- The program that replaces bytes. -/
def tr : Program := fun task args => do
  let read := Tr.rules.read args
  let options : Tr.Options := read.options.foldl (fun options (letter, _) => options.add letter) {}
  match read.fault with
  | some fault => Tr.refuse task (.option fault)
  | none =>
    match options.checkCount read.operands with
    | .error fault => Tr.refuse task fault
    | .ok _ =>
      match ← Tr.readSets task read.operands with
      | .error fault => Tr.refuse task fault
      | .ok sets =>
        match options.change (sets.headD []) sets[1]? with
        | .error fault => Tr.refuse task fault
        | .ok change =>
          Tr.copy task change

end Conch.Program
