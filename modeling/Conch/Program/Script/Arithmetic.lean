import Conch.Program.Format
import Conch.Program.Script.Tree
import Conch.Text.Numeral

/-!
The arithmetic of scripts: whole numbers of 64 bits with the usual operators, in
which names stand for variables that an expression may also set.
-/

namespace Conch.Program.Script.Arithmetic

/-- The operators between two values, strongest first. -/
inductive Operator where
  | times | divided | rest | plus | minus | left | right | less | lessEqual | greater | greaterEqual
  | equal | unequal | and | xor | or
  deriving DecidableEq, Repr

/-- A token of an expression. -/
inductive Token where
  | number (value : Int)
  | name (name : Text)
  | operator (operator : Operator)
  /-- The sign that sets a variable, with the operator that is applied first. -/
  | assign (operator : Option Operator)
  | both | either | not | complement | question | colon | opening | closing
  /-- Something that is no token. -/
  | unknown
  deriving DecidableEq, Repr

/-- A sign and the token that it is. -/
def sign (written : String) (token : Token) : Text × Token := (written.toList, token)

/-- The signs of expressions, longer ones first. -/
def signs : List (Text × Token) :=
  [sign "<<=" (.assign (some .left)), sign ">>=" (.assign (some .right)),
    sign "*=" (.assign (some .times)), sign "/=" (.assign (some .divided)),
    sign "%=" (.assign (some .rest)), sign "+=" (.assign (some .plus)),
    sign "-=" (.assign (some .minus)), sign "&=" (.assign (some .and)),
    sign "^=" (.assign (some .xor)), sign "|=" (.assign (some .or)), sign "<<" (.operator .left),
    sign ">>" (.operator .right), sign "<=" (.operator .lessEqual),
    sign ">=" (.operator .greaterEqual), sign "==" (.operator .equal),
    sign "!=" (.operator .unequal), sign "&&" .both, sign "||" .either, sign "<" (.operator .less),
    sign ">" (.operator .greater), sign "*" (.operator .times), sign "/" (.operator .divided),
    sign "%" (.operator .rest), sign "+" (.operator .plus), sign "-" (.operator .minus),
    sign "&" (.operator .and), sign "^" (.operator .xor), sign "|" (.operator .or), sign "!" .not,
    sign "~" .complement, sign "?" .question, sign ":" .colon, sign "(" .opening,
    sign ")" .closing, sign "=" (.assign none)]

/-- A value as a word of 64 bits. -/
def wrap (value : Int) : Int := Int.bmod value (Text.largestNat + 1)

/-- The token that an expression begins with, and its size. -/
def tokenAt (text : Text) : Token × Nat :=
  match text with
  | [] => (.unknown, 1)
  | c :: _ =>
    if c.isDigit then
      let reading := Format.readInteger true text
      (.number reading.value, text.length - reading.rest.length)
    else if isNameStart c then
      let name := text.takeWhile isNameChar
      (.name name, name.length)
    else
      match signs.find? fun (sign, _) => sign.isPrefixOf text with
      | some (sign, token) => (token, sign.length)
      | none => (.unknown, 1)

/-- The tokens of an expression. The first `skip` octets are passed over. -/
def tokens (skip : Nat) : Text → List Token
  | [] => []
  | c :: rest =>
    match skip with
    | skip + 1 => tokens skip rest
    | 0 =>
      if c = ' ' || c = '\t' || c = '\n' then tokens 0 rest
      else
        let (token, size) := tokenAt (c :: rest)
        token :: tokens (size - 1) rest

/-- Why an expression has no value. -/
inductive Fault where
  | noPrimary
  | noClosing
  | noColon
  | noEnd
  | divisionByZero
  /-- The value of a variable is not a number. -/
  | badNumber (text : Text)
  deriving DecidableEq, Repr

/-- The level of an operator; those of a lower level are applied first. -/
def Operator.level : Operator → Nat
  | .times | .divided | .rest => 0
  | .plus | .minus => 1
  | .left | .right => 2
  | .less | .lessEqual | .greater | .greaterEqual => 3
  | .equal | .unequal => 4
  | .and => 5
  | .xor => 6
  | .or => 7

/-- One for what holds and zero for what does not. -/
def truth (holds : Bool) : Int := if holds then 1 else 0

/-- The bits of a value. -/
def bits (value : Int) : Nat := (value % (Text.largestNat + 1 : Nat)).toNat

/-- Applies an operator. -/
def Operator.apply (operator : Operator) (a b : Int) : Except Fault Int :=
  match operator with
  | .times => .ok (wrap (a * b))
  | .divided => if b = 0 then .error .divisionByZero else .ok (wrap (a.tdiv b))
  | .rest => if b = 0 then .error .divisionByZero else .ok (wrap (a.tmod b))
  | .plus => .ok (wrap (a + b))
  | .minus => .ok (wrap (a - b))
  | .left => .ok (wrap (a * (Nat.shiftLeft 1 (bits b % 64) : Nat)))
  | .right => .ok (a / (Nat.shiftLeft 1 (bits b % 64) : Nat))
  | .less => .ok (truth (a < b))
  | .lessEqual => .ok (truth (a ≤ b))
  | .greater => .ok (truth (b < a))
  | .greaterEqual => .ok (truth (b ≤ a))
  | .equal => .ok (truth (a == b))
  | .unequal => .ok (truth (a != b))
  | .and => .ok (wrap (bits a &&& bits b))
  | .xor => .ok (wrap (bits a ^^^ bits b))
  | .or => .ok (wrap (bits a ||| bits b))

/-- What is left of an expression, and the variables that it has set, latest first. -/
structure Progress where
  tokens : List Token
  set : List (Text × Int) := []

/-- What computes a value. Where `live` does not hold, a value is read but has no
effect. -/
abbrev Computation := StateT Progress (Except Fault)

/-- The next token, which stays. -/
def peek : Computation (Option Token) := return (← get).tokens.head?

/-- Passes over a token. -/
def skip : Computation Unit :=
  modify fun progress => { progress with tokens := progress.tokens.tail }

/-- The value of a variable. -/
def valueOf (lookup : Text → Option Text) (name : Text) : Computation Int := do
  match (← get).set.lookup name with
  | some value => return value
  | none =>
    match (lookup name).filter (!·.isEmpty) with
    | none => return 0
    | some text =>
      let reading := Format.readInteger true text
      if reading.rest.all (fun c => c = ' ' || ('\t' ≤ c && c ≤ '\r')) &&
          reading.rest.length < text.length then
        return reading.value
      else throw (.badNumber text)

/-- Reads a value that no operator between two values splits. -/
def primary (lookup : Text → Option Text) (whole : Bool → Computation Int) (live : Bool) :
    Nat → Computation Int
  | 0 => throw .noPrimary
  | fuel + 1 => do
    match ← peek with
    | some (.number value) =>
      skip
      return value
    | some (.name name) =>
      skip
      if live then valueOf lookup name else return 0
    | some .opening =>
      skip
      let value ← whole live
      if (← peek) ≠ some .closing then throw .noClosing
      skip
      return value
    | some (.operator .plus) =>
      skip
      primary lookup whole live fuel
    | some (.operator .minus) =>
      skip
      return wrap (-(← primary lookup whole live fuel))
    | some .not =>
      skip
      return truth ((← primary lookup whole live fuel) == 0)
    | some .complement =>
      skip
      return wrap (-(← primary lookup whole live fuel) - 1)
    | _ => throw .noPrimary

/-- Applies the operators up to a level behind a value, one after another. -/
def operators (one : Computation Int) (live : Bool) :
    Nat → Nat → Int → Computation Int
  | 0, _, value => pure value
  | fuel + 1, level, value => do
    match ← peek with
    | some (.operator operator) =>
      if level < operator.level then return value
      skip
      let right ← one
      let right ←
        if operator.level = 0 then pure right
        else operators one live fuel (operator.level - 1) right
      let value ← if live then liftM (operator.apply value right) else pure value
      operators one live fuel level value
    | _ => return value

/-- The weakest level of operators between two values. -/
def weakest : Nat := 7

/-- Values of which all have to hold. -/
def both (one : Bool → Computation Int) (live : Bool) : Nat → Computation Int
  | 0 => throw .noPrimary
  | fuel + 1 => do
    let first ← one live
    if (← peek) ≠ some .both then return first
    skip
    let second ← both one (live && first != 0) fuel
    return truth (first != 0 && second != 0)

/-- Values of which one has to hold. -/
def either (one : Bool → Computation Int) (live : Bool) : Nat → Computation Int
  | 0 => throw .noPrimary
  | fuel + 1 => do
    let first ← both one live fuel
    if (← peek) ≠ some .either then return first
    skip
    let second ← either one (live && first == 0) fuel
    return truth (first != 0 || second != 0)

/-- A value, or one of two by a condition. -/
def choice (one : Bool → Computation Int) (whole : Bool → Computation Int) (live : Bool) :
    Nat → Computation Int
  | 0 => throw .noPrimary
  | fuel + 1 => do
    let condition ← either one live fuel
    if (← peek) ≠ some .question then return condition
    skip
    let first ← whole (live && condition != 0)
    if (← peek) ≠ some .colon then throw .noColon
    skip
    let second ← choice one whole (live && condition == 0) fuel
    return if condition != 0 then first else second

/-- Computes an expression that may set a variable, to a depth. -/
def assignment (lookup : Text → Option Text) : Nat → Bool → Computation Int
  | 0, _ => throw .noPrimary
  | fuel + 1, live => do
    let whole := assignment lookup fuel
    let one (live : Bool) : Computation Int := do
      let primary := primary lookup whole live (fuel + 1)
      operators primary live (fuel + 1) weakest (← primary)
    match (← get).tokens with
    | .name name :: .assign operator :: _ =>
      skip
      skip
      let right ← whole live
      if !live then return right
      let value ← match operator with
        | none => pure right
        | some operator => liftM (operator.apply (← valueOf lookup name) right)
      modify fun progress => { progress with set := (name, value) :: progress.set }
      return value
    | _ => choice one whole live (fuel + 1)

/-- The value of an expression and the variables that it sets, in order. -/
def evaluate (lookup : Text → Option Text) (text : Text) :
    Except Fault (Int × List (Text × Int)) := do
  let all := tokens 0 text
  let (value, progress) ← (assignment lookup (all.length + 2) true).run ⟨all, []⟩
  if !progress.tokens.isEmpty then throw .noEnd
  return (value, progress.set.reverse)

/-- What the user is told about an expression. -/
def Fault.message (text : Text) : Fault → Text
  | .badNumber number => "Illegal number: " ++ number
  | fault =>
    let what : Text :=
      match fault with
      | .noPrimary => "expecting primary"
      | .noClosing => "expecting ')'"
      | .noColon => "expecting ':'"
      | .noEnd => "expecting EOF"
      | _ => "division by zero"
    "arithmetic expression: " ++ what ++ ": \"" ++ text ++ "\""

end Conch.Program.Script.Arithmetic
