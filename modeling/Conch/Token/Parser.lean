import Conch.Token.Group

/-!
Parsing an expression. Braces are grouped first, while words still have their
quotes, so that raw groups keep them and quoted braces stay text. Parentheses
come next, and the quotes of the remaining words come off last.
-/

namespace Conch.Token

/-- The tokens of an expression. -/
def parse (s : Text) : Except ParseError (List Token) :=
  match lex s with
  | .error e => .error (.lex e)
  | .ok tokens => do
    let tokens ← braces.group tokens
    let tokens ← parentheses.group tokens
    return tokens.map unquote

/-- The statements between statement marks; empty ones are left out. -/
def statements (tokens : List Token) : List (List Token) :=
  (tokens.splitOnP isSplit).filter (!·.isEmpty)

end Conch.Token
