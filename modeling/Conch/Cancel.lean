/-!
Cancellation. Each line that the user waits for has a token, and an interrupt
cancels the token that is in the foreground at that moment. A copy of a token is
the same token, so tokens are known by number.
-/

namespace Conch

/-- The number of a token. -/
abbrev CancelToken := Nat

/-- The tokens that were made, and which of them an interrupt reaches. -/
structure CancelTokens where
  /-- How many tokens were made. -/
  made : Nat := 0
  /-- The tokens that are cancelled. -/
  cancelled : List CancelToken := []
  /-- The token of what the user waits for. -/
  foreground : Option CancelToken := none
  deriving DecidableEq, Repr

namespace CancelTokens

/-- A new token, not cancelled. -/
def make (tokens : CancelTokens) : CancelToken × CancelTokens :=
  (tokens.made, { tokens with made := tokens.made + 1 })

/-- Whether a token is cancelled. -/
def isCancelled (tokens : CancelTokens) (token : CancelToken) : Bool :=
  tokens.cancelled.contains token

/-- Cancels a token that was made; this is never undone. -/
def cancel (tokens : CancelTokens) (token : CancelToken) : CancelTokens :=
  if token < tokens.made then { tokens with cancelled := tokens.cancelled.insert token }
  else tokens

/-- Puts a token in the foreground, in place of any other. -/
def setForeground (tokens : CancelTokens) (token : CancelToken) : CancelTokens :=
  { tokens with foreground := some token }

/-- Leaves nothing in the foreground. -/
def clearForeground (tokens : CancelTokens) : CancelTokens := { tokens with foreground := none }

/-- Cancels the foreground token, and says whether there was one. -/
def interrupt (tokens : CancelTokens) : Bool × CancelTokens :=
  match tokens.foreground with
  | some token => (true, tokens.cancel token)
  | none => (false, tokens)

end CancelTokens

end Conch
