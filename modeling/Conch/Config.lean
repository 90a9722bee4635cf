import Conch.Text.Numeral

/-!
What the user sets through environment variables.
-/

namespace Conch

/-- The settings of the shell. -/
structure Config where
  /-- The file of the lines that the user typed. -/
  historyPath : Text
  /-- The file that is evaluated before the first prompt. -/
  startupPath : Option Text
  prompt : Text
  /-- What is logged. -/
  logFilter : Text
  /-- The longest chain of aliases that is followed. -/
  aliasDepth : Nat
  deriving DecidableEq, Repr

namespace Config

/-- The directory for files that need not last, unless the user names another. -/
def temporaryDirectory : Text := "/tmp"

/-- A file in a directory. The empty path stands for the working directory. -/
def inDirectory (directory file : Text) : Text :=
  if directory.isEmpty ∨ directory.getLast? = some '/' then directory ++ file
  else directory ++ "/" ++ file

/-- The longest chain of aliases that is followed unless the user says otherwise. -/
def defaultAliasDepth : Nat := 64

/-- The settings that the variables ask for, with the directory for files that need
not last. A variable that is set to nothing counts as not set, except that the prompt
may be empty. -/
def ofVariables (temporary : Text) (lookup : Text → Option Text) : Config :=
  let given (name : Text) : Option Text := (lookup name).filter (!·.isEmpty)
  { historyPath :=
      (given "LALASH_HISTORY").getD (inDirectory temporary ".lalash_history")
    startupPath :=
      (given "LALASH_RC").or ((given "HOME").map fun home => inDirectory home ".lalashrc")
    prompt := (lookup "LALASH_PROMPT").getD "$ "
    logFilter := (given "LALASH_LOG").getD "warn"
    aliasDepth :=
      (((given "LALASH_ALIAS_DEPTH").bind Text.toNat?).filter (0 < ·)).getD defaultAliasDepth }

end Config

end Conch
