import Conch.Table

/-!
The commands that are built into the shell: their names and how each is used. The
commands of the shell itself are also known without the `l-` in front.
-/

namespace Conch

/-- The utilities that turn a fixed number of texts into lines. -/
inductive Utility where
  | compare
  | contains
  | containsAny
  | count
  | equalFold
  | fields
  | hasPrefix
  | hasSuffix
  | index
  | lastIndex
  | replaceAll
  | split
  | toLower
  | toUpper
  | trim
  | trimLeft
  | trimRight
  | trimPrefix
  | trimSuffix
  | trimSpace
  deriving DecidableEq, Repr

/-- A command that is built into the shell. -/
inductive Builtin where
  | help
  | echo
  | cat
  | cd
  | exit
  | alias
  | var
  | fn
  | arg
  | return
  | eval
  | pipe
  | utility (u : Utility)
  | join
  | repeat
  | replace
  deriving DecidableEq, Repr

/-- Every utility. -/
def Utility.all : List Utility :=
  [.compare, .contains, .containsAny, .count, .equalFold, .fields, .hasPrefix, .hasSuffix, .index,
    .lastIndex, .replaceAll, .split, .toLower, .toUpper, .trim, .trimLeft, .trimRight, .trimPrefix,
    .trimSuffix, .trimSpace]

/-- The name of a utility. -/
def Utility.name : Utility → Text
  | .compare => "s-compare"
  | .contains => "s-contains"
  | .containsAny => "s-contains-any"
  | .count => "s-count"
  | .equalFold => "s-equal-fold"
  | .fields => "s-fields"
  | .hasPrefix => "s-has-prefix"
  | .hasSuffix => "s-has-suffix"
  | .index => "s-index"
  | .lastIndex => "s-last-index"
  | .replaceAll => "s-replace-all"
  | .split => "s-split"
  | .toLower => "s-to-lower"
  | .toUpper => "s-to-upper"
  | .trim => "s-trim"
  | .trimLeft => "s-trim-left"
  | .trimRight => "s-trim-right"
  | .trimPrefix => "s-trim-prefix"
  | .trimSuffix => "s-trim-suffix"
  | .trimSpace => "s-trim-space"

/-- The names of the arguments of a utility. -/
def Utility.parameters : Utility → List Text
  | .compare | .equalFold => ["a", "b"]
  | .contains | .count | .index | .lastIndex => ["s", "substr"]
  | .containsAny => ["s", "chars"]
  | .fields | .toLower | .toUpper | .trimSpace => ["s"]
  | .hasPrefix | .trimPrefix => ["s", "prefix"]
  | .hasSuffix | .trimSuffix => ["s", "suffix"]
  | .replaceAll => ["s", "old", "new"]
  | .split => ["s", "sep"]
  | .trim | .trimLeft | .trimRight => ["s", "cutset"]

/-- How a utility is used. -/
def Utility.usage (utility : Utility) : Text := Text.join " " (utility.name :: utility.parameters)

namespace Builtin

/-- Every built-in command. -/
def all : List Builtin :=
  [.help, .echo, .cat, .cd, .exit, .alias, .var, .fn, .arg, .return, .eval, .pipe] ++
    Utility.all.map .utility ++ [.join, .repeat, .replace]

/-- The name under which a command is listed. -/
def name : Builtin → Text
  | .help => "l-help"
  | .echo => "l-echo"
  | .cat => "l-cat"
  | .cd => "l-cd"
  | .exit => "l-exit"
  | .alias => "l-alias"
  | .var => "l-var"
  | .fn => "l-fn"
  | .arg => "l-arg"
  | .return => "l-return"
  | .eval => "l-eval"
  | .pipe => "l-pipe"
  | .utility u => u.name
  | .join => "s-join"
  | .repeat => "s-repeat"
  | .replace => "s-replace"

/-- How a command is used. -/
def usage : Builtin → Text
  | .help => "l-help"
  | .echo => "l-echo [--fd N] args..."
  | .cat => "l-cat [--fd N]"
  | .cd => "l-cd [dir]"
  | .exit => "l-exit"
  | .alias => "l-alias name expr | --unset name | --show"
  | .var =>
    "l-var [--mut] [--global] name value | --ref name | --ch [--global] name value | " ++
      "--del [--global] name | --check name | --show"
  | .fn => "l-fn name \x7bbody\x7d"
  | .arg => "l-arg N | --len"
  | .return => "l-return key value | --ref key | --show"
  | .eval => "l-eval [--fn] expr [args...]"
  | .pipe =>
    "l-pipe [-p in[:out],...] \x7bleft\x7d \x7bright\x7d | --in file \x7bexpr\x7d | " ++
      "--out file \x7bexpr\x7d"
  | .utility u => u.usage
  | .join => "s-join [--sep S] items..."
  | .repeat => "s-repeat s count"
  | .replace => "s-replace [-n N] s old new"

/-- The names by which a command can be called. -/
def names (builtin : Builtin) : List Text :=
  match Text.afterStart? "l-" builtin.name with
  | some bare => [bare, builtin.name]
  | none => [builtin.name]

/-- The commands by the names under which they can be called. -/
def table : Table Builtin :=
  all.foldl
    (fun table builtin => builtin.names.foldl (fun table name => table.insert name builtin) table)
    .empty

/-- The command that is called by a name. -/
def ofName? (name : Text) : Option Builtin := table.get? name

end Builtin

end Conch
