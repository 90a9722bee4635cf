import Conch.Process.Task
import Conch.Program.Format
import Conch.Program.Options
import Conch.Program.Quote
import Conch.Text.Numeral

/-!
The program that lets time pass. Its arguments are added up; each is a decimal
number of seconds, or of the unit whose letter stands behind it.
-/

namespace Conch.Program.Sleep

open Process

/-- The milliseconds of a unit of time. -/
def unitMilliseconds? : Text → Option Nat
  | [] | ['s'] => some 1000
  | ['m'] => some (60 * 1000)
  | ['h'] => some (60 * 60 * 1000)
  | ['d'] => some (24 * 60 * 60 * 1000)
  | _ => none

/-- A time that nobody waits for to end. -/
def forever : Nat := 1000000000000000

/-- The number of binary digits with which a number of units is kept. -/
def realBits : Nat := 64

/-- The milliseconds of a written interval, rounded up. -/
def interval? (written : Text) : Option Nat := do
  let reading := Format.readReal realBits written
  if reading.rest.length = written.length then none
  let unit ← unitMilliseconds? reading.rest
  match reading.value with
  | .infinite false => return forever
  | .finite false numerator denominator =>
    return min forever ((numerator * unit + denominator - 1) / denominator)
  | .finite true 0 _ => return 0
  | _ => none

/-- The options of the program, of which there are none of its own. -/
def rules : OptionRules := {}

end Sleep

open Process

/-- The program that lets time pass. -/
def sleep : Program := fun task args => do
  let read := Sleep.rules.read args
  if let some fault := read.fault then task.misused fault.message none
  else if args.isEmpty then task.misused "missing operand" none
  else
    match read.operands.filter fun arg => (Sleep.interval? arg).isNone with
    | [] =>
      let _ ← Course.ask task.stance (.pause (total (read.operands.filterMap Sleep.interval?)))
      return .success
    | first :: others =>
      let message (arg : Text) : Text := "invalid time interval " ++ Quote.text arg
      task.complain (message first)
      for arg in others do
        task.complain (message arg)
      task.report ("Try '" ++ task.name ++ " --help' for more information.")
      return .failure

end Conch.Program
