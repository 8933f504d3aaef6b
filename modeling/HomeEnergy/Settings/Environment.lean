import HomeEnergy.Text.Bytes

/-!
# The environment

The environment of a running program is told as a block of bytes: variables, each with a zero
behind it, each a name and a value with the first equals sign between them.

## Main results

* `Environment.ofBlock` — the variables of a block.
-/

namespace HomeEnergy.Environment

/-- The name and the value of a variable. What has no sign in it is no variable. -/
def entry? (text : List Char) : Option (String × String) :=
  match text.dropWhile (· ≠ '=') with
  | _ :: value => some (String.ofList (text.takeWhile (· ≠ '=')), String.ofList value)
  | [] => none

/-- The variables of a block. -/
def ofBlock (block : ByteArray) : List (String × String) :=
  ((Text.lenient block).splitOn "\x00").filterMap fun text => entry? text.toList

example : entry? "a=b=c".toList = some ("a", "b=c") := by decide
example : entry? "a".toList = none := by decide

end HomeEnergy.Environment
