import Criteria.CommandLine

/-!
# The program

Reads the arguments and, where the command calls for it, the standard input; writes the outcome.
-/

open Criteria

/-- The program: the arguments and the standard input in, the texts of the outcome and its code
out. -/
def main (arguments : List String) : IO UInt32 := do
  let stdin ←
    match CommandLine.read? arguments with
    | some command => if command.readsInput then (← IO.getStdin).readToEnd else pure ""
    | none => pure ""
  let outcome := CommandLine.run arguments stdin
  IO.print outcome.stdout
  IO.eprint outcome.stderr
  return outcome.code.toUInt32
