import GuardedSql.CommandLine

set_option autoImplicit false

/-!
The program: it reads the files and streams that a run names, and prints what the run ends with.
-/

namespace GuardedSql

/-- The content that an action reads, if it does not fail. -/
def contentOf (read : IO ByteArray) : IO (Option ByteArray) := do
  try
    return some (← read)
  catch _ =>
    return none

def Sources.ofSystem : Sources IO where
  file path := contentOf (IO.FS.readBinFile path)
  standardInput := contentOf do
    let input ← IO.getStdin
    input.readBinToEnd

def Outcome.print (outcome : Outcome) : IO UInt32 := do
  for line in outcome.errorLines do
    IO.eprintln line
  IO.print outcome.output
  return UInt32.ofNat outcome.code

end GuardedSql

def main (arguments : List String) : IO UInt32 := do
  let environment ← IO.getEnv "JSONSQL_CONFIG"
  let outcome ← GuardedSql.performArguments .stepwise .ofSystem environment arguments
  outcome.print
