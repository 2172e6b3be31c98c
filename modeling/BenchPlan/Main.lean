import BenchPlan.CommandLine.Session

/-!
# The program

Reads the file that the arguments name and prints what the session prints. Nothing else is started
from here, so high priority counts as not available.
-/

namespace BenchPlan

/-- What is found at a path. -/
def readContent (path : String) : IO FileContent := do
  try
    return .bytes (← IO.FS.readBinFile path)
  catch
    | .inappropriateType _ code _ => return if code = 21 then .directory else .behindFile
    | _ => return .missing

/-- The outcome of starting `nice`, which is not done here. -/
def niceReport : Niceness.Report := .notStarted "No such file or directory (os error 2)"

end BenchPlan

open BenchPlan in
/-- Runs the program on its arguments. -/
def main (args : List String) : IO UInt32 := do
  let content ←
    match CommandLine.Arguments.empty.read args with
    | .ok ⟨_, _, path :: _⟩ => readContent path
    | _ => pure .missing
  let ending := CommandLine.run args (fun _ => content) niceReport
  for line in ending.printed do
    IO.println line
  return ending.code.toUInt32
