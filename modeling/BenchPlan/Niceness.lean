import BenchPlan.Options
import BenchPlan.Text.Utf8

/-!
# Asking for high priority

Whether processes may be given high priority is found out by giving it to a harmless one with the
command `nice`. The answer is no if the command cannot be started, fails, or complains.
-/

namespace BenchPlan.Niceness

/-- The arguments that `nice` is started with. -/
def arguments : List String := ["-n-20", "echo", "test"]

/-- How a process came to its end. -/
inductive Ending where
  | exited (code : Int)
  | signalled (signal : Int)
  deriving DecidableEq, Repr, Inhabited

/-- What became of the command. -/
inductive Report where
  /-- The command could not be started. -/
  | notStarted (reason : String)
  /-- The command ended and had written these bytes. -/
  | finished (stdout stderr : List UInt8) (ending : Ending)
  deriving DecidableEq, Repr, Inhabited

/-- Whether one list occurs in the other, without gaps. -/
def occursIn {α : Type} [DecidableEq α] (needle : List α) : List α → Bool
  | [] => needle.isEmpty
  | c :: rest => needle.isPrefixOf (c :: rest) || occursIn needle rest

/-- What `nice` says when it may not do what it is asked. -/
def complaints : List String := ["cannot set niceness", "Permission denied"]

/-- Whether a text holds no complaint. -/
def isClean (output : List Char) : Bool :=
  complaints.all fun c => !occursIn c.toList output

/-- The output of the command as text. -/
def outputText (stdout stderr : List UInt8) : List Char :=
  Text.decodeLossy stdout ++ Text.decodeLossy stderr

/-- Whether high priority may be given. -/
def allowed : Report → Bool
  | .notStarted _ => false
  | .finished stdout stderr ending => ending == .exited 0 && isClean (outputText stdout stderr)

/-- What is logged about the command. -/
def log : Report → Log
  | .notStarted reason => [⟨.debug, "benchconf::niceness", "Failed to run nice: " ++ reason⟩]
  | .finished .. => []

/-- The answer that a report gives. -/
def probe (r : Report) : Probe := ⟨allowed r, log r⟩

end BenchPlan.Niceness
