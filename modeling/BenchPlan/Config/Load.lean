import BenchPlan.Config.Check
import BenchPlan.Config.Decode
import BenchPlan.Log

/-!
# Loading a configuration

A configuration file has to be readable as text, to hold a configuration, and to be sound.
-/

namespace BenchPlan

/-- What is found where the configuration file should be. -/
inductive FileContent where
  | missing
  | directory
  /-- A file stands where its directory should be. -/
  | behindFile
  | bytes (content : ByteArray)

/-- Why a file cannot be read as text. -/
inductive Unreadable where
  | missing
  | directory
  | behindFile
  | notText
  deriving DecidableEq, Repr, Inhabited

/-- The reason for a reader. -/
def Unreadable.message : Unreadable → String
  | missing => "No such file or directory (os error 2)"
  | directory => "Is a directory (os error 21)"
  | behindFile => "Not a directory (os error 20)"
  | notText => "stream did not contain valid UTF-8"

/-- The text of a file. -/
def FileContent.text : FileContent → Except Unreadable String
  | missing => .error .missing
  | directory => .error .directory
  | behindFile => .error .behindFile
  | bytes b =>
    match String.fromUTF8? b with
    | some s => .ok s
    | none => .error .notText

namespace Config

/-- Why a configuration cannot be used. -/
inductive LoadError where
  | unreadable (reason : Unreadable)
  | malformed (error : Yaml.Error)
  | unsound (findings : List Finding)
  deriving Repr, Inhabited

/-- The cause of an error that has one of its own. -/
def LoadError.cause? : LoadError → Option String
  | unreadable r => some r.message
  | malformed e => some e.message
  | unsound _ => none

/-- The error about a file, for a reader. -/
def LoadError.message (path : String) : LoadError → String
  | unreadable r => "An error occurred on opening the config file (" ++ path ++ "): " ++ r.message
  | malformed e => "Failed parsing the config file (" ++ path ++ "): " ++ e.message
  | unsound fs =>
    "Validation of " ++ path ++ " failed. " ++ " ".intercalate (fs.map Finding.message)

/-- The line that is logged when a configuration is loaded. -/
def loadedLine (path : String) (c : Config) : LogLine :=
  ⟨.debug, "benchconf::config", "Loaded " ++ path ++ " with " ++ toString c.experiments.size ++
    " experiments, " ++ toString c.machines.size ++ " VMs, " ++ toString c.suites.size ++ " suites"⟩

/-- The configuration in a file, unchecked. -/
def read (file : FileContent) : Except LoadError Config :=
  match file.text with
  | .error r => .error (.unreadable r)
  | .ok s => (ofText s).mapError .malformed

/-- The sound configuration in a file. -/
def load (file : FileContent) : Except LoadError Config :=
  match read file with
  | .error e => .error e
  | .ok c => if c.check.isEmpty then .ok c else .error (.unsound c.check)

end Config

end BenchPlan
