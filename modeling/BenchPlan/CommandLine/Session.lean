import BenchPlan.CommandLine.Arguments
import BenchPlan.Listing
import BenchPlan.Niceness
import BenchPlan.Progress

/-!
# Running the program

From its arguments and what it finds around it, the program makes a plan, lists the runs, and ends
with a code that says how it went. What it prints are the lines of the log that the options let
through, and the listing between them.
-/

namespace BenchPlan.CommandLine

/-- What the program leaves behind: a code, and what it printed, piece by piece. -/
structure Ending where
  code : UInt8
  printed : List String
  deriving Repr, Inhabited

/-- The name and version of the program. -/
def versionText : String := "benchconf 0.1.0"

/-- How the program is used. -/
def helpText : String :=
  "\n".intercalate
    ["Compile benchmark configurations into the runs of an experiment",
      "",
      "Usage: benchconf [OPTIONS] <CONFIG> [EXP_NAME] [FILTERS]...",
      "",
      "Arguments:",
      "  <CONFIG>      Path to the YAML configuration file",
      "  [EXP_NAME]    Experiment to compile, or \"all\"; defaults to the configuration's " ++
        "standard experiment",
      "  [FILTERS]...  Run filters: vm:<name>, s:<suite> or s:<suite>:<benchmark>",
      "",
      "Options:",
      "  -d, --debug                  Enable debug output",
      "  -v, --verbose                Together with --debug, log everything",
      "  -N, --without-nice           Do not raise the priority of benchmark processes with nice",
      "  -B, --without-building       Do not run build commands of VMs and suites",
      "  -c, --clean                  Discard previously recorded data",
      "  -f, --data-file <DATA_FILE>  Override the configuration's standard data file",
      "      --json                   Print the compiled runs as JSON",
      "  -h, --help                   Print help",
      "  -V, --version                Print version"]

/-- The lines of a log that are shown. -/
def shown (v : Verbosity) (log : Log) : List String := (log.filter v.shows).map LogLine.full

/-- The line that sums up a plan. -/
def summaryLine (p : Plan) : LogLine :=
  let word (b : Bool) : String := if b then "enabled" else "disabled"
  ⟨.info, "benchconf", toString p.runs.length ++ " unique runs, verbosity " ++ p.verbosity.name ++
    ", build log: " ++ p.buildLog ++ ", builds " ++ word p.doBuilds ++ ", nice " ++ word p.useNice⟩

/-- The line that says why there is no plan. -/
def failureLine (path : String) (e : PlanError) : LogLine :=
  let cause : String :=
    match e.cause? with
    | some c => ": " ++ c
    | none => ""
  ⟨.error, "benchconf", "Failed to configure from " ++ path ++ ": " ++ e.message path ++ cause⟩

/-- The listing of a plan. -/
def listing (p : Plan) (json : Bool) : List String :=
  let rows := ListingRow.ofPlan p
  if json then [ListingRow.json rows] else rows.map ListingRow.text

/-- What is told to the reporter at the end. -/
def closingEvents (p : Plan) : List ProgressEvent :=
  [.total p.runs.length, .jobCompleted p.runs.length]

/-- Runs the program for arguments that name a configuration file. -/
def runPlan (a : Arguments) (path : String) (file : FileContent) (nice : Niceness.Report) :
    Ending :=
  let v := Verbosity.ofOptions (some a.options)
  let o := Plan.ofFile 0 path file a.request (Niceness.probe nice) RunStore.empty
  match o.result with
  | .error e => ⟨1, shown v o.log ++ shown v [failureLine path e]⟩
  | .ok p =>
    let closing := ((Progress.new a.options.verbose).notifyAll (closingEvents p)).2
    ⟨0, shown v o.log ++ listing p (a.flags.contains .json) ++
      shown v (summaryLine p :: closing)⟩

/-- Runs the program. -/
def run (args : List String) (file : String → FileContent) (nice : Niceness.Report) : Ending :=
  match Arguments.empty.read args with
  | .error .help => ⟨0, [helpText]⟩
  | .error .version => ⟨0, [versionText]⟩
  | .error .misuse => ⟨2, []⟩
  | .ok a =>
    match a.operands with
    | [] => ⟨2, []⟩
    | path :: _ => runPlan a path (file path) nice

end BenchPlan.CommandLine
