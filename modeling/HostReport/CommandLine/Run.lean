import HostReport.CommandLine.Options
import HostReport.Report.Complete
import HostReport.Text.Terminal

/-!
# Runs from the command line

A run answers a request for help or the version at once. Otherwise it has itself counted, unless
that is switched off, and writes the report between two rules. Where a window would close with the
run, it waits for the user first.
-/

namespace HostReport.CommandLine

/-- The version of the program. -/
def version : String := "v0.2.0"

/-- Where the program is developed. -/
def repository : String := "https://github.com/oneclickvirt/basics"

/-- Where runs are counted. -/
def hitCounter : String :=
  "https://hits.spiritlhl.net/basics.svg?action=hit&title=Hits&title_bg=%23555555" ++
    "&count_bg=%230eecf8&edge_flat=false"

/-- The line that shows how the program is used. -/
def usage : String := "usage: hostbasics [-h] [-v] [-l \x7ben,zh\x7d] [-log]\n"

/-- The explanation of the program and its options. -/
def helpText : String :=
  usage ++ "\nBasic host hardware and network identity report.\n\noptions:\n" ++
    "  -h, --help  show this help message and exit\n" ++
    "  -v          Show version\n" ++
    "  -l \x7ben,zh\x7d  Set language (en or zh)\n" ++
    "  -log, -e    Enable logging\n"

/-- The text for a command line that is refused. -/
def refusal (f : UsageFault) : String := usage ++ s!"hostbasics: error: {f.message}\n"

/-- What a run leaves behind. -/
structure Outcome where
  code : UInt8
  output : String := ""
  errors : String := ""
  /-- Where the run was counted. -/
  hits : List String := []
  deriving DecidableEq, Repr

/-- The outcome of a command line that asks for no report. -/
def answer? (words : List String) : Except Outcome Arguments :=
  match parse words with
  | .error f => .error { code := 2, errors := refusal f }
  | .ok .help => .error { code := 0, output := helpText }
  | .ok .version => .error { code := 0, output := version ++ "\n" }
  | .ok (.report arguments) => .ok arguments

/-- The rule above and below the report. -/
def rule : String := String.ofList (List.replicate 50 '-') ++ "\n"

/-- Systems on which a window closes with the run. -/
def windowSystems : List String := ["Windows", "Darwin"]

/-- What is written when the user is waited for, and the exit code. -/
def farewell (language : Language) : Keyboard → String × UInt8
  | .interrupt => (Message.pressEnter.text language ++ "\n\n[INFO] Aborted by user.\n", 130)
  | _ => (Message.pressEnter.text language ++ "\n", 0)

/-- Runs a command line. -/
def run (words : List String) : HostM Outcome := do
  match answer? words with
  | .error outcome => return outcome
  | .ok arguments =>
    let h ← read
    let settings ← HostM.ofExcept
      (Settings.ofEnvironment h.environment (arguments.language.elim "" Language.code)
        arguments.isLogging)
    let report ← buildReport settings
    let (ending, code) :=
      if windowSystems.contains h.system then farewell settings.language h.keyboard else ("", 0)
    return {
      code
      output := s!"Repo: {repository}\n" ++ rule ++ onTerminal report ++ rule ++ ending
      hits := if settings.isCounted then [hitCounter] else [] }

end HostReport.CommandLine
