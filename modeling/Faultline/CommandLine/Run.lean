import Faultline.CommandLine.Arguments
import Faultline.CommandLine.Help

namespace Faultline

namespace CommandLine

/-- What a run leaves: its exit code and what it printed as output and as errors. -/
structure Outcome where
  exitCode : Nat
  output : String
  errors : String
deriving DecidableEq

namespace UsageError

def reason : UsageError → String
  | displayHelp _ | displayVersion => ""
  | displayHelpOnMissingArgumentOrSubcommand => "no command was given"
  | missingSubcommand => "'ivmp' requires a subcommand but one was not provided"
  | invalidSubcommand name => s!"unrecognized subcommand '{name}'"
  | unknownArgument argument => s!"unexpected argument '{argument}' found"
  | invalidValue option => s!"a value is required for '{option}' but none was supplied"
  | valueValidation value option => s!"invalid value '{value}' for '{option}'"
  | argumentConflict option => s!"the argument '{option}' cannot be used multiple times"
  | tooManyValues option => s!"unexpected value for '{option}' found; no more were expected"

def outcome : UsageError → Outcome
  | displayHelp command => ⟨0, command.help, ""⟩
  | displayVersion => ⟨0, "ivmp 0.1.0\n", ""⟩
  | displayHelpOnMissingArgumentOrSubcommand => ⟨2, "", programSpec.help⟩
  | failure => ⟨2, "", s!"error: {failure.reason}\n\nFor more information, try '--help'.\n"⟩

end UsageError

def lines (texts : List String) : String := String.join (texts.map (· ++ "\n"))

def outcomeText (outcome : PassOutcome) : String :=
  match outcome.status with
  | .upToDate => s!"{outcome.module}: up to date"
  | .instrumented sites restored =>
    s!"{outcome.module}: rewrote {sites} sites" ++ if restored then " (restored stale copy)" else ""

def errorText (failure : CommandError) : String :=
  lines (("Error: " ++ failure.message) :: failure.causes.map ("  caused by: " ++ ·))

variable {m : Type → Type} [Monad m] [FileAccess m]

/-- Runs a command and answers the lines it prints. -/
def execute (arguments : Arguments) : ExceptT CommandError m (List String) := do
  match arguments.command with
  | .instrument backupFolder =>
    let manifest ← Manifest.load arguments.manifest
    return (← manifest.instrument backupFolder).map outcomeText
  | .localize options =>
    let manifest ← Manifest.load arguments.manifest
    return [(← manifest.localize options).summary]
  | .inspect files folder => return (← inspect files folder).map ModuleSummary.text

/-- Runs the program with the arguments after its name. -/
def run (arguments : List String) : m Outcome := do
  match parse arguments with
  | .error failure => return failure.outcome
  | .ok arguments =>
    match ← (execute arguments).run with
    | .ok texts => return ⟨0, lines texts, ""⟩
    | .error failure => return ⟨1, "", errorText failure⟩

end CommandLine

end Faultline
