namespace Faultline

namespace CommandLine

/-- What an option is given with: a value of some kind, or none. -/
inductive OptionKind where
  | path
  | text
  | number
  | flag
  | count
  | help
  | version
deriving DecidableEq, Repr

def OptionKind.takesValue : OptionKind → Bool
  | path | text | number => true
  | flag | count | help | version => false

structure OptionSpec where
  name : String
  short : Option Char
  kind : OptionKind
  about : String
deriving DecidableEq, Repr

/-- Any number of arguments that are neither options nor their values. -/
structure OperandSpec where
  name : String
  about : String
deriving DecidableEq, Repr

/-- A command with the options it knows, in the order in which help lists them. Only some take operands as
well, and only the program itself has further commands below it. -/
structure CommandSpec where
  name : String
  about : String
  options : List OptionSpec
  operands : Option OperandSpec
  commands : List String
deriving DecidableEq, Repr

def manifestOption : OptionSpec := ⟨"manifest", some 'm', .path, "Project manifest [default: ivmp.json]"⟩

def verboseOption : OptionSpec :=
  ⟨"verbose", some 'v', .count,
    "Increase log verbosity (-v debug, -vv trace); RUST_LOG takes precedence"⟩

def helpOption : OptionSpec := ⟨"help", some 'h', .help, "Print help"⟩

def versionOption : OptionSpec := ⟨"version", some 'V', .version, "Print version"⟩

def backupOption : OptionSpec := ⟨"backup-dir", none, .path, "Backup directory, overriding the manifest"⟩

def instrumentSpec : CommandSpec :=
  ⟨"rewrite", "Instrument every production module of the manifest",
    [backupOption, manifestOption, verboseOption, helpOption], none, []⟩

def localizeSpec : CommandSpec :=
  ⟨"localize", "Record a baseline, search for fixing substitutions and rank sites",
    [backupOption, manifestOption,
      ⟨"step-limit", none, .number, "Instruction budget per test run, overriding the manifest"⟩, verboseOption,
      ⟨"filter", some 'f', .text, "Only run tests whose id matches this regular expression"⟩,
      ⟨"output", some 'o', .path, "Write the JSON report here"⟩,
      ⟨"skip-rewrite", none, .flag, "Use the modules as they are instead of rewriting them first"⟩, helpOption],
    none, []⟩

def inspectSpec : CommandSpec :=
  ⟨"inspect", "Describe module binaries",
    [⟨"dir", none, .path, "Also describe every \x60.ivm\x60 file below this directory"⟩, manifestOption,
      verboseOption, helpOption],
    some ⟨"files", "Module binaries"⟩, []⟩

/-- The command that only prints help. It reads its arguments itself. -/
def helpSpec : CommandSpec :=
  ⟨"help", "Print this message or the help of the given subcommand(s)", [],
    some ⟨"command", "Print help for the subcommand(s)"⟩, []⟩

def commandSpecs : List CommandSpec := [instrumentSpec, localizeSpec, inspectSpec, helpSpec]

def programSpec : CommandSpec :=
  ⟨"ivmp", "Value-mapping fault localization for instrumentable modules",
    [manifestOption, verboseOption, helpOption, versionOption], none, commandSpecs.map (·.name)⟩

def command? (name : String) : Option CommandSpec := commandSpecs.find? (·.name = name)

end CommandLine

end Faultline
