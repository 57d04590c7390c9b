import Faultline.CommandLine.Spec
import Faultline.Project.Command

namespace Faultline

namespace CommandLine

/-- Why arguments name no command to run. The first three ask for a text to be printed instead. -/
inductive UsageError where
  | displayHelp (command : CommandSpec)
  | displayHelpOnMissingArgumentOrSubcommand
  | displayVersion
  | missingSubcommand
  | invalidSubcommand (name : String)
  | unknownArgument (argument : String)
  | invalidValue (option : String)
  | valueValidation (value option : String)
  | argumentConflict (option : String)
  | tooManyValues (option : String)
deriving DecidableEq, Repr

/-- A number of instructions, with at most a plus sign before its digits. -/
def stepLimit? (text : String) : Option UInt64 := do
  let digits := match text.toList with
    | '+' :: digits => digits
    | digits => digits
  if digits.isEmpty || !digits.all Char.isDigit then none
  else
    let n := digits.foldl (fun n c => n * 10 + (c.toNat - 48)) 0
    if n ≤ 0xFFFFFFFFFFFFFFFF then return .ofNat n else none

/-- What has been read but not settled yet: an option and perhaps its value, or a run of files. -/
inductive Pending where
  | nothing
  | option (spec : OptionSpec) (value : Option String)
  | files (names : List String)

/-- The arguments of one command. `given` holds each option's value by its name. -/
structure Level where
  given : List (String × String) := []
  files : List String := []
  verbosity : Nat := 0
  pending : Pending := .nothing

namespace Level

def value? (level : Level) (name : String) : Option String := level.given.lookup name

def has (level : Level) (name : String) : Bool := (level.value? name).isSome

def isEmpty (level : Level) : Bool := level.given.isEmpty && level.files.isEmpty

/-- Gives an option its value, which it can have only once. -/
def give (level : Level) (option : OptionSpec) (value : String) : Except UsageError Level :=
  if level.has option.name then .error (.argumentConflict option.name)
  else if option.kind = .path && value = "" then .error (.invalidValue option.name)
  else if option.kind = .number && (stepLimit? value).isNone then .error (.valueValidation value option.name)
  else .ok { level with given := level.given ++ [(option.name, value)] }

/-- Settles what is pending. -/
def settle (level : Level) : Except UsageError Level :=
  let settled := { level with pending := .nothing }
  match level.pending with
  | .nothing => .ok settled
  | .option option none => .error (.invalidValue option.name)
  | .option option (some value) => settled.give option value
  | .files names =>
    if names.contains "" then .error (.invalidValue "files")
    else .ok { settled with files := settled.files ++ names }

/-- Applies an option that takes no value. -/
def apply (level : Level) (command : CommandSpec) (option : OptionSpec) : Except UsageError Level := do
  let level ← level.settle
  match option.kind with
  | .help => .error (.displayHelp command)
  | .version => .error .displayVersion
  | .count =>
    let given := if level.has option.name then level.given else level.given ++ [(option.name, "")]
    .ok { level with given, verbosity := min 255 (level.verbosity + 1) }
  | _ => level.give option ""

/-- Starts an option that takes a value, which stands in the same argument or in the next one. -/
def start (level : Level) (option : OptionSpec) (attached : Option String) : Except UsageError Level := do
  let level ← level.settle
  match attached with
  | some value => level.give option value
  | none => .ok { level with pending := .option option none }

/-- An option by its full name, with a value behind an equals sign if there is one. -/
def readLong (level : Level) (command : CommandSpec) (argument : List Char) : Except UsageError Level :=
  let (name, rest) := argument.span (· != '=')
  let attached : Option String := match rest with
    | [] => none
    | _ :: value => some (.ofList value)
  match command.options.find? (·.name = .ofList name) with
  | none => .error (.unknownArgument ("--" ++ .ofList name))
  | some option =>
    if option.kind.takesValue then level.start option attached
    else if attached.isSome then .error (.tooManyValues option.name)
    else level.apply command option

/-- A run of options by their letters. The first that takes a value takes the rest as its value. -/
def readShort (command : CommandSpec) : List Char → Level → Except UsageError Level
  | [], level => .ok level
  | c :: rest, level =>
    match command.options.find? (·.short = some c) with
    | none => .error (.unknownArgument ("-" ++ c.toString))
    | some option =>
      if option.kind.takesValue then
        level.start option (match rest with
          | [] => none
          | '=' :: value => some (.ofList value)
          | value => some (.ofList value))
      else do
        let level ← level.apply command option
        readShort command rest level

/-- An argument that is neither an option nor its value. -/
def readFile (level : Level) (command : CommandSpec) (trailing : Bool) (argument : String) :
    Except UsageError Level :=
  if command.operands.isSome then
    match level.pending with
    | .files names => .ok { level with pending := .files (names ++ [argument]) }
    | _ => do
      let level ← level.settle
      return { level with pending := .files [argument] }
  else if command.commands.isEmpty || trailing && command.commands.contains argument then
    .error (.unknownArgument argument)
  else .error (.invalidSubcommand argument)

end Level

/-- Reads a command's arguments up to the name of a command below it, which is returned with the rest. After
two dashes, `trailing`, nothing is an option any more. -/
def readLevel (command : CommandSpec) (trailing : Bool) :
    List String → Level → Except UsageError (Level × Option (String × List String))
  | [], level => .ok (level, none)
  | argument :: rest, level =>
    let awaited : Option OptionSpec := match level.pending with
      | .option option none => some option
      | _ => none
    if !trailing && awaited.isNone && command.commands.contains argument then .ok (level, some (argument, rest))
    else if !trailing && argument = "--" then readLevel command true rest level
    else
      let next := match trailing, argument.toList, awaited with
        | false, '-' :: '-' :: option, _ => level.readLong command option
        | false, '-' :: c :: letters, _ => Level.readShort command (c :: letters) level
        | false, _, some option => .ok { level with pending := .option option (some argument) }
        | _, _, _ => level.readFile command trailing argument
      match next with
      | .error failure => .error failure
      | .ok level => readLevel command trailing rest level

inductive Command where
  | instrument (backupFolder : Option Path)
  | localize (options : LocalizeOptions)
  | inspect (files : List Path) (folder : Option Path)
deriving DecidableEq

structure Arguments where
  manifest : Path
  verbosity : Nat
  command : Command
deriving DecidableEq

/-- The help that is asked for by naming a command, which must be one below the program. -/
def helpFor : List String → UsageError
  | [] => .displayHelp programSpec
  | name :: rest =>
    match command? name, rest with
    | some command, [] => .displayHelp command
    | some _, name :: _ => .invalidSubcommand name
    | none, _ => .invalidSubcommand name

def commandOf (name : String) (level : Level) : Command :=
  let path? (option : String) : Option Path := (level.value? option).map Path.mk
  if name = "rewrite" then .instrument (path? "backup-dir")
  else if name = "localize" then
    .localize {
      backupFolder := path? "backup-dir", stepLimit := (level.value? "step-limit").bind stepLimit?
      filter := level.value? "filter", output := path? "output", skipPass := level.has "skip-rewrite" }
  else .inspect (level.files.map Path.mk) (path? "dir")

/-- Reads the arguments after the program's name. Where an option may stand before and after the command, the
later place counts. -/
def parse (arguments : List String) : Except UsageError Arguments := do
  let (level, found) ← readLevel programSpec false arguments {}
  match found with
  | none =>
    let level ← level.settle
    throw (if level.isEmpty then .displayHelpOnMissingArgumentOrSubcommand else .missingSubcommand)
  | some (name, rest) =>
    if name = "help" then throw (helpFor rest)
    match command? name with
    | none => throw (.invalidSubcommand name)
    | some command =>
      let (inner, _) ← readLevel command false rest {}
      let inner ← inner.settle
      let outer ← level.settle
      return {
        manifest := ⟨(inner.value? "manifest" <|> outer.value? "manifest").getD "ivmp.json"⟩
        verbosity := if inner.has "verbose" then inner.verbosity else outer.verbosity
        command := commandOf name inner }

/-- How much is logged for a number of `-v` options. -/
def logLevel : Nat → String
  | 0 => "info"
  | 1 => "debug"
  | _ => "trace"

end CommandLine

end Faultline
