import Faultline.CommandLine.Spec

namespace Faultline

namespace CommandLine

def placeholder (name : String) : String :=
  String.ofList (name.toList.map fun c => if c = '-' then '_' else c.toUpper)

namespace OptionSpec

def usage (option : OptionSpec) : String :=
  (match option.short with
    | some c => s!"-{c}, "
    | none => "    ") ++
  "--" ++ option.name ++
  if option.kind.takesValue then s!" <{placeholder option.name}>"
  else if option.kind = .count then "..."
  else ""

end OptionSpec

def OperandSpec.usage (operands : OperandSpec) : String := s!"[{placeholder operands.name}]..."

/-- Lines of two columns, the first as wide as its longest entry. -/
def columns (rows : List (String × String)) : String :=
  let width := rows.foldl (fun width row => max width row.1.length) 0
  String.join (rows.map fun (left, right) =>
    "  " ++ left ++ String.ofList (List.replicate (width - left.length + 2) ' ') ++ right ++ "\n")

namespace CommandSpec

def usageLine (command : CommandSpec) : String :=
  (if command.commands.isEmpty then "Usage: ivmp " else "Usage: ") ++ command.name ++
  (if command.options.isEmpty then "" else " [OPTIONS]") ++
  (command.operands.elim "" fun operands => " " ++ operands.usage) ++
  if command.commands.isEmpty then "" else " <COMMAND>"

/-- What is printed when help on a command is asked for. -/
def help (command : CommandSpec) : String :=
  command.about ++ "\n\n" ++ command.usageLine ++ "\n" ++
  (if command.commands.isEmpty then ""
    else "\nCommands:\n" ++ columns (commandSpecs.map fun below => (below.name, below.about))) ++
  (command.operands.elim "" fun operands => "\nArguments:\n" ++ columns [(operands.usage, operands.about)]) ++
  if command.options.isEmpty then ""
  else "\nOptions:\n" ++ columns (command.options.map fun option => (option.usage, option.about))

end CommandSpec

end CommandLine

end Faultline
