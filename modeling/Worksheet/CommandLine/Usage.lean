/-! # Help

    The text that explains how the command line is used. -/

namespace Worksheet.CommandLine

/-- `text` as a line of its own. -/
def line (text : String) : String :=
  text ++ "\n"

/-- How the command line is used. -/
def usage : String :=
  String.join <| List.map line
    ["Usage: sheetcalc [OPTIONS] [FILE]",
      "",
      "Arguments:",
      "  [FILE]                    Spreadsheet file to open",
      "",
      "Options:",
      "  -s, --set <CELL=CONTENT>  Set a cell before printing (can be repeated)",
      "  -o, --output <FILE>       Save the resulting sheet to FILE",
      "  -c, --config <FILE>       Load settings from a TOML file",
      "  -h, --help                Print help",
      "",
      "Prints every non-empty cell as NAME<TAB>VALUE, by row then column."]

end Worksheet.CommandLine
