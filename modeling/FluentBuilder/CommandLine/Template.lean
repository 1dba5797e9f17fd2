import FluentBuilder.Text

namespace FluentBuilder.CommandLine

def templateLines : List Text :=
  ["# typebuilder configuration".toList,
    "".toList,
    "[generator]".toList,
    "# Prefix of every fluent setter method".toList,
    "setter_prefix = \"with\"".toList,
    "# \"capitalize\" upper-cases the first character, \"pascal\" converts snake_case too".toList,
    "setter_case = \"capitalize\"".toList,
    "# Initial value of every private field".toList,
    "field_initializer = \"undefined\"".toList,
    "indent_width = 2".toList,
    "export_class = true".toList,
    "".toList,
    "[output]".toList,
    "# Builder files are written as <name>.<suffix>.<ext>".toList,
    "suffix = \"builder\"".toList]

def template : Text :=
  templateLines.flatMap (· ++ ['\n'])

end FluentBuilder.CommandLine
