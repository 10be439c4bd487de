import GuardedPlan.CommandLine.Arguments

/-!
# Help texts

What is printed about the program, about its commands and about a usage that is refused.
-/

namespace GuardedPlan.CommandLine

def programName : String := "webspec"

def programVersion : String := "0.1.0"

namespace Topic

def summary : Topic → String
  | compile => "Compile a spec (JSON or YAML) into a Plan IR"
  | run => "Re-validate and execute a compiled plan"
  | decisions => "Print a spec's decision roots and parent/children index as JSON"

def usage : Topic → String
  | compile => "compile [OPTIONS] --registry <REGISTRY> <SPEC>"
  | run => "run [OPTIONS] --registry <REGISTRY> <PLAN>"
  | decisions => "decisions <SPEC>"

def details : Topic → List String
  | compile =>
    ["Arguments:", "  <SPEC>  Spec file", "", "Options:",
      "      --registry <REGISTRY>  Directory holding one sub-directory per target",
      "      --out <OUT>            Write the plan here instead of stdout",
      "      --format <FORMAT>      Report format [default: text] [possible values: text, json]",
      "  -h, --help                 Print help"]
  | run =>
    ["Arguments:", "  <PLAN>  Plan file produced by \x60webspec compile\x60", "", "Options:",
      "      --registry <REGISTRY>  Directory holding one sub-directory per target",
      "      --workdir <WORKDIR>    Working tree the plan is applied to [default: .]",
      "      --config <CONFIG>      Runtime config (defaults to \x60<workdir>/.webspec/config.toml\x60)",
      "      --spec <SPEC>          Refuse to run unless this spec hashes to the plan's \x60specHash\x60",
      "  -h, --help                 Print help"]
  | decisions =>
    ["Arguments:", "  <SPEC>  Spec file", "", "Options:", "  -h, --help  Print help"]

end Topic

def unlines (lines : List String) : String :=
  String.join (lines.map (· ++ "\n"))

def helpSummary : String := "Print this message or the help of the given subcommand(s)"

def helpText : Subject → String
  | .command topic => unlines ([topic.summary, "", "Usage: " ++ programName ++ " " ++ topic.usage, ""] ++ topic.details)
  | .help =>
    unlines [helpSummary, "", "Usage: " ++ programName ++ " help [COMMAND]...", "", "Arguments:",
      "  [COMMAND]...  Print help for the subcommand(s)"]
  | .program =>
    unlines ["Compile WebSpecs into guarded execution plans and run them", "",
      "Usage: " ++ programName ++ " <COMMAND>", "", "Commands:",
      "  compile    " ++ Topic.compile.summary, "  run        " ++ Topic.run.summary,
      "  decisions  " ++ Topic.decisions.summary,
      "  help       " ++ helpSummary, "", "Options:",
      "  -h, --help     Print help", "  -V, --version  Print version"]

def refusal (fault : UsageFault) : String :=
  "error: " ++ fault.message ++ "\n\nUsage: " ++ programName ++ " <COMMAND>\n\nFor more information, try '--help'.\n"

end GuardedPlan.CommandLine
