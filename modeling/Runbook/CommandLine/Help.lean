/-
# Help

What the program prints of itself: its version, and help on all commands or on
one of them.
-/

namespace Runbook
namespace Help

/-- The name of the program. -/
def programName : String := "mdflow"

/-- The name of the program and its version. -/
def version : String := programName ++ " 0.1.0"

/-- Help on the program. -/
def program : List String :=
  ["Run Markdown-defined workflows against LLM-backed workers",
   "",
   "Usage: " ++ programName ++ " [OPTIONS] <COMMAND>",
   "",
   "Commands:",
   "  ask       Send a single prompt to the inference service",
   "  list      List workflow files",
   "  validate  Parse and validate a workflow file",
   "  run       Run a workflow",
   "  help      Print this message or the help of the given subcommand(s)",
   "",
   "Options:",
   "      --config <CONFIG>  Settings file (TOML)",
   "  -v, --verbose          Enable verbose logging",
   "  -h, --help             Print help",
   "  -V, --version          Print version"]

/-- Help on asking the inference service. -/
def ask : List String :=
  ["Send a single prompt to the inference service",
   "",
   "Usage: " ++ programName ++ " ask [OPTIONS] <PROMPT>",
   "",
   "Arguments:",
   "  <PROMPT>  ",
   "",
   "Options:",
   "  -s, --schema <SCHEMA>  JSON schema file for the response",
   "  -c, --context          Let the service add context from the internet",
   "  -j, --json             Always print the response as JSON",
   "      --config <CONFIG>  Settings file (TOML)",
   "  -v, --verbose          Enable verbose logging",
   "  -h, --help             Print help"]

/-- Help on listing workflows. -/
def list : List String :=
  ["List workflow files",
   "",
   "Usage: " ++ programName ++ " list [OPTIONS]",
   "",
   "Options:",
   "  -d, --dir <DIR>        Directory to scan (default: paths.workflows_dir)",
   "      --config <CONFIG>  Settings file (TOML)",
   "  -v, --verbose          Enable verbose logging",
   "  -h, --help             Print help"]

/-- Help on validating a workflow. -/
def validate : List String :=
  ["Parse and validate a workflow file",
   "",
   "Usage: " ++ programName ++ " validate [OPTIONS] <FILE>",
   "",
   "Arguments:",
   "  <FILE>  ",
   "",
   "Options:",
   "      --config <CONFIG>  Settings file (TOML)",
   "  -v, --verbose          Enable verbose logging",
   "  -h, --help             Print help"]

/-- Help on running a workflow. -/
def run : List String :=
  ["Run a workflow",
   "",
   "Usage: " ++ programName ++ " run [OPTIONS] <FILE>",
   "",
   "Arguments:",
   "  <FILE>  ",
   "",
   "Options:",
   "  -p, --param <KEY=VALUE>  Job parameter (repeatable), referenced as $\x7bjob.<key>\x7d",
   "      --no-report          Skip the final report",
   "      --dump <FILE>        Write the final job snapshot as JSON",
   "      --config <CONFIG>    Settings file (TOML)",
   "  -v, --verbose            Enable verbose logging",
   "  -h, --help               Print help"]

/-- Help on help. -/
def help : List String :=
  ["Print this message or the help of the given subcommand(s)",
   "",
   "Usage: " ++ programName ++ " help [COMMAND]...",
   "",
   "Arguments:",
   "  [COMMAND]...  Print help for the subcommand(s)"]

/-- Help on a command, on the program if there is none. -/
def on : (command : Option String) → List String
  | some "ask" => ask
  | some "list" => list
  | some "validate" => validate
  | some "run" => run
  | some "help" => help
  | _ => program

end Help
end Runbook
