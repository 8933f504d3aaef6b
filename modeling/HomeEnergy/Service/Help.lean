import HomeEnergy.Service

/-!
# Answers to questions on the command line

## Main results

* `Service.answer` — what is printed instead of a run.
-/

namespace HomeEnergy

/-- Whether somebody asked for the help or the version. -/
def ArgumentFault.isAnswer : ArgumentFault → Bool
  | displayHelp | displayVersion => true
  | _ => false

namespace Service

/-- The text that explains the options. -/
def help : List String := [
  "Logging, CLI and shutdown bootstrap shared by homewatt binaries",
  "",
  "Usage: " ++ name ++ " [OPTIONS]",
  "",
  "Options:",
  "  -c, --config <CONFIG>                Path to the YAML configuration file "
    ++ "[env: HOMEWATT_CONFIG=] [default: config/homewatt.yaml]",
  "  -l, --log-level <LOG_LEVEL>          Log level (trace, debug, info, warn, error) "
    ++ "[env: RUST_LOG=] [default: info]",
  "  -b, --status-listen <STATUS_LISTEN>  Optional status listener override "
    ++ "(e.g., 0.0.0.0:8080) [env: HOMEWATT_STATUS_LISTEN=]",
  "      --log-dir <LOG_DIR>              Directory for daily rolling log files "
    ++ "[env: HOMEWATT_LOG_DIR=]",
  "      --json-logs                      Emit JSON log lines",
  "      --no-color                       Disable colored output (useful for log files)",
  "      --validate                       Only validate configuration without starting service",
  "  -h, --help                           Print help",
  "  -V, --version                        Print version"]

/-- What is printed when the command line asks for it. -/
def answer : ArgumentFault → List String
  | .displayHelp => help
  | .displayVersion => ["common " ++ version]
  | _ => []

end Service

end HomeEnergy
