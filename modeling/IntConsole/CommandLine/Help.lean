/-!
This module contains the texts with which the program describes itself.
-/

namespace IntConsole

namespace CommandLine

def ofLines (lines : List String) : String :=
  String.join (lines.map (· ++ "\n"))

def versionText : String :=
  ofLines [
    "crux-rt 0.1.0"]

def shortHelpText : String :=
  ofLines [
    "Run Crux console builtins against this process's stdin and stdout",
    "",
    "Usage: crux-rt [OPTIONS] <CALL>...",
    "",
    "Arguments:",
    "  <CALL>...  ",
    "",
    "Options:",
    "      --abi              Go through the exported C functions, exactly as linked code would",
    "      --strict           Fail on unreadable input instead of reading it as 0",
    "      --prompt <PROMPT>  [default: int?]",
    "  -v, --verbose          ",
    "  -h, --help             Print help (see more with '--help')",
    "  -V, --version          Print version"]

def longHelpText : String :=
  ofLines [
    "Run Crux console builtins against this process's stdin and stdout.",
    "",
    "Each CALL is `readInt`, `println`, `printInt=<n>` or `printBool=<n>`. "
      ++ "`printInt` and `printBool` without a value print the last value read.",
    "",
    "Usage: crux-rt [OPTIONS] <CALL>...",
    "",
    "Arguments:",
    "  <CALL>...",
    "          ",
    "",
    "Options:",
    "      --abi",
    "          Go through the exported C functions, exactly as linked code would",
    "",
    "      --strict",
    "          Fail on unreadable input instead of reading it as 0",
    "",
    "      --prompt <PROMPT>",
    "          [default: int?]",
    "",
    "  -v, --verbose",
    "          ",
    "",
    "  -h, --help",
    "          Print help (see a summary with '-h')",
    "",
    "  -V, --version",
    "          Print version"]

end CommandLine

end IntConsole
