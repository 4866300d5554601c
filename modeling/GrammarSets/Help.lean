/-!
# Help texts

What the program says about itself.
-/
namespace GrammarSets.Help

/-- What can be asked about the program. -/
inductive Topic where
  | shortHelp
  | longHelp
  | version
deriving DecidableEq

def about : String := "Computes FIRST and FOLLOW sets of a context-free grammar"

def usage : String := "Usage: firstfollow [OPTIONS] [FILE]"

def version : String := "firstfollow 0.1.0\n"

/-- The help on one screen. -/
def short : String := "\n".intercalate [
  about,
  "",
  usage,
  "",
  "Arguments:",
  "  [FILE]  File containing the grammar rules (default: read them from stdin)",
  "",
  "Options:",
  "  -s, --start <SYMBOL>     Start symbol (default: first one defined)",
  "  -e, --end-token <TOKEN>  Line that ends rule input, case-insensitive [default: end]",
  "  -f, --format <FORMAT>    How to print the sets [default: table] [possible values: table, plain]",
  "  -h, --help               Print help (see more with '--help')",
  "  -V, --version            Print version",
  ""]

/-- The help at full length. -/
def long : String := "\n".intercalate [
  about,
  "",
  usage,
  "",
  "Arguments:",
  "  [FILE]",
  "          File containing the grammar rules (default: read them from stdin)",
  "",
  "Options:",
  "  -s, --start <SYMBOL>",
  "          Start symbol (default: first one defined)",
  "",
  "  -e, --end-token <TOKEN>",
  "          Line that ends rule input, case-insensitive",
  "          ",
  "          [default: end]",
  "",
  "  -f, --format <FORMAT>",
  "          How to print the sets",
  "",
  "          Possible values:",
  "          - table: Boxed table",
  "          - plain: One `FIRST(A) = \x7b ... \x7d` line and one `FOLLOW(A) = \x7b ... \x7d` line " ++
    "per nonterminal",
  "          ",
  "          [default: table]",
  "",
  "  -h, --help",
  "          Print help (see a summary with '-h')",
  "",
  "  -V, --version",
  "          Print version",
  ""]

/-- The answer to a question about the program. -/
def text : Topic → String
  | .shortHelp => short
  | .longHelp => long
  | .version => version

end GrammarSets.Help
