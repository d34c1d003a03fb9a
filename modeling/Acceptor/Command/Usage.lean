/-! Texts about the program itself. -/
namespace Acceptor.Command

def versionText : String := "dfa-trace 0.1.0\n"

def usage : String :=
  "Validate words against predefined DFAs and print the state trace\n\n" ++
  "Usage: dfa-trace [OPTIONS] [COMMAND]\n\n" ++
  "Commands:\n" ++
  "  run <NAME> [INPUT] [--pretty]  Simulate one word and print its trace\n" ++
  "  list                           List registered automata (default command)\n" ++
  "  describe <NAME>                Show the full definition of one automaton\n" ++
  "  audit <PATH>                   Check every definition in a file\n" ++
  "  repl                           Read words from the input and print a trace for each\n\n" ++
  "Options:\n" ++
  "  -v, --verbose             Enable verbose output\n" ++
  "  -q, --quiet               Suppress all output except errors\n" ++
  "      --definitions <PATH>  JSON file with extra automaton definitions\n" ++
  "      --no-catalog          Do not register the built-in automata\n" ++
  "  -h, --help                Print help\n" ++
  "  -V, --version             Print version\n"

def misuseText : String := "error: unexpected arguments\n\n" ++ usage

end Acceptor.Command
