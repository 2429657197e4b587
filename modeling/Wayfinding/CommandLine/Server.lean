import Wayfinding.CommandLine.Option

/-!
# The server's command line

The server takes at most the path of its settings. Main definition: `ServerCommand.parse`.
-/

namespace Wayfinding

/-- How to start a server. -/
structure ServerCommand where
  /-- The path of the settings, if they are in a file. -/
  settings : Option String := none
deriving DecidableEq, Repr

namespace ServerCommand

/-- The options of the server; a path is not empty. -/
def options : List CommandOption :=
  [{ name := "config", letter := some 'c', accepts := some fun path => !path.isEmpty }]

/-- Reads the arguments of the server. -/
def parse (args : List String) : Except CommandStop ServerCommand :=
  (CommandLine.readOptions options args).map fun given =>
    ⟨(CommandLine.values given "config").head?⟩

end ServerCommand

end Wayfinding
