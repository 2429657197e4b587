/-!
# Options on the command line

A command has options, each at most once unless it says otherwise, and possibly commands below it.

Main definitions:
* `CommandOption`: what an option is called and which values it takes.
* `CommandLine.read`: the options in a list of arguments, and the command below, if one is named.
-/

namespace Wayfinding

/-- Why a command does nothing. -/
inductive CommandStop where
  /-- Help was asked for. -/
  | help
  /-- The arguments make no sense. -/
  | misuse
deriving DecidableEq, Repr

namespace CommandStop

/-- The exit status of a command that does nothing. -/
def status : CommandStop → UInt8
  | help => 0
  | misuse => 2

end CommandStop

/-- An option of a command. -/
structure CommandOption where
  name : String
  /-- A letter that can be given instead of the name. -/
  letter : Option Char := none
  /-- Which values can be given; without it, none can. -/
  accepts : Option (String → Bool) := some fun _ => true
  /-- Whether the option may be given more than once. -/
  repeatable : Bool := false
  required : Bool := false

namespace CommandLine

/-- The options that were given, in order, with their values. -/
abbrev Given := List (String × String)

/-- Whether an argument cannot be the value of the option before it. -/
def isOption (arg : String) : Bool :=
  match arg.toList with
  | '-' :: _ :: _ => true
  | _ => false

/-- How an option is given. -/
inductive Argument where
  | named (name : String) (value : Option String)
  | lettered (letter : Char) (value : Option String)
  /-- Nothing but plain arguments follow. -/
  | divider
  | plain

namespace Argument

/-- The value after a letter; an equals sign may stand before it. -/
def valueOf : List Char → Option String
  | [] => none
  | '=' :: rest => some (String.ofList rest)
  | rest => some (String.ofList rest)

/-- How an argument reads. -/
def ofString (arg : String) : Argument :=
  match arg.toList with
  | ['-', '-'] => divider
  | '-' :: '-' :: rest =>
    named (String.ofList (rest.takeWhile (· != '='))) (match rest.dropWhile (· != '=') with
      | [] => none
      | _ :: value => some (String.ofList value))
  | '-' :: c :: rest => lettered c (valueOf rest)
  | _ => plain

end Argument

/-- Adds an option with its value. -/
def note (o : CommandOption) (value : String) (given : Given) : Except CommandStop Given :=
  if !o.repeatable ∧ given.any (·.1 = o.name) then .error .misuse
  else if o.accepts.any (!· value) then .error .misuse
  else .ok (given ++ [(o.name, value)])

/-- What a list of arguments holds. -/
structure Reading where
  given : Given
  /-- The command below that is named, and its arguments. -/
  command : Option (String × List String) := none

/-- The option that an argument gives, with the value that is attached to it; help is given by a
name or a letter of its own. -/
def optionOf (options : List CommandOption) :
    Argument → Except CommandStop (CommandOption × Option String)
  | .named name value =>
    if name = "help" ∧ value = none then .error .help
    else match options.find? (·.name = name) with
      | some o => .ok (o, value)
      | none => .error .misuse
  | .lettered letter value =>
    if letter = 'h' then .error .help
    else match options.find? (·.letter = some letter) with
      | some o => .ok (o, value)
      | none => .error .misuse
  | .divider | .plain => .error .misuse

/-- Reads arguments up to the name of a command below. -/
def read (options : List CommandOption) (commands : List String) (given : Given) :
    List String → Except CommandStop Reading
  | [] => .ok { given }
  | arg :: rest =>
    if arg ∈ commands then .ok { given, command := some (arg, rest) }
    else if arg = "--" ∧ rest = [] then .ok { given }
    else match optionOf options (.ofString arg) with
      | .error stop => .error stop
      | .ok (o, some value) =>
        if o.accepts.isNone then .error .misuse
        else note o value given >>= fun given => read options commands given rest
      | .ok (o, none) =>
        if o.accepts.isNone then note o "" given >>= fun given => read options commands given rest
        else match rest with
          | value :: rest =>
            if isOption value then .error .misuse
            else note o value given >>= fun given => read options commands given rest
          | [] => .error .misuse

/-- Fails unless all options were given that must be. -/
def require (options : List CommandOption) (given : Given) : Except CommandStop Given :=
  if options.all fun o => !o.required || given.any (·.1 = o.name) then .ok given
  else .error .misuse

/-- Reads the arguments of a command without commands below it. -/
def readOptions (options : List CommandOption) (args : List String) : Except CommandStop Given :=
  read options [] [] args >>= fun r => require options r.given

/-- The values of an option. -/
def values (given : Given) (name : String) : List String :=
  (given.filter (·.1 = name)).map (·.2)

/-- Whether an option was given. -/
def has (given : Given) (name : String) : Bool := given.any (·.1 = name)

end CommandLine

end Wayfinding
