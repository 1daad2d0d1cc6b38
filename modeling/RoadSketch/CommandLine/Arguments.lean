/-!
# Command-line arguments

Sorts arguments into options with values, flags, and positional arguments. Which of them are needed,
and what their values mean, is up to the command.
-/
namespace RoadSketch

structure ArgumentRules where
  options : List String
  flags : List String
  positionals : Nat
  deriving Repr

/-- The arguments of a command, each kind in the order given. The value of an option is missing if
another argument came in its place. -/
structure Arguments where
  options : List (String × Option String)
  flags : List String
  positionals : List String
  deriving Repr

namespace Arguments

def none : Arguments := ⟨[], [], []⟩

def addOption (arguments : Arguments) (name : String) (value : Option String) : Arguments :=
  { arguments with options := arguments.options ++ [(name, value)] }

def addFlag (arguments : Arguments) (name : String) : Arguments :=
  { arguments with flags := arguments.flags ++ [name] }

def addPositional? (rules : ArgumentRules) (arguments : Arguments) (value : String) :
    Option Arguments :=
  if arguments.positionals.length < rules.positionals then
    some { arguments with positionals := arguments.positionals ++ [value] }
  else Option.none

/-- Does an argument start something new, instead of being a value? -/
def startsOption (argument : List Char) : Bool :=
  -- A single dash is a value.
  match argument with
  | '-' :: _ :: _ => true
  | _ => false

/-- The name of a long option, without the dashes before it, and the value behind its equals signs
if it has one. -/
def splitOption (argument : List Char) : String × Option String :=
  let (name, rest) := (argument.dropWhile (· = '-')).span (· ≠ '=')
  (String.ofList name,
    if rest = [] then Option.none else some (String.ofList (rest.dropWhile (· = '='))))

/-- Sorts arguments. A pending option takes the next argument as its value, unless that starts
something new. -/
def collect? (rules : ArgumentRules) :
    Arguments → (pending : Option String) → List String → Option Arguments
  | found, Option.none, [] => some found
  | found, some name, [] => some (found.addOption name Option.none)
  | found, pending, argument :: rest =>
    let characters := argument.toList
    if !startsOption characters then
      match pending with
      | some name => collect? rules (found.addOption name (some argument)) Option.none rest
      | Option.none => do collect? rules (← found.addPositional? rules argument) Option.none rest
    else
      let found := match pending with
        | some name => found.addOption name Option.none
        | Option.none => found
      match characters with
      -- Behind a double dash all arguments are positional.
      | ['-', '-'] => rest.foldlM (·.addPositional? rules) found
      | '-' :: '-' :: _ =>
        let (name, value) := splitOption characters
        if name ∈ rules.options then
          match value with
          | some value => collect? rules (found.addOption name (some value)) Option.none rest
          | Option.none => collect? rules found (some name) rest
        else if name ∈ rules.flags then collect? rules (found.addFlag name) Option.none rest
        else Option.none
      | _ => Option.none

/-- The value of an option that may be left out; without one, its standard value stands in. An
option must not be repeated. -/
def option? (arguments : Arguments) (name : String) (standard : Option String) :
    Option (Option String) :=
  match (arguments.options.filter (·.1 == name)).map (·.2) with
  | [] => some standard
  | [some value] => some (some value)
  | [Option.none] => standard.map some
  | _ => Option.none

def value? (arguments : Arguments) (name : String) (standard : Option String) : Option String :=
  (arguments.option? name standard).join

def flag? (arguments : Arguments) (name : String) : Option Bool :=
  match arguments.flags.filter (· == name) with
  | [] => some false
  | [_] => some true
  -- A flag must not be repeated.
  | _ => Option.none

end Arguments

end RoadSketch
