import MetricFeed.Text.Split

/-!
# Command line arguments

The program takes a settings file, an optional input file and a flag for debug output, each at most once and in its
long or short spelling; short ones may share a hyphen.  Asking for help or the version ends the reading there.
-/

namespace MetricFeed

structure Options where
  config : String
  /-- Standard input if there is none. -/
  input : Option String := none
  verbose : Bool := false
  deriving DecidableEq

inductive Request where
  | run (o : Options)
  | help
  | version
  deriving DecidableEq

namespace Arguments

/-- What was given so far. -/
structure Given where
  config : Option String := none
  input : Option String := none
  verbose : Bool := false

/-- An option that takes a value. -/
inductive Key where
  | config
  | input

/-- Where the reading of an argument leads; `bad` is a misuse. -/
inductive Reading where
  | given (g : Given)
  /-- The next argument is the value of the option. -/
  | awaits (k : Key) (g : Given)
  | stop (r : Request)
  | bad

namespace Given

/-- A value may not be empty. -/
def put (g : Given) (k : Key) (value : String) : Reading :=
  if value.isEmpty then .bad
  else match k with
    | .config => if g.config.isSome then .bad else .given { g with config := some value }
    | .input => if g.input.isSome then .bad else .given { g with input := some value }

def complete? (g : Given) : Option Request :=
  g.config.map fun config => .run { config, input := g.input, verbose := g.verbose }

end Given

/-- The letters after a single hyphen.  What follows the letter of an option is its value, with or without an equals
sign. -/
def readShort (g : Given) : List Char → Reading
  | [] => .given g
  | 'v' :: cs => if g.verbose then .bad else readShort { g with verbose := true } cs
  | 'h' :: _ => .stop .help
  | 'V' :: _ => .stop .version
  | 'c' :: cs => attached .config cs
  | 'i' :: cs => attached .input cs
  | _ => .bad
where
  attached (k : Key) : List Char → Reading
    | [] => .awaits k g
    | '=' :: cs => g.put k (String.ofList cs)
    | cs => g.put k (String.ofList cs)

/-- The word after two hyphens, with the text after its equals sign. -/
def readLong (g : Given) (word : String) (value : Option String) : Reading :=
  match word, value with
  | "config", none => .awaits .config g
  | "config", some v => g.put .config v
  | "input", none => .awaits .input g
  | "input", some v => g.put .input v
  | "verbose", none => if g.verbose then .bad else .given { g with verbose := true }
  | "help", none => .stop .help
  | "version", none => .stop .version
  | _, _ => .bad

/-- An argument that is not the value of an option before it. -/
def readOne (g : Given) (arg : String) : Reading :=
  match arg.toList with
  | '-' :: '-' :: cs => match Text.cut? '=' cs with
    | some (word, value) => readLong g (String.ofList word) (some (String.ofList value))
    | none => readLong g (String.ofList cs) none
  | '-' :: c :: cs => readShort g (c :: cs)
  | _ => .bad

/-- May stand as the value of an option: a single hyphen may, any other argument with a hyphen in front may not. -/
def isValue (arg : String) : Bool :=
  arg = "-" || !arg.startsWith "-"

/-- Read the arguments that are left, where `r` is what those before led to. -/
def readAll (r : Reading) (args : List String) : Option Request :=
  match r, args with
  | .stop request, _ => some request
  | .bad, _ => none
  | .given g, [] => g.complete?
  | .awaits _ _, [] => none
  | .given g, arg :: rest =>
    if arg = "--" then if rest.isEmpty then g.complete? else none
    else readAll (readOne g arg) rest
  | .awaits k g, arg :: rest => if isValue arg then readAll (g.put k arg) rest else none

end Arguments

/-- What the arguments ask for; none if they are misused. -/
def Request.ofArguments? (args : List String) : Option Request :=
  Arguments.readAll (.given {}) args

end MetricFeed
