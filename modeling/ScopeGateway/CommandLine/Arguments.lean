/-!
The arguments of the command line. They are read in order, and the first one that is wrong, or that
asks for help or for the version, decides.
-/
namespace ScopeGateway.CommandLine

inductive OptionName where
  | config
  | bind
  | backend
deriving DecidableEq, Repr

structure Arguments where
  config : Option String := none
  bind : Option String := none
  backend : Option String := none
  check : Bool := false
deriving DecidableEq, Repr

/-- What the arguments ask for, other than a run. -/
inductive Aside where
  | help
  | version
  | usage
deriving DecidableEq, Repr

namespace Arguments

def get (a : Arguments) : OptionName → Option String
  | .config => a.config
  | .bind => a.bind
  | .backend => a.backend

/-- Gives an option its value. No option is given twice, and the name of a file is not empty. -/
def put (a : Arguments) (name : OptionName) (value : String) : Except Aside Arguments :=
  if (a.get name).isSome then .error .usage
  else match name with
    | .config => if value.isEmpty then .error .usage else .ok { a with config := some value }
    | .bind => .ok { a with bind := some value }
    | .backend => .ok { a with backend := some value }

def setCheck (a : Arguments) : Except Aside Arguments :=
  if a.check then .error .usage else .ok { a with check := true }

end Arguments

/-- What one argument is. An option may bring its value along. -/
inductive Token where
  | check
  | option (name : OptionName) (value : Option String)
  | aside (a : Aside)
deriving DecidableEq, Repr

/-- An option of several letters, after its two hyphens. -/
def longToken (text : List Char) : Token :=
  let value :=
    match text.dropWhile (· != '=') with
    | [] => none
    | _ :: v => some (String.ofList v)
  match String.ofList (text.takeWhile (· != '=')), value with
  | "config", v => .option .config v
  | "bind", v => .option .bind v
  | "upstream", v => .option .backend v
  | "check", none => .check
  | "help", none => .aside .help
  | "version", none => .aside .version
  | _, _ => .aside .usage

/-- Options of one letter, after their hyphen. An equals sign may stand before a value. -/
def shortToken : List Char → Token
  | ['c'] => .option .config none
  | 'c' :: '=' :: value => .option .config (some (String.ofList value))
  | 'c' :: value => .option .config (some (String.ofList value))
  | 'h' :: _ => .aside .help
  | 'V' :: _ => .aside .version
  | _ => .aside .usage

def isOption (text : List Char) : Bool :=
  match text with
  | '-' :: _ :: _ => true
  | _ => false

def token (text : List Char) : Token :=
  match text with
  | '-' :: '-' :: r => longToken r
  | '-' :: c :: r => shortToken (c :: r)
  | _ => .aside .usage

/-- Reads the arguments on top of those read already. There are no others than options, so nothing
may follow the two hyphens that end them. -/
def readArguments (a : Arguments) : List String → Except Aside Arguments
  | [] => .ok a
  | arg :: rest =>
    if arg = "--" then if rest.isEmpty then .ok a else .error .usage
    else match token arg.toList with
      | .aside aside => .error aside
      | .check => do readArguments (← a.setCheck) rest
      | .option name (some value) => do readArguments (← a.put name value) rest
      | .option name none =>
        match rest with
        | value :: rest =>
          if isOption value.toList then .error .usage
          else do readArguments (← a.put name value) rest
        | [] => .error .usage

/-- The arguments with a configuration file from the environment, if they name none. -/
def parseArguments (args : List String) (configVariable : Option String) :
    Except Aside Arguments := do
  let a ← readArguments {} args
  match configVariable with
  | some path => if a.config.isNone then a.put .config path else return a
  | none => return a

end ScopeGateway.CommandLine
