import SpacewalkAcquire.Method
import SpacewalkAcquire.Text.Terminal

/-!
# The command line

* `CommandLine.parse` : what arguments ask for; they are read from left to right, and the first that asks for help or
  the version, or that cannot be used, decides;
* `CommandLine.helpText`, `CommandLine.versionText` : what is printed when asked;
* `CommandLine.execute` : the whole program over the items of an input.
-/

namespace SpacewalkAcquire.CommandLine

structure Options where
  config : Option String
  log : Option String
  verbose : Bool
  deriving DecidableEq, Repr

inductive Invocation where
  | serve (options : Options)
  | help
  | version
  | misuse
  deriving DecidableEq, Repr

/-- The options that take a value. -/
inductive Valued where
  | config
  | log
  deriving DecidableEq, Repr

inductive Argument where
  /-- An option that needs a value, which may be attached. -/
  | valued (option : Valued) (attached : Option String)
  | verbose
  | help
  | version
  /-- The mark behind which everything is positional. -/
  | separator
  | other
  deriving DecidableEq, Repr

/-- What an argument is that starts with `--`. -/
def Argument.ofLong (name : String) (attached : Option String) : Argument :=
  match name, attached with
  | "config", _ => valued .config attached
  | "log", _ => valued .log attached
  | "verbose", none => verbose
  | "help", none => help
  | "version", none => version
  | _, _ => other

def Argument.ofLetter (c : Char) : Argument :=
  if c = 'v' then verbose else if c = 'h' then help else if c = 'V' then version else other

/-- The arguments that one word holds: a long option, a row of letters behind `-`, or one argument of another kind. -/
def Argument.ofWord (word : String) : List Argument :=
  match word.toList with
  | ['-', '-'] => [separator]
  | '-' :: '-' :: long =>
    match Text.cutAt '=' long with
    | some (name, value) => [ofLong (String.ofList name) (some (String.ofList value))]
    | none => [ofLong (String.ofList long) none]
  | '-' :: c :: letters => (c :: letters).map ofLetter
  | _ => [other]

def isValue (word : String) : Bool :=
  match word.toList with
  | ['-'] => true
  | '-' :: _ => false
  | _ => true

/-- The options with one value set, `none` if it is set already. -/
def Options.set? (o : Options) (option : Valued) (value : String) : Option Options :=
  match option with
  | .config => if o.config.isSome then none else some { o with config := some value }
  | .log => if o.log.isSome then none else some { o with log := some value }

inductive Progress where
  /-- The options so far, and the option whose value is awaited. -/
  | going (options : Options) (awaited : Option Valued)
  | decided (result : Invocation)
  deriving DecidableEq, Repr

def Progress.take (p : Progress) (argument : Argument) : Progress :=
  match p with
  | decided result => decided result
  | going _ (some _) => decided .misuse
  | going options none =>
    match argument with
    | .valued option (some value) => (options.set? option value).elim (decided .misuse) (going · none)
    | .valued option none => going options (some option)
    | .verbose => if options.verbose then decided .misuse else going { options with verbose := true } none
    | .help => decided .help
    | .version => decided .version
    | .separator => going options none
    | .other => decided .misuse

/-- Reads words one after the other; behind `--` none may follow. -/
def parseFrom (p : Progress) : List String → Progress
  | [] => p
  | word :: rest =>
    match p with
    | .decided result => .decided result
    | .going options (some option) =>
      if isValue word then
        parseFrom ((options.set? option word).elim (.decided .misuse) (.going · none)) rest
      else .decided .misuse
    | .going _ none =>
      if Argument.ofWord word = [.separator] && !rest.isEmpty then .decided .misuse
      else parseFrom ((Argument.ofWord word).foldl Progress.take p) rest

def parse (arguments : List String) : Invocation :=
  match parseFrom (.going ⟨none, none, false⟩ none) arguments with
  | .decided result => result
  | .going options none => .serve options
  | .going _ (some _) => .misuse

/-- The environment variable that says what is to be logged. -/
def logVariable : String := "SPACEWALK_LOG"

def bold (s : String) : String := "\x1b[1m" ++ s ++ "\x1b[0m"

def helpColumn : Nat := 23

/-- The text with its lines, the first one apart, moved to the right. -/
def indent (columns : Nat) (s : String) : String :=
  String.ofList (s.toList.flatMap fun c => if c = '\n' then c :: List.replicate columns ' ' else [c])

/-- The help on options as a terminal takes it, given the value of `logVariable`. -/
def optionsHelp (log : Option String) : String :=
  "      " ++ bold "--config" ++ " <FILE>  up2date configuration file\n" ++
    "      " ++ bold "--log" ++ " <FILTER>   Log filter directives, e.g. `spacewalk_client=trace` [env: " ++
    logVariable ++ "=" ++ indent helpColumn (log.getD "") ++ "]\n" ++
    "  " ++ bold "-v" ++ ", " ++ bold "--verbose" ++ "        Enable verbose output\n" ++
    "  " ++ bold "-h" ++ ", " ++ bold "--help" ++ "           Print help\n" ++
    "  " ++ bold "-V" ++ ", " ++ bold "--version" ++ "        Print version\n"

def helpText (log : Option String) : String :=
  Text.plain ("APT acquire method for Spacewalk\n\nUsage: spacewalk [OPTIONS]\n\nOptions:\n" ++ optionsHelp log)

def versionText : String := "spacewalk 0.1.0\n"

def usageError : Nat := 2

variable {m : Type → Type} [Monad m] (decode : Http.Decoder) (env : Environment m)

/-- The session and sources of a run, or the failure to read its configuration. -/
def prepare (options : Options) (lookUp : String → Option String) :
    m (Except Failure (Session × Sources m)) := do
  let location := Settings.Location.choose options.config (lookUp Settings.Location.variableName)
  let server ← Server.load env location.file
  return server.map fun server =>
    (Session.ofServer server, Sources.ofEnvironment env (Accounts.xmlRpc decode env) (pure Sources.noConfiguration))

/-- Prints a text as far as the front end takes it. -/
def print (text : String) : m Nat := do
  discard <| env.write (Text.toUtf8 text)
  discard env.flush
  return Method.success

/-- The whole program: arguments, environment variables and the items of the input lead to an exit code. -/
def execute (arguments : List String) (lookUp : String → Option String)
    (items : List (Except Failure Message)) : m Nat := do
  match parse arguments with
  | .help => print env (helpText (lookUp logVariable))
  | .version => print env versionText
  | .misuse => return usageError
  | .serve options =>
    match ← prepare decode env options lookUp with
    | .error _ => return Method.fatal
    | .ok (session, sources) =>
      let (result, _) ← (Method.run env sources items).run.run session
      return Method.exitCode result

end SpacewalkAcquire.CommandLine
