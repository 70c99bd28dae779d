import PolishNotation.Report

namespace PolishNotation.CommandLine

/-- An option has a long name. Most options have a short one as well. -/
inductive Flag where
  | exact
  | rightAssociativePower
  | verbose
  | version
  | help
deriving DecidableEq, Repr

namespace Flag

def ofLongName? : String → Option Flag
  | "exact" => some .exact
  | "exposant-droite" => some .rightAssociativePower
  | "verbose" => some .verbose
  | "version" => some .version
  | "help" => some .help
  | _ => none

def ofShortName? : Char → Option Flag
  | 'e' => some .exact
  | 'v' => some .verbose
  | 'V' => some .version
  | 'h' => some .help
  | _ => none

end Flag

/-- The arguments read so far. -/
structure Request where
  options : Options
  verbosity : Nat
  expression : Option String
deriving DecidableEq, Repr, Inhabited

/-- A misuse of the program names the offending argument. -/
inductive Misuse where
  | unknownOption (argument : String)
  | repeatedOption (argument : String)
  | secondExpression (argument : String)
  | missingExpression
deriving DecidableEq, Repr

def Misuse.message : Misuse → String
  | .unknownOption argument => "option inconnue '" ++ argument ++ "'"
  | .repeatedOption argument => "option répétée '" ++ argument ++ "'"
  | .secondExpression argument => "expression en trop '" ++ argument ++ "'"
  | .missingExpression => "expression manquante"

/-- Reading stops at a misuse and at an option that asks for a text. -/
inductive Stop where
  | misuse (misuse : Misuse)
  | version
  | help
deriving DecidableEq, Repr

namespace Request

/-- Each option but the verbosity may be given once. -/
def addFlag (request : Request) (argument : String) : Flag → Except Stop Request
  | .exact =>
      if request.options.exact then
        .error (.misuse (.repeatedOption argument))
      else
        .ok { request with options := { request.options with exact := true } }
  | .rightAssociativePower =>
      if request.options.rules.rightAssociativePower then
        .error (.misuse (.repeatedOption argument))
      else
        .ok { request with options := { request.options with rules := ⟨true⟩ } }
  | .verbose => .ok { request with verbosity := request.verbosity + 1 }
  | .version => .error .version
  | .help => .error .help

def addExpression (request : Request) (argument : String) : Except Stop Request :=
  match request.expression with
  | none => .ok { request with expression := some argument }
  | some _ => .error (.misuse (.secondExpression argument))

/-- The letters of a cluster of short options are read one by one. -/
def addCluster (request : Request) (argument : String) : List Char → Except Stop Request
  | [] => .ok request
  | letter :: rest =>
      match Flag.ofShortName? letter with
      | none => .error (.misuse (.unknownOption argument))
      | some flag => do
          let next ← request.addFlag argument flag
          next.addCluster argument rest

def addLongOption (request : Request) (argument : String) (name : List Char) :
    Except Stop Request :=
  match Flag.ofLongName? (String.ofList name) with
  | none => .error (.misuse (.unknownOption argument))
  | some flag => request.addFlag argument flag

/-- Two dashes introduce a long option, one dash a cluster, unless it stands alone. -/
def addArgument (request : Request) (argument : String) : Except Stop Request :=
  match argument.toList with
  | '-' :: '-' :: name => request.addLongOption argument name
  | '-' :: letter :: letters => request.addCluster argument (letter :: letters)
  | _ => request.addExpression argument

/-- Every argument after a double dash is an expression. -/
def read (request : Request) : List String → Except Stop Request
  | [] => .ok request
  | argument :: rest =>
      if argument = "--" then
        rest.foldlM addExpression request
      else do
        let next ← request.addArgument argument
        next.read rest

end Request

/-- A reply is what the program leaves behind: an exit code and two texts. -/
structure Reply where
  code : UInt32
  output : String
  diagnostics : String
deriving DecidableEq, Repr

def versionText : String := "calculatrice_rpn 0.1.0\n"

def usageText : String :=
  String.join [
    "Usage : calculatrice_rpn [OPTIONS] <EXPRESSION>\n",
    "\n",
    "  -e, --exact            affiche aussi les valeurs exactes\n",
    "      --exposant-droite  rend ^ associatif à droite\n",
    "  -v, --verbose          accepté plusieurs fois\n",
    "  -V, --version          affiche la version\n",
    "  -h, --help             affiche cette aide\n"]

/-- An expression that has no value ends the program with code one. -/
def answer (options : Options) (expression : String) : Reply :=
  let session := (Session.start options).evaluate expression
  match session.fault? with
  | none => ⟨0, Report.text (Report.results session), ""⟩
  | some _ => ⟨1, "", Report.text (Report.failure session)⟩

/-- A misuse ends the program with code two and leaves the output empty. -/
def reject (misuse : Misuse) : Reply :=
  ⟨2, "", misuse.message ++ "\n" ++ usageText⟩

def reply (arguments : List String) : Reply :=
  match (default : Request).read arguments with
  | .error (.misuse misuse) => reject misuse
  | .error .version => ⟨0, versionText, ""⟩
  | .error .help => ⟨0, usageText, ""⟩
  | .ok request =>
      match request.expression with
      | none => reject .missingExpression
      | some expression => answer request.options expression

end PolishNotation.CommandLine
