import PegParser.CommandLine.Arguments
import PegParser.Grammar.Source
import PegParser.Listing
import PegParser.Parser
import PegParser.Regex

namespace PegParser.CommandLine

structure Surroundings where
  contentOf : String → FileContent
  standardInput : ByteArray
  colored : Bool

structure Result where
  exitCode : Nat
  output : String := ""
  -- What is written to the error output before the report of the failure.
  errorOutput : String := ""
  failure : Option Failure := none

def versionText : String := "parsegen 0.1.0\n"

def logLevels : List String := ["off", "error", "warn", "info", "debug", "trace"]

def levelComplaint (level : String) : String :=
  if logLevels.contains (String.ofList (level.toList.map Char.toLower)) then
    ""
  else
    "Invalid log level: " ++ level ++ ". Using 'warn' instead.\n"

def textOf (name : String) (content : FileContent) : Except Failure String :=
  match content.text? with
  | some text => .ok text
  | none => .error (.unreadable name content.refusal)

variable [RegexEngine] (env : Surroundings)

def readInput : InputSource → Except Failure (String × String)
  | .text content => .ok ("<expr>", content)
  | .file path => (textOf path (env.contentOf path)).map (path, ·)
  | .standardInput => (textOf "<stdin>" (some env.standardInput)).map ("<stdin>", ·)

def loadGrammar (path : String) : Except Failure Grammar :=
  (Grammar.ofFile path (env.contentOf path)).mapError .grammar

def succeed (output : String) : Result where
  exitCode := 0
  output

def fail (failure : Failure) (errorOutput : String) : Result where
  exitCode := 1
  errorOutput
  failure := some failure

def display (format : Format) (listing : Styled) (json : Json) : String :=
  match format with
  | .tree => listing.render env.colored
  | .json => json.listing

def showOutcome (name : String) (format : Format) (showErrors : Bool) :
    Outcome × ErrorStack → Result
  | (.parsed tree, _) => succeed (display env format tree.listing tree.toJson)
  | (.rejected e, errors) =>
    fail (.parse (e.withSourceName name))
      (if showErrors then display env format errors.listing errors.toJson else "")
  | (.stuck, _) => { exitCode := 134 }

def runParse (grammar : String) (input : InputSource) (format : Format)
    (complete showErrors : Bool) : Except Failure Result := do
  let parser := (Parser.ofGrammar (← loadGrammar env grammar)).requireComplete complete
  let (name, text) ← readInput env input
  let (outcome, parser) := parser.parse text
  return showOutcome env name format showErrors (outcome, parser.errors)

def runTokens (grammar : String) (input : InputSource) (format : Format) :
    Except Failure Result := do
  let g ← loadGrammar env grammar
  let (_, text) ← readInput env input
  let tokens := g.tokenize text
  return succeed (display env format (Token.listing tokens) (.array (tokens.map Token.toJson)))

def runCheck (grammar : String) : Except Failure Result := do
  return succeed ((← loadGrammar env grammar).listing.render env.colored)

def runRequest : Request → Result
  | .parse grammar input format complete showErrors =>
    settle (runParse env grammar input format complete showErrors)
  | .tokens grammar input format => settle (runTokens env grammar input format)
  | .check grammar => settle (runCheck env grammar)
where
  settle : Except Failure Result → Result
    | .ok result => result
    | .error failure => fail failure ""

def helpText : String :=
  "Tokenize and parse text with a declarative JSON or YAML grammar.\n\n" ++
  "Usage: parsegen [--log-level LEVEL] COMMAND\n\n" ++
  "  parse -g GRAMMAR [FILE | -e TEXT] [--format tree|json] [--complete] [--errors]\n" ++
  "  tokens -g GRAMMAR [FILE | -e TEXT] [--format tree|json]\n" ++
  "  check -g GRAMMAR\n"

def run (args : List String) : Result :=
  match Invocation.ofArgs args with
  | .error .usageError => { exitCode := 2 }
  | .error .help => succeed helpText
  | .error .version => succeed versionText
  | .ok invocation =>
    let result := runRequest env invocation.request
    { result with errorOutput := levelComplaint invocation.logLevel ++ result.errorOutput }

def Request.paths : Request → List String
  | .parse grammar (.file path) _ _ _ => [grammar, path]
  | .parse grammar _ _ _ _ => [grammar]
  | .tokens grammar (.file path) _ => [grammar, path]
  | .tokens grammar _ _ => [grammar]
  | .check grammar => [grammar]

def Request.readsStandardInput : Request → Bool
  | .parse _ .standardInput _ _ _ => true
  | .tokens _ .standardInput _ => true
  | _ => false

end PegParser.CommandLine
