namespace PegParser.CommandLine

inductive Format
  | tree
  | json
deriving DecidableEq, Repr

inductive InputSource
  | text (content : String)
  | file (path : String)
  | standardInput
deriving DecidableEq, Repr

inductive Request
  -- Parse an input; `showErrors` asks for the stack of failures.
  | parse (grammar : String) (input : InputSource) (format : Format) (complete showErrors : Bool)
  | tokens (grammar : String) (input : InputSource) (format : Format)
  | check (grammar : String)
deriving DecidableEq, Repr

structure Invocation where
  request : Request
  logLevel : String
deriving DecidableEq, Repr

inductive Stop
  | usageError
  | help
  | version
deriving DecidableEq, Repr

inductive Verb
  | parse
  | tokens
  | check
deriving DecidableEq, Repr

namespace Verb

def ofName? : String → Option Verb
  | "parse" => some parse
  | "tokens" => some tokens
  | "check" => some check
  | _ => none

def takesInput : Verb → Bool
  | parse | tokens => true
  | check => false

end Verb

inductive Opt
  | grammar
  | text
  | format
  | complete
  | showErrors
  | logLevel
deriving DecidableEq, Repr

namespace Opt

def takesValue : Opt → Bool
  | grammar | text | format | logLevel => true
  | complete | showErrors => false

def isAllowed : Opt → Option Verb → Bool
  | logLevel, _ => true
  | grammar, verb => verb.isSome
  | text, verb | format, verb => verb.any Verb.takesInput
  | complete, verb | showErrors, verb => verb == some .parse

def ofLongName? : String → Option Opt
  | "grammar" => some grammar
  | "expr" => some text
  | "format" => some format
  | "complete" => some complete
  | "errors" => some showErrors
  | "log-level" => some logLevel
  | _ => none

def ofLetter? : Char → Option Opt
  | 'g' => some grammar
  | 'e' => some text
  | _ => none

end Opt

structure Given where
  options : List (Opt × String) := []
  file : Option String := none

def formatOfName? : String → Option Format
  | "tree" => some .tree
  | "json" => some .json
  | _ => none

namespace Given

def value? (g : Given) (opt : Opt) : Option String :=
  g.options.lookup opt

def has (g : Given) (opt : Opt) : Bool :=
  (g.value? opt).isSome

def accepts : Opt → String → Bool
  | .grammar, value => value != ""
  | .format, value => (formatOfName? value).isSome
  | _, _ => true

def addOption (g : Given) (opt : Opt) (value : String) : Except Stop Given :=
  if g.has opt || !accepts opt value then
    .error .usageError
  else
    .ok { g with options := (opt, value) :: g.options }

def addFile (g : Given) (verb : Option Verb) (path : String) : Except Stop Given :=
  if !verb.any Verb.takesInput || g.file.isSome || path == "" then
    .error .usageError
  else
    .ok { g with file := some path }

-- Adds files whose names may start with a hyphen.
def addFiles (g : Given) (verb : Option Verb) (paths : List String) : Except Stop Given :=
  paths.foldlM (fun g path => g.addFile verb path) g

end Given

def isOptionLike (arg : String) : Bool :=
  match arg.toList with
  | '-' :: _ :: _ => true
  | _ => false

inductive ArgForm
  -- `--`, after which no argument is an option.
  | endOfOptions
  | long (name : String) (value : Option String)
  | short (letter : Char) (value : Option String)
  | word (text : String)

namespace ArgForm

-- The value that stands right after the letter of an option, with or without `=`.
def attached : List Char → Option String
  | [] => none
  | '=' :: cs => some (String.ofList cs)
  | cs => some (String.ofList cs)

def ofArg (arg : String) : ArgForm :=
  match arg.toList with
  | ['-', '-'] => endOfOptions
  | '-' :: '-' :: cs =>
    match cs.span (· != '=') with
    | (name, []) => long (String.ofList name) none
    | (name, _ :: value) => long (String.ofList name) (some (String.ofList value))
  | '-' :: c :: cs => short c (attached cs)
  | _ => word arg

end ArgForm

def allowed (verb : Option Verb) (opt : Option Opt) : Except Stop Opt :=
  match opt.filter (·.isAllowed verb) with
  | some opt => .ok opt
  | none => .error .usageError

def stopOf? (verb : Option Verb) : ArgForm → Option Stop
  | .long "help" none => some .help
  | .short 'h' _ => some .help
  | .long "version" none => if verb.isNone then some .version else none
  | .short 'V' _ => if verb.isNone then some .version else none
  | _ => none

def optionOf? (verb : Option Verb) : ArgForm → Option (Except Stop (Opt × Option String))
  | .long name value => some ((allowed verb (Opt.ofLongName? name)).map (·, value))
  | .short letter value => some ((allowed verb (Opt.ofLetter? letter)).map (·, value))
  | _ => none

abbrev LevelEnd := Given × Option (Verb × List String)

def helpOn : List String → Stop
  | [] => .help
  | [name] => if (Verb.ofName? name).isSome || name == "help" then .help else .usageError
  | _ => .usageError

-- Reads the arguments before the command, if `verb` is none, or those after it. A value that is not
-- attached to its option must not look like an option.
def readLevel (verb : Option Verb) (g : Given) : List String → Except Stop LevelEnd
  | [] => .ok (g, none)
  | arg :: rest =>
    let form := ArgForm.ofArg arg
    match stopOf? verb form, optionOf? verb form, form with
    | some stop, _, _ => .error stop
    | none, some option, _ => do
      let (opt, value) ← option
      match opt.takesValue, value with
      | false, none => readLevel verb (← g.addOption opt "") rest
      | false, some _ => .error .usageError
      | true, some value => readLevel verb (← g.addOption opt value) rest
      | true, none =>
        match rest with
        | [] => .error .usageError
        | value :: rest =>
          if isOptionLike value then
            .error .usageError
          else
            readLevel verb (← g.addOption opt value) rest
    | none, none, .endOfOptions => do return (← g.addFiles verb rest, none)
    | none, none, _ =>
      if verb.isSome then do
        readLevel verb (← g.addFile verb arg) rest
      else if arg == "help" then
        .error (helpOn rest)
      else
        match Verb.ofName? arg with
        | some verb => .ok (g, some (verb, rest))
        | none => .error .usageError

-- Where the input comes from. A text and a file exclude each other.
def Given.input (g : Given) : Except Stop InputSource :=
  match g.value? .text, g.file with
  | some _, some _ => .error .usageError
  | some text, none => .ok (.text text)
  | none, some path => .ok (.file path)
  | none, none => .ok .standardInput

def Given.format (g : Given) : Format :=
  ((g.value? .format).bind formatOfName?).getD .tree

def Given.request (g : Given) (verb : Verb) : Except Stop Request :=
  match g.value? .grammar with
  | none => .error .usageError
  | some grammar => do
    match verb with
    | .parse =>
      return .parse grammar (← g.input) g.format (g.has .complete) (g.has .showErrors)
    | .tokens => return .tokens grammar (← g.input) g.format
    | .check => return .check grammar

def Invocation.ofArgs (args : List String) : Except Stop Invocation := do
  match ← readLevel none {} args with
  | (_, none) => .error .usageError
  | (before, some (verb, rest)) =>
    let (g, _) ← readLevel (some verb) {} rest
    let level := (g.value? .logLevel).orElse fun _ => before.value? .logLevel
    return { request := ← g.request verb, logLevel := level.getD "warn" }

end PegParser.CommandLine
