import PegParser.Failure
import PegParser.Grammar
import PegParser.Parse.Step

namespace PegParser.Parse

section Elements

-- Rules are called by `call`.
variable (s : TokenStream) (call : (index : Nat) → Attempt Tree)

mutual

def element : Element → Attempt (List Tree)
  | .terminal name => terminal s name
  | .rule _ index => fun cursor errors => (call index cursor errors).map ([·])
  | .choice alternatives =>
    firstOf (fun _ => "no alternative of `" ++ (Element.choice alternatives).text ++ "` matched")
      alternatives
  | .zeroOrOne inner => zeroOrOne (element inner)
  | .zeroOrMore inner => fun cursor errors =>
    zeroOrMore (element inner) (triesFrom s cursor) cursor errors
  | .oneOrMore inner => oneOrMore s (element inner)

def sequence : List Element → Attempt (List Tree)
  | [] => fun cursor errors => .matched [] cursor errors
  | e :: es => fun cursor errors =>
    match element e cursor errors with
    | .matched nodes next errors => (sequence es next errors).map (nodes ++ ·)
    | step => step

-- The first sequence that matches. If none does, that is one failure more.
def firstOf (message : Unit → String) : List (List Element) → Attempt (List Tree)
  | [] => fun cursor errors => .fail .expectedToken (message ()) (s.position cursor) errors
  | es :: rest => fun cursor errors =>
    match sequence es cursor errors with
    | .failed _ errors => firstOf message rest cursor errors
    | step => step

end

end Elements

variable [RegexEngine] (g : Grammar) (s : TokenStream)

def rule : (depth index : Nat) → Attempt Tree
  | 0, _ => fun _ _ => .stuck
  | depth + 1, index => fun cursor errors =>
    match g.rule? index with
    | none => .stuck
    | some r =>
      let fallback := Span.point (s.position cursor).index
      (firstOf s (rule depth) (fun _ => "no alternative of rule `" ++ r.name ++ "` matched")
        r.expressions cursor errors).map (Tree.node r.name · fallback)

-- How many rules can stand inside one another. Rules that do so without a token between them
-- differ, unless they call themselves without end.
def depthLimit : Nat :=
  g.rules.size * (s.size + 1)

def start (errors : ErrorStack) : Step Tree :=
  rule g s (depthLimit g s) 0 0 errors

def trailing (tree : Tree) (next : Nat) (errors : ErrorStack) : Step Tree :=
  match s.group next with
  | [] => .matched tree next errors
  | found :: _ =>
    .fail .unexpectedToken
      ("unexpected `" ++ found.terminal ++ "` " ++ Text.quote found.value ++ " after the end of `" ++
        g.startName ++ "`")
      found.position errors

def whole (complete : Bool) (errors : ErrorStack) : Step Tree :=
  match start g s errors with
  | .matched tree next errors =>
    if complete && !s.isExhausted next then trailing g s tree next errors
    else .matched tree next errors
  | step => step

end PegParser.Parse

namespace PegParser

inductive Outcome
  | parsed (tree : Tree)
  | rejected (error : ParseError)
  | stuck

def Parse.conclude (input : String) : Step Tree → Outcome × ErrorStack
  | .matched tree _ errors => (.parsed tree, errors)
  | .failed error errors =>
    let top := errors.last.toOption.getD error
    (.rejected (.ofInput top errors.furthest? input), errors)
  | .stuck => (.stuck, .empty)

namespace Grammar

variable [RegexEngine]

def analyzeTokens (g : Grammar) (input : String) (tokens : List Token) (complete : Bool)
    (errors : ErrorStack) : Outcome × ErrorStack :=
  Parse.conclude input (Parse.whole g (.ofTokens input tokens) complete errors.clear)

-- Parses an input from the start rule. With `complete`, tokens that are left over are a failure.
-- The stack is cleared first, and holds all failures of this parse afterwards.
def analyze (g : Grammar) (input : String) (complete : Bool) (errors : ErrorStack) :
    Outcome × ErrorStack :=
  g.analyzeTokens input (g.tokenize input) complete errors

end Grammar
end PegParser
