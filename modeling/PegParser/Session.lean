import PegParser.Parser

namespace PegParser

inductive Command
  | parse (parser : Nat) (input : String)
  -- A parse of the grammar itself.
  | analyze (input : String) (complete : Bool)
  | requireComplete (parser : Nat) (complete : Bool)
  -- Adds a parser like another one.
  | clone (parser : Nat)
  | errors (parser : Nat)
  | lastError (parser : Nat)
  | tokenize (parser : Nat) (input : String)

inductive Reply
  | outcome (o : Outcome) (errors : ErrorStack)
  | done
  | parser (index : Nat)
  | errors (errors : ErrorStack)
  | lastError (e : Except EmptyStack SyntaxError)
  | tokens (tokens : List Token)
  | noSuchParser

variable [RegexEngine]

structure Session where
  grammar : Grammar
  parsers : Array Parser
  -- The stack for the parses of the grammar itself.
  shared : ErrorStack := .empty

namespace Session

def ofGrammar (grammar : Grammar) : Session where
  grammar
  parsers := #[.ofGrammar grammar]

def onParser (s : Session) (index : Nat) (command : Parser → Reply × Session) : Reply × Session :=
  match s.parsers[index]? with
  | some p => command p
  | none => (.noSuchParser, s)

def setParser (s : Session) (index : Nat) (p : Parser) : Session :=
  { s with parsers := s.parsers.setIfInBounds index p }

def step (s : Session) : Command → Reply × Session
  | .parse index input => s.onParser index fun p =>
    let (o, p) := p.parse input
    (.outcome o p.errors, s.setParser index p)
  | .analyze input complete =>
    let (o, shared) := s.grammar.analyze input complete s.shared
    (.outcome o shared, { s with shared })
  | .requireComplete index complete => s.onParser index fun p =>
    (.done, s.setParser index (p.requireComplete complete))
  | .clone index => s.onParser index fun p =>
    (.parser s.parsers.size, { s with parsers := s.parsers.push p.clone })
  | .errors index => s.onParser index fun p => (.errors p.errors, s)
  | .lastError index => s.onParser index fun p => (.lastError p.lastError, s)
  | .tokenize index input => s.onParser index fun p => (.tokens (p.tokenize input), s)

def run (s : Session) : List Command → List Reply × Session
  | [] => ([], s)
  | command :: commands =>
    let (reply, s) := s.step command
    let (replies, s) := s.run commands
    (reply :: replies, s)

end Session
end PegParser
