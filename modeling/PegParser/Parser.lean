import PegParser.Parse.Descent

namespace PegParser

variable [RegexEngine]

structure Parser where
  grammar : Grammar
  complete : Bool := false
  errors : ErrorStack := .empty

namespace Parser

def ofGrammar (grammar : Grammar) : Parser where
  grammar

-- From now on tokens that are left over are a failure, or no longer are.
def requireComplete (p : Parser) (complete : Bool) : Parser :=
  { p with complete }

-- The same parser before its first parse.
def clone (p : Parser) : Parser :=
  { p with errors := .empty }

def tokenize (p : Parser) (input : String) : List Token :=
  p.grammar.tokenize input

def parse (p : Parser) (input : String) : Outcome × Parser :=
  let (outcome, errors) := p.grammar.analyze input p.complete p.errors
  (outcome, { p with errors })

def lastError (p : Parser) : Except EmptyStack SyntaxError :=
  p.errors.last

end Parser
end PegParser
