import PegParser.Expression
import PegParser.Terminal
import PegParser.Text.Offset
import PegParser.Token

namespace PegParser

variable [RegexEngine]

structure Grammar where
  terminals : List Terminal
  rules : Array Rule

namespace Grammar

variable (g : Grammar)

def findTerminal? (name : String) : Option Terminal :=
  g.terminals.find? (·.name == name)

def rule? (index : Nat) : Option Rule :=
  g.rules[index]?

def startName : String :=
  (g.rules[0]?.map (·.name)).getD ""

def tokenize (input : String) : List Token :=
  Token.tokenize g.terminals input

def hasTerminal (name : String) : Bool :=
  (g.findTerminal? name).isSome

def hasRule (name : String) (index : Nat) : Bool :=
  (g.rule? index).any (·.name == name)

mutual

def unresolved? : Element → Option String
  | .terminal name => if g.hasTerminal name then none else some name
  | .rule name index => if g.hasRule name index then none else some name
  | .choice alternatives => unresolvedInAlternatives? alternatives
  | .zeroOrOne inner => unresolved? inner
  | .zeroOrMore inner => unresolved? inner
  | .oneOrMore inner => unresolved? inner

def unresolvedInSequence? : List Element → Option String
  | [] => none
  | e :: es => (unresolved? e).orElse fun _ => unresolvedInSequence? es

def unresolvedInAlternatives? : List (List Element) → Option String
  | [] => none
  | es :: rest => (unresolvedInSequence? es).orElse fun _ => unresolvedInAlternatives? rest

end

-- The place of a name in the text of an expression, or the whole text if it is not found.
def spanOf (name text : String) : Span :=
  match Text.find? name.toList text.toList with
  | some start => ⟨start, start + name.utf8ByteSize⟩
  | none => ⟨0, text.utf8ByteSize⟩

def unresolvedError (rule name : String) (expression : Expression) : GrammarError :=
  .unknownSymbol rule name expression.text (spanOf name expression.text)

def ruleError? (r : Rule) : Option GrammarError :=
  r.expressions.findSome? fun e => (g.unresolvedInSequence? e).map (unresolvedError r.name · e)

def ofTables (terminals : List Terminal) (rules : List Rule) : Except GrammarError Grammar :=
  if rules.isEmpty then
    .error .noRules
  else
    let g : Grammar := { terminals, rules := rules.toArray }
    match rules.findSome? g.ruleError? with
    | some e => .error e
    | none => .ok g

end Grammar
end PegParser
