namespace PegParser

inductive Element
  | terminal (name : String)
  -- A rule, with its place in the table of rules.
  | rule (name : String) (index : Nat)
  -- The first of some sequences that matches.
  | choice (alternatives : List (List Element))
  | zeroOrOne (inner : Element)
  | zeroOrMore (inner : Element)
  | oneOrMore (inner : Element)
deriving Inhabited

-- Elements that follow each other. The empty sequence matches nothing at all.
abbrev Expression := List Element

structure Rule where
  name : String
  expressions : List Expression
deriving Inhabited

mutual

def Element.text : Element → String
  | .terminal name => name
  | .rule name _ => name
  | .choice alternatives => "(" ++ alternativesText alternatives ++ ")"
  | .zeroOrOne inner => inner.text ++ "?"
  | .zeroOrMore inner => inner.text ++ "*"
  | .oneOrMore inner => inner.text ++ "+"

def sequenceText : List Element → String
  | [] => ""
  | e :: es => e.text ++ tailText es

def tailText : List Element → String
  | [] => ""
  | e :: es => " " ++ e.text ++ tailText es

def alternativesText : List (List Element) → String
  | [] => ""
  | es :: rest => sequenceText es ++ barredText rest

def barredText : List (List Element) → String
  | [] => ""
  | es :: rest => " | " ++ sequenceText es ++ barredText rest

end

namespace Expression

def text (e : Expression) : String :=
  sequenceText e

def isEmpty (e : Expression) : Bool :=
  List.isEmpty e

end Expression

namespace Rule

-- An alternative as a rule shows it: an empty one as `ε`.
def alternativeText (e : Expression) : String :=
  if e.isEmpty then "ε" else e.text

def text (r : Rule) : String :=
  match r.expressions with
  | [] => r.name ++ " ="
  | e :: es =>
    r.name ++ " = " ++ alternativeText e ++
      String.join (es.map fun e => " | " ++ alternativeText e)

end Rule
end PegParser
