import PegParser.Text.Quoted
import PegParser.Token

namespace PegParser

structure Tree where
  label : String
  value : Option String
  children : List Tree
  span : Span
deriving Inhabited

namespace Tree

def leaf (token : Token) : Tree where
  label := token.terminal
  value := some token.value
  children := []
  span := token.span

-- The node of a rule. It spans from its first child to its last, and `fallback` if it has none.
def node (label : String) (children : List Tree) (fallback : Span) : Tree where
  label
  value := none
  children
  span :=
    match children.head?, children.getLast? with
    | some first, some last => first.span.join last.span
    | _, _ => fallback

def isLeaf (t : Tree) : Bool :=
  t.value.isSome

mutual

def filter (p : Tree → Bool) : Tree → List Tree
  | ⟨label, value, children, span⟩ =>
    let below := filterAll p children
    if p ⟨label, value, children, span⟩ then ⟨label, value, children, span⟩ :: below else below

def filterAll (p : Tree → Bool) : List Tree → List Tree
  | [] => []
  | t :: ts => filter p t ++ filterAll p ts

end

def leaves (t : Tree) : List Tree :=
  t.filter isLeaf

def labelled (t : Tree) (label : String) : List Tree :=
  t.filter (·.label == label)

mutual

-- The tree as one line of nested parentheses. The children of a node with a value do not show.
def pretty : Tree → String
  | ⟨label, some value, _, _⟩ => "(" ++ label ++ " " ++ Text.quote value ++ ")"
  | ⟨label, none, children, _⟩ => "(" ++ label ++ prettyAll children ++ ")"

def prettyAll : List Tree → String
  | [] => ""
  | t :: ts => " " ++ pretty t ++ prettyAll ts

end

end Tree
end PegParser
