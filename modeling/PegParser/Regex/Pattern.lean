import PegParser.Unicode.RangeSet

namespace PegParser.Regex

inductive Flag
  | caseInsensitive
  | multiLine
  | dotMatchesNewline
  | swapGreed
  | unicode
  | crlf
  | ignoreBlanks
deriving DecidableEq, Repr

abbrev FlagChanges := List (Flag × Bool)

inductive ShortClass
  | digit
  | space
  | word
deriving DecidableEq, Repr

inductive PropertyName
  | named (name : String)
  | valued (name value : String)
deriving DecidableEq, Repr

structure Literal where
  char : Char
  -- Whether it is written as a byte, by `\x` and two digits.
  isByte : Bool := false
deriving DecidableEq, Repr

inductive WordPlace
  | boundary
  | noBoundary
  | start
  | stop
  | startHalf
  | stopHalf
deriving DecidableEq, Repr

inductive Assertion
  | lineStart
  | lineEnd
  | textStart
  | textEnd
  | word (place : WordPlace)
deriving DecidableEq, Repr

inductive SetOperation
  | intersection
  | difference
  | symmetricDifference
deriving DecidableEq, Repr

inductive ClassItem
  | literal (l : Literal)
  | range (first last : Literal)
  -- A class such as `[:alpha:]`.
  | named (members : List (Nat × Nat)) (negated : Bool)
  | short (c : ShortClass) (negated : Bool)
  | property (name : PropertyName) (negated : Bool)
  | bracketed (negated : Bool) (inner : ClassItem)
  | union (items : List ClassItem)
  | operation (op : SetOperation) (left right : ClassItem)
deriving Inhabited

inductive Pattern
  | empty
  -- Flags that hold from here to the end of the group.
  | flags (changes : FlagChanges)
  | literal (l : Literal)
  | dot
  | assertion (a : Assertion)
  | charClass (item : ClassItem)
  | repetition (min : Nat) (max : Option Nat) (greedy : Bool) (inner : Pattern)
  | group (changes : FlagChanges) (inner : Pattern)
  | alternation (branches : List Pattern)
  | concatenation (parts : List Pattern)
deriving Inhabited

mutual

def ClassItem.height : ClassItem → Nat
  | .bracketed _ inner => inner.height + 1
  | .union [] => 0
  | .union items => itemsHeight items + 1
  | .operation _ left right => max left.height right.height + 1
  | .literal _ | .range _ _ | .named _ _ | .short _ _ | .property _ _ => 0

def itemsHeight : List ClassItem → Nat
  | [] => 0
  | item :: items => max item.height (itemsHeight items)

end

mutual

def Pattern.height : Pattern → Nat
  | .charClass item => item.height
  | .repetition _ _ _ inner => inner.height + 1
  | .group _ inner => inner.height + 1
  | .alternation branches => partsHeight branches + 1
  | .concatenation parts => partsHeight parts + 1
  | .empty | .flags _ | .literal _ | .dot | .assertion _ => 0

def partsHeight : List Pattern → Nat
  | [] => 0
  | part :: parts => max part.height (partsHeight parts)

end

def Pattern.concat : List Pattern → Pattern
  | [] => empty
  | [part] => part
  | parts => concatenation parts

def Pattern.choose : List Pattern → Pattern
  | [branch] => branch
  | branches => alternation branches

def ClassItem.join : List ClassItem → ClassItem
  | [item] => item
  | items => union items

end PegParser.Regex
