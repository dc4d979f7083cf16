import PegParser.Expression
import PegParser.Grammar.Error
import PegParser.Symbol
import PegParser.Text.Blank
import PegParser.Text.Offset

namespace PegParser.Expression

def isNameStart (c : Char) : Bool :=
  c == '_' || c.isAlpha

def isNamePart (c : Char) : Bool :=
  isNameStart c || c.isDigit

def suffix? : Char → Option (Element → Element)
  | '?' => some .zeroOrOne
  | '*' => some .zeroOrMore
  | '+' => some .oneOrMore
  | _ => none

inductive Fault
  | unmatchedClose
  | bareBar
  | unclosedGroup
  | repeatedSuffix (c : Char)
  | danglingSuffix (c : Char)
  | unexpected (c : Char)
deriving DecidableEq, Repr

def Fault.reason : Fault → String
  | unmatchedClose => "unmatched closing parenthesis"
  | bareBar =>
    "`|` is only allowed inside parentheses, use separate expressions for top-level alternatives"
  | unclosedGroup => "unclosed parenthesis"
  | repeatedSuffix c =>
    "suffix `" ++ c.toString ++ "` cannot follow another suffix, use parentheses"
  | danglingSuffix c => "suffix `" ++ c.toString ++ "` has no element to apply to"
  | unexpected c => "unexpected character `" ++ c.toString ++ "`"

inductive Refusal
  | malformed (fault : Fault) (offset : Nat)
  | unknown (name : String) (offset : Nat)
deriving DecidableEq, Repr

-- A group that has been opened. Alternatives and elements are held last first.
structure OpenGroup where
  offset : Nat
  -- The elements before the group.
  outer : List Element
  alternatives : List Expression

-- What the character before the current place leaves open.
inductive Pending
  -- No element that a suffix could apply to.
  | nothing
  -- A name that starts at an offset; its characters so far, last first.
  | name (offset : Nat) (letters : List Char)
  -- An element that a suffix may follow.
  | element (e : Element)
  -- A suffix, which no other one may follow.
  | suffix

structure Progress where
  offset : Nat := 0
  -- The groups that are open, innermost first.
  groups : List OpenGroup := []
  -- The elements of the current sequence, last first.
  elements : List Element := []
  pending : Pending := .nothing

variable (symbols : SymbolTable)

def resolve (name : String) (offset : Nat) : Except Refusal Element :=
  match symbols.get? name with
  | some .terminal => .ok (.terminal name)
  | some (.rule index) => .ok (.rule name index)
  | none => .error (.unknown name offset)

namespace Progress

def endName (p : Progress) : Except Refusal Progress :=
  match p.pending with
  | .name offset letters => do
    return { p with pending := .element (← resolve symbols (String.ofList letters.reverse) offset) }
  | _ => .ok p

def sequence (p : Progress) : List Element :=
  match p.pending with
  | .element e => e :: p.elements
  | _ => p.elements

def pushSymbol (p : Progress) (c : Char) : Except Refusal Progress :=
  if c = '(' then
    .ok { p with
      groups := ⟨p.offset, p.sequence, []⟩ :: p.groups
      elements := []
      pending := .nothing }
  else if c = ')' then
    match p.groups with
    | [] => .error (.malformed .unmatchedClose p.offset)
    | group :: groups =>
      .ok { p with
        groups
        elements := group.outer
        pending := .element (.choice (p.sequence.reverse :: group.alternatives).reverse) }
  else if c = '|' then
    match p.groups with
    | [] => .error (.malformed .bareBar p.offset)
    | group :: groups =>
      .ok { p with
        groups := { group with alternatives := p.sequence.reverse :: group.alternatives } :: groups
        elements := []
        pending := .nothing }
  else if Text.isBlank c then
    .ok { p with elements := p.sequence, pending := .nothing }
  else if isNameStart c then
    .ok { p with elements := p.sequence, pending := .name p.offset [c] }
  else
    match suffix? c, p.pending with
    | some wrap, .element e => .ok { p with elements := wrap e :: p.elements, pending := .suffix }
    | some _, .suffix => .error (.malformed (.repeatedSuffix c) p.offset)
    | some _, _ => .error (.malformed (.danglingSuffix c) p.offset)
    | none, _ => .error (.malformed (.unexpected c) p.offset)

def push (p : Progress) (c : Char) : Except Refusal Progress := do
  let q ←
    match p.pending, isNamePart c with
    | .name offset letters, true => .ok { p with pending := .name offset (c :: letters) }
    | _, _ => (← p.endName symbols).pushSymbol c
  return { q with offset := p.offset + c.utf8Size }

def finish (p : Progress) : Except Refusal Expression := do
  let p ← p.endName symbols
  match p.groups with
  | [] => return p.sequence.reverse
  | group :: _ => .error (.malformed .unclosedGroup group.offset)

end Progress

def ofChars (cs : List Char) : Except Refusal Expression := do
  (← cs.foldlM (Progress.push symbols) {}).finish symbols

def Refusal.toError (rule text : String) : Refusal → GrammarError
  | malformed fault offset =>
    .malformedExpression rule text fault.reason
      ⟨offset, max (min (offset + 1) text.utf8ByteSize) offset⟩
  | unknown name offset => .unknownSymbol rule name text ⟨offset, offset + name.utf8ByteSize⟩

def ofText (rule text : String) : Except GrammarError Expression :=
  (ofChars symbols text.toList).mapError (Refusal.toError rule text)

end PegParser.Expression
