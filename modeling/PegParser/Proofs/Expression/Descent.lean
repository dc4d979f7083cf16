import PegParser.Expression.Reader

namespace PegParser.Expression

open Text (byteLength)

namespace Descent

inductive Halt
  | refused (r : Refusal)
  -- The text ends where an element has to begin.
  | endOfText
  -- After the outermost sequence there is something that ends none.
  | leftOver (c : Char)
  -- There are more calls inside one another than there may be.
  | tooDeep
deriving DecidableEq

structure Place where
  offset : Nat
  rest : List Char

abbrev Reader (α : Type) := Place → Except Halt (α × Place)

def malformed (fault : Fault) (offset : Nat) : Except Halt α :=
  .error (.refused (.malformed fault offset))

namespace Place

def drop (p : Place) (w rest : List Char) : Place where
  offset := p.offset + byteLength w
  rest := rest

@[simp]
theorem drop_rest (p : Place) (u v : List Char) : (p.drop u v).rest = v := rfl

@[simp]
theorem drop_offset (p : Place) (u v : List Char) :
    (p.drop u v).offset = p.offset + byteLength u := rfl

theorem drop_drop (p : Place) (u v w w' : List Char) :
    (p.drop u w).drop v w' = p.drop (u ++ v) w' := by
  simp [drop, Nat.add_assoc]

def skipBlanks (p : Place) : Place :=
  p.drop (p.rest.takeWhile Text.isBlank) (p.rest.dropWhile Text.isBlank)

end Place

variable (symbols : SymbolTable)

def name : Reader Element := fun p => do
  let letters := p.rest.takeWhile isNamePart
  let e ← (resolve symbols (.ofList letters) p.offset).mapError .refused
  return (e, p.drop letters (p.rest.dropWhile isNamePart))

def group (start : Nat) (alternatives : Reader (List Expression)) : Reader Element := fun p => do
  let (rows, p) ← alternatives p
  match p.rest with
  | ')' :: rest => return (.choice rows, p.drop [')'] rest)
  | _           => malformed .unclosedGroup start

def primary (alternatives : Reader (List Expression)) : Reader Element := fun p =>
  match p.rest with
  | []        => .error .endOfText
  | c :: rest =>
    if c = '(' then
      group p.offset alternatives (p.drop [c] rest)
    else if isNameStart c then
      name symbols p
    else if (suffix? c).isSome then
      malformed (.danglingSuffix c) p.offset
    else
      malformed (.unexpected c) p.offset

def suffix (e : Element) : Reader Element := fun p =>
  match p.rest with
  | []        => return (e, p)
  | c :: rest =>
    match suffix? c, rest with
    | none, _ => return (e, p)
    | some wrap, c' :: _ =>
      if (suffix? c').isSome then
        malformed (.repeatedSuffix c') (p.drop [c] rest).offset
      else
        return (wrap e, p.drop [c] rest)
    | some wrap, [] => return (wrap e, p.drop [c] rest)

def item (alternatives : Reader (List Expression)) : Reader Element := fun p => do
  let (e, p) ← primary symbols alternatives p
  suffix e p

def endsSequence : List Char → Bool
  | []     => true
  | c :: _ => c == ')' || c == '|'

mutual

def sequence : (depth : Nat) → Reader (List Element)
  | 0         => fun _ => .error .tooDeep
  | depth + 1 => fun p => do
    let p := p.skipBlanks
    if endsSequence p.rest then
      return ([], p)
    else
      let (e, p) ← item symbols (alternatives depth) p
      let (es, p) ← sequence depth p
      return (e :: es, p)

def alternatives : (depth : Nat) → Reader (List Expression)
  | 0         => fun _ => .error .tooDeep
  | depth + 1 => fun p => do
    let (es, p) ← sequence depth p
    match p.rest with
    | '|' :: rest =>
      let (rows, p) ← alternatives depth (p.drop ['|'] rest)
      return (es :: rows, p)
    | _ => return ([es], p)

end

def read (depth : Nat) (text : List Char) : Except Halt Expression := do
  let (es, p) ← sequence symbols depth ⟨0, text⟩
  let p := p.skipBlanks
  match p.rest with
  | []       => return es
  | ')' :: _ => malformed .unmatchedClose p.offset
  | '|' :: _ => malformed .bareBar p.offset
  | c :: _   => .error (.leftOver c)

end Descent

end PegParser.Expression
