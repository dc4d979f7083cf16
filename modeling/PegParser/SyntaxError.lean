import PegParser.Position

namespace PegParser

inductive SyntaxErrorKind
  -- The input ended, or nothing matched, where something was required.
  | expectedToken
  -- There is a token, but of another terminal.
  | unexpectedToken
deriving DecidableEq, Inhabited, Repr

def SyntaxErrorKind.text : SyntaxErrorKind → String
  | expectedToken => "EXPECTED_TOKEN"
  | unexpectedToken => "UNEXPECTED_TOKEN"

structure SyntaxError where
  kind : SyntaxErrorKind
  message : String
  position : Position
deriving DecidableEq, Inhabited, Repr

def SyntaxError.text (e : SyntaxError) : String :=
  e.message ++ " at line " ++ toString e.position.line ++ ", column " ++ toString e.position.column

structure EmptyStack
deriving DecidableEq, Repr

def EmptyStack.message : String :=
  "the error stack is empty: no syntax error has been recorded"

structure ErrorStack where
  -- From the oldest to the latest.
  errors : Array SyntaxError := #[]
deriving DecidableEq, Inhabited, Repr

namespace ErrorStack

def empty : ErrorStack := {}

def clear (_ : ErrorStack) : ErrorStack := empty

def push (s : ErrorStack) (e : SyntaxError) : ErrorStack where
  errors := s.errors.push e

def toList (s : ErrorStack) : List SyntaxError :=
  s.errors.toList

def size (s : ErrorStack) : Nat :=
  s.errors.size

def isEmpty (s : ErrorStack) : Bool :=
  s.errors.isEmpty

def last (s : ErrorStack) : Except EmptyStack SyntaxError :=
  match s.errors.back? with
  | some e => .ok e
  | none => .error {}

def further : Option SyntaxError → SyntaxError → Option SyntaxError
  | none, e => some e
  | some best, e => if best.position.index ≤ e.position.index then some e else some best

-- The failure furthest into the input; the latest of those that are level.
def furthest? (s : ErrorStack) : Option SyntaxError :=
  s.errors.foldl further none

@[simp]
theorem toList_empty : empty.toList = [] := rfl

@[simp]
theorem toList_push (s : ErrorStack) (e : SyntaxError) : (s.push e).toList = s.toList ++ [e] := by
  simp [push, toList]

end ErrorStack
end PegParser
