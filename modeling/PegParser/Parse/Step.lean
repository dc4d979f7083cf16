import PegParser.SyntaxError
import PegParser.TokenStream
import PegParser.Tree

namespace PegParser.Parse

-- How a step ends, and the stack after it.
inductive Step (α : Type)
  | matched (value : α) (next : Nat) (errors : ErrorStack)
  | failed (error : SyntaxError) (errors : ErrorStack)
  -- There is no end: rules call themselves before they take a token.
  | stuck

abbrev Attempt (α : Type) := (cursor : Nat) → ErrorStack → Step α

namespace Step

def map (f : α → β) : Step α → Step β
  | matched value next errors => matched (f value) next errors
  | failed error errors => failed error errors
  | stuck => stuck

def fail (kind : SyntaxErrorKind) (message : String) (position : Position) (errors : ErrorStack) :
    Step α :=
  failed { kind, message, position } (errors.push { kind, message, position })

end Step

variable (s : TokenStream)

-- Takes the token of a terminal among those that start at the cursor, and skips what it overlaps.
def terminal (name : String) : Attempt (List Tree) := fun cursor errors =>
  match s.group cursor with
  | [] =>
    .fail .expectedToken ("expected `" ++ name ++ "`, found end of input") (s.position cursor) errors
  | found :: others =>
    match (found :: others).find? (·.terminal == name) with
    | some token => .matched [Tree.leaf token] (s.skipTo cursor token.stop) errors
    | none =>
      .fail .unexpectedToken
        ("expected `" ++ name ++ "`, found `" ++ found.terminal ++ "` " ++ Text.quote found.value)
        found.position errors

def zeroOrOne (attempt : Attempt (List Tree)) : Attempt (List Tree) := fun cursor errors =>
  match attempt cursor errors with
  | .failed _ errors => .matched [] cursor errors
  | step => step

-- Tries until a try fails or takes no token, which would go on forever. A try that takes no token
-- still gives its nodes.
def zeroOrMore (attempt : Attempt (List Tree)) : (tries : Nat) → Attempt (List Tree)
  | 0, _, _ => .stuck
  | tries + 1, cursor, errors =>
    match attempt cursor errors with
    | .matched nodes next errors =>
      if cursor < next then
        (zeroOrMore attempt tries next errors).map (nodes ++ ·)
      else
        .matched nodes next errors
    | .failed _ errors => .matched [] cursor errors
    | .stuck => .stuck

-- As many tries as there can be from a cursor on: each but the last takes a token.
def triesFrom (cursor : Nat) : Nat :=
  s.size - cursor + 1

def oneOrMore (attempt : Attempt (List Tree)) : Attempt (List Tree) := fun cursor errors =>
  match attempt cursor errors with
  | .matched nodes next errors =>
    if cursor < next then
      (zeroOrMore attempt (triesFrom s next) next errors).map (nodes ++ ·)
    else
      .matched nodes next errors
  | step => step

end PegParser.Parse
