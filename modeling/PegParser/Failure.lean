import PegParser.Grammar.Error
import PegParser.SyntaxError

namespace PegParser

structure ParseError where
  -- The latest failure of all.
  error : SyntaxError
  -- The failure furthest into the input.
  furthest : Option SyntaxError
  input : Source
deriving DecidableEq, Repr

namespace ParseError

def ofInput (error : SyntaxError) (furthest : Option SyntaxError) (input : String) : ParseError where
  error
  furthest
  input := ⟨some "input", input⟩

def withSourceName (e : ParseError) (name : String) : ParseError :=
  { e with input := { e.input with name := some name } }

def message (e : ParseError) : String :=
  "an error occurred while parsing the input: " ++ e.error.text

def labelOn (e : ParseError) (error : SyntaxError) : Label where
  text := error.message
  offset := error.position.index
  length := if error.position.index < e.input.text.utf8ByteSize then 1 else 0

def labels (e : ParseError) : List Label :=
  let others := e.furthest.toList.filter (·.position.index != e.error.position.index)
  (e.error :: others).map e.labelOn

def diagnostic (e : ParseError) : Diagnostic where
  message := e.message
  code := "parsegen::parse"
  help := some "inspect the error stack for every failed alternative"
  labels := some e.labels
  source := some e.input

end ParseError

def EmptyStack.diagnostic : Diagnostic where
  message := EmptyStack.message
  code := "parsegen::empty_stack"

inductive Failure
  | grammar (e : GrammarError)
  | parse (e : ParseError)
  | emptyStack
  | unreadable (path reason : String)
deriving DecidableEq, Repr

namespace Failure

def kind : Failure → String
  | grammar _ => "Grammar"
  | parse _ => "Parse"
  | emptyStack => "EmptyStack"
  | unreadable _ _ => "Io"

def diagnostic : Failure → Diagnostic
  | grammar e => e.diagnostic
  | parse e => e.diagnostic
  | emptyStack => EmptyStack.diagnostic
  | unreadable path reason =>
    { message := "could not read '" ++ path ++ "': " ++ reason, code := "parsegen::io" }

end Failure
end PegParser
