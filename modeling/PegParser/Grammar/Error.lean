import PegParser.Diagnostic
import PegParser.Span

namespace PegParser

inductive GrammarError
  | invalidDocument
  | missingSection (name : String)
  | invalidSection (name : String)
  | malformedTerminal (entry reason : String)
  | invalidPattern (name pattern reason : String)
  | malformedRule (entry reason : String)
  | malformedExpression (rule expression reason : String) (span : Span)
  | unknownSymbol (rule symbol expression : String) (span : Span)
  | duplicateName (kind name : String)
  | noRules
  -- The text of the grammar is none of the format.
  | undecodable (format reason : String)
  | unreadable (path reason : String)
deriving DecidableEq, Repr

namespace GrammarError

def message : GrammarError → String
  | invalidDocument => "the grammar must be an object with 'terminals' and 'rules' properties"
  | missingSection name => "the '" ++ name ++ "' property is required in the grammar"
  | invalidSection name => "the '" ++ name ++ "' property must be an array"
  | malformedTerminal entry reason => "malformed " ++ entry ++ ": " ++ reason
  | invalidPattern name _ reason => "invalid pattern for terminal `" ++ name ++ "`: " ++ reason
  | malformedRule entry reason => "malformed " ++ entry ++ ": " ++ reason
  | malformedExpression rule _ reason _ =>
    "malformed expression in rule `" ++ rule ++ "`: " ++ reason
  | unknownSymbol rule symbol _ _ => "unknown symbol `" ++ symbol ++ "` in rule `" ++ rule ++ "`"
  | duplicateName kind name => "duplicate " ++ kind ++ " name `" ++ name ++ "`"
  | noRules => "no rules were specified, at least one rule is required"
  | undecodable format reason => "could not decode the " ++ format ++ " grammar: " ++ reason
  | unreadable path reason => "could not read grammar file '" ++ path ++ "': " ++ reason

def code : GrammarError → String
  | invalidDocument => "parsegen::grammar::document"
  | missingSection _ => "parsegen::grammar::missing_section"
  | invalidSection _ => "parsegen::grammar::invalid_section"
  | malformedTerminal _ _ => "parsegen::grammar::terminal"
  | invalidPattern _ _ _ => "parsegen::grammar::pattern"
  | malformedRule _ _ => "parsegen::grammar::rule"
  | malformedExpression _ _ _ _ => "parsegen::grammar::expression"
  | unknownSymbol _ _ _ _ => "parsegen::grammar::unknown_symbol"
  | duplicateName _ _ => "parsegen::grammar::duplicate"
  | noRules => "parsegen::grammar::no_rules"
  | undecodable _ _ => "parsegen::grammar::decode"
  | unreadable _ _ => "parsegen::grammar::io"

def documentHelp : String :=
  "a grammar looks like \x7b\"terminals\": [\x7b\"name\": ..., \"regex\": ...\x7d], " ++
    "\"rules\": [\x7b\"name\": ..., \"expressions\": [...]\x7d]\x7d"

def help? : GrammarError → Option String
  | invalidDocument | missingSection _ => some documentHelp
  | malformedTerminal _ _ => some "each terminal needs a string 'name' and a string 'regex'"
  | malformedRule _ _ =>
    some "each rule needs a string 'name' and an 'expressions' array of strings"
  | malformedExpression _ _ _ _ =>
    some ("expressions are whitespace-separated names, '( a | b )' groups and '?', '*', '+' " ++
      "suffixes")
  | unknownSymbol _ _ _ _ =>
    some "names must refer to a declared terminal, a built-in terminal or a rule"
  | noRules => some "the first rule is the start symbol of the grammar"
  | invalidSection _ | invalidPattern _ _ _ | duplicateName _ _ | undecodable _ _
  | unreadable _ _ => none

-- A label on an expression. It covers at least one byte, and none at the end of the text.
def labelOn (expression text : String) (span : Span) : Label where
  text
  offset := span.start
  length := if span.start < expression.utf8ByteSize then max span.length 1 else 0

def labels? : GrammarError → Option (List Label)
  | malformedExpression _ expression reason span => some [labelOn expression reason span]
  | unknownSymbol _ symbol expression span =>
    some [labelOn expression ("`" ++ symbol ++ "` is not defined") span]
  | _ => none

def source? : GrammarError → Option Source
  | malformedExpression _ expression _ _ => some ⟨none, expression⟩
  | unknownSymbol _ _ expression _ => some ⟨none, expression⟩
  | _ => none

def diagnostic (e : GrammarError) : Diagnostic where
  message := e.message
  code := e.code
  help := e.help?
  labels := e.labels?
  source := e.source?

end GrammarError
end PegParser
