import PegParser.Expression.Reader
import PegParser.Grammar
import PegParser.Json

namespace PegParser.Grammar

structure RuleHeader where
  name : String
  expressions : List String
deriving DecidableEq, Repr

def entryText (kind : String) (index : Nat) (name : Option String) : String :=
  kind ++ " #" ++ toString index ++
    match name with
    | some name => " (`" ++ name ++ "`)"
    | none => ""

def stringField? (entry : Json) (field : String) : Option String :=
  (entry.field? field).bind Json.asString?

def requireSection (root : List (String × Json)) (name : String) : Except GrammarError Unit :=
  if (Json.lookup? name root).isSome then .ok () else .error (.missingSection name)

def sectionOf (root : List (String × Json)) (name : String) : Except GrammarError (List Json) :=
  match Json.lookup? name root with
  | none => .error (.missingSection name)
  | some (.array entries) => .ok entries
  | some _ => .error (.invalidSection name)

variable [RegexEngine]

def terminalOfEntry (before : List Terminal) (index : Nat) (entry : Json) :
    Except GrammarError Terminal :=
  match stringField? entry "name", stringField? entry "regex" with
  | none, _ =>
    .error (.malformedTerminal (entryText "terminal" index none) "missing string property 'name'")
  | some name, none =>
    .error (.malformedTerminal (entryText "terminal" index (some name))
      "missing string property 'regex'")
  | some name, some pattern =>
    if before.any (·.name == name) then
      .error (.duplicateName "terminal" name)
    else
      Terminal.ofPattern name pattern

def addTerminals (before : List Terminal) (index : Nat) :
    List Json → Except GrammarError (List Terminal)
  | [] => .ok before
  | entry :: entries => do
    let terminal ← terminalOfEntry before index entry
    addTerminals (before ++ [terminal]) (index + 1) entries

def expressionTexts (entry : String) (index : Nat) : List Json → Except GrammarError (List String)
  | [] => .ok []
  | .string text :: values => return text :: (← expressionTexts entry (index + 1) values)
  | _ :: _ =>
    .error (.malformedRule entry ("expression #" ++ toString index ++ " is not a string"))

def headerOfEntry (index : Nat) (entry : Json) : Except GrammarError RuleHeader :=
  match stringField? entry "name" with
  | none => .error (.malformedRule (entryText "rule" index none) "missing string property 'name'")
  | some name => do
    let described := entryText "rule" index (some name)
    match (entry.field? "expressions").bind Json.asArray? with
    | none => .error (.malformedRule described "missing array property 'expressions'")
    | some values =>
      let expressions ← expressionTexts described 0 values
      if expressions.isEmpty then
        .error (.malformedRule described "at least one expression is required")
      else
        return { name, expressions }

def headersFrom (index : Nat) : List Json → Except GrammarError (List RuleHeader)
  | [] => .ok []
  | entry :: entries => do
    let header ← headerOfEntry index entry
    return header :: (← headersFrom (index + 1) entries)

def terminalSymbols (terminals : List Terminal) : SymbolTable :=
  terminals.foldl (fun symbols t => symbols.insert t.name .terminal) {}

def addRules (terminals : List Terminal) (symbols : SymbolTable) (index : Nat) :
    List RuleHeader → Except GrammarError SymbolTable
  | [] => .ok symbols
  | header :: headers =>
    if (symbols.get? header.name).isSome then
      let kind := if terminals.any (·.name == header.name) then "terminal and rule" else "rule"
      .error (.duplicateName kind header.name)
    else
      addRules terminals (symbols.insert header.name (.rule index)) (index + 1) headers

def ruleOfHeader (symbols : SymbolTable) (header : RuleHeader) : Except GrammarError Rule := do
  return {
    name := header.name
    expressions := ← header.expressions.mapM (Expression.ofText symbols header.name)
  }

def ofDocument (document : Json) : Except GrammarError Grammar :=
  match document with
  | .object root => do
    requireSection root "terminals"
    requireSection root "rules"
    let terminalEntries ← sectionOf root "terminals"
    let ruleEntries ← sectionOf root "rules"
    let terminals ← addTerminals (← Terminal.builtIns) 0 terminalEntries
    let headers ← headersFrom 0 ruleEntries
    if headers.isEmpty then
      .error .noRules
    else
      let symbols ← addRules terminals (terminalSymbols terminals) 0 headers
      let rules ← headers.mapM (ruleOfHeader symbols)
      ofTables terminals rules
  | _ => .error .invalidDocument

end PegParser.Grammar
