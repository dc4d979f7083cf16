import PegParser.Grammar
import PegParser.Json.Writer
import PegParser.Styled
import PegParser.SyntaxError
import PegParser.Text.Padded
import PegParser.Tree.Codec

namespace PegParser

def Json.listing (value : Json) : String :=
  value.pretty ++ "\n"

namespace Position

def jsonFields (p : Position) : List (String × Json) :=
  [("index", .integer p.index), ("line", .integer p.line), ("column", .integer p.column)]

end Position

namespace SyntaxError

def toJson (e : SyntaxError) : Json :=
  .object ([("kind", .string e.kind.text), ("message", .string e.message)] ++ e.position.jsonFields)

end SyntaxError

namespace ErrorStack

def toJson (s : ErrorStack) : Json :=
  .array (s.toList.map SyntaxError.toJson)

def listing (s : ErrorStack) : Styled :=
  [.color .yellow true,
    .text ("--- Error stack (" ++ toString s.size ++ " entries) ---\n"),
    .reset] ++
  s.toList.zipIdx.map fun (e, i) =>
    .text (Text.padLeft 4 (toString i) ++ ". [" ++ e.kind.text ++ "] " ++ e.text ++ "\n")

end ErrorStack

namespace Token

def toJson (t : Token) : Json :=
  .object [("terminal", .string t.terminal), ("index", .integer t.index), ("end", .integer t.stop),
    ("line", .integer t.position.line), ("column", .integer t.position.column),
    ("value", .string t.value)]

def line (t : Token) : Styled :=
  [.text (Text.padLeft 4 (toString t.position.line) ++ ":" ++
      Text.padRight 4 (toString t.position.column) ++ " "),
    .color .cyan true,
    .text (Text.padRight 16 t.terminal),
    .reset,
    .color .green false,
    .text (Text.quote t.value ++ "\n"),
    .reset]

def listing (tokens : List Token) : Styled :=
  tokens.flatMap line

end Token

namespace Tree

def line (depth : Nat) (t : Tree) : Styled :=
  [.text (Text.blanks (2 * depth)), .color .cyan (!t.isLeaf), .text t.label, .reset] ++
  (match t.value with
    | some value => [.color .green false, .text (" " ++ Text.quote value), .reset]
    | none => []) ++
  [.text (" @" ++ toString t.span.start ++ ".." ++ toString t.span.stop ++ "\n")]

mutual

def listingAt (depth : Nat) : Tree → Styled
  | ⟨label, value, children, span⟩ =>
    line depth ⟨label, value, children, span⟩ ++ listingAllAt (depth + 1) children

def listingAllAt (depth : Nat) : List Tree → Styled
  | [] => []
  | t :: ts => listingAt depth t ++ listingAllAt depth ts

end

def listing (t : Tree) : Styled :=
  listingAt 0 t

end Tree

namespace Grammar

variable [RegexEngine]

def heading (title : String) : Styled :=
  [.color .yellow true, .text (title ++ ":\n"), .reset]

def terminalLine (t : Terminal) : Piece :=
  .text ("  " ++ Text.padRight 16 t.name ++ " " ++ t.pattern ++
    (if t.isBuiltIn then " (built-in)" else "") ++ "\n")

def ruleLine (r : Rule) (index : Nat) : Piece :=
  .text ("  " ++ r.text ++ (if index = 0 then "  (start)" else "") ++ "\n")

def listing (g : Grammar) : Styled :=
  heading "Terminals" ++ g.terminals.map terminalLine ++
  heading "Rules" ++ g.rules.toList.zipIdx.map fun (r, i) => ruleLine r i

end Grammar
end PegParser
