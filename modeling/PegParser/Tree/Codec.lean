import PegParser.Json
import PegParser.Tree

namespace PegParser

namespace Span

def toJson (s : Span) : Json :=
  .object [("start", .integer s.start), ("end", .integer s.stop)]

def ofJson? : Json → Option Span
  | .array [start, stop] => return ⟨← start.asWord?, ← stop.asWord?⟩
  | .object fields => do
    return ⟨← (← Json.lookup? "start" fields).asWord?, ← (← Json.lookup? "end" fields).asWord?⟩
  | _ => none

end Span

namespace Tree

mutual

def toJson : Tree → Json
  | ⟨label, value, children, span⟩ =>
    .object <|
      [("label", .string label)] ++
      (value.map fun text => ("value", .string text)).toList ++
      (if children.isEmpty then [] else [("children", .array (toJsonAll children))]) ++
      [("span", span.toJson)]

def toJsonAll : List Tree → List Json
  | [] => []
  | t :: ts => toJson t :: toJsonAll ts

end

def valueOfJson? : Json → Option (Option String)
  | .null => some none
  | .string text => some (some text)
  | _ => none

mutual

def ofJson? : Json → Option Tree
  | .array [label, value, children, span] => do
    return {
      label := ← label.asString?
      value := ← valueOfJson? value
      children := ← childrenOfJson? children
      span := ← Span.ofJson? span
    }
  | .object fields => do
    let label ← (← Json.lookup? "label" fields).asString?
    let value ← valueOfJson? ((Json.lookup? "value" fields).getD .null)
    let children ← lastChildren? (some []) fields
    let span ← Span.ofJson? (← Json.lookup? "span" fields)
    return { label, value, children, span }
  | _ => none

def childrenOfJson? : Json → Option (List Tree)
  | .array items => ofJsonAll? items
  | _ => none

def ofJsonAll? : List Json → Option (List Tree)
  | [] => some []
  | item :: items => do return (← ofJson? item) :: (← ofJsonAll? items)

def lastChildren? (children : Option (List Tree)) : List (String × Json) → Option (List Tree)
  | [] => children
  | (name, value) :: fields =>
    lastChildren? (if name == "children" then childrenOfJson? value else children) fields

end

end Tree
end PegParser
