import PegParser.Proofs.Expression.Notation

namespace PegParser

section

-- The new places of the rules.
variable (f : Nat → Nat)

mutual

def Element.renumber : Element → Element
  | .terminal name => .terminal name
  | .rule name index => .rule name (f index)
  | .choice alternatives => .choice (renumberAlternatives alternatives)
  | .zeroOrOne inner => .zeroOrOne inner.renumber
  | .zeroOrMore inner => .zeroOrMore inner.renumber
  | .oneOrMore inner => .oneOrMore inner.renumber

def renumberSequence : List Element → List Element
  | [] => []
  | e :: es => e.renumber :: renumberSequence es

def renumberAlternatives : List (List Element) → List (List Element)
  | [] => []
  | es :: rest => renumberSequence es :: renumberAlternatives rest

end

def Rule.renumber (r : Rule) : Rule where
  name := r.name
  expressions := renumberAlternatives f r.expressions

def Symbol.renumber : Symbol → Symbol
  | .terminal => .terminal
  | .rule index => .rule (f index)

def Expression.Part.renumber : Part → Part
  | sequence es => sequence (renumberSequence f es)
  | item e => item (e.renumber f)
  | primary e => primary (e.renumber f)
  | alternatives rows => alternatives (renumberAlternatives f rows)

def SymbolTable.RenumbersTo (symbols symbols' : SymbolTable) : Prop :=
  ∀ name symbol, symbols.get? name = some symbol → symbols'.get? name = some (symbol.renumber f)

end

variable {f : Nat → Nat} {symbols symbols' : SymbolTable} {part : Expression.Part} {w : List Char}

mutual

theorem Element.text_renumber : (e : Element) → (e.renumber f).text = e.text
  | .terminal _ => rfl
  | .rule _ _ => rfl
  | .choice alternatives => by
    rw [Element.renumber, Element.text, Element.text, alternativesText_renumber alternatives]
  | .zeroOrOne inner => by rw [Element.renumber, Element.text, Element.text, inner.text_renumber]
  | .zeroOrMore inner => by rw [Element.renumber, Element.text, Element.text, inner.text_renumber]
  | .oneOrMore inner => by rw [Element.renumber, Element.text, Element.text, inner.text_renumber]

theorem sequenceText_renumber :
    (es : List Element) → sequenceText (renumberSequence f es) = sequenceText es
  | [] => rfl
  | e :: es => by
    rw [renumberSequence, sequenceText, sequenceText, e.text_renumber, tailText_renumber es]

theorem tailText_renumber : (es : List Element) → tailText (renumberSequence f es) = tailText es
  | [] => rfl
  | e :: es => by rw [renumberSequence, tailText, tailText, e.text_renumber, tailText_renumber es]

theorem alternativesText_renumber : (rows : List (List Element)) →
    alternativesText (renumberAlternatives f rows) = alternativesText rows
  | [] => rfl
  | es :: rest => by
    rw [renumberAlternatives, alternativesText, alternativesText, sequenceText_renumber es,
      barredText_renumber rest]

theorem barredText_renumber : (rows : List (List Element)) →
    barredText (renumberAlternatives f rows) = barredText rows
  | [] => rfl
  | es :: rest => by
    rw [renumberAlternatives, barredText, barredText, sequenceText_renumber es,
      barredText_renumber rest]

end

theorem renumberAlternatives_eq_map {rows : List (List Element)} :
    renumberAlternatives f rows = rows.map (renumberSequence f) := by
  induction rows <;> simp_all [renumberAlternatives]

theorem Expression.Writes.renumber (h : Writes symbols part w)
    (hs : symbols.RenumbersTo f symbols') : Writes symbols' (part.renumber f) w := by
  induction h
  case nil => exact .nil
  case blank hc _ hi => exact .blank hc hi
  case cons hj hi hi' => exact .cons hi hi' hj
  case plain hi => exact .plain hi
  case suffixed hc hi =>
    have := Writes.suffixed hi hc
    rcases suffix?_eq_some hc with rfl | rfl | rfl <;> cases hc <;> exact this
  case terminal hn h => exact .terminal hn (hs _ _ h)
  case rule hn h => exact .rule hn (hs _ _ h)
  case group hi => exact .group hi
  case last hi => exact .last hi
  case more hi hi' => exact .more hi hi'

end PegParser
