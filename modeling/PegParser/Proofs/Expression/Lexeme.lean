import Mathlib
import PegParser.Expression

namespace PegParser

-- What an element refers to by name.
inductive Reference
  | terminal (name : String)
  | rule (name : String) (index : Nat)
deriving DecidableEq

def Reference.name : Reference → String
  | terminal name => name
  | rule name _ => name

inductive Element.Refers (x : Reference) : Element → Prop
  | terminal {name} : x = .terminal name → Refers x (.terminal name)
  | rule {name index} : x = .rule name index → Refers x (.rule name index)
  | choice {alternatives es e} :
    es ∈ alternatives → e ∈ es → Refers x e → Refers x (.choice alternatives)
  | zeroOrOne {e} : Refers x e → Refers x (.zeroOrOne e)
  | zeroOrMore {e} : Refers x e → Refers x (.zeroOrMore e)
  | oneOrMore {e} : Refers x e → Refers x (.oneOrMore e)

-- A piece of the text of an expression.
inductive Lexeme
  | reference (x : Reference)
  | mark (text : String)

namespace Lexeme

def text : Lexeme → String
  | reference x => x.name
  | mark text => text

def chars (ls : List Lexeme) : List Char :=
  ls.flatMap (·.text.toList)

variable {ls ls' : List Lexeme} {l : Lexeme}

@[simp]
theorem chars_nil : chars [] = [] := rfl

@[simp]
theorem chars_cons : chars (l :: ls) = l.text.toList ++ chars ls := rfl

@[simp]
theorem chars_append : chars (ls ++ ls') = chars ls ++ chars ls' := by
  simp [chars]

end Lexeme

mutual

def Element.lexemes : Element → List Lexeme
  | .terminal name => [.reference (.terminal name)]
  | .rule name index => [.reference (.rule name index)]
  | .choice alternatives => .mark "(" :: alternativesLexemes alternatives ++ [.mark ")"]
  | .zeroOrOne inner => inner.lexemes ++ [.mark "?"]
  | .zeroOrMore inner => inner.lexemes ++ [.mark "*"]
  | .oneOrMore inner => inner.lexemes ++ [.mark "+"]

def sequenceLexemes : List Element → List Lexeme
  | [] => []
  | e :: es => e.lexemes ++ tailLexemes es

def tailLexemes : List Element → List Lexeme
  | [] => []
  | e :: es => .mark " " :: e.lexemes ++ tailLexemes es

def alternativesLexemes : List (List Element) → List Lexeme
  | [] => []
  | es :: rest => sequenceLexemes es ++ barredLexemes rest

def barredLexemes : List (List Element) → List Lexeme
  | [] => []
  | es :: rest => .mark " | " :: sequenceLexemes es ++ barredLexemes rest

end

def Expression.lexemes (e : Expression) : List Lexeme :=
  sequenceLexemes e

open Lexeme

mutual

theorem Element.chars_lexemes : (e : Element) → chars e.lexemes = e.text.toList
  | .terminal name => by simp [Element.lexemes, Element.text, Lexeme.text, Reference.name]
  | .rule name _ => by simp [Element.lexemes, Element.text, Lexeme.text, Reference.name]
  | .choice alternatives => by
    simp [Element.lexemes, Element.text, Lexeme.text, chars_alternativesLexemes alternatives]
  | .zeroOrOne inner => by simp [Element.lexemes, Element.text, Lexeme.text, inner.chars_lexemes]
  | .zeroOrMore inner => by simp [Element.lexemes, Element.text, Lexeme.text, inner.chars_lexemes]
  | .oneOrMore inner => by simp [Element.lexemes, Element.text, Lexeme.text, inner.chars_lexemes]

theorem chars_sequenceLexemes : (es : List Element) →
    chars (sequenceLexemes es) = (sequenceText es).toList
  | [] => rfl
  | e :: es => by simp [sequenceLexemes, sequenceText, e.chars_lexemes, chars_tailLexemes es]

theorem chars_tailLexemes : (es : List Element) → chars (tailLexemes es) = (tailText es).toList
  | [] => rfl
  | e :: es => by
    simp [tailLexemes, tailText, Lexeme.text, e.chars_lexemes, chars_tailLexemes es]

theorem chars_alternativesLexemes : (rows : List (List Element)) →
    chars (alternativesLexemes rows) = (alternativesText rows).toList
  | [] => rfl
  | es :: rest => by
    simp [alternativesLexemes, alternativesText, chars_sequenceLexemes es, chars_barredLexemes rest]

theorem chars_barredLexemes : (rows : List (List Element)) →
    chars (barredLexemes rows) = (barredText rows).toList
  | [] => rfl
  | es :: rest => by
    simp [barredLexemes, barredText, Lexeme.text, chars_sequenceLexemes es,
      chars_barredLexemes rest]

end

theorem Expression.chars_lexemes (e : Expression) : chars e.lexemes = e.text.toList :=
  chars_sequenceLexemes e

section

variable {x : Reference}

theorem mem_sequenceLexemes_iff_tail {es : List Element} :
    .reference x ∈ sequenceLexemes es ↔ .reference x ∈ tailLexemes es := by
  cases es <;> simp [sequenceLexemes, tailLexemes]

theorem mem_alternativesLexemes_iff_barred {rows : List (List Element)} :
    .reference x ∈ alternativesLexemes rows ↔ .reference x ∈ barredLexemes rows := by
  cases rows <;> simp [alternativesLexemes, barredLexemes]

mutual

theorem Element.mem_lexemes_iff : (e : Element) → (.reference x ∈ e.lexemes ↔ e.Refers x)
  | .terminal name => by
    simp only [Element.lexemes, List.mem_singleton, Lexeme.reference.injEq]
    exact ⟨.terminal, fun | .terminal h => h⟩
  | .rule name index => by
    simp only [Element.lexemes, List.mem_singleton, Lexeme.reference.injEq]
    exact ⟨.rule, fun | .rule h => h⟩
  | .choice alternatives => by
    simp only [Element.lexemes, List.mem_cons, List.mem_append, List.not_mem_nil, reduceCtorEq,
      false_or, or_false, mem_alternativesLexemes_iff_barred, mem_barredLexemes_iff alternatives]
    exact ⟨fun ⟨_, hes, _, he, h⟩ => .choice hes he h, fun | .choice hes he h => ⟨_, hes, _, he, h⟩⟩
  | .zeroOrOne inner => by
    simp only [Element.lexemes, List.mem_append, List.mem_singleton, reduceCtorEq, or_false,
      inner.mem_lexemes_iff]
    exact ⟨.zeroOrOne, fun | .zeroOrOne h => h⟩
  | .zeroOrMore inner => by
    simp only [Element.lexemes, List.mem_append, List.mem_singleton, reduceCtorEq, or_false,
      inner.mem_lexemes_iff]
    exact ⟨.zeroOrMore, fun | .zeroOrMore h => h⟩
  | .oneOrMore inner => by
    simp only [Element.lexemes, List.mem_append, List.mem_singleton, reduceCtorEq, or_false,
      inner.mem_lexemes_iff]
    exact ⟨.oneOrMore, fun | .oneOrMore h => h⟩

theorem mem_tailLexemes_iff : (es : List Element) →
    (.reference x ∈ tailLexemes es ↔ ∃ e ∈ es, e.Refers x)
  | [] => by simp [tailLexemes]
  | e :: es => by simp [tailLexemes, e.mem_lexemes_iff, mem_tailLexemes_iff es]

theorem mem_barredLexemes_iff : (rows : List (List Element)) →
    (.reference x ∈ barredLexemes rows ↔ ∃ es ∈ rows, ∃ e ∈ es, e.Refers x)
  | [] => by simp [barredLexemes]
  | es :: rest => by
    simp [barredLexemes, mem_sequenceLexemes_iff_tail, mem_tailLexemes_iff es,
      mem_barredLexemes_iff rest]

end

theorem Expression.mem_lexemes_iff {es : Expression} :
    .reference x ∈ es.lexemes ↔ ∃ e ∈ es, e.Refers x :=
  mem_sequenceLexemes_iff_tail.trans (mem_tailLexemes_iff es)

end
end PegParser
