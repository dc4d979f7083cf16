import Mathlib
import PegParser.Grammar.Document
import PegParser.Proofs.Expression.Reader
import PegParser.Proofs.List

namespace PegParser

theorem SymbolTable.get?_eq_some_iff {table : SymbolTable} {name : String} {symbol : Symbol}
    (h : (table.entries.map (·.1)).Nodup) :
    table.get? name = some symbol ↔ (name, symbol) ∈ table.entries :=
  List.lookup_eq_some_iff_mem h

namespace Grammar

def nameOf? (entry : Json) : Option String :=
  stringField? entry "name"

def patternOf? (entry : Json) : Option String :=
  stringField? entry "regex"

def expressionsOf? (entry : Json) : Option (List Json) :=
  (entry.field? "expressions").bind Json.asArray?

def textsOf (entry : Json) : List String :=
  ((expressionsOf? entry).getD []).filterMap Json.asString?

def namesOf (entries : List Json) : List String :=
  entries.filterMap nameOf?

def terminalNames (terminals : List Json) : List String :=
  Terminal.builtInPatterns.map (·.1) ++ namesOf terminals

def symbolsOf (terminals rules : List Json) : SymbolTable where
  entries :=
    ((terminalNames terminals).map (·, Symbol.terminal) ++
      (namesOf rules).zipIdx.map fun name => (name.1, Symbol.rule name.2)).reverse

-- The document is an object that has both sections.
def HasSections (document : Json) (terminals rules : List Json) : Prop :=
  ∃ root, document = .object root ∧ Json.lookup? "terminals" root = some (.array terminals) ∧
    Json.lookup? "rules" root = some (.array rules)

def terminalEntry (name pattern : String) : Json :=
  .object [("name", .string name), ("regex", .string pattern)]

def ruleEntry (name : String) (texts : List String) : Json :=
  .object [("name", .string name), ("expressions", .array (texts.map .string))]

def documentOf (terminals rules : List Json) : Json :=
  .object [("terminals", .array terminals), ("rules", .array rules)]

def DeclaresHeader (entry : Json) (header : RuleHeader) : Prop :=
  nameOf? entry = some header.name ∧ expressionsOf? entry = some (header.expressions.map .string)

def DeclaresRule (symbols : SymbolTable) (entry : Json) (r : Rule) : Prop :=
  ∃ texts, DeclaresHeader entry ⟨r.name, texts⟩ ∧
    List.Forall₂ (fun text e => Expression.Writes symbols (.sequence e) text.toList) texts
      r.expressions

variable {entries before terminals rules : List Json} {entry : Json} {name : String} {index : Nat}

@[simp]
theorem nameOf?_terminalEntry {pattern : String} :
    nameOf? (terminalEntry name pattern) = some name := rfl

@[simp]
theorem nameOf?_ruleEntry {texts : List String} : nameOf? (ruleEntry name texts) = some name := rfl

theorem hasSections_documentOf : HasSections (documentOf terminals rules) terminals rules :=
  ⟨_, rfl, rfl, rfl⟩

@[simp]
theorem namesOf_append : namesOf (before ++ entries) = namesOf before ++ namesOf entries := by
  simp [namesOf]

theorem namesOf_singleton (h : nameOf? entry = some name) : namesOf [entry] = [name] := by
  simp [namesOf, h]

theorem forall_isSome_asString?_iff {values : List Json} :
    (∀ value ∈ values, value.asString?.isSome) ↔
      ∃ texts : List String, values = texts.map .string := by
  constructor
  case mp =>
    intro h
    induction values
    case nil => exact ⟨[], rfl⟩
    case cons value values hi =>
      obtain ⟨hv, hvs⟩ := List.forall_mem_cons.mp h
      obtain ⟨texts, rfl⟩ := hi hvs
      cases value <;> simp [Json.asString?] at hv
      case string text => exact ⟨text :: texts, rfl⟩
  case mpr =>
    rintro ⟨texts, rfl⟩
    simp [Json.asString?]

theorem DeclaresHeader.textsOf_eq {header : RuleHeader} (h : DeclaresHeader entry header) :
    textsOf entry = header.expressions := by
  rw [textsOf, h.2, Option.getD_some, List.filterMap_map]
  exact List.filterMap_some

theorem namesOf_eq {α : Type} {f : α → String} {xs : List α}
    (h : List.Forall₂ (fun entry x => nameOf? entry = some (f x)) entries xs) :
    namesOf entries = xs.map f := by
  induction h
  case nil => rfl
  case cons h _ hi => simpa [namesOf, h] using hi

section Symbols

theorem map_fst_entries_symbolsOf :
    (symbolsOf terminals rules).entries.map (·.1) =
      (terminalNames terminals ++ namesOf rules).reverse := by
  simp [symbolsOf, Function.comp_def]

theorem isSome_get?_symbolsOf_iff :
    ((symbolsOf terminals rules).get? name).isSome ↔
      name ∈ terminalNames terminals ++ namesOf rules := by
  rw [SymbolTable.get?, List.lookup_isSome_iff, ← List.mem_reverse, ← map_fst_entries_symbolsOf]
  simp only [List.mem_map, beq_iff_eq, @eq_comm _ name]

section

variable (h : (terminalNames terminals ++ namesOf rules).Nodup)
include h

theorem nodup_entries_symbolsOf : ((symbolsOf terminals rules).entries.map (·.1)).Nodup := by
  rwa [map_fst_entries_symbolsOf, List.nodup_reverse]

theorem get?_symbolsOf_terminal_iff :
    (symbolsOf terminals rules).get? name = some .terminal ↔ name ∈ terminalNames terminals := by
  rw [SymbolTable.get?_eq_some_iff (nodup_entries_symbolsOf h)]
  simp [symbolsOf]

theorem get?_symbolsOf_rule_iff :
    (symbolsOf terminals rules).get? name = some (.rule index) ↔
      (namesOf rules)[index]? = some name := by
  rw [SymbolTable.get?_eq_some_iff (nodup_entries_symbolsOf h)]
  simp [symbolsOf, List.mem_zipIdx_iff_getElem?]

end

end Symbols

theorem DeclaresRule.unique {symbols : SymbolTable} {r r' : Rule} (h : DeclaresRule symbols entry r)
    (h' : DeclaresRule symbols entry r') : r = r' := by
  obtain ⟨texts, hh, he⟩ := h
  obtain ⟨texts', hh', he'⟩ := h'
  obtain rfl : texts = texts' := hh.textsOf_eq.symm.trans hh'.textsOf_eq
  have hn : r.name = r'.name := Option.some.inj (hh.1.symm.trans hh'.1)
  have hes : r.expressions = r'.expressions :=
    List.right_unique_forall₂' (fun _ _ _ hw hw' => hw.unique hw') he he'
  cases r
  cases r'
  simp_all

section Declares

variable [RegexEngine]

def DeclaresTerminal (entry : Json) (t : Terminal) : Prop :=
  nameOf? entry = some t.name ∧ patternOf? entry = some t.pattern

-- The grammar has the built-in terminals, then those of the entries, and the rules of the entries.
structure Declares (terminals rules : List Json) (g : Grammar) : Prop where
  declares_terminals : ∃ builtIns new, Terminal.builtIns = .ok builtIns ∧
    g.terminals = builtIns ++ new ∧ List.Forall₂ DeclaresTerminal terminals new
  declares_rules : List.Forall₂ (DeclaresRule (symbolsOf terminals rules)) rules g.rules.toList

variable {t t' : Terminal} {g g' : Grammar}

theorem DeclaresTerminal.unique (h : DeclaresTerminal entry t) (h' : DeclaresTerminal entry t') :
    t = t' :=
  Terminal.ext (Option.some.inj (h.1.symm.trans h'.1)) (Option.some.inj (h.2.symm.trans h'.2))

theorem Declares.terminals_unique {rules' : List Json} (h : Declares terminals rules g)
    (h' : Declares terminals rules' g') : g.terminals = g'.terminals := by
  obtain ⟨builtIns, new, hb, ht, hn⟩ := h.declares_terminals
  obtain ⟨builtIns', new', hb', ht', hn'⟩ := h'.declares_terminals
  obtain rfl : builtIns = builtIns' := Except.ok.inj (hb.symm.trans hb')
  obtain rfl : new = new' := List.right_unique_forall₂' (fun _ _ _ h h' => h.unique h') hn hn'
  rw [ht, ht']

theorem Declares.unique (h : Declares terminals rules g) (h' : Declares terminals rules g') :
    g = g' := by
  have ht := h.terminals_unique h'
  have hr : g.rules.toList = g'.rules.toList :=
    List.right_unique_forall₂' (fun _ _ _ h h' => h.unique h') h.declares_rules h'.declares_rules
  cases g
  cases g'
  simp_all [Array.toList_inj]

end Declares

end Grammar
end PegParser
