import PegParser.Proofs.Expression.Printing
import PegParser.Proofs.Grammar.Document

namespace PegParser

namespace Grammar

section

variable {entry : Json} {terminals rules : List Json} {r : Rule} {symbols : SymbolTable}

def printedRule (r : Rule) : Json :=
  ruleEntry r.name (r.expressions.map Expression.text)

theorem namesOf_map_printedRule {rs : List Rule} :
    namesOf (rs.map printedRule) = rs.map (·.name) := by
  simp [namesOf, Function.comp_def, printedRule]

theorem DeclaresRule.printed (h : DeclaresRule symbols entry r) :
    DeclaresRule symbols (printedRule r) r := by
  obtain ⟨texts, _, he⟩ := h
  refine ⟨_, ⟨rfl, rfl⟩, ?_⟩
  rw [List.forall₂_map_left_iff, List.forall₂_same]
  intro e hm
  obtain ⟨_, _, hw⟩ := he.exists_of_mem_right hm
  exact hw.text

variable [RegexEngine] {g : Grammar}

def printedTerminal (t : Terminal) : Json :=
  terminalEntry t.name t.pattern

def ownTerminals (g : Grammar) : List Terminal :=
  g.terminals.drop Terminal.builtInPatterns.length

-- The document of a grammar: its own terminals and its rules, with the texts of their expressions.
def printed (g : Grammar) : Json :=
  documentOf (g.ownTerminals.map printedTerminal) (g.rules.toList.map printedRule)

theorem namesOf_map_printedTerminal {ts : List Terminal} :
    namesOf (ts.map printedTerminal) = ts.map (·.name) := by
  simp [namesOf, Function.comp_def, printedTerminal]

theorem Declares.printed (h : Declares terminals rules g) :
    Declares (g.ownTerminals.map printedTerminal) (g.rules.toList.map printedRule) g := by
  obtain ⟨builtIns, new, hb, ht, hn⟩ := h.declares_terminals
  have hown : g.ownTerminals = new := by
    have := congrArg List.length (Terminal.map_name_of_builtIns hb)
    rw [List.length_map, List.length_map] at this
    rw [ownTerminals, ht, ← this, List.drop_left]
  have hs : symbolsOf (g.ownTerminals.map printedTerminal) (g.rules.toList.map printedRule) =
      symbolsOf terminals rules := by
    rw [symbolsOf, symbolsOf, terminalNames, terminalNames, namesOf_map_printedTerminal,
      namesOf_map_printedRule, h.map_name_rules, hown, ← namesOf_eq (hn.imp fun _ _ h => h.1)]
  refine ⟨⟨builtIns, new, hb, ht, ?_⟩, ?_⟩
  · rw [hown, List.forall₂_map_left_iff, List.forall₂_same]
    exact fun _ _ => ⟨rfl, rfl⟩
  · rw [hs, List.forall₂_map_left_iff, List.forall₂_same]
    intro r hm
    obtain ⟨_, _, hr⟩ := h.declares_rules.exists_of_mem_right hm
    exact hr.printed

-- Compiling the document of a compiled grammar gives the grammar again.
theorem compiles_what_is_printed (document : Json) (g : Grammar) (h : ofDocument document = .ok g) :
    ofDocument g.printed = .ok g := by
  obtain ⟨terminals, rules, hs, hd⟩ := (ofDocument_reports.eq_ok h).2
  have hw := ((ofDocument_eq_ok_iff hs).mp h).1
  refine (ofDocument_eq_ok_iff hasSections_documentOf).mpr ⟨?_, hd.printed⟩
  exact hd.printed.wellFormed_iff.mpr (hd.wellFormed_iff.mp hw)

end

theorem compiles_what_is_printed_lists :
    ∃ g, ofDocument (documentOf listTerminalEntries listRuleEntries) = .ok g ∧
      ofDocument g.printed = .ok g := by
  obtain ⟨g, h, _⟩ := exists_lists
  exact ⟨g, h, compiles_what_is_printed _ g h⟩

end Grammar
end PegParser
