import PegParser.Proofs.Parse.Refactoring

namespace PegParser

open Parse (Phrase Refactors RefactorsTo SameVerdict)

namespace Grammar

section

variable [RegexEngine] {g g' : Grammar} {terminals : List Terminal} {rules : List Rule}
variable {index : Nat} {r : Rule}
variable {es es' : List Element} {alternatives alternatives' : List (List Element)}

theorem unresolvedInSequence?_append_eq_none_iff :
    g.unresolvedInSequence? (es ++ es') = none ↔
      g.unresolvedInSequence? es = none ∧ g.unresolvedInSequence? es' = none := by
  simp only [unresolvedInSequence?_eq_none_iff, List.forall_mem_append]

theorem unresolvedInAlternatives?_append_eq_none_iff :
    g.unresolvedInAlternatives? (alternatives ++ alternatives') = none ↔
      g.unresolvedInAlternatives? alternatives = none ∧
        g.unresolvedInAlternatives? alternatives' = none := by
  simp only [unresolvedInAlternatives?_eq_none_iff, List.forall_mem_append]

theorem resolved_of_refactors {p p' : Phrase} (h : Refactors p p') (hp : p.Resolved g) :
    p'.Resolved g := by
  induction h
  all_goals
    simp_all [Phrase.Resolved, unresolved?, unresolvedInSequence?, unresolvedInAlternatives?,
      unresolvedInSequence?_append_eq_none_iff, unresolvedInAlternatives?_append_eq_none_iff]

mutual

theorem unresolved?_of_refactorsTo (h : RefactorsTo g g') :
    (e : Element) → g.unresolved? e = none → g'.unresolved? e = none
  | .terminal name, he => by
    simpa [unresolved?, hasTerminal, findTerminal?, h.terminals_eq] using he
  | .rule name index, he => by
    obtain ⟨r, hr, hn⟩ := exists_rule_of_unresolved? he
    obtain ⟨_, hr', _⟩ := h.rule hr
    simp [unresolved?, hasRule, hr', hn]
  | .choice alternatives, he => unresolvedInAlternatives?_of_refactorsTo h alternatives he
  | .zeroOrOne inner, he => unresolved?_of_refactorsTo h inner he
  | .zeroOrMore inner, he => unresolved?_of_refactorsTo h inner he
  | .oneOrMore inner, he => unresolved?_of_refactorsTo h inner he

theorem unresolvedInSequence?_of_refactorsTo (h : RefactorsTo g g') :
    (es : List Element) → g.unresolvedInSequence? es = none → g'.unresolvedInSequence? es = none
  | [], _ => rfl
  | e :: es, hes => by
    simp only [unresolvedInSequence?, Option.orElse_eq_or, Option.or_eq_none_iff] at hes ⊢
    exact ⟨unresolved?_of_refactorsTo h e hes.1, unresolvedInSequence?_of_refactorsTo h es hes.2⟩

theorem unresolvedInAlternatives?_of_refactorsTo (h : RefactorsTo g g') :
    (alternatives : List (List Element)) → g.unresolvedInAlternatives? alternatives = none →
      g'.unresolvedInAlternatives? alternatives = none
  | [], _ => rfl
  | es :: rest, hes => by
    simp only [unresolvedInAlternatives?, Option.orElse_eq_or, Option.or_eq_none_iff] at hes ⊢
    exact ⟨unresolvedInSequence?_of_refactorsTo h es hes.1,
      unresolvedInAlternatives?_of_refactorsTo h rest hes.2⟩

end

theorem Resolved.refactored (hg : g.Resolved) (h : RefactorsTo g g') : g'.Resolved where
  size_pos := h.size_eq ▸ hg.size_pos
  unresolved?_eq_none {index r' es} hr' hes := by
    have hi : index < g.rules.size := h.size_eq ▸ lt_size (by simp [hr'])
    obtain ⟨alternatives, hr₂, ha⟩ := h.rule (Array.getElem?_eq_getElem hi)
    cases hr'.symm.trans hr₂
    have hp := unresolvedInAlternatives?_eq_none_iff.mpr fun _ =>
      hg.unresolved?_eq_none (Array.getElem?_eq_getElem hi)
    have hp' : g.unresolvedInAlternatives? alternatives = none := by
      cases ha with
      | inl he => exact he ▸ hp
      | inr hr => exact resolved_of_refactors hr hp
    exact unresolvedInSequence?_of_refactorsTo h es
      (unresolvedInAlternatives?_eq_none_iff.mp hp' es hes)

theorem Resolved.ofTables_eq (h : (Grammar.mk terminals rules.toArray).Resolved) :
    ofTables terminals rules = .ok ⟨terminals, rules.toArray⟩ := by
  refine ofTables_eq_ok (List.ne_nil_of_length_pos (by simpa using h.size_pos)) ?_
  rw [Option.isNone_iff_eq_none, List.findSome?_eq_none_iff]
  intro r hm
  rw [ruleError?, List.findSome?_eq_none_iff]
  intro es hes
  obtain ⟨index, hi⟩ := List.mem_iff_getElem?.mp hm
  rw [h.unresolved?_eq_none (by simpa [rule?] using hi) hes, Option.map_none]

theorem refactorsTo_set (hr : rules[index]? = some r)
    (h : Refactors (.firstOf r.expressions) (.firstOf alternatives)) :
    RefactorsTo ⟨terminals, rules.toArray⟩
      ⟨terminals, (rules.set index { r with expressions := alternatives }).toArray⟩ where
  terminals_eq := rfl
  size_eq := by simp
  rule {i r'} hi := by
    have hi : rules[i]? = some r' := by simpa [rule?] using hi
    by_cases he : index = i
    case pos =>
      subst he
      cases hr.symm.trans hi
      have hlt := (List.getElem?_eq_some_iff.mp hr).1
      exact ⟨alternatives, by simp [rule?, hlt], .inr h⟩
    case neg => exact ⟨r'.expressions, by simp [rule?, List.getElem?_set_ne he, hi], .inl rfl⟩

-- A rule in other words keeps what the grammar makes of every input.
theorem refactoring_keeps_verdicts (hg : ofTables terminals rules = .ok g) (hl : ¬g.LeftRecursive)
    (hr : rules[index]? = some r)
    (h : Refactors (.firstOf r.expressions) (.firstOf alternatives)) :
    ∃ g', ofTables terminals (rules.set index { r with expressions := alternatives }) = .ok g' ∧
      ∀ input complete errors errors',
        SameVerdict (g.analyze input complete errors).1 (g'.analyze input complete errors').1 := by
  have he : g = ⟨terminals, rules.toArray⟩ := by
    rw [← rules_of_ofTables hg, ← terminals_of_ofTables hg]
  have ht := he ▸ refactorsTo_set hr h
  refine ⟨_, ((resolved_of_ofTables hg).refactored ht).ofTables_eq, ?_⟩
  intro input complete errors errors'
  have hs : (g.stream input).Lawful := g.lawful_stream
  have hruns := Parse.exists_runs hg hl hs
  have ⟨r', h', hv⟩ := ht.exists_parses (Parse.analyze_parses g input complete errors) hruns
  rwa [(Parse.analyze_parses _ input complete errors').unique h']

end

def bracketRules : List Rule :=
  listRules.set 1 ⟨"item", [[.terminal "real"], [.terminal "open", .terminal "close"],
    [.terminal "open", .rule "list" 0, .terminal "close"]]⟩

def brackets : Grammar where
  terminals := listTerminals
  rules := bracketRules.toArray

theorem brackets_ofTables : ofTables listTerminals bracketRules = .ok brackets :=
  ofTables_eq_ok nofun (by decide +kernel)

theorem not_leftRecursive_brackets : ¬brackets.LeftRecursive :=
  not_leftRecursive_of_isRanked (by decide : isRanked (· == 2) brackets (3 - ·))

def factoredItem : Rule :=
  ⟨"item", [[.terminal "real"], [.terminal "open", .choice [[.terminal "close"],
    [.rule "list" 0, .terminal "close"]]]]⟩

theorem refactoring_keeps_verdicts_brackets :
    ∃ g' e e' f, ofTables listTerminals (bracketRules.set 1 factoredItem) = .ok g' ∧
      (brackets.analyze "3.5,(7" true .empty).1 = .rejected e ∧
      (g'.analyze "3.5,(7" true .empty).1 = .rejected e' ∧ e.error = e'.error ∧
      e'.furthest = some f ∧ f.position.index = 6 := by
  have h := @Refactors.factor [.terminal "open"] [.terminal "close"]
    [.rule "list" 0, .terminal "close"]
  have h := @Refactors.inAlternatives [[.terminal "real"]] _ _ [] h
  obtain ⟨g', hg', hv⟩ := @refactoring_keeps_verdicts _ _ _ _ 1 _
    factoredItem.expressions brackets_ofTables not_leftRecursive_brackets rfl h
  have hf : (Parse.furthestOf? (brackets.analyze "3.5,(7" true .empty).1).map
      (·.position.index) = some 6 := by
    decide +kernel
  obtain ⟨f, hf, h6⟩ := Option.map_eq_some_iff.mp hf
  obtain ⟨e, ho, he⟩ := Parse.exists_of_furthestOf? hf
  have hv := hv "3.5,(7" true .empty .empty
  rw [ho] at hv
  generalize ho' : (g'.analyze "3.5,(7" true .empty).1 = o' at hv
  cases hv with
  | rejected herr hf hf' hi =>
    cases he.symm.trans hf
    exact ⟨g', e, _, _, hg', ho, ho', herr, hf', hi.symm.trans h6⟩

end Grammar
end PegParser
