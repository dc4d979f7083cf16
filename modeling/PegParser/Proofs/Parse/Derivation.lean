import PegParser.Proofs.Grammar.Document
import PegParser.Proofs.Parse.Outcome
import PegParser.Proofs.Tree

namespace PegParser

open scoped Computability

mutual

def Element.labels : Element → RegularExpression String
  | .terminal name => .char name
  | .rule name _ => .char name
  | .choice alternatives => alternativesLabels alternatives
  | .zeroOrOne inner => 1 + inner.labels
  | .zeroOrMore inner => inner.labels.star
  | .oneOrMore inner => inner.labels * inner.labels.star

def sequenceLabels : List Element → RegularExpression String
  | [] => 1
  | e :: es => e.labels * sequenceLabels es

def alternativesLabels : List (List Element) → RegularExpression String
  | [] => 0
  | es :: rest => sequenceLabels es + alternativesLabels rest

end

theorem mem_alternativesLabels_iff {alternatives : List (List Element)} {names : List String} :
    names ∈ (alternativesLabels alternatives).matches' ↔
      ∃ es ∈ alternatives, names ∈ (sequenceLabels es).matches' := by
  induction alternatives
  case nil => simp [alternativesLabels, Language.notMem_zero]
  case cons es rest hi =>
    rw [alternativesLabels, RegularExpression.matches'_add, Language.mem_add, hi]
    simp

namespace Grammar

section

variable [RegexEngine]

-- What the grammar says of a node: that it is a leaf with the name of a terminal, or that its
-- children are a word of an alternative of the rule that it has its name from.
inductive Allows (g : Grammar) (t : Tree) : Prop
  | leaf {terminal value} :
    terminal ∈ g.terminals → t.label = terminal.name → t.value = some value → t.children = [] →
    Allows g t
  | node {r} :
    r ∈ g.rules → t.label = r.name → t.value = none →
    (∀ r ∈ g.rules, t.label = r.name →
      ∃ es ∈ r.expressions, t.children.map (·.label) ∈ (sequenceLabels es).matches') →
    Allows g t

variable {g : Grammar} {name : String} {index : Nat} {r r' : Rule}

theorem mem_rules (h : g.rule? index = some r) : r ∈ g.rules :=
  Array.mem_of_getElem? h

theorem Proper.eq_of_name (h : g.Proper) (hr : r ∈ g.rules) (hr' : r' ∈ g.rules)
    (hn : r.name = r'.name) : r = r' :=
  List.inj_on_of_nodup_map (List.nodup_append.mp h.nodup).2.1 (Array.mem_toList_iff.mpr hr)
    (Array.mem_toList_iff.mpr hr') hn

theorem exists_terminal_of_unresolved? (h : g.unresolved? (.terminal name) = none) :
    ∃ terminal ∈ g.terminals, terminal.name = name := by
  simpa [unresolved?, hasTerminal, findTerminal?] using h

theorem proper_and_resolved_of_ofDocument {document : Json} (h : ofDocument document = .ok g) :
    g.Proper ∧ g.Resolved := by
  obtain ⟨terminals, rules, hs, hd⟩ := (ofDocument_reports.eq_ok h).2
  have hp := hd.wellFormed_iff.mp ((ofDocument_eq_ok_iff hs).mp h).1
  exact ⟨hp, resolved_of_ofTables (hd.ofTables_eq hp)⟩

end
end Grammar

namespace Parse

section

variable [RegexEngine] {g : Grammar} {s : TokenStream} {p : Phrase} {c next : Nat}
variable {nodes : List Tree} {ds : List SyntaxError}

def Phrase.words (g : Grammar) : Phrase → Language String
  | element e            => e.labels.matches'
  | sequence es          => (sequenceLabels es).matches'
  | firstOf alternatives => (alternativesLabels alternatives).matches'
  | repetition e         => e.labels.matches'∗
  | rule index           => {names | ∃ r, g.rule? index = some r ∧ names = [r.name]}

-- The nodes are a word of the phrase, and the grammar allows all of them and all below them.
structure Derived (g : Grammar) (p : Phrase) (nodes : List Tree) : Prop where
  word : nodes.map (·.label) ∈ p.words g
  allows : ∀ t ∈ Tree.nodesOf nodes, g.Allows t

omit [RegexEngine] in
theorem nodesOf_ruleNode {r : Rule} :
    Tree.nodesOf [ruleNode s r nodes c] = ruleNode s r nodes c :: Tree.nodesOf nodes := by
  rw [Tree.nodesOf_singleton, ruleNode, Tree.nodes_node]

namespace Derived

variable {q q' : Phrase} {nodes' : List Tree}

theorem imp (h : Derived g p nodes) (hle : p.words g ≤ q.words g) : Derived g q nodes where
  word := hle h.word
  allows := h.allows

theorem nil (h : [] ∈ p.words g) : Derived g p [] where
  word := h
  allows := by simp

theorem append (h : Derived g p nodes) (h' : Derived g q nodes')
    (hle : p.words g * q.words g ≤ q'.words g) : Derived g q' (nodes ++ nodes') where
  word := by
    rw [List.map_append]
    exact hle (Language.append_mem_mul h.word h'.word)
  allows := by
    rw [Tree.nodesOf_append]
    exact List.forall_mem_append.mpr ⟨h.allows, h'.allows⟩

theorem leaf {t : Token} (h : g.unresolved? (.terminal t.terminal) = none) :
    Derived g (.element (.terminal t.terminal)) [.leaf t] where
  word := Set.mem_singleton _
  allows := by
    obtain ⟨terminal, ht, hn⟩ := Grammar.exists_terminal_of_unresolved? h
    simpa using .leaf ht hn.symm rfl rfl

theorem node {r : Rule} {index : Nat} (hp : g.Proper) (hr : g.rule? index = some r)
    (h : Derived g (.firstOf r.expressions) nodes) :
    Derived g (.rule index) [ruleNode s r nodes c] where
  word := ⟨r, hr, rfl⟩
  allows := by
    have hm := Grammar.mem_rules hr
    rw [nodesOf_ruleNode]
    refine List.forall_mem_cons.mpr ⟨.node hm rfl rfl fun r' hm' hn => ?_, h.allows⟩
    obtain rfl := hp.eq_of_name hm hm' hn
    exact mem_alternativesLabels_iff.mp h.word

end Derived

open Grammar in
theorem Runs.derived (hg : g.Resolved) (hp : g.Proper) (h : Runs g s p c (some (nodes, next)) ds)
    (hn : p.Resolved g) : Derived g p nodes := by
  generalize hm : some (nodes, next) = m at h
  induction h generalizing nodes next <;> cases hm
  case taken hf =>
    obtain rfl : _ = _ := by simpa using List.find?_some hf
    exact .leaf hn
  case call hi =>
    obtain ⟨r, hr, rfl⟩ := exists_rule_of_unresolved? hn
    refine (hi trivial rfl).imp ?_
    rintro _ ⟨r', hr', rfl⟩
    obtain rfl : r = r' := Option.some.inj (hr.symm.trans hr')
    exact Set.mem_singleton _
  case chosen hi  => exact (hi hn rfl).imp le_rfl
  case present hi => exact (hi hn rfl).imp le_sup_right
  case absent     => exact .nil (.inl rfl)
  case many hi    => exact (hi hn rfl).imp le_rfl
  case oneStill hi =>
    refine (hi hn rfl).imp fun names hn => ?_
    exact ⟨names, hn, [], Language.nil_mem_kstar _, List.append_nil names⟩
  case oneMore hi hi' => exact (hi hn rfl).append (hi' hn rfl) le_rfl
  case ended          => exact .nil (Language.nil_mem_kstar _)
  case still hi       => exact (hi hn rfl).imp le_kstar
  case again hi hi'   => exact (hi hn rfl).append (hi' hn rfl) mul_kstar_le_kstar
  case nil            => exact .nil rfl
  case cons hi hi' =>
    obtain ⟨he, hes⟩ := List.forall_mem_cons.mp (unresolvedInSequence?_eq_none_iff.mp hn)
    exact (hi he rfl).append (hi' (unresolvedInSequence?_eq_none_iff.mpr hes) rfl) le_rfl
  case first hi =>
    obtain ⟨hes, _⟩ := List.forall_mem_cons.mp (unresolvedInAlternatives?_eq_none_iff.mp hn)
    exact (hi hes rfl).imp le_sup_left
  case later hi =>
    obtain ⟨_, hrest⟩ := List.forall_mem_cons.mp (unresolvedInAlternatives?_eq_none_iff.mp hn)
    exact (hi (unresolvedInAlternatives?_eq_none_iff.mpr hrest) rfl).imp le_sup_right
  case ruled hr _ hi =>
    have hes := unresolvedInAlternatives?_eq_none_iff.mpr fun _ => hg.unresolved?_eq_none hr
    exact .node hp hr (hi hes rfl)

variable {document : Json} {input : String} {complete : Bool} {errors : ErrorStack} {tree : Tree}

theorem Parses.exists_runs_of_parsed {r : Outcome × ErrorStack} (h : Parses g input complete r)
    (hp : r.1 = .parsed tree) :
    ∃ next ds, Runs g (g.stream input) (.rule 0) 0 (some ([tree], next)) ds := by
  cases h
  case parsed h _ => cases hp; exact ⟨_, _, h⟩
  all_goals cases hp

-- The tree of a parse is that of the start rule, and the grammar allows each of its nodes.
theorem parsed_is_derivation (hg : Grammar.ofDocument document = .ok g)
    (h : (g.analyze input complete errors).1 = .parsed tree) :
    tree.label = g.startName ∧ tree.value = none ∧ ∀ t ∈ tree.nodes, g.Allows t := by
  have ⟨hp, hg⟩ := Grammar.proper_and_resolved_of_ofDocument hg
  have ⟨_, _, h⟩ := (analyze_parses g input complete errors).exists_runs_of_parsed h
  have ha := (h.derived hg hp trivial).allows
  rw [Tree.nodesOf_cons, Tree.nodesOf_nil, List.append_nil] at ha
  cases h
  case ruled hr _ => exact ⟨name_eq_startName hr, rfl, ha⟩

end

open Grammar in
theorem parsed_is_derivation_lists :
    ∃ g tree, ofDocument (documentOf listTerminalEntries listRuleEntries) = .ok g ∧
      (g.analyze "3.5,(7)," true .empty).1 = .parsed tree ∧
      tree.pretty = "(list (item (real \"3.5\")) (comma \",\") (item (open \"(\") " ++
        "(list (item (real \"7\")) (rest)) (close \")\")) (rest (comma \",\")) (rest))" ∧
      tree.label = "list" ∧ ∀ t ∈ tree.nodes, g.Allows t := by
  have h : (ofDocument (documentOf listTerminalEntries listRuleEntries)).toOption.any fun g =>
      g.startName == "list" && (treeOf? (g.analyze "3.5,(7)," true .empty).1).any
        (·.pretty == "(list (item (real \"3.5\")) (comma \",\") (item (open \"(\") " ++
          "(list (item (real \"7\")) (rest)) (close \")\")) (rest (comma \",\")) (rest))") := by
    decide +kernel
  obtain ⟨g, hg, h⟩ := Except.exists_of_any h
  simp only [Bool.and_eq_true, beq_iff_eq, Option.any_eq_true] at h
  obtain ⟨hn, tree, ht, hp⟩ := h
  have ht := eq_parsed_of_treeOf? ht
  obtain ⟨hl, _, ha⟩ := parsed_is_derivation hg ht
  exact ⟨g, tree, hg, ht, hp, hl.trans hn, ha⟩

end Parse

end PegParser
