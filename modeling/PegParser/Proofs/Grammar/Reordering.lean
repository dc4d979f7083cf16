import PegParser.Proofs.Grammar.Document
import PegParser.Proofs.Parse.Reordering

namespace PegParser.Grammar

-- The place in the second list of the name at an index of the first one.
def newPlace (names names' : List String) (index : Nat) : Nat :=
  names'.idxOf (names[index]?.getD "")

section Places

variable {names names' : List String} {name : String} {index : Nat}

theorem getElem?_newPlace (h : names.Perm names') (hn : names[index]? = some name) :
    names'[newPlace names names' index]? = some name := by
  rw [newPlace, hn, Option.getD_some]
  exact List.getElem?_idxOf (h.mem_iff.mp (List.mem_of_getElem? hn))

theorem newPlace_zero : newPlace (name :: names) (name :: names') 0 = 0 := by
  simp [newPlace]

end Places

variable {terminals terminals' rules rules' : List Json} {start : Json}
variable {f : Nat → Nat} {symbols symbols' : SymbolTable} {entry : Json} {r : Rule}

theorem namesOf_perm (h : rules.Perm rules') : (namesOf rules).Perm (namesOf rules') :=
  h.filterMap _

theorem symbolsOf_renumbersTo (hd : (terminalNames terminals ++ namesOf rules).Nodup)
    (ht : terminals.Perm terminals') (hr : rules.Perm rules') :
    (symbolsOf terminals rules).RenumbersTo (newPlace (namesOf rules) (namesOf rules'))
      (symbolsOf terminals' rules') := by
  have hts : (terminalNames terminals).Perm (terminalNames terminals') :=
    (namesOf_perm ht).append_left _
  have hd' := ((hts.append (namesOf_perm hr)).nodup_iff).mp hd
  intro name symbol h
  cases symbol
  case terminal =>
    rw [get?_symbolsOf_terminal_iff hd] at h
    exact (get?_symbolsOf_terminal_iff hd').mpr (hts.mem_iff.mp h)
  case rule index =>
    rw [get?_symbolsOf_rule_iff hd] at h
    exact (get?_symbolsOf_rule_iff hd').mpr (getElem?_newPlace (namesOf_perm hr) h)

theorem DeclaresRule.renumber (h : DeclaresRule symbols entry r)
    (hs : symbols.RenumbersTo f symbols') : DeclaresRule symbols' entry (r.renumber f) := by
  obtain ⟨texts, hh, he⟩ := h
  refine ⟨texts, hh, ?_⟩
  rw [Rule.renumber, renumberAlternatives_eq_map, List.forall₂_map_right_iff]
  exact he.imp fun _ _ hw => hw.renumber hs

section

variable [RegexEngine] {g g' : Grammar}

section Rules

variable (ht : g.terminals.Perm g'.terminals)
variable (hr : (g.rules.toList.map (Rule.renumber f)).Perm g'.rules.toList)
include hr

theorem map_name_rules_perm :
    (g.rules.toList.map (·.name)).Perm (g'.rules.toList.map (·.name)) := by
  have := hr.map (·.name)
  rwa [List.map_map] at this

include ht in
theorem Proper.reordered (h : g.Proper) : g'.Proper where
  rules_ne_nil := by
    intro hnil
    rw [hnil] at hr
    exact h.rules_ne_nil (List.map_eq_nil_iff.mp hr.eq_nil)
  nodup := (((ht.map _).append (map_name_rules_perm hr)).nodup_iff).mp h.nodup
  expressions_ne_nil r' hm' := by
    obtain ⟨r, hm, rfl⟩ := List.mem_map.mp (hr.mem_iff.mpr hm')
    rw [Rule.renumber, renumberAlternatives_eq_map]
    exact mt List.map_eq_nil_iff.mp (h.expressions_ne_nil r hm)

theorem renumbersTo_of_perm (hd : (g'.rules.toList.map (·.name)).Nodup)
    (hf : f = newPlace (g.rules.toList.map (·.name)) (g'.rules.toList.map (·.name))) :
    g.RenumbersTo f g' := by
  intro index r h
  rw [rule?, ← Array.getElem?_toList] at h ⊢
  have hn : (g.rules.toList.map (·.name))[index]? = some r.name := by
    rw [List.getElem?_map, h, Option.map_some]
  have hn' := getElem?_newPlace (map_name_rules_perm hr) hn
  rw [← hf, List.getElem?_map, Option.map_eq_some_iff] at hn'
  obtain ⟨r', h', hn'⟩ := hn'
  have hm := hr.mem_iff.mp (List.mem_map_of_mem (List.mem_of_getElem? h))
  rw [h', List.inj_on_of_nodup_map hd (List.mem_of_getElem? h') hm hn']

end Rules

-- How the tables of a grammar stand to those of a document in another order.
structure Reorders (g : Grammar) (f : Nat → Nat) (g' : Grammar) : Prop where
  terminals_perm : g.terminals.Perm g'.terminals
  renumbersTo : g.RenumbersTo f g'
  start : f 0 = 0
  proper : g'.Proper

theorem Declares.exists_reordered (h : Declares terminals (start :: rules) g) (hp : g.Proper)
    (ht : terminals.Perm terminals') (hr : rules.Perm rules') :
    ∃ g' f, Declares terminals' (start :: rules') g' ∧ g.Reorders f g' := by
  obtain ⟨builtIns, new, hb, hts, hnew⟩ := h.declares_terminals
  obtain ⟨new', hnp, hnew'⟩ := hnew.exists_of_perm ht
  have hd := hp.nodup
  rw [h.map_name_terminals, h.map_name_rules] at hd
  have hs := symbolsOf_renumbersTo hd ht (hr.cons start)
  obtain ⟨f, hf⟩ : ∃ f, f = newPlace (namesOf (start :: rules)) (namesOf (start :: rules')) :=
    ⟨_, rfl⟩
  rw [← hf] at hs
  obtain ⟨r, rs, hstart, hrs, hrules⟩ := List.forall₂_cons_left_iff.mp h.declares_rules
  have hrs : List.Forall₂ (DeclaresRule (symbolsOf terminals' (start :: rules'))) rules
      (rs.map (Rule.renumber f)) := by
    rw [List.forall₂_map_right_iff]
    exact hrs.imp fun _ _ h => h.renumber hs
  obtain ⟨rs', hrp, hrs'⟩ := hrs.exists_of_perm hr
  let g' : Grammar := ⟨builtIns ++ new', (r.renumber f :: rs').toArray⟩
  have hg' : Declares terminals' (start :: rules') g' :=
    ⟨⟨builtIns, new', hb, rfl, hnew'⟩, .cons (hstart.renumber hs) hrs'⟩
  have htp : g.terminals.Perm g'.terminals := hts ▸ hnp.append_left builtIns
  have hrp : (g.rules.toList.map (Rule.renumber f)).Perm g'.rules.toList := by
    rw [hrules]
    exact hrp.cons _
  have hp' := hp.reordered htp hrp
  rw [← h.map_name_rules, ← hg'.map_name_rules] at hf
  refine ⟨g', f, hg', htp, ?_, ?_, hp'⟩
  · exact renumbersTo_of_perm hrp (List.nodup_append.mp hp'.nodup).2.1 hf
  · rw [hf, hrules]
    exact newPlace_zero

theorem stream_reorders (h : g.Reorders f g') (input : String) :
    (g.stream input).Reorders (g'.stream input) where
  lines_eq := rfl
  map_position_eq := Token.map_position_eq h.terminals_perm
  perm := Token.unranked_perm h.terminals_perm input
  eq_of_terminal t ht u hu hn hi := by
    have hd := (List.nodup_append.mp h.proper.nodup).1
    have hr := Token.rank_eq_of_terminal hd (mem_stream_iff.mp ht) (mem_stream_iff.mp hu) hn
    exact g'.lawful_stream.eq_of_index_rank ht hu hi hr

-- The order of the declarations matters for the start rule and the wording of failures only.
theorem order_of_declarations {document document' : Json}
    (h : ofDocument document = .ok g) (hs : HasSections document terminals (start :: rules))
    (hs' : HasSections document' terminals' (start :: rules'))
    (ht : terminals.Perm terminals') (hr : rules.Perm rules') :
    ∃ g', ofDocument document' = .ok g' ∧ (¬g.LeftRecursive → ∀ input complete errors errors',
      Parse.Agree (g.analyze input complete errors) (g'.analyze input complete errors') ∧
      (terminals = terminals' →
        g.analyze input complete errors = g'.analyze input complete errors')) := by
  obtain ⟨hw, hd⟩ := (ofDocument_eq_ok_iff hs).mp h
  have hp := hd.wellFormed_iff.mp hw
  obtain ⟨g', f, hd', hg⟩ := hd.exists_reordered hp ht hr
  refine ⟨g', (ofDocument_eq_ok_iff hs').mpr ⟨hd'.wellFormed_iff.mpr hg.proper, hd'⟩, ?_⟩
  intro hl input complete errors errors'
  have hruns := Parse.exists_runs (s := g.stream input) (hd.ofTables_eq hp) hl g.lawful_stream
  have ha := Parse.analyze_reordered hg.renumbersTo hg.start (stream_reorders hg input) hruns
    complete errors errors'
  refine ⟨ha.1, fun he => ha.2 ?_⟩
  subst he
  rw [stream, stream, tokenize, tokenize, hd.terminals_unique hd']

end

def listRuleEntries' : List Json :=
  listRuleEntries.take 1 ++ (listRuleEntries.drop 1).reverse

def nestedListText : String :=
  "(list (item (real \"1\")) (comma \",\") " ++
  "(item (open \"(\") (list (item (real \"2\")) (rest)) (close \")\")) (rest))"

def unclosedListPositions : List Position :=
  [⟨0, 0, 0⟩, ⟨1, 0, 1⟩, ⟨1, 0, 1⟩, ⟨1, 0, 1⟩, ⟨1, 0, 1⟩, ⟨1, 0, 1⟩, ⟨0, 0, 0⟩, ⟨0, 0, 0⟩]

theorem order_of_declarations_lists :
    ∃ g g' g'', ofDocument (documentOf listTerminalEntries listRuleEntries) = .ok g ∧
      ofDocument (documentOf listTerminalEntries listRuleEntries') = .ok g' ∧
      ofDocument (documentOf listTerminalEntries.reverse listRuleEntries') = .ok g'' ∧
      g.analyze "(" true .empty = g'.analyze "(" true .empty ∧
      Parse.Agree (g.analyze "1,(2)" true .empty) (g''.analyze "1,(2)" true .empty) ∧
      Parse.Agree (g.analyze "(" true .empty) (g''.analyze "(" true .empty) ∧
      (Parse.treeOf? (g''.analyze "1,(2)" true .empty).1).map Tree.pretty =
        some nestedListText ∧
      (g''.analyze "(" true .empty).2.toList.map (·.position) = unclosedListPositions := by
  have h : (ofDocument (documentOf listTerminalEntries listRuleEntries)).toOption.any fun g =>
      isRanked (· == 2) g (3 - ·) ∧
        (Parse.treeOf? (g.analyze "1,(2)" true .empty).1).map Tree.pretty =
          some nestedListText ∧
        (g.analyze "(" true .empty).2.toList.map (·.position) = unclosedListPositions := by
    decide +kernel
  obtain ⟨g, h, hg⟩ := Except.exists_of_any h
  obtain ⟨hl, htree, hstack⟩ := of_decide_eq_true hg
  have hl := not_leftRecursive_of_isRanked hl
  have hr : (listRuleEntries.drop 1).Perm (listRuleEntries'.drop 1) := (List.reverse_perm _).symm
  obtain ⟨g', h', ha'⟩ := order_of_declarations h hasSections_documentOf hasSections_documentOf
    (.refl _) hr
  obtain ⟨g'', h'', ha''⟩ := order_of_declarations h hasSections_documentOf hasSections_documentOf
    (List.reverse_perm listTerminalEntries).symm hr
  have ht : Parse.Agree (g.analyze "1,(2)" true .empty) (g''.analyze "1,(2)" true .empty) :=
    (ha'' hl _ _ _ _).1
  have hs : Parse.Agree (g.analyze "(" true .empty) (g''.analyze "(" true .empty) :=
    (ha'' hl _ _ _ _).1
  exact ⟨g, g', g'', h, h', h'', (ha' hl _ _ _ _).2 rfl, ht, hs, ht.treeOf?_eq ▸ htree,
    hs.map_position_eq ▸ hstack⟩

end PegParser.Grammar
