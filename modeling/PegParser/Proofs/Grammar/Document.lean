import PegParser.Proofs.Grammar.LeftRecursion
import PegParser.Proofs.Grammar.Violations
import PegParser.Proofs.List

namespace PegParser

open Except (Reports check)

section

variable [RegexEngine] {symbols : SymbolTable} {g : Grammar} {part : Expression.Part}
variable {w : List Char}

def Expression.Part.Resolved (g : Grammar) : Part → Prop
  | sequence es       => g.unresolvedInSequence? es = none
  | item e            => g.unresolved? e = none
  | primary e         => g.unresolved? e = none
  | alternatives rows => g.unresolvedInAlternatives? rows = none

-- What the names of a table stand for is in the tables of the grammar.
structure SymbolTable.Known (symbols : SymbolTable) (g : Grammar) : Prop where
  terminal {name} : symbols.get? name = some .terminal → g.hasTerminal name
  rule {name index} : symbols.get? name = some (.rule index) → g.hasRule name index

theorem Expression.Writes.resolved (h : Writes symbols part w) (hs : symbols.Known g) :
    part.Resolved g := by
  induction h
  case suffixed hc hi => rcases suffix?_eq_some hc with rfl | rfl | rfl <;> cases hc <;> exact hi
  case terminal hn    => simp [Part.Resolved, Grammar.unresolved?, hs.terminal hn]
  case rule hn        => simp [Part.Resolved, Grammar.unresolved?, hs.rule hn]
  case cons | more | last =>
    simp_all [Part.Resolved, Grammar.unresolvedInSequence?, Grammar.unresolvedInAlternatives?]
  all_goals first | rfl | assumption

end

section

variable [RegexEngine]

open Grammar (patternViolations patternViolations_eq_nil_iff)

theorem Terminal.ofPattern_reports (name pattern : String) :
    Reports (ofPattern name pattern) (patternViolations name pattern)
      fun t => t.name = name ∧ t.pattern = pattern := by
  unfold ofPattern patternViolations
  split
  case h_1 h => simpa [h, Except.mapError, Except.errors] using Reports.ok ⟨rfl, rfl⟩
  case h_2 h => simpa [h, Except.mapError, Except.errors] using Reports.error

theorem Terminal.ofPatterns_reports (patterns : List (String × String)) :
    Reports (ofPatterns patterns) (patterns.flatMap fun p => patternViolations p.1 p.2)
      (List.Forall₂ (fun p t => t.name = p.1 ∧ t.pattern = p.2) patterns) :=
  .mapM_self fun p => ofPattern_reports p.1 p.2

theorem Terminal.exists_builtIns : ∃ builtIns, Terminal.builtIns = .ok builtIns := by
  refine (ofPatterns_reports builtInPatterns).exists_ok_iff.mpr ?_
  rw [List.flatMap_eq_nil_iff]
  exact fun _ h => patternViolations_eq_nil_iff.mpr (RegexEngine.compile_builtIn h)

theorem Terminal.map_name_of_builtIns {ts : List Terminal} (h : builtIns = .ok ts) :
    ts.map (·.name) = builtInPatterns.map (·.1) := by
  have hp := ((ofPatterns_reports builtInPatterns).eq_ok h).2
  rw [← List.forall₂_eq_eq_eq, List.forall₂_map_left_iff, List.forall₂_map_right_iff]
  exact hp.flip.imp fun _ _ h => h.1

end

namespace Grammar

variable {document entry : Json} {before entries terminals rules : List Json}
variable {root : List (String × Json)} {name : String} {symbols : SymbolTable}
variable {header : RuleHeader} {headers : List RuleHeader}

section Sections

theorem requireSection_reports :
    Reports (requireSection root name)
      (check ((Json.object root).field? name).isSome (.missingSection name))
      fun _ => ((Json.object root).field? name).isSome :=
  .check id

theorem sectionOf_reports (h : ((Json.object root).field? name).isSome) :
    Reports (sectionOf root name)
      (check (entriesOf? (.object root) name).isSome (.invalidSection name))
      (entriesOf? (.object root) name = some ·) := by
  obtain ⟨value, hv⟩ := Option.isSome_iff_exists.mp h
  have hl : Json.lookup? name root = some value := hv
  unfold sectionOf entriesOf?
  rw [hl, hv]
  cases value
  case array => exact .ok rfl
  all_goals exact .error

end Sections

section Terminals

variable [RegexEngine] {builtIns new ts : List Terminal}

theorem terminalOfEntry_reports (h : ts.map (·.name) = terminalNames before) :
    Reports (terminalOfEntry ts before.length entry) (terminalViolations before entry)
      (DeclaresTerminal entry) := by
  have hd (name : String) : ts.any (·.name == name) ↔ name ∈ terminalNames before := by
    simp [← h]
  unfold terminalOfEntry terminalViolations DeclaresTerminal nameOf? patternOf?
  cases hn : stringField? entry "name" <;> cases hp : stringField? entry "regex"
  case some.some name pattern =>
    simp only [hd, Option.mem_some_iff, forall_eq', Option.getD_some]
    refine .checkFirst Iff.rfl fun _ => ?_
    refine (Terminal.ofPattern_reports name pattern).mono fun t ht => ?_
    simp [ht]
  all_goals exact .error

theorem addTerminals_reports (entries : List Json)
    (hb : builtIns.map (·.name) = Terminal.builtInPatterns.map (·.1))
    (hn : List.Forall₂ DeclaresTerminal before new) :
    Reports (addTerminals (builtIns ++ new) before.length entries)
      (violationsFrom terminalViolations before entries)
      fun ts => ∃ new, ts = builtIns ++ new ∧
        List.Forall₂ DeclaresTerminal (before ++ entries) new := by
  induction entries generalizing before new
  case nil => exact .ok ⟨new, rfl, by simpa using hn⟩
  case cons entry entries hi =>
    have hnames : (builtIns ++ new).map (·.name) = terminalNames before := by
      rw [List.map_append, hb, terminalNames, namesOf_eq (hn.imp fun _ _ h => h.1)]
    refine (terminalOfEntry_reports hnames).bind fun t ht => ?_
    have := hi (List.rel_append hn (.cons ht .nil))
    simpa using this

end Terminals

section Rules

theorem expressionTexts_reports {described : String} {index : Nat} {values : List Json} :
    Reports (expressionTexts described index values)
      ((values.zipIdx index).flatMap fun (value, index) =>
        check value.asString?.isSome
          (.malformedRule described ("expression #" ++ toString index ++ " is not a string")))
      fun texts => values = texts.map .string := by
  induction values generalizing index
  case nil => exact .ok rfl
  case cons value values hi =>
    rw [List.zipIdx_cons, List.flatMap_cons]
    cases value
    case string text => exact hi.map fun texts h => by rw [h, List.map_cons]
    all_goals exact .error

theorem headerOfEntry_reports :
    Reports (headerOfEntry before.length entry) (ruleViolations before entry)
      (DeclaresHeader entry) := by
  unfold headerOfEntry ruleViolations DeclaresHeader nameOf? expressionsOf?
  cases hn : stringField? entry "name" <;>
    cases he : (entry.field? "expressions").bind Json.asArray?
  case some.some name values =>
    simp only [Option.mem_some_iff, forall_eq', Option.getD_some]
    refine expressionTexts_reports.bind fun texts ht => ?_
    rw [ht, ← List.append_nil (check _ _)]
    exact .checkFirst (by simp) fun _ => .ok ⟨rfl, rfl⟩
  all_goals exact .error

theorem headersFrom_reports (before entries : List Json) :
    Reports (headersFrom before.length entries) (violationsFrom ruleViolations before entries)
      (List.Forall₂ DeclaresHeader entries) := by
  induction entries generalizing before
  case nil => exact .ok .nil
  case cons entry entries hi =>
    refine headerOfEntry_reports.bind fun header h => ?_
    have := hi (before ++ [entry])
    rw [List.length_append] at this
    exact this.map fun headers hs => .cons h hs

theorem ofText_reports (symbols : SymbolTable) (rule text : String) :
    Reports (Expression.ofText symbols rule text) (Expression.ofText symbols rule text).errors
      fun e => Expression.Writes symbols (.sequence e) text.toList :=
  (Reports.errors _).mono fun _ => Expression.ofText_eq_ok_iff.mp

theorem ruleOfHeader_reports (h : DeclaresHeader entry header) :
    Reports (ruleOfHeader symbols header) (expressionViolations symbols entry)
      (DeclaresRule symbols entry) := by
  rw [expressionViolations, h.textsOf_eq, h.1, Option.getD_some]
  exact .map (.mapM_self (ofText_reports symbols header.name)) fun es hes =>
    ⟨header.expressions, h, hes⟩

variable [RegexEngine] {ts : List Terminal}

theorem terminalSymbols_eq (h : ts.map (·.name) = terminalNames terminals) :
    terminalSymbols ts = symbolsOf terminals [] := by
  have hs : terminalSymbols ts = ⟨((ts.map (·.name)).map (·, .terminal)).reverse⟩ := by
    clear h
    induction ts using List.reverseRecOn
    case nil => rfl
    case append_singleton ts t hi =>
      rw [terminalSymbols, List.foldl_concat, ← terminalSymbols, hi]
      simp [SymbolTable.insert]
  rw [hs, h]
  simp [symbolsOf, namesOf]

theorem addRules_reports (before : List Json) (ht : ts.map (·.name) = terminalNames terminals)
    (hb : (namesOf before).length = before.length)
    (h : List.Forall₂ DeclaresHeader entries headers) :
    Reports (addRules ts (symbolsOf terminals before) before.length headers)
      (violationsFrom (ruleNameViolations terminals) before entries)
      (· = symbolsOf terminals (before ++ entries)) := by
  induction h generalizing before
  case nil => exact .ok (by simp)
  case cons entry header entries headers h _ hi =>
    have hn : nameOf? entry = some header.name := h.1
    have hi := hi (before ++ [entry]) (by simp [namesOf_singleton hn, hb])
    have hs : (symbolsOf terminals before).insert header.name (.rule before.length) =
        symbolsOf terminals (before ++ [entry]) := by
      simp [symbolsOf, SymbolTable.insert, namesOf_singleton hn, List.zipIdx_append, hb]
    have hd : ts.any (·.name == header.name) ↔ header.name ∈ terminalNames terminals := by
      simp [← ht]
    have hg : ((symbolsOf terminals before).get? header.name).isSome ↔
        header.name ∈ terminalNames terminals ∨ header.name ∈ namesOf before := by
      rw [isSome_get?_symbolsOf_iff, List.mem_append]
    simp only [violationsFrom, ruleNameViolations, hn, Option.mem_some_iff, forall_eq',
      Option.getD_some, addRules]
    by_cases ht : header.name ∈ terminalNames terminals
    case pos =>
      rw [if_pos (hg.mpr (.inl ht)), if_pos (hd.mpr ht), check, if_neg (not_not.mpr ht)]
      exact .error
    case neg =>
      have hm : ¬((symbolsOf terminals before).get? header.name).isSome ↔
          header.name ∉ namesOf before := by
        rw [hg, or_iff_right ht]
      rw [check, if_pos ht, List.nil_append, hs, if_neg (mt hd.mp ht)]
      refine .checkFirst hm fun _ => ?_
      simpa using hi

end Rules

section Tables

variable [RegexEngine] {ts : List Terminal} {rs : List Rule}

theorem known_of_declares (hd : (terminalNames terminals ++ namesOf rules).Nodup)
    (ht : ts.map (·.name) = terminalNames terminals)
    (hr : List.Forall₂ (DeclaresRule symbols) rules rs) :
    (symbolsOf terminals rules).Known ⟨ts, rs.toArray⟩ where
  terminal {name} h := by
    rw [get?_symbolsOf_terminal_iff hd, ← ht, List.mem_map] at h
    obtain ⟨t, ht, rfl⟩ := h
    simp only [hasTerminal, findTerminal?, List.find?_isSome, beq_iff_eq]
    exact ⟨t, ht, rfl⟩
  rule {name index} h := by
    have hn : namesOf rules = rs.map (·.name) := namesOf_eq (hr.imp fun _ _ ⟨_, h, _⟩ => h.1)
    rw [get?_symbolsOf_rule_iff hd, hn, List.getElem?_map, Option.map_eq_some_iff] at h
    obtain ⟨r, hr, rfl⟩ := h
    simp [hasRule, rule?, hr]

theorem ofTables_of_declares (hne : rs ≠ []) (hs : symbols.Known ⟨ts, rs.toArray⟩)
    (hr : List.Forall₂ (DeclaresRule symbols) rules rs) :
    ofTables ts rs = .ok ⟨ts, rs.toArray⟩ := by
  refine ofTables_eq_ok hne ?_
  rw [Option.isNone_iff_eq_none, List.findSome?_eq_none_iff]
  intro r hm
  obtain ⟨_, _, texts, _, he⟩ := hr.exists_of_mem_right hm
  rw [ruleError?, List.findSome?_eq_none_iff]
  intro e hm
  obtain ⟨text, _, hw⟩ := he.exists_of_mem_right hm
  simpa [Expression.Part.Resolved] using hw.resolved hs

end Tables

section

variable [RegexEngine]

theorem sections_reports :
    Reports (do
      let ts ← addTerminals (← Terminal.builtIns) 0 terminals
      let headers ← headersFrom 0 rules
      if headers.isEmpty then
        .error .noRules
      else
        let symbols ← addRules ts (terminalSymbols ts) 0 headers
        let rules ← headers.mapM (ruleOfHeader symbols)
        ofTables ts rules)
      (violationsFrom terminalViolations [] terminals ++
        (violationsFrom ruleViolations [] rules ++ (check (rules ≠ []) .noRules ++
        (violationsFrom (ruleNameViolations terminals) [] rules ++
        rules.flatMap (expressionViolations (symbolsOf terminals rules))))))
      (Declares terminals rules) := by
  obtain ⟨builtIns, hb⟩ := Terminal.exists_builtIns
  rw [hb, Except.ok_bind]
  have hn := Terminal.map_name_of_builtIns hb
  have hts := addTerminals_reports terminals hn .nil
  rw [List.append_nil] at hts
  refine hts.and_eq_nil.bind fun ts ⟨ht, new, hts, hnew⟩ => ?_
  rw [List.nil_append] at hnew
  have hnames : ts.map (·.name) = terminalNames terminals := by
    rw [hts, List.map_append, hn, terminalNames, namesOf_eq (hnew.imp fun _ _ h => h.1)]
  refine (headersFrom_reports [] rules).bind fun headers hhs => ?_
  have hne : ¬headers.isEmpty ↔ rules ≠ [] := by
    rw [List.isEmpty_iff, hhs.ne_nil_iff]
  refine .checkFirst hne fun hne => ?_
  rw [terminalSymbols_eq hnames]
  refine (addRules_reports [] hnames rfl hhs).and_eq_nil.bind fun symbols ⟨hr, hs⟩ => ?_
  rw [hs, List.nil_append, ← List.append_nil (rules.flatMap _)]
  refine (Reports.mapM hhs fun _ _ h => ruleOfHeader_reports h).bind fun rs hrs => ?_
  have hd := (violationsFrom_names_eq_nil_iff (violationsFrom_terminals_eq_nil_iff.mp ht).2).mp hr
  rw [ofTables_of_declares (hrs.ne_nil_iff.mp hne) (known_of_declares hd hnames hrs) hrs]
  exact .ok ⟨⟨builtIns, new, hb, hts, hnew⟩, hrs⟩

theorem ofDocument_reports :
    Reports (ofDocument document) (violations document) fun g =>
      ∃ terminals rules, HasSections document terminals rules ∧ Declares terminals rules g := by
  cases document
  case object root =>
    simp only [violations, List.append_assoc]
    refine requireSection_reports.bind fun _ ht => requireSection_reports.bind fun _ hr => ?_
    refine (sectionOf_reports ht).bind fun terminals ht => ?_
    refine (sectionOf_reports hr).bind fun rules hr => ?_
    rw [ht, hr]
    exact sections_reports.mono fun g h => ⟨terminals, rules, hasSections_iff.mpr ⟨ht, hr⟩, h⟩
  all_goals exact .error

theorem ofDocument_eq_ok_iff {g : Grammar} (h : HasSections document terminals rules) :
    ofDocument document = .ok g ↔ WellFormed terminals rules ∧ Declares terminals rules g := by
  have hdeclares {g : Grammar} (hg : ofDocument document = .ok g) : Declares terminals rules g := by
    obtain ⟨_, _, h', hd⟩ := (ofDocument_reports.eq_ok hg).2
    obtain ⟨rfl, rfl⟩ := h'.unique h
    exact hd
  constructor
  case mp =>
    intro hg
    obtain ⟨_, _, h', hw⟩ := violations_eq_nil_iff.mp (ofDocument_reports.eq_ok hg).1
    obtain ⟨rfl, rfl⟩ := h'.unique h
    exact ⟨hw, hdeclares hg⟩
  case mpr =>
    rintro ⟨hw, hd⟩
    have hv := violations_eq_nil_iff.mpr ⟨terminals, rules, h, hw⟩
    obtain ⟨g', hg⟩ := ofDocument_reports.exists_ok_iff.mpr hv
    exact hd.unique (hdeclares hg) ▸ hg

-- What is required of the tables themselves.
structure Proper (g : Grammar) : Prop where
  rules_ne_nil : g.rules.toList ≠ []
  nodup : (g.terminals.map (·.name) ++ g.rules.toList.map (·.name)).Nodup
  expressions_ne_nil : ∀ r ∈ g.rules.toList, r.expressions ≠ []

section Declares

variable {g : Grammar} (h : Declares terminals rules g)
include h

theorem Declares.map_name_terminals : g.terminals.map (·.name) = terminalNames terminals := by
  obtain ⟨_, _, hb, ht, hn⟩ := h.declares_terminals
  rw [ht, List.map_append, Terminal.map_name_of_builtIns hb, terminalNames,
    namesOf_eq (hn.imp fun _ _ h => h.1)]

theorem Declares.map_name_rules : g.rules.toList.map (·.name) = namesOf rules :=
  (namesOf_eq (h.declares_rules.imp fun _ _ ⟨_, h, _⟩ => h.1)).symm

theorem Declares.wellFormed_iff : WellFormed terminals rules ↔ g.Proper := by
  have hne := h.declares_rules.ne_nil_iff
  constructor
  case mp =>
    intro hw
    refine ⟨hne.mp hw.rules_ne_nil, ?_, fun r hm => ?_⟩
    · rw [h.map_name_terminals, h.map_name_rules]
      exact hw.nodup
    · obtain ⟨entry, hm, texts, hh, he⟩ := h.declares_rules.exists_of_mem_right hm
      obtain ⟨name, texts', hn, ht, hne⟩ := hw.rule entry hm
      have hh' : DeclaresHeader entry ⟨name, texts'⟩ := ⟨hn, ht⟩
      obtain rfl : texts = texts' := hh.textsOf_eq.symm.trans hh'.textsOf_eq
      exact he.ne_nil_iff.mp hne
  case mpr =>
    intro hp
    refine ⟨fun entry hm => ?_, fun entry hm => ?_, hne.mpr hp.rules_ne_nil, ?_, ?_⟩
    · obtain ⟨_, new, _, _, hn⟩ := h.declares_terminals
      obtain ⟨t, _, hn, hp⟩ := hn.exists_of_mem_left hm
      exact ⟨t.name, t.pattern, t.regex, hn, hp, t.regex_eq⟩
    · obtain ⟨r, hm, texts, hh, he⟩ := h.declares_rules.exists_of_mem_left hm
      exact ⟨r.name, texts, hh.1, hh.2, he.ne_nil_iff.mpr (hp.expressions_ne_nil r hm)⟩
    · rw [← h.map_name_terminals, ← h.map_name_rules]
      exact hp.nodup
    · intro entry hm text ht
      obtain ⟨r, _, texts, hh, he⟩ := h.declares_rules.exists_of_mem_left hm
      rw [hh.textsOf_eq] at ht
      obtain ⟨e, _, hw⟩ := he.exists_of_mem_left ht
      exact ⟨e, Expression.ofText_eq_ok_iff.mpr hw⟩

theorem Declares.ofTables_eq (hp : g.Proper) : ofTables g.terminals g.rules.toList = .ok g := by
  have hd := hp.nodup
  rw [h.map_name_terminals, h.map_name_rules] at hd
  have hs := known_of_declares hd h.map_name_terminals h.declares_rules
  exact ofTables_of_declares hp.rules_ne_nil hs h.declares_rules

end Declares

-- Just the well-formed documents are compiled, and the first violation of any other is reported.
-- The grammar is the one that the sections declare.
theorem compiles_the_well_formed (document : Json) :
    ((∃ g, ofDocument document = .ok g) ↔
      ∃ terminals rules, HasSections document terminals rules ∧ WellFormed terminals rules) ∧
    (∀ e, ofDocument document = .error e ↔ (violations document).head? = some e) ∧
    ∀ g, ofDocument document = .ok g →
      ∃ terminals rules, HasSections document terminals rules ∧ Declares terminals rules g :=
  ⟨ofDocument_reports.exists_ok_iff.trans violations_eq_nil_iff,
    fun _ => ofDocument_reports.eq_error_iff, fun _ h => (ofDocument_reports.eq_ok h).2⟩

end

def listTerminalEntries : List Json :=
  [terminalEntry "comma" ",", terminalEntry "open" "\\(", terminalEntry "close" "\\)"]

def listRuleEntries : List Json := [
  ruleEntry "list" ["item (comma item)* rest*"],
  ruleEntry "item" ["real", "open list? close"],
  ruleEntry "rest" ["comma?"]]

theorem exists_lists :
    ∃ g, ofDocument (documentOf listTerminalEntries listRuleEntries) = .ok g ∧
      ¬g.LeftRecursive := by
  have h : (ofDocument (documentOf listTerminalEntries listRuleEntries)).toOption.any
      (isRanked (· == 2) · (3 - ·)) := by
    decide +kernel
  obtain ⟨g, hg, hr⟩ := Except.exists_of_any h
  exact ⟨g, hg, not_leftRecursive_of_isRanked hr⟩

theorem compiles_the_well_formed_lists :
    (∃ terminals rules g, Declares terminals rules g ∧
      HasSections (documentOf listTerminalEntries listRuleEntries) terminals rules) ∧
    ofDocument (documentOf [] (listRuleEntries ++ [ruleEntry "real" ["x"]])) =
      .error (.duplicateName "terminal and rule" "real") := by
  constructor
  case left =>
    obtain ⟨g, hg, _⟩ := exists_lists
    obtain ⟨terminals, rules, hs, hd⟩ := (compiles_the_well_formed _).2.2 g hg
    exact ⟨terminals, rules, g, hd, hs⟩
  case right =>
    refine ((compiles_the_well_formed _).2.1 _).mpr ?_
    decide +kernel

end Grammar
end PegParser
