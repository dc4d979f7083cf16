import Mathlib
import PegParser.Proofs.Except
import PegParser.Proofs.Grammar.Declaration

namespace PegParser.Grammar

open Except (check check_eq_nil_iff)
open GrammarError

section

variable [RegexEngine]

def violationsFrom (violations : (before : List Json) → Json → List GrammarError)
    (before : List Json) : List Json → List GrammarError
  | [] => []
  | entry :: entries =>
    violations before entry ++ violationsFrom violations (before ++ [entry]) entries

def patternViolations (name pattern : String) : List GrammarError :=
  ((RegexEngine.compile pattern).mapError (invalidPattern name pattern)).errors

def terminalViolations (before : List Json) (entry : Json) : List GrammarError :=
  let name := nameOf? entry
  let pattern := patternOf? entry
  let described := entryText "terminal" before.length name
  check name.isSome (malformedTerminal described "missing string property 'name'") ++
    check pattern.isSome (malformedTerminal described "missing string property 'regex'") ++
    check (∀ n ∈ name, n ∉ terminalNames before) (duplicateName "terminal" (name.getD "")) ++
    pattern.elim [] (patternViolations (name.getD ""))

def ruleViolations (before : List Json) (entry : Json) : List GrammarError :=
  let name := nameOf? entry
  let expressions := expressionsOf? entry
  let described := entryText "rule" before.length name
  check name.isSome (malformedRule described "missing string property 'name'") ++
    check expressions.isSome (malformedRule described "missing array property 'expressions'") ++
    (expressions.getD []).zipIdx.flatMap (fun (expression, index) =>
      check expression.asString?.isSome
        (malformedRule described ("expression #" ++ toString index ++ " is not a string"))) ++
    check (∀ es ∈ expressions, es ≠ [])
      (malformedRule described "at least one expression is required")

def ruleNameViolations (terminals before : List Json) (entry : Json) : List GrammarError :=
  let name := nameOf? entry
  check (∀ n ∈ name, n ∉ terminalNames terminals)
      (duplicateName "terminal and rule" (name.getD "")) ++
    check (∀ n ∈ name, n ∉ namesOf before) (duplicateName "rule" (name.getD ""))

def expressionViolations (symbols : SymbolTable) (entry : Json) : List GrammarError :=
  (textsOf entry).flatMap fun text =>
    (Expression.ofText symbols ((nameOf? entry).getD "") text).errors

def entriesOf? (document : Json) (name : String) : Option (List Json) :=
  (document.field? name).bind Json.asArray?

-- All violations of a document, in the order in which they count.
def violations (document : Json) : List GrammarError :=
  let terminals := (entriesOf? document "terminals").getD []
  let rules := (entriesOf? document "rules").getD []
  check document.asObject?.isSome invalidDocument ++
    check (document.field? "terminals").isSome (missingSection "terminals") ++
    check (document.field? "rules").isSome (missingSection "rules") ++
    check (entriesOf? document "terminals").isSome (invalidSection "terminals") ++
    check (entriesOf? document "rules").isSome (invalidSection "rules") ++
    violationsFrom terminalViolations [] terminals ++
    violationsFrom ruleViolations [] rules ++
    check (rules ≠ []) noRules ++
    violationsFrom (ruleNameViolations terminals) [] rules ++
    rules.flatMap (expressionViolations (symbolsOf terminals rules))

-- The sections of a document that can be compiled. Rules may be used before their entries.
structure WellFormed (terminals rules : List Json) : Prop where
  terminal : ∀ entry ∈ terminals, ∃ name pattern regex,
    nameOf? entry = some name ∧ patternOf? entry = some pattern ∧
      RegexEngine.compile pattern = .ok regex
  rule : ∀ entry ∈ rules, ∃ name texts,
    nameOf? entry = some name ∧ expressionsOf? entry = some (texts.map .string) ∧ texts ≠ []
  rules_ne_nil : rules ≠ []
  nodup : (terminalNames terminals ++ namesOf rules).Nodup
  expression : ∀ entry ∈ rules, ∀ text ∈ textsOf entry, ∃ e,
    Expression.ofText (symbolsOf terminals rules) ((nameOf? entry).getD "") text = .ok e

end

variable {document entry : Json} {before entries terminals rules : List Json}
variable {symbols : SymbolTable}

theorem ruleViolations_eq_nil_iff :
    ruleViolations before entry = [] ↔ ∃ name texts,
      nameOf? entry = some name ∧ expressionsOf? entry = some (texts.map .string) ∧ texts ≠ [] := by
  have hz (values : List Json) : (∀ value ∈ values.zipIdx, value.1.asString?.isSome) ↔
      ∀ value ∈ values, value.asString?.isSome := by
    rw [← List.forall_mem_map (P := fun value : Json => value.asString?.isSome),
      List.zipIdx_map_fst]
  cases hn : nameOf? entry <;> cases he : expressionsOf? entry
  case some.some name values =>
    simp only [ruleViolations, hn, he, List.append_eq_nil_iff, List.flatMap_eq_nil_iff,
      check_eq_nil_iff, Option.getD_some, hz, forall_isSome_asString?_iff]
    constructor
    case mp =>
      rintro ⟨⟨_, texts, rfl⟩, h⟩
      exact ⟨name, texts, rfl, rfl, by simpa using h⟩
    case mpr =>
      rintro ⟨_, texts, _, h, ht⟩
      cases h
      exact ⟨⟨⟨rfl, rfl⟩, texts, rfl⟩, by simpa using ht⟩
  all_goals simp [ruleViolations, hn, he]

theorem ruleNameViolations_eq_nil_iff :
    ruleNameViolations terminals before entry = [] ↔
      ∀ n ∈ nameOf? entry, n ∉ terminalNames terminals ++ namesOf before := by
  cases hn : nameOf? entry <;> simp [ruleNameViolations, hn]

section

variable {f : List Json → Json → List GrammarError} {P : Json → Prop}

theorem violationsFrom_eq_nil_iff (hf : ∀ before entry, f before entry = [] ↔ P entry) :
    violationsFrom f before entries = [] ↔ ∀ entry ∈ entries, P entry := by
  induction entries generalizing before <;> simp_all [violationsFrom]

theorem violationsFrom_eq_nil_iff_nodup (names : List String) (before entries : List Json)
    (hf : ∀ before entry, f before entry = [] ↔
      P entry ∧ ∀ n ∈ nameOf? entry, n ∉ names ++ namesOf before)
    (h : (names ++ namesOf before).Nodup) :
    violationsFrom f before entries = [] ↔
      (∀ entry ∈ entries, P entry) ∧ (names ++ namesOf (before ++ entries)).Nodup := by
  induction entries generalizing before
  case nil => simpa [violationsFrom] using h
  case cons entry entries hi =>
    have hnew : (∀ n ∈ nameOf? entry, n ∉ names ++ namesOf before) ↔
        (names ++ namesOf (before ++ [entry])).Nodup := by
      rw [namesOf_append, ← List.append_assoc]
      cases hn : nameOf? entry
      case none => simpa [namesOf, hn] using h
      case some n =>
        have : namesOf [entry] = [n] := by simp [namesOf, hn]
        rw [this, ← List.concat_eq_append, List.nodup_concat]
        simp only [Option.mem_some_iff, forall_eq', and_iff_left h]
    rw [violationsFrom, List.append_eq_nil_iff, hf, List.forall_mem_cons, hnew]
    constructor
    case mp =>
      rintro ⟨⟨hp, hd⟩, h⟩
      rw [hi _ hd, List.append_assoc] at h
      exact ⟨⟨hp, h.1⟩, h.2⟩
    case mpr =>
      rintro ⟨⟨hp, hps⟩, hd⟩
      rw [List.append_cons] at hd
      have hd' : (names ++ namesOf (before ++ [entry])).Nodup := by
        rw [namesOf_append, ← List.append_assoc] at hd
        exact (List.nodup_append.mp hd).1
      exact ⟨⟨hp, hd'⟩, (hi _ hd').mpr ⟨hps, hd⟩⟩

end

theorem expressionViolations_eq_nil_iff :
    expressionViolations symbols entry = [] ↔ ∀ text ∈ textsOf entry, ∃ e,
      Expression.ofText symbols ((nameOf? entry).getD "") text = .ok e := by
  simp only [expressionViolations, List.flatMap_eq_nil_iff, Except.errors_eq_nil_iff]

theorem hasSections_iff :
    HasSections document terminals rules ↔
      entriesOf? document "terminals" = some terminals ∧
        entriesOf? document "rules" = some rules := by
  cases document
  case object root =>
    have hs (name : String) (entries : List Json) :
        entriesOf? (.object root) name = some entries ↔
          Json.lookup? name root = some (.array entries) := by
      show (Json.lookup? name root).bind Json.asArray? = some entries ↔ _
      cases Json.lookup? name root
      case none => simp
      case some value => cases value <;> simp [Json.asArray?]
    simp [HasSections, hs]
  all_goals simp [HasSections, entriesOf?, Json.field?]

theorem HasSections.unique {terminals' rules' : List Json}
    (h : HasSections document terminals rules) (h' : HasSections document terminals' rules') :
    terminals = terminals' ∧ rules = rules' := by
  rw [hasSections_iff] at h h'
  exact ⟨Option.some.inj (h.1.symm.trans h'.1), Option.some.inj (h.2.symm.trans h'.2)⟩

theorem violationsFrom_names_eq_nil_iff (h : (terminalNames terminals).Nodup) :
    violationsFrom (ruleNameViolations terminals) [] rules = [] ↔
      (terminalNames terminals ++ namesOf rules).Nodup := by
  have := violationsFrom_eq_nil_iff_nodup (P := fun _ => True) (terminalNames terminals) [] rules
    (fun _ _ => by rw [ruleNameViolations_eq_nil_iff, true_and]) (by simpa [namesOf] using h)
  simpa using this

section

variable [RegexEngine]

theorem patternViolations_eq_nil_iff {name pattern : String} :
    patternViolations name pattern = [] ↔ ∃ regex, RegexEngine.compile pattern = .ok regex := by
  rw [patternViolations, Except.errors_eq_nil_iff]
  cases RegexEngine.compile pattern <;> simp [Except.mapError]

theorem terminalViolations_eq_nil_iff :
    terminalViolations before entry = [] ↔
      (∃ name pattern regex, nameOf? entry = some name ∧ patternOf? entry = some pattern ∧
        RegexEngine.compile pattern = .ok regex) ∧
      ∀ n ∈ nameOf? entry, n ∉ terminalNames before := by
  cases hn : nameOf? entry <;> cases hp : patternOf? entry <;>
    simp [terminalViolations, hn, hp, and_comm, patternViolations_eq_nil_iff]

theorem violationsFrom_terminals_eq_nil_iff :
    violationsFrom terminalViolations [] terminals = [] ↔
      (∀ entry ∈ terminals, ∃ name pattern regex, nameOf? entry = some name ∧
        patternOf? entry = some pattern ∧ RegexEngine.compile pattern = .ok regex) ∧
      (terminalNames terminals).Nodup :=
  violationsFrom_eq_nil_iff_nodup (Terminal.builtInPatterns.map (·.1)) [] terminals
    (fun _ _ => terminalViolations_eq_nil_iff) (by decide)

theorem wellFormed_iff :
    WellFormed terminals rules ↔
      violationsFrom terminalViolations [] terminals = [] ∧
      violationsFrom ruleViolations [] rules = [] ∧ rules ≠ [] ∧
      violationsFrom (ruleNameViolations terminals) [] rules = [] ∧
      ∀ entry ∈ rules, expressionViolations (symbolsOf terminals rules) entry = [] := by
  rw [violationsFrom_terminals_eq_nil_iff,
    violationsFrom_eq_nil_iff (f := ruleViolations) fun _ _ => ruleViolations_eq_nil_iff]
  simp only [expressionViolations_eq_nil_iff]
  constructor
  case mp =>
    intro h
    have hd := (List.nodup_append.mp h.nodup).1
    exact ⟨⟨h.terminal, hd⟩, h.rule, h.rules_ne_nil,
      (violationsFrom_names_eq_nil_iff hd).mpr h.nodup, h.expression⟩
  case mpr =>
    rintro ⟨⟨ht, hd⟩, hr, hne, hns, he⟩
    exact ⟨ht, hr, hne, (violationsFrom_names_eq_nil_iff hd).mp hns, he⟩

theorem violations_eq_nil_iff :
    violations document = [] ↔
      ∃ terminals rules, HasSections document terminals rules ∧ WellFormed terminals rules := by
  simp only [violations, List.append_eq_nil_iff, check_eq_nil_iff, List.flatMap_eq_nil_iff]
  constructor
  case mp =>
    rintro ⟨⟨⟨⟨⟨⟨⟨_, ht⟩, hr⟩, htv⟩, hrv⟩, hne⟩, hn⟩, he⟩
    obtain ⟨terminals, ht⟩ := Option.isSome_iff_exists.mp ht
    obtain ⟨rules, hr⟩ := Option.isSome_iff_exists.mp hr
    rw [ht, Option.getD_some] at htv hn he
    rw [hr, Option.getD_some] at hrv hne hn he
    exact ⟨terminals, rules, hasSections_iff.mpr ⟨ht, hr⟩,
      wellFormed_iff.mpr ⟨htv, hrv, hne, hn, he⟩⟩
  case mpr =>
    rintro ⟨terminals, rules, hs, h⟩
    obtain ⟨ht, hr⟩ := hasSections_iff.mp hs
    obtain ⟨root, rfl, ht', hr'⟩ := hs
    obtain ⟨htv, hrv, hne, hn, he⟩ := wellFormed_iff.mp h
    rw [ht, hr]
    simp only [Json.field?, ht', hr']
    exact ⟨⟨⟨⟨⟨⟨⟨⟨⟨rfl, rfl⟩, rfl⟩, rfl⟩, rfl⟩, htv⟩, hrv⟩, hne⟩, hn⟩, he⟩

end

end PegParser.Grammar
