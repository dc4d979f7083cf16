import PegParser.Proofs.Expression.Lexeme
import PegParser.Proofs.Grammar.LeftRecursion
import PegParser.Proofs.Text.Offset

namespace PegParser

open Text (byteLength StandsAt)

namespace Grammar

variable {name text : String} {span : Span}

theorem spanOf_eq_iff {offset : Nat}
    (h : StandsAt name.toList text.toList offset) :
    span = spanOf name text ↔ IsLeast {o | StandsAt name.toList text.toList o} span.start ∧
      span.stop = span.start + name.utf8ByteSize := by
  obtain ⟨start, hf⟩ := Text.exists_find?_of_standsAt h
  have hl := Text.isLeast_of_find? hf
  rw [spanOf, hf]
  constructor
  case mp =>
    rintro rfl
    exact ⟨hl, rfl⟩
  case mpr =>
    obtain ⟨start', stop⟩ := span
    rintro ⟨hs, ht⟩
    obtain rfl : start' = start := hs.unique hl
    exact congrArg (Span.mk start') ht

theorem slice?_eq_some_iff
    (h : StandsAt name.toList text.toList span.start) :
    Text.slice? text.toList span.start span.stop = some name.toList ↔
      span.stop = span.start + name.utf8ByteSize := by
  rw [← Text.byteLength_toList]
  constructor
  case mp =>
    intro hs
    obtain ⟨_, _, _, _, hl⟩ := Text.exists_of_slice? hs
    exact hl.symm
  case mpr =>
    intro hl
    exact hl ▸ Text.standsAt_iff_slice?.mp h

end Grammar

section

variable [RegexEngine] (terminals : List Terminal) (rules : List Rule)

def Reference.ResolvesIn : Reference → Prop
  | terminal name => ∃ t ∈ terminals, t.name = name
  | rule name index => ∃ r, rules[index]? = some r ∧ r.name = name

def Expression.ResolvesIn (es : Expression) : Prop :=
  ∀ e ∈ es, ∀ x, e.Refers x → x.ResolvesIn terminals rules

def Rule.ResolvesIn (r : Rule) : Prop :=
  ∀ es ∈ r.expressions, Expression.ResolvesIn terminals rules es

-- The first reference that does not resolve, in the order of the rules, of the expressions of a
-- rule and of the text of an expression, where `before` is the text ahead of it.
structure FirstUnresolved (r : Rule) (es : Expression) (before : List Lexeme) (x : Reference) :
    Prop where
  exists_rules : ∃ rs rs', rules = rs ++ r :: rs' ∧ ∀ r' ∈ rs, r'.ResolvesIn terminals rules
  exists_expressions : ∃ rows rows', r.expressions = rows ++ es :: rows' ∧
    ∀ row ∈ rows, Expression.ResolvesIn terminals rules row
  exists_lexemes : ∃ after, es.lexemes = before ++ .reference x :: after
  resolves_before : ∀ y, .reference y ∈ before → y.ResolvesIn terminals rules
  not_resolvesIn : ¬x.ResolvesIn terminals rules

end

section

variable [RegexEngine] {terminals : List Terminal} {rules : List Rule} {r : Rule}
variable {es : Expression} {before : List Lexeme} {x : Reference}

theorem Expression.resolvesIn_iff : es.ResolvesIn terminals rules ↔
    ∀ y, .reference y ∈ es.lexemes → y.ResolvesIn terminals rules := by
  simp only [mem_lexemes_iff]
  exact ⟨fun h y ⟨e, he, hy⟩ => h e he y hy, fun h e he y hy => h y ⟨e, he, hy⟩⟩

theorem FirstUnresolved.standsAt (h : FirstUnresolved terminals rules r es before x) :
    StandsAt x.name.toList es.text.toList (byteLength (Lexeme.chars before)) := by
  have ⟨after, h⟩ := h.exists_lexemes
  refine ⟨_, Lexeme.chars after, ?_, rfl⟩
  rw [← es.chars_lexemes, h]
  simp [Lexeme.text]

end

namespace Grammar

section

variable [RegexEngine] {g : Grammar} {terminals : List Terminal} {rules : List Rule} {r : Rule}
variable {es : Expression} {name : String}

-- The name of a reference that the tables do not resolve.
def missing? (g : Grammar) : Lexeme → Option String
  | .reference (.terminal name) => if g.hasTerminal name then none else some name
  | .reference (.rule name index) => if g.hasRule name index then none else some name
  | .mark _ => none

mutual

theorem unresolved?_eq : (e : Element) → g.unresolved? e = e.lexemes.findSome? g.missing?
  | .terminal name => by simp [unresolved?, Element.lexemes, missing?]
  | .rule name index => by simp [unresolved?, Element.lexemes, missing?]
  | .choice alternatives => by
    simp [unresolved?, Element.lexemes, List.findSome?_cons, missing?,
      unresolvedInAlternatives?_eq alternatives]
  | .zeroOrOne inner => by simp [unresolved?, Element.lexemes, missing?, unresolved?_eq inner]
  | .zeroOrMore inner => by simp [unresolved?, Element.lexemes, missing?, unresolved?_eq inner]
  | .oneOrMore inner => by simp [unresolved?, Element.lexemes, missing?, unresolved?_eq inner]

theorem unresolvedInSequence?_eq : (es : List Element) →
    g.unresolvedInSequence? es = (sequenceLexemes es).findSome? g.missing?
  | [] => by simp [unresolvedInSequence?, sequenceLexemes]
  | e :: es => by
    simp [unresolvedInSequence?, sequenceLexemes, unresolved?_eq e, unresolvedInTail?_eq es]

theorem unresolvedInTail?_eq : (es : List Element) →
    g.unresolvedInSequence? es = (tailLexemes es).findSome? g.missing?
  | [] => by simp [unresolvedInSequence?, tailLexemes]
  | e :: es => by
    simp [unresolvedInSequence?, tailLexemes, List.findSome?_cons, missing?, unresolved?_eq e,
      unresolvedInTail?_eq es]

theorem unresolvedInAlternatives?_eq : (rows : List (List Element)) →
    g.unresolvedInAlternatives? rows = (alternativesLexemes rows).findSome? g.missing?
  | [] => by simp [unresolvedInAlternatives?, alternativesLexemes]
  | es :: rest => by
    simp [unresolvedInAlternatives?, alternativesLexemes, unresolvedInSequence?_eq es,
      unresolvedInBarred?_eq rest]

theorem unresolvedInBarred?_eq : (rows : List (List Element)) →
    g.unresolvedInAlternatives? rows = (barredLexemes rows).findSome? g.missing?
  | [] => by simp [unresolvedInAlternatives?, barredLexemes]
  | es :: rest => by
    simp [unresolvedInAlternatives?, barredLexemes, List.findSome?_cons, missing?,
      unresolvedInSequence?_eq es, unresolvedInBarred?_eq rest]

end

theorem missing?_eq_some_iff {l : Lexeme} :
    (Grammar.mk terminals rules.toArray).missing? l = some name ↔
      ∃ x : Reference, l = .reference x ∧ ¬x.ResolvesIn terminals rules ∧ x.name = name := by
  rcases l with ⟨_ | _⟩ | _ <;>
    simp [missing?, hasTerminal, hasRule, findTerminal?, rule?, Reference.ResolvesIn,
      Reference.name, Option.any_eq_true, imp_not_comm]

theorem missing?_eq_none_iff {l : Lexeme} :
    (Grammar.mk terminals rules.toArray).missing? l = none ↔
      ∀ x : Reference, l = .reference x → x.ResolvesIn terminals rules := by
  rw [Option.eq_none_iff_forall_ne_some]
  simp only [ne_eq, missing?_eq_some_iff]
  exact ⟨fun h x hx => by_contra fun hn => h x.name ⟨x, hx, hn, rfl⟩,
    fun h _ ⟨x, hx, hn, _⟩ => hn (h x hx)⟩

theorem unresolvedInSequence?_eq_none_iff_resolvesIn :
    (Grammar.mk terminals rules.toArray).unresolvedInSequence? es = none ↔
      Expression.ResolvesIn terminals rules es := by
  rw [unresolvedInSequence?_eq, List.findSome?_eq_none_iff, Expression.resolvesIn_iff]
  simp only [missing?_eq_none_iff]
  exact ⟨fun h y hy => h _ hy y rfl, fun h l hl y hy => h y (hy ▸ hl)⟩

theorem unresolvedInSequence?_eq_some_iff :
    (Grammar.mk terminals rules.toArray).unresolvedInSequence? es = some name ↔
      ∃ before x, (∃ after, Expression.lexemes es = before ++ .reference x :: after) ∧
        (∀ y, .reference y ∈ before → y.ResolvesIn terminals rules) ∧
        ¬x.ResolvesIn terminals rules ∧ x.name = name := by
  rw [unresolvedInSequence?_eq, List.findSome?_eq_some_iff]
  simp only [missing?_eq_some_iff, missing?_eq_none_iff]
  constructor
  case mp =>
    rintro ⟨before, _, after, he, ⟨x, rfl, hx, hn⟩, hb⟩
    exact ⟨before, x, ⟨after, he⟩, fun y hy => hb _ hy y rfl, hx, hn⟩
  case mpr =>
    rintro ⟨before, x, ⟨after, he⟩, hb, hx, hn⟩
    exact ⟨before, _, after, he, ⟨x, rfl, hx, hn⟩, fun l hl y hy => hb y (hy ▸ hl)⟩

theorem ruleError?_eq_none_iff :
    (Grammar.mk terminals rules.toArray).ruleError? r = none ↔ r.ResolvesIn terminals rules := by
  simp only [ruleError?, List.findSome?_eq_none_iff, Option.map_eq_none_iff,
    unresolvedInSequence?_eq_none_iff_resolvesIn]
  rfl

theorem ofTables_of_ne_nil (h : rules ≠ []) : ofTables terminals rules =
    (rules.findSome? (Grammar.mk terminals rules.toArray).ruleError?).elim
      (.ok ⟨terminals, rules.toArray⟩) .error := by
  simp only [ofTables, List.isEmpty_iff, h, if_false]
  cases rules.findSome? _ <;> rfl

theorem ofTables_eq_ok_iff : ofTables terminals rules = .ok g ↔
    g = ⟨terminals, rules.toArray⟩ ∧ rules ≠ [] ∧ ∀ r ∈ rules, r.ResolvesIn terminals rules := by
  have hr : (rules.findSome? (Grammar.mk terminals rules.toArray).ruleError?) = none ↔
      ∀ r ∈ rules, r.ResolvesIn terminals rules := by
    simp only [List.findSome?_eq_none_iff, ruleError?_eq_none_iff]
  by_cases hne : rules = []
  case pos => simp [ofTables, hne]
  case neg =>
    rw [ofTables_of_ne_nil hne, ← hr]
    cases rules.findSome? _ <;> simp [hne, eq_comm]

theorem ofTables_eq_error_iff {e : GrammarError} : ofTables terminals rules = .error e ↔
    rules = [] ∧ e = .noRules ∨
    ∃ r es before x, FirstUnresolved terminals rules r es before x ∧
      e = unresolvedError r.name x.name es := by
  by_cases hne : rules = []
  case pos =>
    subst hne
    simp only [ofTables, List.isEmpty_nil, if_true, Except.error.injEq, true_and]
    refine ⟨fun h => .inl h.symm, fun h => ?_⟩
    rcases h with h | ⟨_, _, _, _, h, _⟩
    case inl => exact h.symm
    case inr =>
      obtain ⟨_, _, h, _⟩ := h.exists_rules
      simp at h
  case neg =>
    have ho : ofTables terminals rules = .error e ↔
        rules.findSome? (Grammar.mk terminals rules.toArray).ruleError? = some e := by
      rw [ofTables_of_ne_nil hne]
      cases rules.findSome? _ <;> simp
    simp only [ho, List.findSome?_eq_some_iff, ruleError?_eq_none_iff, hne, false_and, false_or]
    constructor
    case mp =>
      rintro ⟨rs, r, rs', hr, he, hrs⟩
      obtain ⟨rows, es, rows', hes, he, hrows⟩ := List.findSome?_eq_some_iff.mp he
      obtain ⟨_, hn, rfl⟩ := Option.map_eq_some_iff.mp he
      obtain ⟨before, x, hl, hb, hx, rfl⟩ := unresolvedInSequence?_eq_some_iff.mp hn
      refine ⟨r, es, before, x, ⟨⟨rs, rs', hr, hrs⟩, ⟨rows, rows', hes, ?_⟩, hl, hb, hx⟩, rfl⟩
      simpa only [Option.map_eq_none_iff, unresolvedInSequence?_eq_none_iff_resolvesIn] using hrows
    case mpr =>
      rintro ⟨r, es, before, x, ⟨⟨rs, rs', hr, hrs⟩, ⟨rows, rows', hes, hrows⟩, hl, hb, hx⟩, rfl⟩
      refine ⟨rs, r, rs', hr, List.findSome?_eq_some_iff.mpr ⟨rows, es, rows', hes, ?_, ?_⟩, hrs⟩
      · rw [unresolvedInSequence?_eq_some_iff.mpr ⟨before, x, hl, hb, hx, rfl⟩, Option.map_some]
      · simpa only [Option.map_eq_none_iff, unresolvedInSequence?_eq_none_iff_resolvesIn]
          using hrows

-- Just the tables with rules in which each reference resolves are accepted, at whatever depth it
-- stands. Of others, the first reference that does not resolve is reported, and the span is where
-- its name stands first in the text of its expression.
theorem tables_report_first_unresolved (terminals : List Terminal) (rules : List Rule) :
    (∀ g, ofTables terminals rules = .ok g ↔
      g = ⟨terminals, rules.toArray⟩ ∧ rules ≠ [] ∧
        ∀ r ∈ rules, ∀ es ∈ r.expressions, ∀ e ∈ es, ∀ x, e.Refers x →
          x.ResolvesIn terminals rules) ∧
    ∀ e, ofTables terminals rules = .error e ↔
      rules = [] ∧ e = .noRules ∨
      ∃ r es before x span, FirstUnresolved terminals rules r es before x ∧
        e = .unknownSymbol r.name x.name es.text span ∧
        Text.slice? es.text.toList span.start span.stop = some x.name.toList ∧
        ∀ o < span.start, ¬StandsAt x.name.toList es.text.toList o := by
  refine ⟨fun g => ofTables_eq_ok_iff, fun e => ofTables_eq_error_iff.trans (or_congr_right ?_)⟩
  constructor
  case mp =>
    rintro ⟨r, es, before, x, h, rfl⟩
    have ⟨hl, hs⟩ := (spanOf_eq_iff h.standsAt).mp rfl
    exact ⟨r, es, before, x, _, h, rfl, (slice?_eq_some_iff hl.1).mpr hs,
      fun o ho hn => (hl.2 hn).not_gt ho⟩
  case mpr =>
    rintro ⟨r, es, before, x, span, h, rfl, hs, hl⟩
    have ⟨before', after, ht, hb, _⟩ := Text.exists_of_slice? hs
    have hs' : StandsAt x.name.toList es.text.toList span.start := ⟨before', after, ht, hb⟩
    have hspan : span = spanOf x.name es.text := (spanOf_eq_iff h.standsAt).mpr
      ⟨⟨hs', fun o ho => not_lt.mp fun hlt => hl o hlt ho⟩, (slice?_eq_some_iff hs').mp hs⟩
    exact ⟨r, es, before, x, h, by rw [hspan, unresolvedError]⟩

end

def misnamedRules : List Rule := [
  ⟨"list", [[.rule "item" 1], [.oneOrMore (.choice [[], [.terminal "comma", .rule "rest" 1]])]]⟩,
  ⟨"item", [[.terminal "unknown"]]⟩]

def misnamedBefore : List Lexeme :=
  [.mark "(", .mark " | ", .reference (.terminal "comma"), .mark " "]

theorem firstUnresolved_misnamed : FirstUnresolved listTerminals misnamedRules
    ⟨"list", [[.rule "item" 1], [.oneOrMore (.choice [[], [.terminal "comma", .rule "rest" 1]])]]⟩
    [.oneOrMore (.choice [[], [.terminal "comma", .rule "rest" 1]])] misnamedBefore
    (.rule "rest" 1) := by
  refine ⟨⟨[], _, rfl, nofun⟩, ⟨[[.rule "item" 1]], [], rfl, ?_⟩, ⟨_, rfl⟩, fun y hy => ?_, ?_⟩
  · rintro row hrow
    obtain rfl := List.mem_singleton.mp hrow
    rw [Expression.resolvesIn_iff]
    intro y hy
    obtain rfl : y = .rule "item" 1 := by
      simpa [Expression.lexemes, sequenceLexemes, tailLexemes, Element.lexemes] using hy
    exact ⟨_, rfl, rfl⟩
  · obtain rfl : y = .terminal "comma" := by simpa [misnamedBefore] using hy
    show ∃ t ∈ listTerminals, t.name = "comma"
    decide +kernel
  · rintro ⟨r, hr, hn⟩
    cases hr
    simp at hn

theorem tables_report_first_unresolved_misnamed :
    (∃ g, ofTables listTerminals listRules = .ok g ∧
      ∀ r ∈ listRules, ∀ es ∈ r.expressions, ∀ e ∈ es, ∀ x, e.Refers x →
        x.ResolvesIn listTerminals listRules) ∧
    ofTables listTerminals misnamedRules =
      .error (.unknownSymbol "list" "rest" "( | comma rest)+" ⟨10, 14⟩) ∧
    ofTables listTerminals [] = .error .noRules := by
  refine ⟨⟨lists, lists_ofTables, ?_⟩, ?_, ?_⟩
  · exact (((tables_report_first_unresolved _ _).1 _).mp lists_ofTables).2.2
  · refine ((tables_report_first_unresolved _ _).2 _).mpr (.inr ?_)
    refine ⟨_, _, _, _, ⟨10, 14⟩, firstUnresolved_misnamed, ?_, ?_, ?_⟩
    · rfl
    · decide +kernel
    · decide +kernel
  · exact ((tables_report_first_unresolved _ _).2 _).mpr (.inl ⟨rfl, rfl⟩)

-- The span of an error starts at the first place where the name stands in the text. It is the place
-- of the reference that does not resolve just if the name does not stand further ahead, be it as a
-- part of other names or as a reference that resolves.
theorem span_marks_first_place [RegexEngine] {terminals : List Terminal} {rules : List Rule}
    {rule symbol text : String} {span : Span}
    (h : ofTables terminals rules = .error (.unknownSymbol rule symbol text span)) :
    (∃ r es before x, FirstUnresolved terminals rules r es before x) ∧
    ∀ r es before x, FirstUnresolved terminals rules r es before x →
      let place := byteLength (Lexeme.chars before)
      rule = r.name ∧ symbol = x.name ∧ text = es.text ∧
        StandsAt symbol.toList text.toList place ∧ span.start ≤ place ∧
        IsLeast {o | StandsAt symbol.toList text.toList o} span.start ∧
        span.stop = span.start + symbol.utf8ByteSize ∧
        (span = ⟨place, place + symbol.utf8ByteSize⟩ ↔
          ∀ o < place, ¬StandsAt symbol.toList text.toList o) := by
  constructor
  case left =>
    rcases ofTables_eq_error_iff.mp h with ⟨_, he⟩ | ⟨r, es, before, x, hf, _⟩
    case inl => cases he
    case inr => exact ⟨r, es, before, x, hf⟩
  case right =>
    intro r es before x hf place
    have he := h.symm.trans (ofTables_eq_error_iff.mpr (.inr ⟨r, es, before, x, hf, rfl⟩))
    obtain ⟨rfl, rfl, rfl, hspan⟩ := GrammarError.unknownSymbol.inj (Except.error.inj he)
    have hp : StandsAt x.name.toList es.text.toList place := hf.standsAt
    have ⟨hl, hs⟩ := (spanOf_eq_iff hp).mp hspan
    refine ⟨rfl, rfl, rfl, hp, hl.2 hp, hl, hs, ?_⟩
    rw [hspan, eq_comm, spanOf_eq_iff hp]
    exact ⟨fun ⟨hl, _⟩ o ho hn => (hl.2 hn).not_gt ho,
      fun h => ⟨⟨hp, fun o ho => not_lt.mp fun hlt => h o hlt ho⟩, rfl⟩⟩

theorem span_marks_first_place_misnamed :
    ofTables listTerminals misnamedRules =
      .error (.unknownSymbol "list" "rest" "( | comma rest)+" ⟨10, 14⟩) ∧
    byteLength (Lexeme.chars misnamedBefore) = 10 ∧
    ∀ o < 10, ¬StandsAt "rest".toList "( | comma rest)+".toList o := by
  have h : ofTables listTerminals misnamedRules =
      .error (.unknownSymbol "list" "rest" "( | comma rest)+" ⟨10, 14⟩) :=
    ofTables_eq_error_iff.mpr (.inr ⟨_, _, _, _, firstUnresolved_misnamed, rfl⟩)
  have ⟨_, hspan⟩ := span_marks_first_place h
  have ⟨_, _, _, _, _, _, _, hi⟩ := hspan _ _ _ _ firstUnresolved_misnamed
  exact ⟨h, rfl, hi.mp rfl⟩

-- The letters of the name that does not resolve are those of the one ahead of it.
theorem span_misses_reference :
    let es : Expression := [.terminal "integer", .terminal "int"]
    let before : List Lexeme := [.reference (.terminal "integer"), .mark " "]
    let r : Rule := ⟨"list", [es]⟩
    FirstUnresolved listTerminals [r] r es before (.terminal "int") ∧
      byteLength (Lexeme.chars before) = 8 ∧
      ofTables listTerminals [r] = .error (.unknownSymbol "list" "int" "integer int" ⟨0, 3⟩) := by
  intro es before r
  have hf : FirstUnresolved listTerminals [r] r es before (.terminal "int") := by
    refine ⟨⟨[], [], rfl, nofun⟩, ⟨[], [], rfl, nofun⟩, ⟨[], rfl⟩, fun y hy => ?_, ?_⟩
    · obtain rfl : y = .terminal "integer" := by simpa [before] using hy
      show ∃ t ∈ listTerminals, t.name = "integer"
      decide +kernel
    · show ¬∃ t ∈ listTerminals, t.name = "int"
      decide +kernel
  exact ⟨hf, rfl, ofTables_eq_error_iff.mpr (.inr ⟨_, _, _, _, hf, by decide +kernel⟩)⟩

end Grammar
end PegParser
