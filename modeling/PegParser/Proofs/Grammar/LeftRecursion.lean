import Mathlib
import PegParser.Grammar
import PegParser.Regex

namespace PegParser.Grammar

section

variable [RegexEngine] (g : Grammar)

structure Resolved : Prop where
  size_pos : 0 < g.rules.size
  unresolved?_eq_none {index r es} :
    g.rule? index = some r → es ∈ r.expressions → g.unresolvedInSequence? es = none

-- The elements that can match without a token.
inductive Nullable : Element → Prop
  | zeroOrOne {e} : Nullable (.zeroOrOne e)
  | zeroOrMore {e} : Nullable (.zeroOrMore e)
  | oneOrMore {e} : Nullable e → Nullable (.oneOrMore e)
  | choice {alternatives es} :
    es ∈ alternatives → (∀ e ∈ es, Nullable e) → Nullable (.choice alternatives)
  | rule {name index r es} :
    g.rule? index = some r → es ∈ r.expressions → (∀ e ∈ es, Nullable e) →
    Nullable (.rule name index)

-- The rule stands somewhere in the element, and all that stands before it there is nullable.
inductive Leads (index : Nat) : Element → Prop
  | rule {name} : Leads index (.rule name index)
  | choice {alternatives before e after} :
    before ++ e :: after ∈ alternatives → (∀ b ∈ before, g.Nullable b) → Leads index e →
    Leads index (.choice alternatives)
  | zeroOrOne {e} : Leads index e → Leads index (.zeroOrOne e)
  | zeroOrMore {e} : Leads index e → Leads index (.zeroOrMore e)
  | oneOrMore {e} : Leads index e → Leads index (.oneOrMore e)

def LeadsIn (index : Nat) (es : List Element) : Prop :=
  ∃ before e after, es = before ++ e :: after ∧ (∀ b ∈ before, g.Nullable b) ∧ g.Leads index e

def LeftCalls (i j : Nat) : Prop :=
  ∃ r es, g.rule? i = some r ∧ es ∈ r.expressions ∧ g.LeadsIn j es

def LeftRecursive : Prop :=
  ∃ i, Relation.TransGen g.LeftCalls i i

end

section

variable [RegexEngine] {g : Grammar} {terminals : List Terminal} {rules : List Rule}

theorem lt_size {index : Nat} (h : (g.rule? index).isSome) : index < g.rules.size := by
  simpa [rule?] using h

theorem isSome_rule?_of_unresolved? {name : String} {index : Nat}
    (h : g.unresolved? (.rule name index) = none) : (g.rule? index).isSome := by
  cases hr : g.rule? index <;> simp_all [unresolved?, hasRule]

theorem exists_rule_of_unresolved? {name : String} {index : Nat}
    (h : g.unresolved? (.rule name index) = none) : ∃ r, g.rule? index = some r ∧ r.name = name := by
  simpa [unresolved?, hasRule, Option.any_eq_true] using h

theorem unresolvedInSequence?_eq_none_iff {es : List Element} :
    g.unresolvedInSequence? es = none ↔ ∀ e ∈ es, g.unresolved? e = none := by
  induction es <;> simp_all [unresolvedInSequence?]

theorem unresolvedInAlternatives?_eq_none_iff {alternatives : List (List Element)} :
    g.unresolvedInAlternatives? alternatives = none ↔
      ∀ es ∈ alternatives, g.unresolvedInSequence? es = none := by
  induction alternatives <;> simp_all [unresolvedInAlternatives?]

theorem rules_of_ofTables (h : ofTables terminals rules = .ok g) : g.rules = rules.toArray := by
  simp only [ofTables] at h
  split at h <;> try contradiction
  split at h <;> cases h
  rfl

theorem terminals_of_ofTables (h : ofTables terminals rules = .ok g) : g.terminals = terminals := by
  simp only [ofTables] at h
  split at h <;> try contradiction
  split at h <;> cases h
  rfl

theorem ofTables_eq_ok (hr : rules ≠ [])
    (h : (rules.findSome? (Grammar.mk terminals rules.toArray).ruleError?).isNone) :
    ofTables terminals rules = .ok ⟨terminals, rules.toArray⟩ := by
  simp only [ofTables, List.isEmpty_iff, hr, if_false]
  split <;> simp_all

theorem resolved_of_ofTables (h : ofTables terminals rules = .ok g) : g.Resolved := by
  have hr := rules_of_ofTables h
  have ht := terminals_of_ofTables h
  simp only [ofTables] at h
  split at h <;> try contradiction
  case isFalse hn =>
    split at h <;> try contradiction
    case h_2 hf =>
      have hg : (⟨terminals, rules.toArray⟩ : Grammar) = g := by simpa using h
      rw [hg] at hf
      refine ⟨?_, fun {index r es} hi hes => ?_⟩
      · simp [hr, List.length_pos_iff, ← List.isEmpty_iff, hn]
      · have hm : r ∈ rules := by
          simp only [rule?, hr, List.getElem?_toArray] at hi
          exact List.mem_of_getElem? hi
        have := List.findSome?_eq_none_iff.mp hf r hm
        simpa [ruleError?] using List.findSome?_eq_none_iff.mp this es hes

noncomputable def leftHeight (g : Grammar) (index : Nat) : Nat :=
  open Classical in ((Finset.range g.rules.size).filter (Relation.TransGen g.LeftCalls index)).card

section Height

variable {i j : Nat} (hl : ¬g.LeftRecursive)
include hl

theorem leftHeight_lt (h : g.LeftCalls i j) (hj : j < g.rules.size) :
    g.leftHeight j < g.leftHeight i := by
  refine Finset.card_lt_card (Finset.ssubset_iff.mpr ⟨j, ?_, ?_⟩)
  · simp only [Finset.mem_filter, not_and]
    exact fun _ h => hl ⟨j, h⟩
  · intro k hk
    simp only [Finset.mem_insert, Finset.mem_filter, Finset.mem_range] at hk ⊢
    cases hk
    case inl hk => exact hk ▸ ⟨hj, .single h⟩
    case inr hk => exact ⟨hk.1, .head h hk.2⟩

theorem leftHeight_lt_size (hi : i < g.rules.size) : g.leftHeight i < g.rules.size := by
  rw [← Finset.card_range g.rules.size]
  refine Finset.card_lt_card (Finset.ssubset_iff.mpr ⟨i, ?_, ?_⟩)
  · simp only [Finset.mem_filter, not_and]
    exact fun _ h => hl ⟨i, h⟩
  · intro k hk
    simp only [Finset.mem_insert, Finset.mem_filter] at hk
    cases hk
    case inl hk => exact hk ▸ Finset.mem_range.mpr hi
    case inr hk => exact hk.1

end Height

end

section Ranked

-- The rules that are taken to be nullable.
variable (nullable : Nat → Bool)

mutual

def maybeNullable : Element → Bool
  | .terminal _ => false
  | .rule _ index => nullable index
  | .choice alternatives => maybeNullableChoice alternatives
  | .zeroOrOne _ => true
  | .zeroOrMore _ => true
  | .oneOrMore inner => maybeNullable inner

def maybeNullableSequence : List Element → Bool
  | [] => true
  | e :: es => maybeNullable e && maybeNullableSequence es

def maybeNullableChoice : List (List Element) → Bool
  | [] => false
  | es :: rest => maybeNullableSequence es || maybeNullableChoice rest

end

mutual

def leaders : Element → List Nat
  | .terminal _ => []
  | .rule _ index => [index]
  | .choice alternatives => leadersOfChoice alternatives
  | .zeroOrOne inner => leaders inner
  | .zeroOrMore inner => leaders inner
  | .oneOrMore inner => leaders inner

def leadersOfSequence : List Element → List Nat
  | [] => []
  | e :: es => leaders e ++ if maybeNullable nullable e then leadersOfSequence es else []

def leadersOfChoice : List (List Element) → List Nat
  | [] => []
  | es :: rest => leadersOfSequence es ++ leadersOfChoice rest

end

variable {nullable} {es : List Element} {alternatives : List (List Element)}

theorem maybeNullableSequence_iff :
    maybeNullableSequence nullable es ↔ ∀ e ∈ es, maybeNullable nullable e := by
  induction es <;> simp_all [maybeNullableSequence]

theorem maybeNullableChoice_iff :
    maybeNullableChoice nullable alternatives ↔
      ∃ es ∈ alternatives, ∀ e ∈ es, maybeNullable nullable e := by
  induction alternatives <;> simp_all [maybeNullableChoice, maybeNullableSequence_iff]

theorem mem_leadersOfChoice_iff {index : Nat} :
    index ∈ leadersOfChoice nullable alternatives ↔
      ∃ es ∈ alternatives, index ∈ leadersOfSequence nullable es := by
  induction alternatives <;> simp_all [leadersOfChoice]

theorem mem_leadersOfSequence {index : Nat} {before after : List Element} {e : Element}
    (hb : ∀ b ∈ before, maybeNullable nullable b) (h : index ∈ leaders nullable e) :
    index ∈ leadersOfSequence nullable (before ++ e :: after) := by
  induction before <;> simp_all [leadersOfSequence]

section

variable [RegexEngine] {g : Grammar}

theorem maybeNullable_of_nullable (h : ∀ {index r}, g.rule? index = some r →
    maybeNullableChoice nullable r.expressions → nullable index) {e : Element}
    (he : g.Nullable e) : maybeNullable nullable e := by
  induction he
  case rule hr hes _ hi => exact h hr (maybeNullableChoice_iff.mpr ⟨_, hes, hi⟩)
  case choice hes _ hi  => exact maybeNullableChoice_iff.mpr ⟨_, hes, hi⟩
  case oneOrMore hi     => exact hi
  all_goals rfl

theorem mem_leaders_of_leads (h : ∀ {e}, g.Nullable e → maybeNullable nullable e) {index : Nat}
    {e : Element} (he : g.Leads index e) : index ∈ leaders nullable e := by
  induction he
  case rule => exact List.mem_singleton_self _
  case choice hes hb _ hi =>
    exact mem_leadersOfChoice_iff.mpr ⟨_, hes, mem_leadersOfSequence (fun b hm => h (hb b hm)) hi⟩
  all_goals assumption

variable (nullable) in
def isRanked (g : Grammar) (rank : Nat → Nat) : Bool :=
  (List.range g.rules.size).all fun index => (g.rule? index).all fun r =>
    (nullable index || !maybeNullableChoice nullable r.expressions) &&
      (leadersOfChoice nullable r.expressions).all (rank · < rank index)

variable {rank : Nat → Nat} (h : isRanked nullable g rank)
include h

theorem of_isRanked {index : Nat} {r : Rule} (hr : g.rule? index = some r) :
    (maybeNullableChoice nullable r.expressions → nullable index) ∧
      ∀ j ∈ leadersOfChoice nullable r.expressions, rank j < rank index := by
  have := List.all_eq_true.mp h index (List.mem_range.mpr (lt_size (by simp [hr])))
  simp only [hr, Option.all_some, Bool.and_eq_true, List.all_eq_true, decide_eq_true_eq] at this
  refine ⟨fun hm => ?_, this.2⟩
  simpa [hm] using this.1

theorem maybeNullable_of_isRanked {e : Element} (he : g.Nullable e) : maybeNullable nullable e :=
  maybeNullable_of_nullable (fun hr => (of_isRanked h hr).1) he

theorem rank_lt_of_leftCalls {i j : Nat} (hij : g.LeftCalls i j) : rank j < rank i := by
  have ⟨_, es, hr, hes, before, e, after, heq, hb, hl⟩ := hij
  refine (of_isRanked h hr).2 j (mem_leadersOfChoice_iff.mpr ⟨es, hes, ?_⟩)
  rw [heq]
  exact mem_leadersOfSequence (fun b hm => maybeNullable_of_isRanked h (hb b hm))
    (mem_leaders_of_leads (maybeNullable_of_isRanked h) hl)

theorem not_leftRecursive_of_isRanked : ¬g.LeftRecursive := by
  have hlt {i j} (hij : Relation.TransGen g.LeftCalls i j) : rank j < rank i := by
    induction hij
    case single hij     => exact rank_lt_of_leftCalls h hij
    case tail _ hij hlt => exact (rank_lt_of_leftCalls h hij).trans hlt
  exact fun ⟨_, h⟩ => lt_irrefl _ (hlt h)

end

end Ranked

-- Lists of numbers in which a list in parentheses may stand for a number. After a list there may
-- be more commas, so that the last repetition of its rule can go on without a token.
def listTerminals : List Terminal :=
  (Terminal.ofPatterns [("integer", "[0-9]+"), ("real", "[0-9]+(\\.[0-9]+)?"), ("comma", ","),
    ("open", "\\("), ("close", "\\)")]).toOption.getD []

def listRules : List Rule := [
  ⟨"list", [[.rule "item" 1, .zeroOrMore (.choice [[.terminal "comma", .rule "item" 1]]),
    .zeroOrMore (.rule "rest" 2)]]⟩,
  ⟨"item", [[.terminal "real"],
    [.terminal "open", .zeroOrOne (.rule "list" 0), .terminal "close"]]⟩,
  ⟨"rest", [[.zeroOrOne (.terminal "comma")]]⟩]

def lists : Grammar where
  terminals := listTerminals
  rules := listRules.toArray

theorem lists_ofTables : ofTables listTerminals listRules = .ok lists :=
  ofTables_eq_ok nofun (by decide +kernel)

theorem isRanked_lists : isRanked (· == 2) lists (3 - ·) := by
  decide

theorem not_leftRecursive_lists : ¬lists.LeftRecursive :=
  not_leftRecursive_of_isRanked isRanked_lists

end PegParser.Grammar
