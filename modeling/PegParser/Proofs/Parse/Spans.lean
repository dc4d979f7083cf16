import PegParser.Proofs.Parse.Derivation
import PegParser.Proofs.Parse.Stack

namespace PegParser

namespace Tree

inductive Spread : (lo : Nat) → List Tree → (hi : Nat) → Prop
  | nil {lo hi} : lo ≤ hi → Spread lo [] hi
  | cons {lo t ts hi} :
    lo ≤ t.span.start → t.span.start ≤ t.span.stop → Spread t.span.stop ts hi →
    Spread lo (t :: ts) hi

namespace Spread

variable {lo lo' mid hi : Nat} {ts ts' : List Tree} {t first last : Tree}

theorem le (h : Spread lo ts hi) : lo ≤ hi := by
  induction h
  case nil h         => exact h
  case cons h h' _ h'' => exact h.trans (h'.trans h'')

theorem of_le (h : Spread lo' ts hi) (hle : lo ≤ lo') : Spread lo ts hi :=
  match h with
  | .nil h         => .nil (hle.trans h)
  | .cons hlo ht h => .cons (hle.trans hlo) ht h

theorem append (h : Spread lo ts mid) (h' : Spread mid ts' hi) : Spread lo (ts ++ ts') hi := by
  induction h
  case nil hle          => exact h'.of_le hle
  case cons hlo hle _ hi => exact .cons hlo hle (hi h')

theorem mem (h : Spread lo ts hi) (ht : t ∈ ts) : lo ≤ t.span.start ∧ t.span.stop ≤ hi := by
  induction h
  case nil => contradiction
  case cons hlo hle h hi =>
    cases ht
    case head    => exact ⟨hlo, h.le⟩
    case tail ht =>
      have ⟨hs, hh⟩ := hi ht
      exact ⟨hlo.trans (hle.trans hs), hh⟩

theorem isChain (h : Spread lo ts hi) : ts.IsChain (·.span.stop ≤ ·.span.start) := by
  induction h
  case nil => exact .nil
  case cons h hi =>
    cases h
    case nil        => exact .singleton _
    case cons hlo _ => exact .cons_cons hlo hi

theorem tight_left (h : Spread lo ts hi) (hf : ts.head? = some first) :
    Spread first.span.start ts hi :=
  match h with
  | .cons _ ht h => Option.some.inj hf ▸ .cons le_rfl ht h

theorem tight_right (h : Spread lo ts hi) (hl : ts.getLast? = some last) :
    Spread lo ts last.span.stop := by
  induction h
  case nil => contradiction
  case cons hlo hle h hi =>
    cases h
    case nil =>
      cases hl
      exact .cons hlo hle (.nil le_rfl)
    case cons => exact .cons hlo hle (hi (by simpa using hl))

theorem span_node {label : String} {fallback : Span} (h : Spread lo ts hi)
    (hf : ts.head? = some first) (hl : ts.getLast? = some last) :
    (Tree.node label ts fallback).span = ⟨first.span.start, last.span.stop⟩ := by
  have h := (h.tight_left hf).tight_right hl
  simp [Tree.node, hf, hl, Span.join, h.mem (List.mem_of_head? hf), h.mem (List.mem_of_getLast? hl)]

end Spread

-- The spans of a node and of its children are pieces of the text, and the children stand side by
-- side and fill the node.
structure WellSpanned (text : List Char) (t : Tree) : Prop where
  start_le_stop : t.span.start ≤ t.span.stop
  stop_le : t.span.stop ≤ Text.byteLength text
  start_isBoundary : Text.IsBoundary text t.span.start
  stop_isBoundary : Text.IsBoundary text t.span.stop
  within : ∀ child ∈ t.children, t.span.start ≤ child.span.start ∧ child.span.stop ≤ t.span.stop
  chain : t.children.IsChain (·.span.stop ≤ ·.span.start)
  fills : ∀ first last, t.children.head? = some first → t.children.getLast? = some last →
    t.span = ⟨first.span.start, last.span.stop⟩

namespace WellSpanned

variable {text : List Char} {input label : String} {ts : List Tree} {lo hi start : Nat}

theorem leaf {t : Token} (h : t.StandsIn input) : WellSpanned input.toList (.leaf t) where
  start_le_stop := h.index_lt_stop.le
  stop_le := (Text.isBoundary_of_slice? h.slice?).2.le
  start_isBoundary := (Text.isBoundary_of_slice? h.slice?).1
  stop_isBoundary := (Text.isBoundary_of_slice? h.slice?).2
  within := nofun
  chain := .nil
  fills := nofun

theorem empty (h : Text.IsBoundary text start) :
    WellSpanned text (.node label [] (.point start)) where
  start_le_stop := le_rfl
  stop_le := h.le
  start_isBoundary := h
  stop_isBoundary := h
  within := nofun
  chain := .nil
  fills := nofun

theorem node {first last : Tree} {fallback : Span} (h : Spread lo ts hi)
    (hts : ∀ t ∈ ts, WellSpanned text t) (hf : ts.head? = some first)
    (hl : ts.getLast? = some last) : WellSpanned text (.node label ts fallback) := by
  have hfirst := List.mem_of_head? hf
  have hlast := List.mem_of_getLast? hl
  have h := (h.tight_left hf).tight_right hl
  have hs : (Tree.node label ts fallback).span = ⟨first.span.start, last.span.stop⟩ :=
    h.span_node hf hl
  constructor
  case start_le_stop =>
    rw [hs]
    exact h.le
  case stop_le =>
    rw [hs]
    exact (hts last hlast).stop_le
  case start_isBoundary =>
    rw [hs]
    exact (hts first hfirst).start_isBoundary
  case stop_isBoundary =>
    rw [hs]
    exact (hts last hlast).stop_isBoundary
  case within =>
    intro child hc
    rw [hs]
    exact h.mem hc
  case chain => exact h.isChain
  case fills =>
    intro first' last' hf' hl'
    cases hf.symm.trans hf'
    cases hl.symm.trans hl'
    exact hs

end WellSpanned

end Tree

namespace Parse

open Relation

-- The nodes stand side by side between the places of the cursors, and the first of them starts at
-- the first cursor. Where there are none, the cursors are the same.
structure Placed (s : TokenStream) (text : List Char) (c : Nat) (nodes : List Tree) (next : Nat) :
    Prop where
  spread : Tree.Spread (s.position c).index nodes (s.position next).index
  head : ∀ t, nodes.head? = some t → t.span.start = (s.position c).index
  still : nodes = [] → next = c
  spanned : ∀ t ∈ Tree.nodesOf nodes, t.WellSpanned text

section

variable {s : TokenStream} {c next last : Nat} {nodes nodes' : List Tree} {text : List Char}
variable {input : String}

namespace Placed

theorem nil : Placed s text c [] c where
  spread := .nil le_rfl
  head := nofun
  still _ := rfl
  spanned := by simp

theorem append (h : Placed s text c nodes next) (h' : Placed s text next nodes' last) :
    Placed s text c (nodes ++ nodes') last where
  spread := h.spread.append h'.spread
  head t ht := by
    cases nodes
    case nil  => exact h.still rfl ▸ h'.head t ht
    case cons => exact h.head t ht
  still he := by
    have ⟨hn, hn'⟩ := List.append_eq_nil_iff.mp he
    exact (h'.still hn').trans (h.still hn)
  spanned := by
    rw [Tree.nodesOf_append]
    exact List.forall_mem_append.mpr ⟨h.spanned, h'.spanned⟩

theorem leaf {t : Token} (hs : s.Lawful) (hc : c ≤ s.size) (ht : t ∈ s.group c)
    (hi : t.StandsIn input) : Placed s input.toList c [.leaf t] (s.skipTo c t.stop) where
  spread := by
    have hm := hs.mem_tokens_of_mem_group ht
    refine .cons (hs.index_of_mem_group ht).ge hi.index_lt_stop.le (.nil ?_)
    exact hs.offset_le_position_skipTo hc (hs.stop_le t hm)
  head _ he := Option.some.inj he ▸ hs.index_of_mem_group ht
  still := nofun
  spanned := by simpa using .leaf hi

variable {r : Rule}

theorem wellSpanned_ruleNode (h : Placed s text c nodes next)
    (hb : Text.IsBoundary text (s.position c).index) : (ruleNode s r nodes c).WellSpanned text := by
  cases hf : nodes.head?
  case none =>
    rw [List.head?_eq_none_iff.mp hf]
    exact .empty hb
  case some first =>
    have hl := List.getLast?_eq_some_getLast (List.ne_nil_of_mem (List.mem_of_head? hf))
    exact .node h.spread (fun t ht => h.spanned t (Tree.mem_nodesOf_of_mem ht)) hf hl

theorem spread_ruleNode (h : Placed s text c nodes next) :
    (ruleNode s r nodes c).span.start = (s.position c).index ∧
      (ruleNode s r nodes c).span.stop ≤ (s.position next).index := by
  cases hf : nodes.head?
  case none =>
    rw [List.head?_eq_none_iff.mp hf]
    exact ⟨rfl, h.spread.le⟩
  case some first =>
    have hl := List.getLast?_eq_some_getLast (List.ne_nil_of_mem (List.mem_of_head? hf))
    rw [ruleNode, h.spread.span_node hf hl]
    exact ⟨h.head first hf, (h.spread.mem (List.mem_of_getLast? hl)).2⟩

theorem node (h : Placed s text c nodes next) (hb : Text.IsBoundary text (s.position c).index) :
    Placed s text c [ruleNode s r nodes c] next where
  spread := by
    have ⟨hs, hn⟩ := h.spread_ruleNode (r := r)
    exact .cons hs.ge (h.wellSpanned_ruleNode hb).start_le_stop (.nil hn)
  head _ ht := Option.some.inj ht ▸ h.spread_ruleNode.1
  still := nofun
  spanned := by
    rw [nodesOf_ruleNode]
    exact List.forall_mem_cons.mpr ⟨h.wellSpanned_ruleNode hb, h.spanned⟩

end Placed

theorem position_isBoundary (hs : ∀ t ∈ s.tokens, t.StandsIn input)
    (hl : s.lines.length = input.utf8ByteSize) (c : Nat) :
    Text.IsBoundary input.toList (s.position c).index := by
  cases ht : s.tokens[c]? <;> simp only [TokenStream.position, ht]
  case none =>
    rw [LineIndex.last_index, hl, ← Text.byteLength_toList]
    exact Text.isBoundary_byteLength
  case some t =>
    have hi := hs t (TokenStream.mem_tokens_iff.mpr ⟨c, ht⟩)
    exact (Text.isBoundary_of_slice? hi.slice?).1

variable [RegexEngine] {g : Grammar} {p : Phrase} {ds : List SyntaxError}

theorem Runs.placed (h : Runs g (g.stream input) p c (some (nodes, next)) ds)
    (hc : c ≤ (g.stream input).size) : Placed (g.stream input) input.toList c nodes next := by
  have hs : (g.stream input).Lawful := g.lawful_stream
  have hi : ∀ t ∈ (g.stream input).tokens, t.StandsIn input :=
    fun t ht => Token.tokenize_standsIn (Grammar.mem_stream_iff.mp ht)
  generalize hm : some (nodes, next) = m at h
  induction h generalizing nodes next <;> cases hm
  case taken ht =>
    have ht := List.mem_of_find?_eq_some ht
    exact .leaf hs hc ht (hi _ (hs.mem_tokens_of_mem_group ht))
  case absent | ended | nil => exact .nil
  case oneMore h _ _ hi hi' | again h _ _ hi hi' | cons h _ hi hi' =>
    exact (hi hc rfl).append (hi' (h.next_le hs hc) rfl)
  case ruled hr => exact (hr hc rfl).node (position_isBoundary hi rfl _)
  case call hi | chosen hi | present hi | many hi | oneStill hi | still hi | first hi | later hi =>
    exact hi hc rfl

-- Each node of a rule is what the rule has matched where it has been called.
def Called (g : Grammar) (s : TokenStream) (x : Phrase × Nat) (nodes : List Tree) : Prop :=
  ∀ t ∈ Tree.nodesOf nodes, t.value = none →
    ∃ index c next ds, ReflTransGen (Calls g s) x (.rule index, c) ∧
      Runs g s (.rule index) c (some ([t], next)) ds

namespace Called

variable {x y : Phrase × Nat}

theorem nil : Called g s x [] := by
  simp [Called]

theorem append (h : Called g s x nodes) (h' : Called g s x nodes') :
    Called g s x (nodes ++ nodes') := by
  rw [Called, Tree.nodesOf_append]
  exact List.forall_mem_append.mpr ⟨h, h'⟩

theorem of_calls (hcall : Calls g s x y) (h : Called g s y nodes) : Called g s x nodes :=
  fun t ht hv => have ⟨_, _, _, _, hc, hr⟩ := h t ht hv; ⟨_, _, _, _, .head hcall hc, hr⟩

theorem leaf {t : Token} : Called g s x [.leaf t] := by
  simp [Called, Tree.leaf, Tree.nodes, Tree.filter, Tree.filterAll]

end Called

theorem Runs.called (h : Runs g s p c (some (nodes, next)) ds) : Called g s (p, c) nodes := by
  generalize hm : some (nodes, next) = m at h
  induction h generalizing nodes next <;> cases hm
  case taken                  => exact .leaf
  case absent | ended | nil   => exact .nil
  case call hi                => exact .of_calls .call (hi rfl)
  case chosen hi              => exact .of_calls .choice (hi rfl)
  case present hi             => exact .of_calls .zeroOrOne (hi rfl)
  case many hi                => exact .of_calls .zeroOrMore (hi rfl)
  case oneStill hi            => exact .of_calls .one (hi rfl)
  case oneMore h hlt _ hi hi' =>
    exact .append (.of_calls .one (hi rfl)) (.of_calls (.orMore h hlt) (hi' rfl))
  case still hi               => exact .of_calls .again (hi rfl)
  case again h hlt _ hi hi' =>
    exact .append (.of_calls .again (hi rfl)) (.of_calls (.andAgain h hlt) (hi' rfl))
  case cons h _ hi hi' =>
    exact .append (.of_calls .head (hi rfl)) (.of_calls (.tail h) (hi' rfl))
  case first hi               => exact .of_calls .first (hi rfl)
  case later h _ _ hi         => exact .of_calls (.later h) (hi rfl)
  case ruled hr h hi =>
    rw [Called, nodesOf_ruleNode]
    refine List.forall_mem_cons.mpr ⟨fun _ => ⟨_, _, _, _, .refl, .ruled hr h⟩, ?_⟩
    exact (hi rfl).of_calls (.rule hr)

end

theorem rule_eq_matched [RegexEngine] {g : Grammar} {s : TokenStream} {index c next : Nat}
    {t : Tree} {ds : List SyntaxError} (hs : s.Lawful) (hc : c ≤ s.size)
    (h : Runs g s (.rule index) c (some ([t], next)) ds) (errors : ErrorStack) :
    rule g s (depthLimit g s) index c errors = .matched t next (errors.pushAll ds) := by
  exact Step.map_singleton_inj.mp (h.attempt_eq hs hc nofun errors)

theorem index_position [RegexEngine] {g : Grammar} {input : String} {c : Nat} :
    ((g.stream input).position c).index =
      ((g.tokenize input)[c]?.map Token.index).getD input.utf8ByteSize := by
  cases ht : (g.tokenize input)[c]?
  all_goals
    simp [TokenStream.position, Grammar.stream, TokenStream.ofTokens, ht, Token.index,
      LineIndex.last_index, LineIndex.ofText]

-- Every node of a parse has a piece of the input as its span, and its children stand side by side
-- and fill it. The node of a rule starts where the token stands at which the rule has been tried, or
-- at the end of the input if no token is left there.
theorem spans_nest [RegexEngine] {g : Grammar} {input : String} {complete : Bool}
    {errors : ErrorStack} {tree : Tree} (h : (g.analyze input complete errors).1 = .parsed tree) :
    let s := g.stream input
    ∀ t ∈ tree.nodes, t.WellSpanned input.toList ∧
      (t.value = none → ∃ index c next, Visits g s (.rule index) c ∧
        (∀ errors, ∃ errors', rule g s (depthLimit g s) index c errors = .matched t next errors') ∧
        t.span.start = ((g.tokenize input)[c]?.map Token.index).getD input.utf8ByteSize) := by
  intro s t ht
  have hs : s.Lawful := g.lawful_stream
  have ⟨_, _, hr⟩ := (analyze_parses g input complete errors).exists_runs_of_parsed h
  have ht : t ∈ Tree.nodesOf [tree] := by simpa using ht
  refine ⟨(hr.placed (Nat.zero_le _)).spanned t ht, fun hv => ?_⟩
  have ⟨index, c, next, ds, hcall, hr'⟩ := hr.called t ht hv
  have ⟨hc, _⟩ := hr.within_visits hs hcall
  refine ⟨index, c, next, hcall, fun errors => ⟨_, rule_eq_matched hs hc hr' errors⟩, ?_⟩
  rw [← index_position]
  exact (hr'.placed hc).head t rfl

open Grammar in
theorem spans_nest_lists :
    ∃ tree, (lists.analyze "(7 ) " true .empty).1 = .parsed tree ∧
      tree.nodes.map (fun t => (t.label, t.span.start, t.span.stop)) =
        [("list", 0, 5), ("item", 0, 4), ("open", 0, 1), ("list", 1, 3), ("item", 1, 2),
          ("real", 1, 2), ("rest", 3, 3), ("close", 3, 4), ("rest", 5, 5)] ∧
      ∀ t ∈ tree.nodes, t.WellSpanned "(7 ) ".toList ∧ (t.value = none →
        ∃ c : Nat, t.span.start = ((lists.tokenize "(7 ) ")[c]?.map Token.index).getD 5) := by
  have ht : (treeOf? (lists.analyze "(7 ) " true .empty).1).map
      (·.nodes.map fun t => (t.label, t.span.start, t.span.stop)) =
        some [("list", 0, 5), ("item", 0, 4), ("open", 0, 1), ("list", 1, 3), ("item", 1, 2),
          ("real", 1, 2), ("rest", 3, 3), ("close", 3, 4), ("rest", 5, 5)] := by
    decide +kernel
  have ⟨tree, ht, hn⟩ := Option.map_eq_some_iff.mp ht
  have h := eq_parsed_of_treeOf? ht
  refine ⟨tree, h, hn, fun t ht => ?_⟩
  have ⟨hw, hr⟩ := spans_nest h t ht
  refine ⟨hw, fun hv => ?_⟩
  have ⟨_, c, _, _, _, hs⟩ := hr hv
  exact ⟨c, hs⟩

end Parse

end PegParser
