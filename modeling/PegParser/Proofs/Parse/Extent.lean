import PegParser.Proofs.Parse.Failures
import PegParser.Proofs.Parse.Spans

namespace PegParser.Parse

open Relation

structure Extends (s : TokenStream) (nodes : List Tree) (next : Nat) : Prop where
  stop : ∀ t l, nodes.getLast? = some t → (Tree.nodesOf nodes).getLast? = some l →
    t.span.stop = l.span.stop
  last : ∀ l, (Tree.nodesOf nodes).getLast? = some l →
    l.isLeaf ∨ l.span.stop = (s.position next).index

variable {s : TokenStream} {c next last o : Nat} {nodes nodes' : List Tree} {text : List Char}
variable {tokens : Set Token} {stop length start : Nat} {t : Tree}

namespace Extends

theorem nil : Extends s [] c :=
  ⟨nofun, by simp⟩

theorem leaf {t : Token} : Extends s [.leaf t] c := by
  constructor <;> simp [Tree.leaf, Tree.nodes, Tree.filter, Tree.filterAll, Tree.isLeaf]

theorem append (h : Extends s nodes next) (h' : Extends s nodes' last)
    (hs : nodes' = [] → last = next) : Extends s (nodes ++ nodes') last := by
  by_cases hn : nodes' = []
  case pos =>
    rw [hn, List.append_nil, hs hn]
    exact h
  case neg =>
    have hn' := Tree.nodesOf_ne_nil hn
    constructor <;>
      rw [Tree.nodesOf_append, List.getLast?_append_of_ne_nil _ hn']
    case stop => simpa [List.getLast?_append_of_ne_nil _ hn] using h'.stop
    case last => exact h'.last

theorem node {r : Rule} (h : Extends s nodes next) (hp : Placed s text c nodes next) :
    Extends s [ruleNode s r nodes c] next := by
  have hn : Tree.nodesOf [ruleNode s r nodes c] = ruleNode s r nodes c :: Tree.nodesOf nodes :=
    nodesOf_ruleNode
  by_cases hnodes : nodes = []
  case pos =>
    have hc := hp.still hnodes
    subst hnodes hc
    constructor <;> rw [hn]
    case stop =>
      intro t l ht hl
      cases ht
      cases hl
      rfl
    case last =>
      intro l hl
      cases hl
      exact .inr rfl
  case neg =>
    have ⟨first, hf⟩ := Option.ne_none_iff_exists'.mp (mt List.head?_eq_none_iff.mp hnodes)
    have ⟨last, hl⟩ := Option.ne_none_iff_exists'.mp (mt List.getLast?_eq_none_iff.mp hnodes)
    have hs : (ruleNode s r nodes c).span = ⟨first.span.start, last.span.stop⟩ :=
      hp.spread.span_node hf hl
    have he : (Tree.nodesOf [ruleNode s r nodes c]).getLast? = (Tree.nodesOf nodes).getLast? := by
      rw [hn, List.getLast?_cons_of_ne_nil (Tree.nodesOf_ne_nil hnodes)]
    constructor <;> rw [he]
    case last => exact h.last
    case stop =>
      intro t l ht hl'
      cases ht
      have hs : (ruleNode s r nodes c).span.stop = last.span.stop := by rw [hs]
      exact hs.trans (h.stop last l hl hl')

end Extends

theorem nextStart_of_head? {t : Token} {ts : List Token} (h : Path tokens o ts stop)
    (ht : ts.head? = some t) : NextStart tokens length o t.index := by
  cases h
  case nil => contradiction
  case cons hm ho hl _ =>
    cases ht
    exact .token ⟨⟨ho, _, hm, rfl⟩, fun _ ⟨hi, u, hu, he⟩ => he ▸ hl u hu (he ▸ hi)⟩

section

variable [RegexEngine] {g : Grammar} {p : Phrase} {input : String} {ds : List SyntaxError}

theorem Runs.extends (h : Runs g (g.stream input) p c (some (nodes, next)) ds)
    (hc : c ≤ (g.stream input).size) : Extends (g.stream input) nodes next := by
  have hs : (g.stream input).Lawful := g.lawful_stream
  generalize hm : some (nodes, next) = m at h
  induction h generalizing nodes next <;> cases hm
  case taken => exact .leaf
  case absent | ended | nil => exact .nil
  case oneMore h _ h' hi hi' | again h _ h' hi hi' | cons h h' hi hi' =>
    have hn := h.next_le hs hc
    exact (hi hc rfl).append (hi' hn rfl) (h'.placed hn).still
  case ruled h hi => exact (hi hc rfl).node (h.placed hc)
  case call hi | chosen hi | present hi | many hi | oneStill hi | still hi | first hi | later hi =>
    exact hi hc rfl

-- A node starts with the first leaf. If the last leaf is the last of the nodes below it, it ends
-- with that. Otherwise the node of a rule that has matched nothing comes after that leaf, and the
-- end is where the next token starts, or the end of the input if there is none.
structure ExtendsOver (tokens : Set Token) (length : Nat) (t first last : Tree) : Prop where
  start : t.span.start = first.span.start
  stop : t.nodes.getLast? = some last → t.span.stop = last.span.stop
  next : t.nodes.getLast? ≠ some last → NextStart tokens length last.span.stop t.span.stop

theorem Runs.extendsOver {first last : Tree}
    (h : Runs g (g.stream input) p c (some ([t], next)) ds) (hc : c ≤ (g.stream input).size)
    (ho : (g.stream input).At o c) (hf : t.leaves.head? = some first)
    (hl : t.leaves.getLast? = some last) :
    ExtendsOver {t | t ∈ g.tokenize input} input.utf8ByteSize t first last := by
  have hs : (g.stream input).Lawful := g.lawful_stream
  have ⟨_, hm, .matched ha _⟩ := h.means hs ho
  have ⟨ts, hts, hp⟩ := hm.spell hs
  have he := h.extends hc
  rw [Tree.leavesOf_singleton] at hts
  have hfirst : ts.head?.map Tree.leaf = some first := by rwa [hts, List.head?_map] at hf
  have hlast : ts.getLast?.map Tree.leaf = some last := by rwa [hts, List.getLast?_map] at hl
  obtain ⟨ft, hft, rfl⟩ := Option.map_eq_some_iff.mp hfirst
  obtain ⟨lt, hlt, rfl⟩ := Option.map_eq_some_iff.mp hlast
  constructor
  case start =>
    have hstart : t.span.start = ((g.stream input).position c).index := (h.placed hc).head t rfl
    exact hstart.trans ((ho.nextStart hs).unique (nextStart_of_head? hp hft))
  case stop =>
    intro hn
    exact he.stop t _ rfl (by simpa using hn)
  case next =>
    intro hn
    have ⟨l, hnodes⟩ := Option.ne_none_iff_exists'.mp
      (mt List.getLast?_eq_none_iff.mp (List.ne_nil_of_mem t.mem_nodes_self))
    have hnodes' : (Tree.nodesOf [t]).getLast? = some l := by simpa using hnodes
    rcases he.last l hnodes' with hleaf | hstop
    case inl =>
      have hlast := Tree.getLast?_leaves hnodes hleaf
      exact absurd (hnodes.trans (hlast.symm.trans hl)) hn
    case inr =>
      have hnext := ha.nextStart hs
      rw [hp.stop_eq_of_getLast? hlt, Grammar.setOf_mem_stream, Grammar.stream_length] at hnext
      rw [he.stop t l rfl hnodes', hstop]
      exact hnext

-- What the node of a rule covers in a parse, if it has leaves. No token starts between the last of
-- them and the end of the node, but there may be text which none of them has taken.
theorem rule_nodes_extend_over_leaves {g : Grammar} {input : String} {complete : Bool}
    {errors : ErrorStack} {tree : Tree} (h : (g.analyze input complete errors).1 = .parsed tree) :
    ∀ t ∈ tree.nodes, t.value = none → ∀ first last,
      t.leaves.head? = some first → t.leaves.getLast? = some last →
      ExtendsOver {t | t ∈ g.tokenize input} input.utf8ByteSize t first last := by
  intro t ht hv first last hf hl
  have hs : (g.stream input).Lawful := g.lawful_stream
  have ⟨_, _, hr⟩ := (analyze_parses g input complete errors).exists_runs_of_parsed h
  have ht : t ∈ Tree.nodesOf [tree] := by simpa using ht
  have ⟨_, _, _, _, hcall, hr'⟩ := hr.called t ht hv
  have ⟨hc, _⟩ := hr.within_visits hs hcall
  have ⟨_, ho⟩ := exists_at_of_calls hs hcall ⟨0, .zero⟩
  exact hr'.extendsOver hc ho hf hl

end

open Grammar in
theorem rule_nodes_extend_over_leaves_lists :
    ∃ tree t first last, (lists.analyze "(7 ) " true .empty).1 = .parsed tree ∧ t ∈ tree.nodes ∧
      t.span = ⟨1, 3⟩ ∧ first.span = ⟨1, 2⟩ ∧ last.span = ⟨1, 2⟩ ∧
      ExtendsOver {t | t ∈ lists.tokenize "(7 ) "} 5 t first last := by
  have h : (treeOf? (lists.analyze "(7 ) " true .empty).1).any fun tree =>
      tree.nodes.any fun t => t.value.isNone && t.span == ⟨1, 3⟩ &&
        t.leaves.head?.any (·.span == ⟨1, 2⟩) && t.leaves.getLast?.any (·.span == ⟨1, 2⟩) := by
    decide +kernel
  simp only [Option.any_eq_true, List.any_eq_true, Bool.and_eq_true, beq_iff_eq,
    Option.isNone_iff_eq_none] at h
  have ⟨tree, ht, t, hm, ⟨⟨hv, hs⟩, first, hf, hfs⟩, last, hl, hls⟩ := h
  have ht := eq_parsed_of_treeOf? ht
  exact ⟨tree, t, first, last, ht, hm, hs, hfs, hls,
    rule_nodes_extend_over_leaves ht t hm hv first last hf hl⟩

-- A rule that matches nothing takes its caller over the blanks at the end.
open Grammar in
theorem rule_node_exceeds_leaves :
    ∃ g tree last, ofDocument (documentOf []
        [ruleEntry "main" ["integer none"], ruleEntry "none" [""]]) = .ok g ∧
      ¬g.LeftRecursive ∧ (g.analyze "7  " false .empty).1 = .parsed tree ∧ tree.value = none ∧
      tree.leaves.getLast? = some last ∧ last.span.stop = 1 ∧ tree.span.stop = 3 := by
  have h : (ofDocument (documentOf []
        [ruleEntry "main" ["integer none"], ruleEntry "none" [""]])).toOption.any fun g =>
      isRanked (fun i => i == 1) g (fun i => 1 - i) &&
        (treeOf? (g.analyze "7  " false .empty).1).any fun tree => tree.value.isNone &&
          tree.leaves.getLast?.any (·.span.stop == 1) && tree.span.stop == 3 := by
    decide +kernel
  have ⟨g, hg, h⟩ := Except.exists_of_any h
  simp only [Bool.and_eq_true, Option.any_eq_true, beq_iff_eq, Option.isNone_iff_eq_none] at h
  have ⟨hr, tree, ht, ⟨hv, last, hl, hls⟩, hs⟩ := h
  exact ⟨g, tree, last, hg, not_leftRecursive_of_isRanked hr, eq_parsed_of_treeOf? ht, hv, hl, hls,
    hs⟩

end PegParser.Parse
