import PegParser.Proofs.Parse.Adequacy

namespace PegParser.Parse

variable {tokens : Set Token} {stop : Nat}

-- The leaves are a selection of the tokens that leaves no gap.
structure Selects (tokens : Set Token) (input : String) (leaves : List Tree) : Prop where
  of_token : ∀ l ∈ leaves, ∃ t ∈ tokens, l = ⟨t.terminal, some t.value, [], ⟨t.index, t.stop⟩⟩
  slice? : ∀ l ∈ leaves,
    Text.slice? input.toList l.span.start l.span.stop = l.value.map String.toList
  chain : leaves.IsChain fun l l' => l.span.stop ≤ l'.span.start ∧
    ∀ t ∈ tokens, ¬(l.span.stop ≤ t.index ∧ t.index < l'.span.start)
  head : ∀ l, leaves.head? = some l → ∀ t ∈ tokens, l.span.start ≤ t.index
  covered : ∀ l, leaves.getLast? = some l → ∀ t ∈ tokens, t.index < l.span.stop →
    ∃ l ∈ leaves, t.index = l.span.start ∨ l.span.start < t.index ∧ t.index < l.span.stop

theorem selects_of_path {input : String} {ts : List Token}
    (hi : ∀ t ∈ tokens, t.StandsIn input) (hp : Path tokens 0 ts stop) :
    Selects tokens input (ts.map .leaf) where
  of_token l hl := by
    have ⟨t, ht, he⟩ := List.mem_map.mp hl
    exact ⟨t, hp.mem ht, he.symm⟩
  slice? l hl := by
    have ⟨t, ht, he⟩ := List.mem_map.mp hl
    subst he
    exact (hi t (hp.mem ht)).slice?
  chain := (List.isChain_map _).mpr hp.isChain
  head l hl t ht := by
    rw [List.head?_map] at hl
    have ⟨u, hu, he⟩ := Option.map_eq_some_iff.mp hl
    subst he
    exact hp.le_index_of_head? hu ht (Nat.zero_le _)
  covered l hl t ht hlt := by
    rw [List.getLast?_map] at hl
    have ⟨u, hu, he⟩ := Option.map_eq_some_iff.mp hl
    subst he
    rw [show (Tree.leaf u).span.stop = u.stop from rfl, ← hp.stop_eq_of_getLast? hu] at hlt
    have ⟨v, hv, hle, hlt⟩ := hp.exists_of_lt ht (Nat.zero_le _) hlt
    exact ⟨.leaf v, List.mem_map_of_mem hv, hle.eq_or_lt.imp Eq.symm fun h => ⟨h, hlt⟩⟩

-- The leaves of a parse that succeeds are pieces of the input, each a token, in their order, and no
-- token starts before the first of them or between two. So what starts before the end of the last
-- one starts together with one or within one.
theorem leaves_select_tokens [RegexEngine] {g : Grammar} {input : String} {complete : Bool}
    {errors : ErrorStack} {tree : Tree} (h : (g.analyze input complete errors).1 = .parsed tree) :
    Selects {t | t ∈ g.tokenize input} input tree.leaves := by
  have hs : (g.stream input).Lawful := g.lawful_stream
  have hp := (analyze_parses g input complete errors).gives
  have ⟨stop, hm, _⟩ := (hp.eq_parsed_iff hs).mp h
  have ⟨ts, hts, hp⟩ := hm.spell hs
  rw [Grammar.setOf_mem_stream] at hp
  rw [Tree.leavesOf_cons, Tree.leavesOf_nil, List.append_nil] at hts
  exact hts ▸ selects_of_path (fun _ => Token.tokenize_standsIn) hp

open Grammar in
theorem leaves_select_tokens_lists :
    ∃ tree, (lists.analyze "3.5,(7)" true .empty).1 = .parsed tree ∧
      tree.leaves.map (·.value) = [some "3.5", some ",", some "(", some "7", some ")"] ∧
      Selects {t | t ∈ lists.tokenize "3.5,(7)"} "3.5,(7)" tree.leaves := by
  have ht : (treeOf? (lists.analyze "3.5,(7)" true .empty).1).map (·.leaves.map (·.value)) =
      some [some "3.5", some ",", some "(", some "7", some ")"] := by
    decide +kernel
  have ⟨tree, ht, hv⟩ := Option.map_eq_some_iff.mp ht
  have h := eq_parsed_of_treeOf? ht
  exact ⟨tree, h, hv, leaves_select_tokens h⟩

end PegParser.Parse
