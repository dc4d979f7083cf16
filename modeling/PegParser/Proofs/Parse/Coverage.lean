import PegParser.Proofs.Grammar.Document
import PegParser.Proofs.Parse.Adequacy
import PegParser.Text.Blank

namespace PegParser

open Text

theorem Token.StandsIn.exists_char {t : Token} {input : String} (h : t.StandsIn input) :
    ∃ before c after, input.toList = before ++ c :: after ∧ byteLength before = t.index := by
  have ⟨before, after, hi, hb, hp⟩ := exists_of_slice? h.slice?
  cases ht : t.value.toList
  case nil =>
    have := h.index_lt_stop
    simp [ht] at hp
    omega
  case cons c cs => exact ⟨before, c, cs ++ after, by simp [hi, ht], hb⟩

def Tree.Covers (tree : Tree) (before : List Char) (c : Char) : Prop :=
  ∃ l ∈ tree.leaves, l.span.start ≤ byteLength before ∧
    byteLength before + c.utf8Size ≤ l.span.stop

namespace Parse

variable {tokens : Set Token} {tree : Tree} {stop : Nat} {t : Token} {input : String} {c : Char}
variable {before after : List Char}

theorem Spell.covers_iff (h : Spell tokens 0 [tree] stop) (hs : ∀ t ∈ tokens, t.StandsIn input)
    (ht : t ∈ tokens) (hi : input.toList = before ++ c :: after) (hb : byteLength before = t.index) :
    tree.Covers before c ↔ t.index < stop := by
  have ⟨ts, hl, hp⟩ := h
  rw [Tree.leavesOf_singleton] at hl
  rw [Tree.Covers, hl, hb]
  constructor
  case mp =>
    rintro ⟨_, hl, _, hle⟩
    obtain ⟨u, hu, rfl⟩ := List.mem_map.mp hl
    have hu : u.stop ≤ stop := hp.stop_le (fun t ht => (hs t ht).index_lt_stop) hu
    have hle : t.index + c.utf8Size ≤ u.stop := hle
    have := c.utf8Size_pos
    omega
  case mpr =>
    intro hlt
    obtain ⟨u, hu, hle, hlt⟩ := hp.exists_of_lt ht (Nat.zero_le _) hlt
    obtain ⟨_, hstop⟩ := isBoundary_of_slice? (hs u (hp.mem hu)).slice?
    rw [hi] at hstop
    exact ⟨_, List.mem_map_of_mem hu, hle, hb ▸ hstop.add_utf8Size_le (hb ▸ hlt)⟩

-- A parse in which no tokens may be left over gives a tree just if one in which they may gives the
-- same tree, and that covers each character at which a token starts.
theorem complete_covers_starts [RegexEngine] (g : Grammar) (input : String)
    (errors errors' : ErrorStack) (tree : Tree) :
    (g.analyze input true errors).1 = .parsed tree ↔
      (g.analyze input false errors').1 = .parsed tree ∧
        ∀ before c after, input.toList = before ++ c :: after →
          (∃ t ∈ g.tokenize input, t.index = byteLength before) → tree.Covers before c := by
  have hs : (g.stream input).Lawful := g.lawful_stream
  have hi : ∀ t ∈ {t | t ∈ g.tokenize input}, t.StandsIn input := fun _ => Token.tokenize_standsIn
  have hcomplete := (analyze_parses g input true errors).gives
  have hplain := (analyze_parses g input false errors').gives
  constructor
  case mp =>
    intro h
    have ⟨stop, hm, hlt⟩ := (hcomplete.eq_parsed_iff hs).mp h
    refine ⟨(hplain.eq_parsed_iff hs).mpr ⟨stop, hm, nofun⟩, fun before c after hc hb => ?_⟩
    have ⟨t, ht, hb⟩ := hb
    have hlt := hlt rfl t (Grammar.mem_stream_iff.mpr ht)
    exact (hm.spell_tokens.covers_iff hi ht hc hb.symm).mpr hlt
  case mpr =>
    intro ⟨h, hc⟩
    have ⟨stop, hm, _⟩ := (hplain.eq_parsed_iff hs).mp h
    refine (hcomplete.eq_parsed_iff hs).mpr ⟨stop, hm, fun _ t ht => ?_⟩
    have ht := Grammar.mem_stream_iff.mp ht
    have ⟨before, c, after, he, hb⟩ := (hi t ht).exists_char
    exact (hm.spell_tokens.covers_iff hi ht he hb).mp (hc before c after he ⟨t, ht, hb.symm⟩)

open Grammar in
theorem complete_covers_starts_lists :
    ∃ tree, (lists.analyze "3.5@,(7)" true .empty).1 = .parsed tree ∧
      tree.leaves.map (·.value) = [some "3.5", some ",", some "(", some "7", some ")"] ∧
      ∀ before c after, "3.5@,(7)".toList = before ++ c :: after →
        (∃ t ∈ lists.tokenize "3.5@,(7)", t.index = byteLength before) → tree.Covers before c := by
  have ht : (treeOf? (lists.analyze "3.5@,(7)" true .empty).1).map (·.leaves.map (·.value)) =
      some [some "3.5", some ",", some "(", some "7", some ")"] := by
    decide +kernel
  have ⟨tree, ht, hv⟩ := Option.map_eq_some_iff.mp ht
  have h := eq_parsed_of_treeOf? ht
  exact ⟨tree, h, hv, ((complete_covers_starts lists _ .empty .empty tree).mp h).2⟩

-- The second character here is in a token that the leaf overlaps, and no terminal matches the last
-- one. A complete parse passes over both.
open Grammar in
theorem complete_passes_over_unmatched :
    ∃ g tree, ofDocument (documentOf [terminalEntry "x" "x"] [ruleEntry "main" ["x"]]) = .ok g ∧
      ¬g.LeftRecursive ∧ (g.analyze "xy @" true .empty).1 = .parsed tree ∧
      (¬∀ before c after, "xy @".toList = before ++ c :: after → ¬isBlank c →
        tree.Covers before c) ∧
      (∃ t ∈ g.tokenize "xy @", t.index = 0 ∧ t.stop = 2) ∧ ¬tree.Covers ['x'] 'y' := by
  have h : (ofDocument (documentOf [terminalEntry "x" "x"] [ruleEntry "main" ["x"]])).toOption.any
      fun g => isRanked (fun _ => false) g (fun _ => 0) &&
        (treeOf? (g.analyze "xy @" true .empty).1).any (·.leaves.all (·.span.stop ≤ 1)) &&
        decide (∃ t ∈ g.tokenize "xy @", t.index = 0 ∧ t.stop = 2) := by
    decide +kernel
  have ⟨g, hg, h⟩ := Except.exists_of_any h
  simp only [Bool.and_eq_true, Option.any_eq_true, List.all_eq_true, decide_eq_true_eq] at h
  obtain ⟨⟨hr, tree, ht, hl⟩, hx⟩ := h
  have hn {before : List Char} {c : Char} (hb : 1 ≤ byteLength before) :
      ¬tree.Covers before c := by
    rintro ⟨l, hm, _, hle⟩
    have := hl l hm
    have := c.utf8Size_pos
    omega
  refine ⟨g, tree, hg, not_leftRecursive_of_isRanked hr, eq_parsed_of_treeOf? ht, ?_, hx,
    hn (by decide)⟩
  intro hc
  exact hn (by decide) (hc ['x', 'y', ' '] '@' [] rfl (by decide))

end Parse

end PegParser
