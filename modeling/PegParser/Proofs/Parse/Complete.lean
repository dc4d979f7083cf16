import PegParser.Proofs.Parse.Leaves

namespace PegParser.Parse

def lastStop (tree : Tree) : Nat :=
  (tree.leaves.getLast?.map (·.span.stop)).getD 0

-- Of the tokens that start at the offset or later the one that stands first.
structure FirstFrom (tokens : Set Token) (offset : Nat) (t : Token) : Prop where
  mem : t ∈ tokens
  le_index : offset ≤ t.index
  before : ∀ u ∈ tokens, offset ≤ u.index → u = t ∨ t.Before u

variable {s : TokenStream} {offset stop c : Nat} {tree : Tree} {t : Token}

theorem firstFrom_of_at (h : s.At offset c) (hs : s.Lawful) (ht : s.tokens[c]? = some t) :
    FirstFrom {t | t ∈ s.tokens} offset t where
  mem := TokenStream.mem_tokens_iff.mpr ⟨c, ht⟩
  le_index := h.le_index ht le_rfl
  before u hu ho := by
    have ⟨i, hi⟩ := TokenStream.mem_tokens_iff.mp hu
    have hc := mt (h.lt_iff hi).mp
    rcases Nat.lt_trichotomy i c with hlt | rfl | hlt
    · omega
    · exact .inl (Option.some.inj (hi.symm.trans ht))
    · exact .inr (hs.before hlt ht hi)

theorem Spell.stop_eq {tokens : Set Token} (h : Spell tokens 0 [tree] stop) :
    stop = lastStop tree := by
  have ⟨ts, hl, hp⟩ := h
  rw [Tree.leavesOf_singleton] at hl
  rw [lastStop, hl, List.getLast?_map]
  cases ht : ts.getLast?
  case none =>
    rw [List.getLast?_eq_none_iff.mp ht] at hp
    cases hp
    rfl
  case some t => exact hp.stop_eq_of_getLast? ht

section

variable [RegexEngine] {g : Grammar} {p : Phrase} {next : Nat} {ds : List SyntaxError}
variable {input : String} {errors errors' : ErrorStack}

theorem Runs.at_lastStop (hs : s.Lawful) (h : Runs g s p 0 (some ([tree], next)) ds) :
    s.At (lastStop tree) next := by
  have ⟨_, hm, .matched ha _⟩ := h.means hs .zero
  exact (hm.spell hs).stop_eq ▸ ha

section

variable {r : Outcome × ErrorStack}

theorem Parses.complete_of_not_parsed (h : Parses g input false r)
    (hp : ∀ tree, r.1 ≠ .parsed tree) : Parses g input true r := by
  cases h
  case parsed        => exact absurd rfl (hp _)
  case failed h      => exact .failed h
  case trailing hc _ => contradiction
  case stuck h       => exact .stuck h

theorem Parses.complete_of_parsed (h : Parses g input false r) (hp : r.1 = .parsed tree) :
    ((∀ t ∈ g.tokenize input, t.index < lastStop tree) → Parses g input true r) ∧
    ∀ u ∈ g.tokenize input, lastStop tree ≤ u.index →
      ∃ t e, FirstFrom {t | t ∈ g.tokenize input} (lastStop tree) t ∧ e.error = trailingError g t ∧
        Parses g input true (.rejected e, r.2.push (trailingError g t)) := by
  cases h
  case failed | trailing | stuck => cases hp
  case parsed next ds h _ =>
    cases hp
    have ha := h.at_lastStop g.lawful_stream
    have hle := ha.size_le_iff
    simp only [Grammar.mem_stream_iff] at hle
    constructor
    case left => exact fun hlt => .parsed h fun _ => hle.mpr hlt
    case right =>
      intro u hu ho
      have hlt : next < (g.stream input).size :=
        not_le.mp fun hn => absurd (hle.mp hn u hu) (not_lt.mpr ho)
      have ht := Array.getElem?_eq_getElem hlt
      have hf := firstFrom_of_at ha g.lawful_stream ht
      rw [Grammar.setOf_mem_stream] at hf
      have hp := Parses.trailing h rfl ht
      rw [rejection, ErrorStack.pushAll_append, ErrorStack.pushAll_singleton,
        List.getLast?_concat, Option.getD_some] at hp
      exact ⟨_, _, hf, rfl, hp⟩

end

-- A complete parse fails as the plain one does, and gives the same tree and leaves the same stack
-- just if all tokens start before the end of the last leaf. Otherwise it fails on the first token
-- that does not, and pushes that failure only.
theorem complete_checks_what_is_left (g : Grammar) (input : String) (errors errors' : ErrorStack) :
    let tokens := {t | t ∈ g.tokenize input}
    let plain := g.analyze input false errors
    let complete := g.analyze input true errors'
    ((∀ tree, plain.1 ≠ .parsed tree) → complete = plain) ∧
    ∀ tree, plain.1 = .parsed tree →
      (complete = plain ↔ ∀ t ∈ tokens, t.index < lastStop tree) ∧
      ∀ u ∈ tokens, lastStop tree ≤ u.index →
        ∃ t e, FirstFrom tokens (lastStop tree) t ∧ e.error = trailingError g t ∧
          complete = (.rejected e, plain.2.push (trailingError g t)) := by
  intro tokens plain complete
  have hplain : Parses g input false plain := analyze_parses g input false errors
  have hcomplete : Parses g input true complete := analyze_parses g input true errors'
  constructor
  case left => exact fun hp => hcomplete.unique (hplain.complete_of_not_parsed hp)
  case right =>
    intro tree hp
    have ⟨hall, hleft⟩ := hplain.complete_of_parsed hp
    have hleft : ∀ u ∈ tokens, lastStop tree ≤ u.index →
        ∃ t e, FirstFrom tokens (lastStop tree) t ∧ e.error = trailingError g t ∧
          complete = (.rejected e, plain.2.push (trailingError g t)) := by
      intro u hu ho
      have ⟨t, e, hf, he, hr⟩ := hleft u hu ho
      exact ⟨t, e, hf, he, hcomplete.unique hr⟩
    refine ⟨⟨fun he t ht => ?_, fun hlt => hcomplete.unique (hall hlt)⟩, hleft⟩
    by_contra hle
    have ⟨_, _, _, _, hr⟩ := hleft t ht (not_lt.mp hle)
    rw [he] at hr
    rw [hr] at hp
    cases hp

end

open Grammar in
theorem complete_checks_what_is_left_lists :
    lists.analyze "3.5,(7)" true .empty = lists.analyze "3.5,(7)" false .empty ∧
    ∃ tree t e, (lists.analyze "3.5,(7" false .empty).1 = .parsed tree ∧
      FirstFrom {t | t ∈ lists.tokenize "3.5,(7"} 4 t ∧ e.error = trailingError lists t ∧
      lists.analyze "3.5,(7" true .empty =
        (.rejected e, (lists.analyze "3.5,(7" false .empty).2.push (trailingError lists t)) := by
  constructor
  case left =>
    have ht : (treeOf? (lists.analyze "3.5,(7)" false .empty).1).map lastStop = some 7 := by
      decide +kernel
    have ⟨tree, ht, hs⟩ := Option.map_eq_some_iff.mp ht
    have h := (complete_checks_what_is_left lists "3.5,(7)" .empty .empty).2 tree
      (eq_parsed_of_treeOf? ht)
    have hlt : ∀ t ∈ lists.tokenize "3.5,(7)", t.index < 7 := by decide +kernel
    exact h.1.mpr (hs ▸ hlt)
  case right =>
    have ht : (treeOf? (lists.analyze "3.5,(7" false .empty).1).map lastStop = some 4 := by
      decide +kernel
    have ⟨tree, ht, hs⟩ := Option.map_eq_some_iff.mp ht
    have hp := eq_parsed_of_treeOf? ht
    have hu : ∃ u ∈ lists.tokenize "3.5,(7", 4 ≤ u.index := by decide +kernel
    have ⟨u, hu, hle⟩ := hu
    have h := (complete_checks_what_is_left lists "3.5,(7" .empty .empty).2 tree hp
    have ⟨t, e, hf, he, hr⟩ := h.2 u hu (hs ▸ hle)
    exact ⟨tree, t, e, hp, hs ▸ hf, he, hr⟩

end PegParser.Parse
