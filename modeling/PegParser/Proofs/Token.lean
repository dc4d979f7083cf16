import PegParser.Proofs.Text.Offset
import PegParser.Token

namespace PegParser.Token

structure StandsIn (t : Token) (input : String) : Prop where
  position : t.position = (LineIndex.ofText input).position t.index
  index_lt_stop : t.index < t.stop
  stop_le : t.stop ≤ input.utf8ByteSize
  slice? : Text.slice? input.toList t.index t.stop = some t.value.toList

-- The order of a stream: by the start, and by the rank of the terminal if the start is the same.
def Before (t u : Token) : Prop :=
  t.index < u.index ∨ (t.index = u.index ∧ t.rank < u.rank)

namespace Before

variable {t u v : Token}

theorem index_le (h : Before t u) : t.index ≤ u.index := by
  cases h <;> omega

theorem trans (h : Before t u) (h' : Before u v) : Before t v := by
  simp only [Before] at *
  omega

theorem of_index_le (h : t.index ≤ u.index) (hr : t.rank < u.rank) : Before t u := by
  simp only [Before]
  omega

end Before

section Terminal

variable [RegexEngine] {input : String} {terminal : Terminal} {rank : Nat} {t : Token}

abbrev ofInput (input : String) (terminal : Terminal) (rank : Nat) : List Token :=
  ofTerminal (.ofText input) input.toList terminal rank

theorem ofMatch_index (terminal : Terminal) (rank : Nat) {m : Regex.Match}
    (h : m.StandsIn 0 input.toList) :
    (ofMatch (.ofText input) terminal rank m).index = m.start := by
  have := h.stop_le
  rw [Text.byteLength_toList] at this
  simp only [Regex.Match.stop] at this
  show min m.start input.utf8ByteSize = m.start
  omega

theorem ofInput_standsIn (h : t ∈ ofInput input terminal rank) : t.StandsIn input := by
  simp only [ofInput, ofTerminal, List.mem_map, List.mem_filter] at h
  have ⟨m, ⟨hm, he⟩, ht⟩ := h
  have hs := RegexEngine.findAll_standsIn hm
  have hi := ofMatch_index terminal rank hs
  have hp : 0 < Text.byteLength m.text := Text.byteLength_pos (by simpa using he)
  have ⟨before, after, hx, hb⟩ := hs
  subst ht
  refine ⟨?position, ?index_lt_stop, ?stop_le, ?slice⟩
  case position =>
    show LineIndex.position _ m.start = _
    rw [hi]
  case index_lt_stop =>
    rw [hi]
    exact Nat.lt_add_of_pos_right hp
  case stop_le =>
    have := hs.stop_le
    rwa [Text.byteLength_toList, Nat.zero_add] at this
  case slice =>
    rw [hi, hx]
    simp only [ofMatch, Regex.Match.stop, hb, Nat.zero_add, String.toList_ofList]
    exact Text.slice?_append

theorem ofInput_pairwise : (ofInput input terminal rank).Pairwise Before := by
  rw [ofInput, ofTerminal, List.pairwise_map]
  refine (RegexEngine.findAll_pairwise.filter _).imp_of_mem fun hm hm' h => ?_
  simp only [List.mem_filter] at hm hm'
  have hp := Text.byteLength_pos (by simpa using hm.2)
  refine .inl ?_
  rw [ofMatch_index _ _ (RegexEngine.findAll_standsIn hm.1),
    ofMatch_index _ _ (RegexEngine.findAll_standsIn hm'.1)]
  exact lt_of_lt_of_le (Nat.lt_add_of_pos_right hp) h

theorem ofInput_rank (h : t ∈ ofInput input terminal rank) : t.rank = rank := by
  simp only [ofInput, ofTerminal, List.mem_map] at h
  have ⟨_, _, ht⟩ := h
  rw [← ht, ofMatch]

end Terminal

section Merge

variable {done ss ts : List Token} {lists : List (List Token)} {t : Token}

theorem merge_eq : merge done ss ts = done.reverse ++ ss.merge ts (·.index ≤ ·.index) := by
  fun_induction merge done ss ts
  case case1 h ih => simp [ih, h]
  case case2 h ih => simp [ih, h]
  case case3 done ss ts h =>
    cases ss <;> cases ts <;> simp
    exact (h _ _ _ _ rfl rfl).elim

theorem mem_merge : t ∈ merge [] ss ts ↔ t ∈ ss ∨ t ∈ ts := by
  simp [merge_eq, List.mem_merge]

theorem merge_pairwise (hs : ss.Pairwise Before) (ht : ts.Pairwise Before)
    (hr : ∀ s ∈ ss, ∀ t ∈ ts, s.rank < t.rank) : (merge [] ss ts).Pairwise Before := by
  rw [merge_eq, List.reverse_nil, List.nil_append]
  induction ss generalizing ts
  case nil => simpa using ht
  case cons s ss hss =>
    induction ts
    case nil => simpa using hs
    case cons t ts hts =>
      have ⟨hs₁, hs₂⟩ := List.pairwise_cons.mp hs
      have ⟨ht₁, ht₂⟩ := List.pairwise_cons.mp ht
      by_cases h : s.index ≤ t.index
      case pos =>
        have hst : Before s t := .of_index_le h (hr s (by simp) t (by simp))
        rw [List.cons_merge_cons_pos _ _ _ (by simpa using h), List.pairwise_cons]
        refine ⟨fun u hu => ?_, hss hs₂ ht fun s hs => hr s (by simp [hs])⟩
        simp only [List.mem_merge, List.mem_cons] at hu
        exact hu.elim (hs₁ u) (·.elim (· ▸ hst) (hst.trans <| ht₁ u ·))
      case neg =>
        have hts' : Before t s := .inl (by omega)
        rw [List.cons_merge_cons_neg _ _ _ (by simpa using h), List.pairwise_cons]
        refine ⟨fun u hu => ?_, hts ht₂ fun s hs t ht => hr s hs t (by simp [ht])⟩
        simp only [List.mem_merge, List.mem_cons] at hu
        exact hu.elim (·.elim (· ▸ hts') (hts'.trans <| hs₁ u ·)) (ht₁ u)

theorem mem_foldr_merge : t ∈ lists.foldr (merge []) [] ↔ ∃ ts ∈ lists, t ∈ ts := by
  induction lists <;> simp_all [mem_merge]

theorem foldr_merge_pairwise (h : ∀ ts ∈ lists, ts.Pairwise Before)
    (hr : lists.Pairwise fun ss ts => ∀ s ∈ ss, ∀ t ∈ ts, s.rank < t.rank) :
    (lists.foldr (merge []) []).Pairwise Before := by
  induction lists
  case nil => exact .nil
  case cons ss lists hi =>
    have ⟨hr, hr'⟩ := List.pairwise_cons.mp hr
    refine merge_pairwise (h ss (by simp)) (hi (fun ts hts => h ts (by simp [hts])) hr') ?_
    intro s hs t ht
    have ⟨ts, hts, ht⟩ := mem_foldr_merge.mp ht
    exact hr ts hts s hs t ht

end Merge

variable [RegexEngine] {terminals : List Terminal} {input : String} {t u : Token}

theorem mem_tokenize_iff :
    t ∈ tokenize terminals input ↔
      ∃ rank terminal, terminals[rank]? = some terminal ∧ t ∈ ofInput input terminal rank := by
  simp only [tokenize, mem_foldr_merge, List.mem_map, Prod.exists, List.mk_mem_zipIdx_iff_getElem?]
  constructor
  · intro ⟨_, ⟨terminal, rank, h, hts⟩, ht⟩
    subst hts
    exact ⟨rank, terminal, h, ht⟩
  · intro ⟨rank, terminal, h, ht⟩
    exact ⟨_, ⟨terminal, rank, h, rfl⟩, ht⟩

theorem tokenize_pairwise : (tokenize terminals input).Pairwise Before := by
  refine foldr_merge_pairwise (fun ts hts => ?_) (List.pairwise_map.mpr ?_)
  · have ⟨_, _, h⟩ := List.mem_map.mp hts
    exact h ▸ ofInput_pairwise
  · have h : terminals.zipIdx.Pairwise (·.2 < ·.2) := by
      rw [← List.pairwise_map (f := Prod.snd) (R := (· < ·)), List.zipIdx_map_snd]
      exact List.pairwise_lt_range'
    refine h.imp fun h s hs t ht => ?_
    rwa [ofInput_rank hs, ofInput_rank ht]

theorem tokenize_standsIn (h : t ∈ tokenize terminals input) : t.StandsIn input := by
  have ⟨_, _, _, h⟩ := mem_tokenize_iff.mp h
  exact ofInput_standsIn h

end PegParser.Token
