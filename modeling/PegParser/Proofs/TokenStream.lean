import PegParser.Proofs.PartitionPoint
import PegParser.Proofs.Token
import PegParser.TokenStream

namespace PegParser

theorem LineIndex.last_index (lines : LineIndex) : lines.last.index = lines.length := by
  show min lines.length lines.length = lines.length
  omega

namespace TokenStream

-- What the tokens of an input satisfy.
structure Lawful (s : TokenStream) : Prop where
  pairwise : s.tokens.toList.Pairwise Token.Before
  index_lt_stop : ∀ t ∈ s.tokens, t.index < t.stop
  stop_le : ∀ t ∈ s.tokens, t.stop ≤ s.lines.length

theorem lawful_ofTokens [RegexEngine] {terminals : List Terminal} {input : String} :
    (ofTokens input (Token.tokenize terminals input)).Lawful where
  pairwise := Token.tokenize_pairwise
  index_lt_stop t h := Token.tokenize_standsIn (by simpa [ofTokens] using h) |>.index_lt_stop
  stop_le t h := Token.tokenize_standsIn (by simpa [ofTokens] using h) |>.stop_le

-- The cursor is the number of tokens that start before the offset.
structure At (s : TokenStream) (offset cursor : Nat) : Prop where
  le_size : cursor ≤ s.size
  lt_iff : ∀ {i t}, s.tokens[i]? = some t → (i < cursor ↔ t.index < offset)

variable {s : TokenStream} {cursor offset i j : Nat} {t u : Token}

theorem size_le_iff : s.size ≤ cursor ↔ s.tokens[cursor]? = none :=
  Array.getElem?_eq_none_iff.symm

theorem lt_size (h : s.tokens[i]? = some t) : i < s.size :=
  (Array.getElem?_eq_some_iff.mp h).1

theorem mem_tokens_iff : t ∈ s.tokens ↔ ∃ i : Nat, s.tokens[i]? = some t :=
  Array.mem_iff_getElem?

namespace Lawful

variable (h : s.Lawful)
include h

theorem before (hij : i < j) (ht : s.tokens[i]? = some t) (hu : s.tokens[j]? = some u) :
    Token.Before t u := by
  rw [← Array.getElem?_toList] at ht hu
  have ⟨hi, ht⟩ := List.getElem?_eq_some_iff.mp ht
  have ⟨hj, hu⟩ := List.getElem?_eq_some_iff.mp hu
  exact ht ▸ hu ▸ List.pairwise_iff_getElem.mp h.pairwise i j hi hj hij

theorem index_le (hij : i ≤ j) (ht : s.tokens[i]? = some t) (hu : s.tokens[j]? = some u) :
    t.index ≤ u.index := by
  by_cases he : i = j
  case pos =>
    subst he
    cases ht.symm.trans hu
    exact le_rfl
  case neg => exact (h.before (by omega) ht hu).index_le

theorem index_lt_length (ht : t ∈ s.tokens) : t.index < s.lines.length :=
  lt_of_lt_of_le (h.index_lt_stop t ht) (h.stop_le t ht)

theorem eq_of_index_rank (ht : t ∈ s.tokens) (hu : u ∈ s.tokens) (hi : t.index = u.index)
    (hr : t.rank = u.rank) : t = u := by
  have ⟨i, ht⟩ := mem_tokens_iff.mp ht
  have ⟨j, hu⟩ := mem_tokens_iff.mp hu
  rcases Nat.lt_trichotomy i j with hij | hij | hij
  · have := h.before hij ht hu
    simp only [Token.Before] at this
    omega
  · subst hij
    exact Option.some.inj (ht.symm.trans hu)
  · have := h.before hij hu ht
    simp only [Token.Before] at this
    omega

theorem position_index_le (hij : i ≤ j) : (s.position i).index ≤ (s.position j).index := by
  cases ht : s.tokens[i]? <;> cases hu : s.tokens[j]? <;> simp only [position, ht, hu]
  case none.none => rfl
  case none.some =>
    have := size_le_iff.mpr ht
    have := lt_size hu
    omega
  case some.none t =>
    rw [LineIndex.last_index]
    exact (h.index_lt_length (mem_tokens_iff.mpr ⟨i, ht⟩)).le
  case some.some => exact h.index_le hij ht hu

theorem partitioned_index_lt : Partitioned (·.index < offset) s.tokens cursor := by
  intro i j t u _ hij ht hu
  have := h.index_le hij ht hu
  simp only [decide_eq_true_eq]
  omega

theorem partitioned_index_eq (ht : s.tokens[cursor]? = some t) :
    Partitioned (·.index == t.index) s.tokens cursor := by
  intro i j u v hi hij hu hv
  have := h.index_le hi ht hu
  have := h.index_le hij hu hv
  simp only [beq_iff_eq]
  omega

theorem mem_group_iff :
    t ∈ s.group cursor ↔ ∃ first i, s.tokens[cursor]? = some first ∧ cursor ≤ i ∧
      s.tokens[i]? = some t ∧ t.index = first.index := by
  cases hf : s.tokens[cursor]? <;> simp only [group, hf]
  case none => simp
  case some first =>
    have hi {i : Nat} {t} (hi : cursor ≤ i) (ht : s.tokens[i]? = some t) :=
      lt_partitionPoint_iff (h.partitioned_index_eq hf) hi ht
    simp only [beq_iff_eq] at hi
    simp only [Array.mem_toList_iff, Array.mem_iff_getElem?, Array.getElem?_extract]
    constructor
    · intro ⟨i, ht⟩
      split at ht <;> try contradiction
      refine ⟨first, cursor + i, rfl, by omega, ht, (hi (by omega) ht).mp (by omega)⟩
    · intro ⟨_, i, rfl, hc, ht, he⟩
      have := (hi hc ht).mpr he
      have := lt_size ht
      simp only [size] at this
      exact ⟨i - cursor, by rw [if_pos (by omega), Nat.add_sub_cancel' hc]; exact ht⟩

theorem group_pairwise (cursor : Nat) : (s.group cursor).Pairwise Token.Before := by
  rw [group]
  split
  case h_1 => exact .nil
  case h_2 =>
    rw [Array.toList_extract, List.extract_eq_take_drop]
    exact h.pairwise.sublist ((List.take_sublist _ _).trans (List.drop_sublist _ _))

theorem lt_skipTo_iff (hi : cursor ≤ i) (ht : s.tokens[i]? = some t) :
    i < s.skipTo cursor offset ↔ t.index < offset := by
  have := lt_size ht
  simp only [size] at this
  rw [skipTo, Nat.min_eq_left (by omega), lt_partitionPoint_iff h.partitioned_index_lt hi ht]
  simp

end Lawful

theorem le_skipTo (h : cursor ≤ s.size) : cursor ≤ s.skipTo cursor offset := by
  rw [size] at h
  rw [skipTo, Nat.min_eq_left h]
  exact le_partitionPoint h

theorem skipTo_le (h : cursor ≤ s.size) : s.skipTo cursor offset ≤ s.size := by
  rw [size] at h
  rw [skipTo, Nat.min_eq_left h]
  exact partitionPoint_le h

namespace Lawful

variable (h : s.Lawful)
include h

theorem head?_group (cursor : Nat) : (s.group cursor).head? = s.tokens[cursor]? := by
  cases hf : s.tokens[cursor]? <;> simp only [group, hf]
  case none => rfl
  case some first =>
    have hlt := (lt_partitionPoint_iff (h.partitioned_index_eq hf) le_rfl hf).mpr (by simp)
    rw [Array.toList_extract, List.extract_eq_take_drop, List.head?_take, if_neg (by omega),
      List.head?_drop, Array.getElem?_toList, hf]

theorem mem_tokens_of_mem_group (ht : t ∈ s.group cursor) : t ∈ s.tokens := by
  have ⟨_, i, _, _, ht, _⟩ := h.mem_group_iff.mp ht
  exact mem_tokens_iff.mpr ⟨i, ht⟩

theorem index_of_mem_group (ht : t ∈ s.group cursor) : t.index = (s.position cursor).index := by
  have ⟨first, _, hf, _, _, he⟩ := h.mem_group_iff.mp ht
  rw [position, hf]
  exact he

theorem lt_skipTo (ht : t ∈ s.group cursor) : cursor < s.skipTo cursor t.stop := by
  have ⟨first, _, hf, _, _, he⟩ := h.mem_group_iff.mp ht
  rw [h.lt_skipTo_iff le_rfl hf, ← he]
  exact h.index_lt_stop t (h.mem_tokens_of_mem_group ht)

theorem offset_le_position_skipTo (hc : cursor ≤ s.size) (ho : offset ≤ s.lines.length) :
    offset ≤ (s.position (s.skipTo cursor offset)).index := by
  cases hf : s.tokens[s.skipTo cursor offset]? <;> simp only [position, hf]
  case none => rwa [LineIndex.last_index]
  case some u =>
    have := mt (h.lt_skipTo_iff (le_skipTo hc) hf).mpr (lt_irrefl _)
    exact not_lt.mp this

end Lawful

namespace At

theorem zero : s.At 0 0 :=
  ⟨Nat.zero_le _, by simp⟩

theorem splitsAt (h : s.At offset cursor) :
    SplitsAt (·.index < offset) s.tokens.toList cursor := by
  apply SplitsAt.of_lt_iff
  · exact h.le_size
  · intro i t ht
    rw [Array.getElem?_toList] at ht
    simpa using h.lt_iff ht

theorem le_index (h : s.At offset cursor) (ht : s.tokens[i]? = some t) (hi : cursor ≤ i) :
    offset ≤ t.index := by
  have := mt (h.lt_iff ht).mpr
  omega

theorem skipTo (hs : s.Lawful) (h : s.At offset cursor) (ht : t ∈ s.group cursor) :
    s.At t.stop (s.skipTo cursor t.stop) where
  le_size := skipTo_le h.le_size
  lt_iff {i u} hu := by
    by_cases hi : cursor ≤ i
    case pos => exact hs.lt_skipTo_iff hi hu
    case neg =>
      have ⟨first, _, hf, _, _, he⟩ := hs.mem_group_iff.mp ht
      have := hs.index_le (by omega) hu hf
      have := hs.index_lt_stop t (hs.mem_tokens_of_mem_group ht)
      have := hs.lt_skipTo ht
      constructor <;> intro <;> omega

end At
end TokenStream
end PegParser
