import PegParser.Position
import PegParser.Proofs.PartitionPoint
import PegParser.Proofs.Text.Offset

namespace PegParser

namespace Text

def newlines (text : List Char) : Set Nat :=
  {n | ∃ before after, text = before ++ '\n' :: after ∧ byteLength before = n}

variable {offset n : Nat} {c : Char} {cs text : List Char}

theorem mem_newlines_cons_iff :
    n ∈ newlines (c :: cs) ↔ (c = '\n' ∧ n = 0) ∨ ∃ m ∈ newlines cs, c.utf8Size + m = n := by
  constructor
  case mp =>
    intro ⟨before, after, ht, hn⟩
    cases before <;> simp at ht hn
    case nil         => exact .inl ⟨ht.1, hn.symm⟩
    case cons before => exact .inr ⟨_, ⟨before, after, ht.2, rfl⟩, ht.1 ▸ hn⟩
  case mpr =>
    intro h
    cases h
    case inl h => exact ⟨[], cs, by simp [h.1], h.2.symm⟩
    case inr h =>
      have ⟨m, ⟨before, after, ht, hm⟩, hn⟩ := h
      exact ⟨c :: before, after, by simp [ht], by simp [hm, hn]⟩

theorem mem_newlinesFrom_iff :
    n ∈ newlinesFrom offset text ↔ ∃ m ∈ newlines text, offset + m = n := by
  induction text generalizing offset
  case nil => simp [newlinesFrom, newlines]
  case cons c cs hi =>
    by_cases hc : c = '\n' <;>
      simp [newlinesFrom, hc, hi, mem_newlines_cons_iff, Nat.add_assoc, eq_comm]

theorem newlinesFrom_pairwise : (newlinesFrom offset text).Pairwise (· < ·) := by
  induction text generalizing offset
  case nil => exact .nil
  case cons c cs hi =>
    rw [newlinesFrom]
    split
    case isFalse => exact hi
    case isTrue =>
      refine List.pairwise_cons.mpr ⟨fun n hn => ?_, hi⟩
      have ⟨m, _, he⟩ := mem_newlinesFrom_iff.mp hn
      have := c.utf8Size_pos
      omega

end Text

-- The line of a position is the number of newlines before it. Its column is the distance from the
-- last of these, or from the start of the text if there is none.
structure Position.Locates (p : Position) (text : List Char) : Prop where
  index_le : p.index ≤ Text.byteLength text
  line : p.line = {n ∈ Text.newlines text | n < p.index}.ncard
  column : ∀ n, IsGreatest {n ∈ Text.newlines text | n < p.index} n → p.column = p.index - n
  column_of_first : (∀ n ∈ Text.newlines text, p.index ≤ n) → p.column = p.index

namespace LineIndex

variable {text : String} {index n i : Nat}

theorem mem_newlines_iff : n ∈ (ofText text).newlines.toList ↔ n ∈ Text.newlines text.toList := by
  simp [ofText, Text.mem_newlinesFrom_iff]

theorem newlines_pairwise : (ofText text).newlines.toList.Pairwise (· < ·) := by
  simp [ofText, Text.newlinesFrom_pairwise]

theorem partitioned_newlines : Partitioned (· < index) (ofText text).newlines 0 := by
  apply Partitioned.of_pairwise
  exact newlines_pairwise.imp fun h h' => by simp at h' ⊢; omega

def lineOf (text : String) (index : Nat) : Nat :=
  partitionPoint (· < index) (ofText text).newlines 0

theorem lineOf_le : lineOf text index ≤ (ofText text).newlines.size :=
  partitionPoint_le (Nat.zero_le _)

theorem mem_take_iff :
    n ∈ (ofText text).newlines.toList.take (lineOf text index) ↔
      n ∈ Text.newlines text.toList ∧ n < index := by
  simp only [lineOf, ← filter_eq_take partitioned_newlines, List.mem_filter, mem_newlines_iff,
    decide_eq_true_eq]

theorem ncard_newlines : {n ∈ Text.newlines text.toList | n < index}.ncard = lineOf text index := by
  have hs : {n ∈ Text.newlines text.toList | n < index} =
      ((ofText text).newlines.toList.take (lineOf text index)).toFinset := by
    ext n
    simp [← mem_take_iff]
  rw [hs, Set.ncard_coe_finset, List.toFinset_card_of_nodup, List.length_take,
    Array.length_toList, Nat.min_eq_left lineOf_le]
  exact newlines_pairwise.nodup.sublist (List.take_sublist _ _)

theorem isGreatest_newlines (h : lineOf text index = i + 1) :
    IsGreatest {n ∈ Text.newlines text.toList | n < index} ((ofText text).newlines.getD i 0) := by
  have hle : lineOf text index ≤ (ofText text).newlines.size := lineOf_le
  have hi : i < (ofText text).newlines.toList.length := by simp; omega
  rw [show (ofText text).newlines.getD i 0 = (ofText text).newlines.toList[i] by simp_all]
  constructor
  case left =>
    apply mem_take_iff.mp
    exact List.mem_take_iff_getElem.mpr ⟨i, by omega, rfl⟩
  case right =>
    intro n hn
    have ⟨j, hj, hn⟩ := List.mem_take_iff_getElem.mp (mem_take_iff.mpr hn)
    have hj : j ≤ i := by omega
    cases hj.eq_or_lt
    case inl he  => simp [← hn, he]
    case inr hlt =>
      exact hn ▸ (List.pairwise_iff_getElem.mp newlines_pairwise j i (by omega) hi hlt).le

variable {lines : LineIndex} {offset : Nat}

theorem column_eq_index (h : (lines.position offset).line = 0) :
    (lines.position offset).column = (lines.position offset).index := by
  simp only [position] at h ⊢
  rw [h]

theorem column_eq_sub (h : (lines.position offset).line = i + 1) :
    (lines.position offset).column =
      (lines.position offset).index - lines.newlines.getD i 0 := by
  simp only [position] at h ⊢
  rw [h]

theorem position_locates (input : String) (offset : Nat) :
    ((ofText input).position offset).Locates input.toList := by
  have hz : ((ofText input).position offset).line = 0 → _ := column_eq_index
  have hs {i : Nat} : ((ofText input).position offset).line = i + 1 → _ := column_eq_sub
  generalize hp : (ofText input).position offset = p at hz hs ⊢
  have hi : p.index = min offset (ofText input).length := hp ▸ rfl
  have hl : p.line = lineOf input p.index := hp ▸ rfl
  constructor
  case index_le => simp [hi, ofText, Text.byteLength_toList]
  case line     => rw [hl, ncard_newlines]
  case column =>
    intro n hn
    cases hb : p.line
    case zero =>
      have := mem_take_iff.mpr hn.1
      simp [← hl, hb] at this
    case succ => rw [hs hb, hn.unique (isGreatest_newlines (hl.symm.trans hb))]
  case column_of_first =>
    intro hn
    cases hb : p.line
    case zero => exact hz hb
    case succ =>
      have h := isGreatest_newlines (hl.symm.trans hb)
      exact absurd (hn _ h.1.1) (Nat.not_le.mpr h.1.2)

end LineIndex

end PegParser
