import PegParser.Proofs.Parse.Adequacy
import PegParser.Proofs.Token.Matches

namespace PegParser

namespace TokenStream

-- All tokens before the cursor start before the one at the cursor, if there is one.
def Aligned (s : TokenStream) (cursor : Nat) : Prop :=
  ∀ first ∈ s.tokens[cursor]?, ∀ t ∈ s.tokens.toList.take cursor, t.index < first.index

instance (s : TokenStream) (cursor : Nat) : Decidable (s.Aligned cursor) :=
  inferInstanceAs (Decidable (∀ first ∈ s.tokens[cursor]?, _))

def scanGroup (tokens : List Token) (cursor : Nat) : List Token :=
  match tokens.drop cursor with
  | [] => []
  | first :: others => first :: others.takeWhile (·.index == first.index)

def scanTo (tokens : List Token) (cursor stop : Nat) : Nat :=
  let start := min cursor tokens.length
  start + ((tokens.drop start).takeWhile (·.index < stop)).length

variable {s : TokenStream} {cursor offset : Nat} {t first : Token}

theorem At.aligned (h : s.At offset cursor) : s.Aligned cursor := by
  intro first hf t ht
  have hlt : t.index < offset := by simpa using h.splitsAt.taken t ht
  exact lt_of_lt_of_le hlt (h.le_index hf le_rfl)

namespace Lawful

variable (hs : s.Lawful)
include hs

theorem at_of_aligned (h : s.Aligned cursor) (hf : s.tokens[cursor]? = some first) :
    s.At first.index cursor where
  le_size := (lt_size hf).le
  lt_iff {i t} ht := by
    constructor
    case mp =>
      intro hi
      apply h first hf
      rw [← Array.getElem?_toList] at ht
      exact List.mem_of_getElem? (List.getElem?_take_of_lt hi ▸ ht)
    case mpr =>
      intro hi
      by_contra hle
      exact absurd hi (not_lt.mpr (hs.index_le (not_lt.mp hle) hf ht))

theorem group_eq_scanGroup (cursor : Nat) : s.group cursor = scanGroup s.tokens.toList cursor := by
  cases hf : s.tokens[cursor]?
  case none =>
    have hd : s.tokens.toList.drop cursor = [] := List.drop_eq_nil_of_le (size_le_iff.mpr hf)
    simp only [group, hf, scanGroup, hd]
  case some first =>
    obtain ⟨hlt, he⟩ := Array.getElem?_eq_some_iff.mp hf
    have hd : s.tokens.toList.drop cursor = first :: s.tokens.toList.drop (cursor + 1) := by
      rw [List.drop_eq_getElem_cons hlt, Array.getElem_toList, he]
    have hsplit := (hs.partitioned_index_eq hf).splitsAt hlt.le
    rw [hd] at hsplit
    simp only [group, hf, scanGroup, hd]
    rw [Array.toList_extract, List.extract_eq_take_drop, hd, ← hsplit.takeWhile_eq,
      List.takeWhile_cons, if_pos (beq_self_eq_true _)]

theorem skipTo_eq_scanTo (cursor stop : Nat) :
    s.skipTo cursor stop = scanTo s.tokens.toList cursor stop := by
  have hlo : min cursor s.tokens.size ≤ s.tokens.size := min_le_right _ _
  have hp : Partitioned (·.index < stop) s.tokens (min cursor s.tokens.size) :=
    hs.partitioned_index_lt
  have hsplit := hp.splitsAt hlo
  have hle := le_partitionPoint (p := (·.index < stop)) hlo
  rw [scanTo, Array.length_toList, hsplit.takeWhile_eq, List.length_take,
    Nat.min_eq_left hsplit.le_length, Nat.add_sub_cancel' hle]
  rfl

theorem group_eq_filter (h : s.At offset cursor) (ht : t ∈ s.group cursor) :
    s.group cursor = s.tokens.toList.filter (·.index = t.index) := by
  apply (hs.group_pairwise cursor).eq_of_mem_iff (hs.pairwise.filter _)
  intro u
  rw [h.mem_group_iff hs, hs.index_of_mem_group ht]
  simp

end Lawful

-- Where a cursor is aligned, its group is all tokens of a place, and after one of them the cursor is
-- aligned again, behind all tokens that start before the end of this one. At any cursor, searching
-- finds what going through the tokens does.
theorem groups_stay_whole [RegexEngine] (terminals : List Terminal) (input : String) :
    let tokens := Token.tokenize terminals input
    let s := ofTokens input tokens
    (∀ cursor, s.Aligned cursor → ∀ t ∈ s.group cursor,
      s.group cursor = tokens.filter (·.index = t.index) ∧
      s.Aligned (s.skipTo cursor t.stop) ∧ cursor < s.skipTo cursor t.stop ∧
      s.skipTo cursor t.stop ≤ tokens.length ∧
      s.skipTo cursor t.stop = tokens.countP (·.index < t.stop)) ∧
    (∀ cursor, s.group cursor = scanGroup tokens cursor) ∧
    ∀ cursor stop, s.skipTo cursor stop = scanTo tokens cursor stop := by
  intro tokens s
  have hs : s.Lawful := lawful_ofTokens
  refine ⟨?aligned, hs.group_eq_scanGroup, hs.skipTo_eq_scanTo⟩
  case aligned =>
    intro cursor ha t ht
    have ⟨first, _, hf, _⟩ := hs.mem_group_iff.mp ht
    have hat := hs.at_of_aligned ha hf
    have hnext := hat.skipTo hs ht
    exact ⟨hs.group_eq_filter hat ht, hnext.aligned, hs.lt_skipTo ht, hnext.le_size,
      hnext.splitsAt.countP_eq.symm⟩

open Grammar in
theorem groups_stay_whole_lists :
    let tokens := Token.tokenize listTerminals "3.5\n42"
    let s := ofTokens "3.5\n42" tokens
    s.Aligned 0 ∧ ¬s.Aligned 1 ∧
    (∃ t ∈ s.group 0, t.terminal = "real" ∧ t.stop = 3 ∧
      s.group 0 = tokens.filter (·.index = t.index) ∧ s.Aligned (s.skipTo 0 t.stop) ∧
      s.skipTo 0 t.stop = 3) ∧
    s.group 1 = scanGroup tokens 1 ∧ s.skipTo 1 9 = scanTo tokens 1 9 := by
  intro tokens s
  have ⟨hw, hg, hs⟩ := groups_stay_whole listTerminals "3.5\n42"
  have h₀ : s.Aligned 0 := by decide +kernel
  have h₁ : ¬s.Aligned 1 := by decide +kernel
  have ht : (s.group 0).any (fun t => t.terminal = "real" ∧ t.stop = 3) := by decide +kernel
  simp only [List.any_eq_true, decide_eq_true_eq] at ht
  have ⟨t, ht, hn, hstop⟩ := ht
  have hc : tokens.countP (·.index < 3) = 3 := by decide +kernel
  have ⟨hf, ha, _, _, hskip⟩ := hw 0 h₀ t ht
  exact ⟨h₀, h₁, ⟨t, ht, hn, hstop, hf, ha, by rw [hskip, hstop, hc]⟩, hg 1, hs 1 9⟩

end TokenStream

end PegParser
