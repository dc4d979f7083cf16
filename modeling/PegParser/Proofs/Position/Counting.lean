import PegParser.Proofs.Position

namespace PegParser

namespace Text

def bytes (text : String) : List UInt8 :=
  text.toUTF8.data.toList

def newline : UInt8 := 10

variable {offset : Nat} {c : Char} {cs : List Char} {bs : List UInt8}

theorem bytes_eq (text : String) : bytes text = text.toList.flatMap String.utf8EncodeChar := by
  rw [bytes, String.toUTF8_eq_toByteArray, ← String.utf8Encode_toList]
  exact List.toList_data_toByteArray

theorem length_bytes (text : String) : (bytes text).length = text.utf8ByteSize := by
  rw [bytes, Array.length_toList]
  rfl

theorem newline_notMem_utf8EncodeChar (h : c ≠ '\n') : newline ∉ String.utf8EncodeChar c := by
  have h : c.toNat ≠ '\n'.toNat := mt Char.toNat_inj.mp h
  simp only [String.utf8EncodeChar, newline, Char.toNat_val, Char.reduceToNat] at h ⊢
  split_ifs <;> simp [← UInt8.toNat_inj] <;> omega

theorem idxsOf_utf8EncodeChar :
    (String.utf8EncodeChar c).idxsOf newline offset = if c = '\n' then [offset] else [] := by
  split
  case isTrue h  => exact h ▸ rfl
  case isFalse h =>
    apply List.idxsOf_eq_nil_iff.mpr
    intro b hb
    apply beq_eq_false_iff_ne.mpr
    exact fun he => newline_notMem_utf8EncodeChar h (he ▸ hb)

theorem newlinesFrom_eq :
    newlinesFrom offset cs = (cs.flatMap String.utf8EncodeChar).idxsOf newline offset := by
  induction cs generalizing offset
  case nil => rfl
  case cons c cs hi =>
    rw [List.flatMap_cons, List.idxsOf_append, idxsOf_utf8EncodeChar, String.length_utf8EncodeChar,
      newlinesFrom, hi]
    split <;> rfl

theorem filter_idxsOf_lt :
    (bs.idxsOf newline).filter (· < offset) = (bs.take offset).idxsOf newline := by
  apply (List.pairwise_idxsOf.filter _).eq_of_mem_iff List.pairwise_idxsOf
  intro i
  simp only [List.mem_filter, List.mem_idxsOf_iff_exists_getElem_pos, List.getElem_take,
    List.length_take, lt_min_iff, decide_eq_true_eq]
  constructor
  case mp  => exact fun ⟨⟨hi, hb⟩, ho⟩ => ⟨⟨ho, hi⟩, hb⟩
  case mpr => exact fun ⟨⟨ho, hi⟩, hb⟩ => ⟨⟨hi, hb⟩, ho⟩

end Text

attribute [ext] Position

namespace Position

open Text

-- The position of an offset, by going through the bytes before it.
def count (bs : List UInt8) (offset : Nat) : Position :=
  let before := bs.take offset
  { index := before.length
    line := before.count newline
    column :=
      match (before.idxsOf newline).getLast? with
      | none => before.length
      | some last => before.length - last }

def lineStart? (bs : List UInt8) : Nat → Option Nat
  | 0 => some 0
  | before + 1 => (bs.idxsOf newline)[before]?

variable {bs : List UInt8} {offset offset' before : Nat}

@[simp]
theorem count_index : (count bs offset).index = min offset bs.length :=
  List.length_take

@[simp]
theorem count_line : (count bs offset).line = (bs.take offset).count newline :=
  rfl

theorem count_line_mono (h : offset ≤ offset') : (count bs offset).line ≤ (count bs offset').line :=
  (List.take_sublist_take_left h).count_le _

theorem count_column_of_first (h : (count bs offset).line = 0) :
    (count bs offset).column = (count bs offset).index := by
  have hn : ((bs.take offset).idxsOf newline).getLast? = none := by
    rw [List.getLast?_eq_none_iff, ← List.length_eq_zero_iff, List.length_idxsOf, ← count_line, h]
  simp only [count, hn]

theorem exists_newline (h : (count bs offset).line = before + 1) :
    ∃ start, (bs.idxsOf newline)[before]? = some start ∧ start < (count bs offset).index ∧
      (count bs offset).column = (count bs offset).index - start := by
  have hl : ((bs.take offset).idxsOf newline).length = before + 1 := by
    rw [List.length_idxsOf, ← count_line, h]
  have hs : ((bs.take offset).idxsOf newline).getLast? = (bs.idxsOf newline)[before]? := by
    rw [List.getLast?_eq_getElem?, hl, List.idxsOf_take, ← count_line, h, Nat.add_sub_cancel]
    exact List.getElem?_take_of_lt (Nat.lt_add_one before)
  have hne := List.ne_nil_of_length_eq_add_one hl
  have hg := List.getLast?_eq_some_getLast hne
  refine ⟨_, hs.symm.trans hg, ?lt, ?column⟩
  case lt     => exact List.lt_add_of_mem_idxsOf _ (List.getLast_mem hne)
  case column => simp only [count, hg]

theorem lineStart?_add_column (bs : List UInt8) (offset : Nat) :
    ∃ start, lineStart? bs (count bs offset).line = some start ∧
      start + (count bs offset).column = (count bs offset).index := by
  cases h : (count bs offset).line
  case zero => exact ⟨0, rfl, by rw [count_column_of_first h, Nat.zero_add]⟩
  case succ =>
    have ⟨start, hs, hlt, hc⟩ := exists_newline h
    exact ⟨start, hs, by omega⟩

theorem count_lt (h : offset < offset') (h' : offset' ≤ bs.length) :
    toLex ((count bs offset).line, (count bs offset).column) <
      toLex ((count bs offset').line, (count bs offset').column) := by
  have ⟨start, hs, hc⟩ := lineStart?_add_column bs offset
  have ⟨start', hs', hc'⟩ := lineStart?_add_column bs offset'
  rw [Prod.Lex.toLex_lt_toLex]
  have hle : (count bs offset).line ≤ (count bs offset').line := count_line_mono h.le
  cases hle.lt_or_eq
  case inl hlt => exact .inl hlt
  case inr he =>
    have : start = start' := Option.some.inj (hs.symm.trans (he ▸ hs'))
    simp only [count_index] at hc hc'
    exact .inr ⟨he, by omega⟩

end Position

namespace LineIndex

open Text Position

variable {text : String} {index : Nat}

theorem newlines_eq : (ofText text).newlines.toList = (bytes text).idxsOf newline := by
  rw [ofText, bytes_eq, newlinesFrom_eq]

theorem lineOf_eq_count : lineOf text index = ((bytes text).take index).count newline := by
  have hp : Partitioned (· < index) (ofText text).newlines 0 := partitioned_newlines
  have h := hp.splitsAt (Nat.zero_le _)
  rw [List.drop_zero, newlines_eq] at h
  rw [← List.length_idxsOf, ← filter_idxsOf_lt, ← List.countP_eq_length_filter, h.countP_eq]
  rfl

theorem position_eq_count (text : String) (offset : Nat) :
    (ofText text).position offset = count (bytes text) offset := by
  have hi : ((ofText text).position offset).index = (count (bytes text) offset).index := by
    rw [count_index, length_bytes]
    rfl
  have hl : ((ofText text).position offset).line = (count (bytes text) offset).line := by
    rw [count_line, List.take_eq_take_min, length_bytes]
    exact lineOf_eq_count
  refine Position.ext hi hl ?column
  cases hc : (count (bytes text) offset).line
  case zero => rw [column_eq_index (hl.trans hc), hi, count_column_of_first hc]
  case succ =>
    have ⟨start, hs, _, hcolumn⟩ := exists_newline hc
    rw [← newlines_eq, Array.getElem?_toList] at hs
    rw [column_eq_sub (hl.trans hc), hi, hcolumn, Array.getD_eq_getD_getElem?, hs, Option.getD_some]

-- The line and the column of an offset. Pairs are compared by the line, then by the column.
def lineAndColumn (text : String) (offset : Nat) : Nat ×ₗ Nat :=
  toLex (((ofText text).position offset).line, ((ofText text).position offset).column)

-- A position is what counting says, also past the end. Up to the end, later offsets have later lines
-- and columns, and the start of the line and the column add up to the offset.
theorem positions_are_counted (text : String) :
    (∀ offset, (ofText text).position offset = count (bytes text) offset) ∧
    StrictMonoOn (lineAndColumn text) (Set.Iic text.utf8ByteSize) ∧
    Set.InjOn (lineAndColumn text) (Set.Iic text.utf8ByteSize) ∧
    ∀ offset ≤ text.utf8ByteSize, ∃ start,
      lineStart? (bytes text) ((ofText text).position offset).line = some start ∧
        start + ((ofText text).position offset).column = offset := by
  have hmono : StrictMonoOn (lineAndColumn text) (Set.Iic text.utf8ByteSize) := by
    intro offset _ offset' ho' hlt
    simp only [lineAndColumn, position_eq_count]
    exact count_lt hlt (length_bytes text ▸ ho')
  refine ⟨position_eq_count text, hmono, hmono.injOn, ?starts⟩
  case starts =>
    intro offset ho
    have ⟨start, hs, hc⟩ := lineStart?_add_column (bytes text) offset
    rw [count_index, length_bytes, Nat.min_eq_left ho] at hc
    exact ⟨start, by rw [position_eq_count]; exact hs, by rw [position_eq_count]; exact hc⟩

theorem positions_are_counted_inside :
    (ofText "é\n\nz").position 1 = ⟨1, 0, 1⟩ ∧ (ofText "é\n\nz").position 9 = ⟨5, 2, 2⟩ ∧
      lineAndColumn "é\n\nz" 3 < lineAndColumn "é\n\nz" 4 ∧
      ∃ start, lineStart? (bytes "é\n\nz") ((ofText "é\n\nz").position 4).line = some start ∧
        start + ((ofText "é\n\nz").position 4).column = 4 := by
  have ⟨hp, hm, _, hs⟩ := positions_are_counted "é\n\nz"
  have hle : 4 ≤ "é\n\nz".utf8ByteSize := by decide +kernel
  refine ⟨(hp 1).trans ?_, (hp 9).trans ?_, hm (le_trans ?_ hle) hle ?_, hs 4 hle⟩
  all_goals decide +kernel

end LineIndex
end PegParser
