import Mathlib
import PegParser.Text.Offset

namespace PegParser.Text

theorem byteLength_toList (text : String) : byteLength text.toList = text.utf8ByteSize := by
  suffices h : ∀ cs, byteLength cs = (String.ofList cs).utf8ByteSize by
    rw [h, String.ofList_toList]
  intro cs
  induction cs
  case nil => simp
  case cons hi => rw [String.ofList_cons]; simp [hi]

variable {before text after : List Char}

theorem byteLength_pos (h : text ≠ []) : 0 < byteLength text := by
  cases text
  case nil => contradiction
  case cons c cs => exact Nat.add_pos_left c.utf8Size_pos _

theorem dropBytes?_append : dropBytes? (before ++ text) (byteLength before) = some text := by
  induction before
  case nil => simp [dropBytes?]
  case cons c cs hi =>
    obtain ⟨n, hn⟩ := Nat.exists_eq_add_one.mpr c.utf8Size_pos
    have : byteLength (c :: cs) = n + byteLength cs + 1 := by simp; omega
    simp only [this, List.cons_append, dropBytes?]
    rw [if_pos (by omega), ← hi]
    congr 1
    omega

theorem takeBytes?_append : takeBytes? (text ++ after) (byteLength text) = some text := by
  induction text
  case nil => simp [takeBytes?]
  case cons c cs hi =>
    obtain ⟨n, hn⟩ := Nat.exists_eq_add_one.mpr c.utf8Size_pos
    have : byteLength (c :: cs) = n + byteLength cs + 1 := by simp; omega
    have : n + byteLength cs + 1 - c.utf8Size = byteLength cs := by omega
    simp_all [takeBytes?]

theorem slice?_append :
    slice? (before ++ text ++ after) (byteLength before) (byteLength before + byteLength text) =
      some text := by
  simp [slice?, List.append_assoc, dropBytes?_append, takeBytes?_append]

section

variable {part : List Char} {offset start stop : Nat}

theorem exists_of_dropBytes? (h : dropBytes? text offset = some after) :
    ∃ before, text = before ++ after ∧ byteLength before = offset := by
  fun_induction dropBytes? text offset
  case case1 => exact ⟨[], by simpa using h, rfl⟩
  case case2 => contradiction
  case case3 c cs n hle hi =>
    have ⟨before, ht, hb⟩ := hi h
    exact ⟨c :: before, by simp [ht], by simp [hb]; omega⟩
  case case4 => contradiction

theorem exists_of_takeBytes? (h : takeBytes? text offset = some part) :
    ∃ after, text = part ++ after ∧ byteLength part = offset := by
  fun_induction takeBytes? text offset generalizing part
  case case1 text => exact ⟨text, by simp_all⟩
  case case2 => contradiction
  case case3 c cs n hle hi =>
    have ⟨part', hp, he⟩ := Option.map_eq_some_iff.mp h
    have ⟨after, ht, hb⟩ := hi hp
    subst he
    exact ⟨after, by simp [ht], by simp [hb]; omega⟩
  case case4 => contradiction

theorem exists_of_slice? (h : slice? text start stop = some part) :
    ∃ before after, text = before ++ part ++ after ∧ byteLength before = start ∧
      start + byteLength part = stop := by
  rw [slice?] at h
  split at h <;> try contradiction
  have ⟨rest, hd, ht⟩ := Option.bind_eq_some_iff.mp h
  have ⟨before, ht₁, hb⟩ := exists_of_dropBytes? hd
  have ⟨after, ht₂, hp⟩ := exists_of_takeBytes? ht
  exact ⟨before, after, by simp [ht₁, ht₂], hb, by omega⟩

theorem exists_of_find? (h : find? part text = some offset) :
    ∃ before after, text = before ++ part ++ after ∧ byteLength before = offset := by
  induction text generalizing offset
  case nil =>
    have ⟨hp, ho⟩ : part = [] ∧ 0 = offset := by simpa [find?] using h
    exact ⟨[], [], by simp [hp], ho⟩
  case cons c cs hi =>
    rw [find?] at h
    split at h
    case isTrue hp =>
      obtain ⟨after, ha⟩ := List.isPrefixOf_iff_prefix.mp hp
      exact ⟨[], after, ha.symm, Option.some.inj h⟩
    case isFalse =>
      obtain ⟨n, hn, ho⟩ := Option.map_eq_some_iff.mp h
      obtain ⟨before, after, ht, hb⟩ := hi hn
      exact ⟨c :: before, after, by simp [ht], by simp [hb, ho]⟩

def StandsAt (part text : List Char) (offset : Nat) : Prop :=
  ∃ before after, text = before ++ part ++ after ∧ byteLength before = offset

theorem standsAt_iff_slice? :
    StandsAt part text offset ↔ slice? text offset (offset + byteLength part) = some part := by
  constructor
  case mp =>
    rintro ⟨before, after, rfl, rfl⟩
    exact slice?_append
  case mpr =>
    intro h
    have ⟨before, after, ht, hb, _⟩ := exists_of_slice? h
    exact ⟨before, after, ht, hb⟩

instance : Decidable (StandsAt part text offset) :=
  decidable_of_iff _ standsAt_iff_slice?.symm

theorem StandsAt.of_cons {c : Char} (h : StandsAt part (c :: text) offset) :
    part <+: c :: text ∨ ∃ o, StandsAt part text o ∧ offset = c.utf8Size + o := by
  obtain ⟨before, after, ht, rfl⟩ := h
  cases before
  case nil => exact .inl ⟨after, ht.symm⟩
  case cons d before =>
    obtain ⟨rfl, rfl⟩ := List.cons.inj ht
    exact .inr ⟨_, ⟨before, after, by simp, rfl⟩, rfl⟩

theorem isLeast_of_find? (h : find? part text = some offset) :
    IsLeast {o | StandsAt part text o} offset := by
  refine ⟨exists_of_find? h, fun o ho => ?_⟩
  induction text generalizing offset o
  case nil =>
    have ⟨_, h⟩ : part = [] ∧ 0 = offset := by simpa [find?] using h
    omega
  case cons c cs hi =>
    rw [find?] at h
    split at h
    case isTrue => exact Option.some.inj h ▸ Nat.zero_le o
    case isFalse hp =>
      obtain ⟨n, hn, rfl⟩ := Option.map_eq_some_iff.mp h
      rcases StandsAt.of_cons ho with hc | ⟨o', ho', rfl⟩
      case inl => exact absurd (List.isPrefixOf_iff_prefix.mpr hc) hp
      case inr => exact Nat.add_le_add_left (hi hn o' ho') _

theorem exists_find?_of_standsAt (h : StandsAt part text offset) :
    ∃ o, find? part text = some o := by
  induction text generalizing offset
  case nil =>
    obtain ⟨before, after, ht, _⟩ := h
    exact ⟨0, by simp_all [find?]⟩
  case cons c cs hi =>
    by_cases hp : part.isPrefixOf (c :: cs)
    case pos => exact ⟨0, by rw [find?, if_pos hp]⟩
    case neg =>
      rcases h.of_cons with hc | ⟨_, ho, _⟩
      case inl => exact absurd (List.isPrefixOf_iff_prefix.mpr hc) hp
      case inr =>
        obtain ⟨o, ho⟩ := hi ho
        exact ⟨c.utf8Size + o, by rw [find?, if_neg hp, ho, Option.map_some]⟩

theorem isBoundary_of_slice? (h : slice? text start stop = some part) :
    IsBoundary text start ∧ IsBoundary text stop := by
  have ⟨before, after, ht, hb, hp⟩ := exists_of_slice? h
  constructor
  case left  => exact ⟨before, ⟨part ++ after, by simp [ht]⟩, hb⟩
  case right => exact ⟨before ++ part, ⟨after, ht.symm⟩, by simp [hb, hp]⟩

theorem isBoundary_byteLength : IsBoundary text (byteLength text) :=
  ⟨text, List.prefix_rfl, rfl⟩

theorem IsBoundary.le (h : IsBoundary text offset) : offset ≤ byteLength text := by
  have ⟨before, ⟨after, ht⟩, hb⟩ := h
  simp [← ht, ← hb]

theorem IsBoundary.add_utf8Size_le {c : Char} (h : IsBoundary (before ++ c :: after) offset)
    (hlt : byteLength before < offset) : byteLength before + c.utf8Size ≤ offset := by
  have ⟨part, hp, he⟩ := h
  have hc : before ++ [c] <+: before ++ c :: after := ⟨after, by simp⟩
  cases List.prefix_or_prefix_of_prefix hc hp
  case inl hc => simpa [he] using IsBoundary.le ⟨_, hc, rfl⟩
  case inr hp =>
    cases List.prefix_concat_iff.mp hp
    case inl hc => simp [← he, hc]
    case inr hp => exact absurd (IsBoundary.le ⟨_, hp, he⟩) (Nat.not_le.mpr hlt)

end

end PegParser.Text
