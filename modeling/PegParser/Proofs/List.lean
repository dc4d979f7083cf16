import Mathlib

namespace List.Forall₂

variable {α β : Type} {R : α → β → Prop} {as : List α} {bs : List β} {a : α} {b : β}

theorem exists_of_mem_left (h : Forall₂ R as bs) (ha : a ∈ as) : ∃ b ∈ bs, R a b := by
  induction h
  case nil => cases ha
  case cons b _ _ h _ hi =>
    cases ha
    case head => exact ⟨b, .head _, h⟩
    case tail ha =>
      obtain ⟨b, hb, h⟩ := hi ha
      exact ⟨b, .tail _ hb, h⟩

theorem exists_of_mem_right (h : Forall₂ R as bs) (hb : b ∈ bs) : ∃ a ∈ as, R a b :=
  exists_of_mem_left h.flip hb

theorem ne_nil_iff (h : Forall₂ R as bs) : as ≠ [] ↔ bs ≠ [] := by
  cases h <;> simp

theorem exists_of_perm {as' : List α} (h : Forall₂ R as bs) (hp : as.Perm as') :
    ∃ bs', bs.Perm bs' ∧ Forall₂ R as' bs' := by
  obtain ⟨bs', h, hp⟩ := perm_comp_forall₂ hp.symm h
  exact ⟨bs', hp.symm, h⟩

end List.Forall₂

namespace List

variable {α β : Type} [BEq α] [LawfulBEq α] {ps ps' : List (α × β)} {a : α} {b : β}

theorem lookup_eq_some_iff_mem (h : (ps.map Prod.fst).Nodup) :
    ps.lookup a = some b ↔ (a, b) ∈ ps := by
  rw [lookup_eq_some_iff]
  constructor
  case mp =>
    rintro ⟨before, after, he, _⟩
    simp [he]
  case mpr =>
    intro hm
    obtain ⟨before, after, he⟩ := append_of_mem hm
    refine ⟨before, after, he, fun other ho => ?_⟩
    rw [he, map_append, nodup_append] at h
    have := h.2.2 _ (mem_map_of_mem ho) a (by simp)
    simpa using this.symm

end List
