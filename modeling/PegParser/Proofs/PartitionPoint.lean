import Mathlib
import PegParser.PartitionPoint

namespace PegParser

variable {α : Type} {p : α → Bool} {xs : Array α} {lo hi i steps : Nat} {x : α}

def Partitioned (p : α → Bool) (xs : Array α) (lo : Nat) : Prop :=
  ∀ i j x y, lo ≤ i → i ≤ j → xs[i]? = some x → xs[j]? = some y → p y → p x

namespace partitionPoint

theorem le_search (h : lo ≤ hi) : lo ≤ search p xs steps lo hi := by
  fun_induction search p xs steps lo hi
  case case2 hlt middle _ ih => exact le_trans (by omega) (ih (by omega))
  case case3 hlt middle _ ih => exact ih (by omega)
  all_goals exact le_refl _

theorem search_le (h : lo ≤ hi) : search p xs steps lo hi ≤ hi := by
  fun_induction search p xs steps lo hi
  case case2 hlt middle _ ih => exact ih (by omega)
  case case3 hlt middle _ ih => exact le_trans (ih (by omega)) (by omega)
  all_goals exact h

-- The entries before `lo` are known to satisfy `p`, those from `hi` on to fail it, and each step
-- halves what is between.
theorem lt_search_iff {start : Nat} (hp : Partitioned p xs start) (hs : start ≤ lo)
    (hsteps : hi - lo ≤ steps) (hhi : hi ≤ xs.size) (hi₀ : start ≤ i) (hx : xs[i]? = some x)
    (below : i < lo → p x) (above : hi ≤ i → ¬p x) : i < search p xs steps lo hi ↔ p x := by
  fun_induction search p xs steps lo hi
  case case2 lo hi hlt middle hm ih =>
    have hy : xs[middle]? = some xs[middle] := Array.getElem?_eq_getElem (by omega)
    have hm : p xs[middle] := by simpa [hy] using hm
    refine ih (by omega) (by omega) hhi (fun h => ?_) above
    exact hp i middle x _ hi₀ (by omega) hx hy hm
  case case3 lo hi hlt middle hm ih =>
    have hy : xs[middle]? = some xs[middle] := Array.getElem?_eq_getElem (by omega)
    have hm : ¬p xs[middle] := by simpa [hy] using hm
    refine ih hs (by omega) (by omega) below (fun h => ?_)
    exact mt (hp middle i _ x (by omega) h hy hx) hm
  all_goals exact ⟨below, fun h => by by_contra; exact above (by omega) h⟩

end partitionPoint

theorem Partitioned.of_pairwise (h : xs.toList.Pairwise fun x y => p y → p x) :
    Partitioned p xs lo := by
  intro i j x y _ hij hx hy hp
  rw [← Array.getElem?_toList] at hx hy
  have ⟨hi, hx⟩ := List.getElem?_eq_some_iff.mp hx
  have ⟨hj, hy⟩ := List.getElem?_eq_some_iff.mp hy
  cases hij.eq_or_lt
  case inl he =>
    subst he
    exact hx ▸ hy.symm ▸ hp
  case inr hlt => exact hx ▸ List.pairwise_iff_getElem.mp h i j hi hj hlt (hy ▸ hp)

theorem le_partitionPoint (h : lo ≤ xs.size) : lo ≤ partitionPoint p xs lo :=
  partitionPoint.le_search h

theorem partitionPoint_le (h : lo ≤ xs.size) : partitionPoint p xs lo ≤ xs.size :=
  partitionPoint.search_le h

theorem lt_partitionPoint_iff (hp : Partitioned p xs lo) (h : lo ≤ i) (hx : xs[i]? = some x) :
    i < partitionPoint p xs lo ↔ p x := by
  have hi : i < xs.size := (Array.getElem?_eq_some_iff.mp hx).1
  exact partitionPoint.lt_search_iff hp le_rfl le_rfl le_rfl h hx (by omega) (by omega)

structure SplitsAt (p : α → Bool) (l : List α) (k : Nat) : Prop where
  le_length : k ≤ l.length
  taken : ∀ x ∈ l.take k, p x
  dropped : ∀ x ∈ l.drop k, ¬p x

namespace SplitsAt

variable {l : List α} {k : Nat}

theorem of_lt_iff (hk : k ≤ l.length) (h : ∀ {i x}, l[i]? = some x → (i < k ↔ p x)) :
    SplitsAt p l k where
  le_length := hk
  taken x hx := by
    have ⟨i, hi, hx⟩ := List.mem_take_iff_getElem.mp hx
    apply (h (List.getElem?_eq_some_iff.mpr ⟨_, hx⟩)).mp
    omega
  dropped x hx := by
    have ⟨i, hi, hx⟩ := List.mem_drop_iff_getElem.mp hx
    apply mt (h (List.getElem?_eq_some_iff.mpr ⟨_, hx⟩)).mpr
    omega

theorem filter_eq (h : SplitsAt p l k) : l.filter p = l.take k := by
  rw [← List.take_append_drop k l, List.filter_append, List.filter_eq_self.mpr h.taken,
    List.filter_eq_nil_iff.mpr h.dropped]
  simp

theorem takeWhile_eq (h : SplitsAt p l k) : l.takeWhile p = l.take k := by
  have hd : (l.drop k).takeWhile p = [] :=
    List.takeWhile_eq_nil_iff.mpr fun hl => h.dropped _ (List.getElem_mem hl)
  rw [← List.take_append_drop k l, List.takeWhile_append_of_pos h.taken, hd]
  simp

theorem countP_eq (h : SplitsAt p l k) : l.countP p = k := by
  rw [List.countP_eq_length_filter, h.filter_eq, List.length_take, Nat.min_eq_left h.le_length]

end SplitsAt

theorem Partitioned.splitsAt (hp : Partitioned p xs lo) (h : lo ≤ xs.size) :
    SplitsAt p (xs.toList.drop lo) (partitionPoint p xs lo - lo) := by
  have hle := le_partitionPoint (p := p) h
  have hsize := partitionPoint_le (p := p) h
  apply SplitsAt.of_lt_iff
  · rw [List.length_drop, Array.length_toList]
    omega
  · intro i x hx
    rw [List.getElem?_drop, Array.getElem?_toList] at hx
    rw [← lt_partitionPoint_iff hp (Nat.le_add_right lo i) hx]
    omega

theorem filter_eq_take (hp : Partitioned p xs 0) :
    xs.toList.filter p = xs.toList.take (partitionPoint p xs 0) :=
  (hp.splitsAt (Nat.zero_le _)).filter_eq

end PegParser
