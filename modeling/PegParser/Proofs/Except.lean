import Mathlib

namespace Except

variable {ε α β : Type} {x : Except ε α} {f : α → Except ε β} {a : α} {b : β} {e : ε}

@[simp]
theorem ok_bind : (ok a >>= f) = f a := rfl

theorem bind_eq_ok_iff : (x >>= f) = ok b ↔ ∃ a, x = ok a ∧ f a = ok b := by
  cases x <;> simp [bind, Except.bind]

theorem bind_eq_error_iff :
    (x >>= f) = error e ↔ x = error e ∨ ∃ a, x = ok a ∧ f a = error e := by
  cases x <;> simp [bind, Except.bind]

theorem map_eq_ok_iff {f : α → β} : x.map f = ok b ↔ ∃ a, x = ok a ∧ f a = b := by
  cases x <;> simp [Except.map]

theorem foldlM_concat_eq_ok_iff {f : β → α → Except ε β} {xs : List α} {b' : β} :
    (xs ++ [a]).foldlM f b = .ok b' ↔ ∃ b₁, xs.foldlM f b = .ok b₁ ∧ f b₁ a = .ok b' := by
  rw [List.foldlM_append, bind_eq_ok_iff]
  simp

theorem exists_of_foldlM_eq_error {f : β → α → Except ε β} {xs : List α}
    (h : xs.foldlM f b = .error e) :
    ∃ before x after b', xs = before ++ x :: after ∧ before.foldlM f b = .ok b' ∧
      f b' x = .error e := by
  induction xs generalizing b
  case nil => cases h
  case cons x xs hi =>
    rw [List.foldlM_cons] at h
    rcases bind_eq_error_iff.mp h with h | ⟨b₁, hx, h⟩
    case inl => exact ⟨[], x, xs, b, rfl, rfl, h⟩
    case inr =>
      have ⟨before, y, after, b', hs, hb, hy⟩ := hi h
      exact ⟨x :: before, y, after, b', by simp [hs], by simp [hx, hb], hy⟩

theorem exists_of_any {p : α → Bool} (h : x.toOption.any p) : ∃ a, x = ok a ∧ p a := by
  cases x
  case error => contradiction
  case ok a => exact ⟨a, rfl, h⟩

-- The first of the errors, or a value that satisfies `P` if there are none.
inductive Reports (x : Except ε α) (es : List ε) (P : α → Prop) : Prop
  | refused {e : ε} : es.head? = some e → x = error e → Reports x es P
  | accepted {a : α} : es = [] → x = ok a → P a → Reports x es P

def check (p : Prop) [Decidable p] (e : ε) : List ε :=
  if p then [] else [e]

@[simp]
theorem check_eq_nil_iff {p : Prop} [Decidable p] : check p e = [] ↔ p := by
  simp [check]

theorem eq_of_mem_check {p : Prop} [Decidable p] {e' : ε} (h : e' ∈ check p e) : e' = e := by
  unfold check at h
  split at h <;> simp_all

def errors : Except ε α → List ε
  | error e => [e]
  | ok _ => []

theorem errors_eq_nil_iff : x.errors = [] ↔ ∃ a, x = ok a := by
  cases x <;> simp [errors]

theorem eq_error_of_mem_errors (h : e ∈ x.errors) : x = error e := by
  cases x <;> simp_all [errors]

namespace Reports

variable {es es' : List ε} {P P' : α → Prop} {Q : β → Prop}

theorem ok (h : P a) : Reports (.ok a : Except ε α) [] P :=
  .accepted rfl rfl h

theorem error : Reports (.error e) (e :: es) P :=
  .refused rfl rfl

theorem errors (x : Except ε α) : Reports x x.errors (x = .ok ·) := by
  cases x
  case error => exact .error
  case ok => exact .ok rfl

theorem check {p : Prop} [Decidable p] (h : p → P a) :
    Reports (if p then .ok a else .error e) (check p e) P := by
  unfold Except.check
  split
  case isTrue hp => exact ok (h hp)
  case isFalse => exact error

theorem checkFirst {p q : Prop} [Decidable p] [Decidable q] (hp : ¬p ↔ q)
    (h : q → Reports x es P) : Reports (if p then .error e else x) (Except.check q e ++ es) P := by
  by_cases hq : q
  case pos =>
    rw [if_neg (hp.mpr hq), Except.check, if_pos hq]
    exact h hq
  case neg =>
    rw [if_pos (not_not.mp (mt hp.mp hq)), Except.check, if_neg hq]
    exact error

theorem mono (h : Reports x es P) (hP : ∀ a, P a → P' a) : Reports x es P' := by
  cases h
  case refused hes hx => exact .refused hes hx
  case accepted hes hx ha => exact .accepted hes hx (hP _ ha)

theorem and_eq_nil (h : Reports x es P) : Reports x es fun a => es = [] ∧ P a := by
  cases h
  case refused hes hx => exact .refused hes hx
  case accepted hes hx ha => exact .accepted hes hx ⟨hes, ha⟩

theorem bind (h : Reports x es P) (h' : ∀ a, P a → Reports (f a) es' Q) :
    Reports (x >>= f) (es ++ es') Q := by
  cases h
  case refused e hes hx =>
    subst hx
    exact .refused (by rw [List.head?_append, hes]; rfl) rfl
  case accepted a hes hx ha =>
    subst hes hx
    exact h' a ha

theorem map {g : α → β} (h : Reports x es P) (hP : ∀ a, P a → Q (g a)) :
    Reports (x >>= fun a => .ok (g a)) es Q := by
  simpa using h.bind fun a ha => ok (hP a ha)

theorem mapM {γ : Type} {R : γ → α → Prop} {zs : List γ} {xs : List α} {es : γ → List ε}
    {P : γ → β → Prop} (hR : List.Forall₂ R zs xs) (h : ∀ z x, R z x → Reports (f x) (es z) (P z)) :
    Reports (xs.mapM f) (zs.flatMap es) (List.Forall₂ P zs) := by
  induction hR
  case nil => exact ok .nil
  case cons hx _ hi =>
    rw [List.mapM_cons, List.flatMap_cons]
    exact (h _ _ hx).bind fun y hy => hi.map fun ys hys => .cons hy hys

theorem mapM_self {xs : List α} {es : α → List ε} {P : α → β → Prop}
    (h : ∀ x, Reports (f x) (es x) (P x)) :
    Reports (xs.mapM f) (xs.flatMap es) (List.Forall₂ P xs) :=
  mapM (R := Eq) (List.forall₂_refl xs) fun _ _ hx => hx ▸ h _

theorem eq_error_iff (h : Reports x es P) : x = .error e ↔ es.head? = some e := by
  cases h
  case refused hes hx => simp [hes, hx, eq_comm]
  case accepted hes hx _ => simp [hes, hx]

theorem eq_ok (h : Reports x es P) (hx : x = .ok a) : es = [] ∧ P a := by
  cases h
  case refused hx' => cases hx.symm.trans hx'
  case accepted hes hx' ha =>
    cases hx.symm.trans hx'
    exact ⟨hes, ha⟩

theorem exists_ok_iff (h : Reports x es P) : (∃ a, x = .ok a) ↔ es = [] := by
  cases h
  case refused hes hx =>
    have : es ≠ [] := by rintro rfl; simp at hes
    simp [hx, this]
  case accepted hes hx _ => simp [hes, hx]

end Reports
end Except
