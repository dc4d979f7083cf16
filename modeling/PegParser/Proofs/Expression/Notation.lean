import Mathlib
import PegParser.Expression.Reader

namespace PegParser.Expression

inductive Part
  | sequence (es : List Element)
  | item (e : Element)
  | primary (e : Element)
  -- What stands between the parentheses of a group.
  | alternatives (rows : List (List Element))

def IsName : List Char → Prop
  | [] => False
  | c :: cs => isNameStart c ∧ ∀ d ∈ cs, isNamePart d

-- A name that the first text ends with would go on in the second one.
def Joined (w w' : List Char) : Prop :=
  ∃ c ∈ w.getLast?, ∃ d ∈ w'.head?, isNamePart c ∧ isNamePart d

-- A sequence is any number of items, with blanks before each and after the last. An item is a name
-- or a group, with at most one suffix right behind it. A group is sequences in parentheses, with a
-- bar between them. A name is as long as it can be at its place.
inductive Writes (symbols : SymbolTable) : Part → List Char → Prop
  | nil : Writes symbols (.sequence []) []
  | blank {es c w} :
    Text.isBlank c → Writes symbols (.sequence es) w → Writes symbols (.sequence es) (c :: w)
  | cons {e es w w'} :
    Writes symbols (.item e) w → Writes symbols (.sequence es) w' → ¬Joined w w' →
    Writes symbols (.sequence (e :: es)) (w ++ w')
  | plain {e w} : Writes symbols (.primary e) w → Writes symbols (.item e) w
  | suffixed {e wrap c w} :
    Writes symbols (.primary e) w → suffix? c = some wrap →
    Writes symbols (.item (wrap e)) (w ++ [c])
  | terminal {letters} :
    IsName letters → symbols.get? (.ofList letters) = some .terminal →
    Writes symbols (.primary (.terminal (.ofList letters))) letters
  | rule {letters index} :
    IsName letters → symbols.get? (.ofList letters) = some (.rule index) →
    Writes symbols (.primary (.rule (.ofList letters) index)) letters
  | group {rows w} :
    Writes symbols (.alternatives rows) w →
    Writes symbols (.primary (.choice rows)) ('(' :: w ++ [')'])
  | last {es w} :
    Writes symbols (.sequence es) w → Writes symbols (.alternatives [es]) w
  | more {es rows w w'} :
    Writes symbols (.sequence es) w → Writes symbols (.alternatives rows) w' →
    Writes symbols (.alternatives (es :: rows)) (w ++ '|' :: w')

theorem not_isNamePart_of_isBlank {c : Char} (h : Text.isBlank c) : ¬isNamePart c := by
  simp only [Text.isBlank, Bool.or_eq_true, Bool.and_eq_true, decide_eq_true_eq, beq_iff_eq] at h
  simp only [isNamePart, isNameStart, Char.isAlpha, Char.isUpper, Char.isLower, Char.isDigit,
    Bool.or_eq_true, Bool.and_eq_true, decide_eq_true_eq, beq_iff_eq, Char.ext_iff,
    ← UInt32.toNat_inj, ge_iff_le, UInt32.le_iff_toNat_le, Char.toNat] at h ⊢
  simp only [Char.reduceVal, UInt32.reduceToNat]
  omega

theorem suffix?_eq_some {c : Char} {wrap : Element → Element} (h : suffix? c = some wrap) :
    c = '?' ∨ c = '*' ∨ c = '+' := by
  unfold suffix? at h
  split at h <;> simp_all

theorem not_isNamePart_of_suffix? {c : Char} {wrap : Element → Element}
    (h : suffix? c = some wrap) : ¬isNamePart c := by
  rcases suffix?_eq_some h with hc | hc | hc <;> subst hc <;> simp [isNamePart, isNameStart]

namespace Joined

variable {u v w : List Char} {c d : Char}

theorem nil_left : ¬Joined [] w := by
  simp [Joined]

theorem nil_right : ¬Joined w [] := by
  simp [Joined]

theorem cons_right (h : ¬isNamePart d) : ¬Joined w (d :: v) := by
  simp [Joined, h]

theorem of_cons (h : Joined u v) : Joined (c :: u) v := by
  have ⟨a, ha, h⟩ := h
  exact ⟨a, by simp_all [List.getLast?_cons], h⟩

theorem append_left_iff (h : v ≠ []) : Joined (u ++ v) w ↔ Joined v w := by
  simp [Joined, List.getLast?_append_of_ne_nil _ h]

theorem append_right_iff (h : v ≠ []) : Joined u (v ++ w) ↔ Joined u v := by
  simp [Joined, List.head?_append_of_ne_nil _ h]

end Joined

namespace IsName

variable {letters : List Char} {c : Char}

theorem ne_nil (h : IsName letters) : letters ≠ [] := by
  rintro rfl
  exact h

theorem isNamePart_of_mem (h : IsName letters) (hc : c ∈ letters) : isNamePart c := by
  cases letters
  case nil => exact h.elim
  case cons d ds =>
    cases List.mem_cons.mp hc
    case inl hc => simp [hc, isNamePart, h.1]
    case inr hc => exact h.2 c hc

theorem singleton (h : isNameStart c) : IsName [c] :=
  ⟨h, nofun⟩

theorem concat (h : IsName letters) (hc : isNamePart c) : IsName (letters ++ [c]) := by
  cases letters
  case nil => exact h.elim
  case cons d ds =>
    refine ⟨h.1, fun a ha => ?_⟩
    cases List.mem_append.mp ha
    case inl ha => exact h.2 a ha
    case inr ha => exact List.mem_singleton.mp ha ▸ hc

end IsName

namespace Writes

variable {symbols : SymbolTable} {p : Part} {e : Element} {es : List Element}
variable {rows : List (List Element)} {w w' : List Char} {c : Char}

theorem primary_ne_nil (h : Writes symbols (.primary e) w) : w ≠ [] := by
  cases h
  case terminal h _ => exact h.ne_nil
  case rule h _     => exact h.ne_nil
  case group        => simp

theorem item_ne_nil (h : Writes symbols (.item e) w) : w ≠ [] := by
  cases h
  case plain h => exact h.primary_ne_nil
  case suffixed => simp

theorem alternatives_ne_nil (h : Writes symbols (.alternatives rows) w) : rows ≠ [] := by
  cases h <;> simp

theorem concat (h : Writes symbols (.sequence es) w) (h' : Writes symbols (.item e) w')
    (hj : ¬Joined w w') : Writes symbols (.sequence (es ++ [e])) (w ++ w') := by
  generalize hp : Part.sequence es = p at h
  induction h generalizing es <;> cases hp
  case nil => simpa using Writes.cons h' .nil Joined.nil_right
  case blank hc _ hi => exact .blank hc (hi (mt .of_cons hj) rfl)
  case cons w₁ w₂ h₁ h₂ hj₁ _ hi =>
    rw [List.append_assoc]
    by_cases hw : w₂ = []
    case pos =>
      subst hw
      rw [List.append_nil] at hj
      exact .cons h₁ (hi Joined.nil_left rfl) hj
    case neg =>
      rw [Joined.append_left_iff hw] at hj
      exact .cons h₁ (hi hj rfl) (by rwa [Joined.append_right_iff hw])

theorem concat_blank (h : Writes symbols (.sequence es) w) (hc : Text.isBlank c) :
    Writes symbols (.sequence es) (w ++ [c]) := by
  generalize hp : Part.sequence es = p at h
  induction h generalizing es <;> cases hp
  case nil => exact .blank hc .nil
  case blank hc' _ hi => exact .blank hc' (hi rfl)
  case cons w₁ w₂ h₁ h₂ hj _ hi =>
    rw [List.append_assoc]
    refine .cons h₁ (hi rfl) ?_
    by_cases hw : w₂ = []
    case pos =>
      subst hw
      exact Joined.cons_right (not_isNamePart_of_isBlank hc)
    case neg => rwa [Joined.append_right_iff hw]

end Writes
end PegParser.Expression
