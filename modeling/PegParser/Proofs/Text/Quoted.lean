import Mathlib
import PegParser.Text.Quoted

namespace PegParser.Text

variable {c d : Char} {w w' u u' : List Char}

theorem append_inj_of_forall {p : Char → Prop} (hw : ∀ c ∈ w, p c) (hw' : ∀ c ∈ w', p c)
    (hu : ∀ c ∈ u.head?, ¬p c) (hu' : ∀ c ∈ u'.head?, ¬p c) (h : w ++ u = w' ++ u') :
    w = w' ∧ u = u' := by
  induction w generalizing w'
  case nil =>
    cases w'
    case nil       => exact ⟨rfl, h⟩
    case cons c w' => exact absurd (hw' c List.mem_cons_self) (hu c (by simp_all))
  case cons c w hi =>
    cases w'
    case nil =>
      have h : c :: (w ++ u) = u' := h
      exact absurd (hw c List.mem_cons_self) (hu' c (by simp [← h]))
    case cons d w' =>
      obtain ⟨rfl, ht⟩ := List.cons_eq_cons.mp h
      obtain ⟨rfl, hu⟩ := hi (List.forall_mem_cons.mp hw).2 (List.forall_mem_cons.mp hw').2 ht
      exact ⟨rfl, hu⟩

section Digits

variable {b n m : Nat}

theorem digitChar_inj : ∀ n < 16, ∀ m < 16, n.digitChar = m.digitChar → n = m := by
  decide

theorem toDigits_inj (hb : 1 < b) (hb' : b ≤ 16) (h : Nat.toDigits b n = Nat.toDigits b m) :
    n = m := by
  induction n using Nat.strong_induction_on generalizing m
  case h n hi =>
    -- Of several digits the last is the remainder.
    have hne {n m : Nat} (hn : n < b) (hm : ¬m < b) : Nat.toDigits b n ≠ Nat.toDigits b m := by
      intro h
      rw [Nat.toDigits_of_lt_base hn, Nat.toDigits_of_base_le hb (Nat.le_of_not_lt hm)] at h
      have := congrArg List.length h
      simp [Nat.toDigits_ne_nil] at this
    by_cases hn : n < b
    case pos =>
      by_cases hm : m < b
      case neg => exact absurd h (hne hn hm)
      case pos =>
        rw [Nat.toDigits_of_lt_base hn, Nat.toDigits_of_lt_base hm] at h
        exact digitChar_inj n (by omega) m (by omega) (List.singleton_inj.mp h)
    case neg =>
      by_cases hm : m < b
      case pos => exact absurd h.symm (hne hm hn)
      case neg =>
        rw [Nat.toDigits_of_base_le hb (Nat.le_of_not_lt hn),
          Nat.toDigits_of_base_le hb (Nat.le_of_not_lt hm)] at h
        obtain ⟨hd, hl⟩ := List.append_inj' h rfl
        have hq : n / b = m / b := hi _ (Nat.div_lt_self (by omega) hb) hd
        have hr : n % b = m % b := by
          have := Nat.mod_lt n (show 0 < b by omega)
          have := Nat.mod_lt m (show 0 < b by omega)
          exact digitChar_inj _ (by omega) _ (by omega) (List.singleton_inj.mp hl)
        rw [← Nat.div_add_mod n b, ← Nat.div_add_mod m b, hq, hr]

theorem digitChar_ne_brace : ∀ n < 16, n.digitChar ≠ '\x7d' := by
  decide

theorem ne_brace_of_mem_toDigits (h : c ∈ Nat.toDigits 16 n) : c ≠ '\x7d' := by
  induction n using Nat.strong_induction_on
  case h n hi =>
    by_cases hn : n < 16
    case pos =>
      rw [Nat.toDigits_of_lt_base hn, List.mem_singleton] at h
      exact h ▸ digitChar_ne_brace n hn
    case neg =>
      rw [Nat.toDigits_of_base_le (by decide) (by omega)] at h
      rcases List.mem_append.mp h with h | h
      · exact hi _ (by omega) h
      · exact List.mem_singleton.mp h ▸ digitChar_ne_brace _ (by omega)

theorem toDigits_append_inj (hu : ∀ c ∈ u.head?, ¬c.isDigit) (hu' : ∀ c ∈ u'.head?, ¬c.isDigit)
    (h : Nat.toDigits 10 n ++ u = Nat.toDigits 10 m ++ u') : n = m ∧ u = u' := by
  have hd {n c} : c ∈ Nat.toDigits 10 n → c.isDigit :=
    Nat.isDigit_of_mem_toDigits (by decide) (by decide)
  obtain ⟨hn, hu⟩ := append_inj_of_forall (p := (·.isDigit)) (fun _ => hd) (fun _ => hd) hu hu' h
  exact ⟨toDigits_inj (by decide) (by decide) hn, hu⟩

theorem codeEscape_append_inj (h : codeEscape c ++ u = codeEscape d ++ u') : c = d ∧ u = u' := by
  have hd {n} : ∀ c ∈ Nat.toDigits 16 n, c ≠ '\x7d' := fun _ => ne_brace_of_mem_toDigits
  have h : Nat.toDigits 16 c.toNat ++ '\x7d' :: u = Nat.toDigits 16 d.toNat ++ '\x7d' :: u' := by
    simpa [codeEscape] using h
  obtain ⟨hn, hu⟩ := append_inj_of_forall hd hd (by simp) (by simp) h
  exact ⟨Char.toNat_inj.mp (toDigits_inj (by decide) (by decide) hn), List.cons.inj hu |>.2⟩

end Digits

section Quote

def unescaped : Char → Char
  | 'n' => '\n'
  | 'r' => '\r'
  | 't' => '\t'
  | '0' => '\x00'
  | c => c

-- The three ways to write a character in a quoted text.
inductive Escaped : Char → List Char → Prop
  | plain {c : Char} : c ≠ '"' → c ≠ '\\' → Escaped c [c]
  | named {c d : Char} : d ≠ 'u' → unescaped d = c → Escaped c ['\\', d]
  | code {c : Char} : Escaped c (codeEscape c)

theorem escaped_escape (c : Char) : Escaped c (escape c) := by
  unfold escape
  iterate 6
    split
    case isTrue hc =>
      subst hc
      exact .named (by decide) rfl
  split
  case isTrue  => exact .code
  case isFalse => exact .plain ‹_› ‹_›

namespace Escaped

theorem ne_nil (h : Escaped c w) : w ≠ [] := by
  cases h <;> simp [codeEscape]

theorem head?_ne (h : Escaped c w) : w.head? ≠ some '"' := by
  cases h <;> simp_all [codeEscape]

theorem append_inj (h : Escaped c w) (h' : Escaped d w') (he : w ++ u = w' ++ u') :
    c = d ∧ u = u' := by
  cases h <;> cases h'
  case code.code  => exact codeEscape_append_inj he
  all_goals grind [codeEscape]

end Escaped

theorem flatMap_escape_append_inj
    (h : w.flatMap escape ++ '"' :: u = w'.flatMap escape ++ '"' :: u') : w = w' ∧ u = u' := by
  -- The quote at the end is no start of an escape.
  have hne {c : Char} {v v' : List Char} : '"' :: v ≠ escape c ++ v' := by
    intro h
    have := congrArg List.head? h
    rw [List.head?_append_of_ne_nil _ (escaped_escape c).ne_nil] at this
    exact (escaped_escape c).head?_ne this.symm
  induction w generalizing w'
  case nil =>
    cases w'
    case nil  => exact ⟨rfl, (List.cons.inj h).2⟩
    case cons => exact absurd (by simpa using h) hne
  case cons c w hi =>
    cases w'
    case nil => exact absurd (by simpa using h.symm) hne
    case cons d w' =>
      simp only [List.flatMap_cons, List.append_assoc] at h
      obtain ⟨rfl, ht⟩ := (escaped_escape c).append_inj (escaped_escape d) h
      obtain ⟨rfl, hu⟩ := hi ht
      exact ⟨rfl, hu⟩

theorem quote_append_inj {s t : String} (h : (quote s).toList ++ u = (quote t).toList ++ u') :
    s = t ∧ u = u' := by
  have h : s.toList.flatMap escape ++ '"' :: u = t.toList.flatMap escape ++ '"' :: u' := by
    simpa [quote] using h
  obtain ⟨hs, hu⟩ := flatMap_escape_append_inj h
  exact ⟨String.toList_inj.mp hs, hu⟩

end Quote
end PegParser.Text
