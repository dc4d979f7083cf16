import PegParser.Regex.Search

namespace PegParser.Regex.Automaton

variable {a : Automaton} {before : Option Char} {touching : Bool} {steps offset : Nat}
variable {rest : List Char} {m : Match}

theorem findFrom_standsIn (h : m ∈ a.findFrom steps before offset touching rest) :
    m.StandsIn offset rest := by
  fun_induction a.findFrom steps before offset touching rest
  case case4 offset _ _ _ _ c rest _ ih =>
    have : m.StandsIn (offset + Text.byteLength [c]) rest := by simpa using ih h
    exact this.append
  case case5 rest start stop _ _ skipped text found before ih =>
    have ht : rest = skipped ++ text ++ (rest.drop start).drop (stop - start) := by
      simp only [skipped, text, List.append_assoc, List.take_append_drop]
    cases List.mem_cons.mp h
    case inl h => exact h ▸ ⟨skipped, _, ht, rfl⟩
    case inr h =>
      rw [ht]
      refine Match.StandsIn.append ?_
      simpa [found, Match.stop, Nat.add_assoc] using ih h
  all_goals simp at h

theorem findFrom_pairwise :
    (a.findFrom steps before offset touching rest).Pairwise (·.stop ≤ ·.start) := by
  fun_induction a.findFrom steps before offset touching rest
  case case4 ih => exact ih
  case case5 found _ ih =>
    exact List.pairwise_cons.mpr ⟨fun _ h => (findFrom_standsIn h).le_start, ih⟩
  all_goals exact .nil

end PegParser.Regex.Automaton
