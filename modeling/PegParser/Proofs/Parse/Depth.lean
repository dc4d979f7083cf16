import PegParser.Proofs.Parse.Calls
import PegParser.Proofs.Parse.Termination

namespace PegParser.Parse

variable {s : TokenStream} {c depth : Nat} {m : Option (List Tree × Nat)} {ds : List SyntaxError}

theorem exists_of_triesFrom_le {tries : Nat} (h : triesFrom s c ≤ tries) :
    ∃ n, tries = n + 1 ∧ s.size - c ≤ n := by
  rw [triesFrom] at h
  exact ⟨tries - 1, by omega, by omega⟩

variable [RegexEngine] {g : Grammar} {p : Phrase}

theorem Follows.eq_ofRun {attempt : Attempt (List Tree)} (h : Follows g s attempt p c)
    (he : Ends attempt c) (hr : Runs g s p c m ds) (errors : ErrorStack) :
    attempt c errors = .ofRun errors ds m := by
  cases h
  case stuck h => exact absurd (h errors) (he errors)
  case run hr' h =>
    obtain ⟨hm, hd⟩ := hr.deterministic hr'
    exact hm ▸ hd ▸ h errors

-- The attempts at a phrase have an end at the cursor.
def Phrase.Ends (g : Grammar) (s : TokenStream) (depth : Nat) : Phrase → (cursor : Nat) → Prop
  | element e, c => Parse.Ends (Parse.element s (Parse.rule g s depth) e) c
  | sequence es, c => Parse.Ends (Parse.sequence s (Parse.rule g s depth) es) c
  | firstOf alternatives, c =>
    ∀ message, Parse.Ends (Parse.firstOf s (Parse.rule g s depth) message alternatives) c
  | repetition e, c =>
    ∀ tries, triesFrom s c ≤ tries →
      Parse.Ends (zeroOrMore (Parse.element s (Parse.rule g s depth) e) tries) c
  | rule index, c => Parse.Ends (Parse.rule g s depth index) c

section

variable {e : Element} {es : List Element}

theorem Runs.element_eq (h : Runs g s (.element e) c m ds)
    (he : (Phrase.element e).Ends g s depth c) (errors : ErrorStack) :
    element s (rule g s depth) e c errors = .ofRun errors ds m :=
  (element_follows (rule_follows depth) e c).eq_ofRun he h errors

theorem Runs.sequence_eq (h : Runs g s (.sequence es) c m ds)
    (he : (Phrase.sequence es).Ends g s depth c) (errors : ErrorStack) :
    sequence s (rule g s depth) es c errors = .ofRun errors ds m :=
  (sequence_follows (rule_follows depth) es c).eq_ofRun he h errors

end

theorem Runs.ends (hs : s.Lawful) (h : Runs g s p c m ds) (hc : c ≤ s.size)
    (hd : nesting g s (p, c) ≤ depth) : p.Ends g s depth c := by
  induction h generalizing depth
  case taken | missing =>
    simp only [Phrase.Ends, element]
    exact .terminal
  case call hi =>
    simp only [Phrase.Ends, element]
    exact (hi hc (Calls.call.nesting_le.trans hd)).map
  case chosen hi | unchosen hi =>
    simp only [Phrase.Ends, element]
    exact hi hc (Calls.choice.nesting_le.trans hd) _
  case present hi | absent hi =>
    simp only [Phrase.Ends, element]
    exact .zeroOrOne (hi hc (Calls.zeroOrOne.nesting_le.trans hd))
  case many hi =>
    simp only [Phrase.Ends, element]
    exact hi hc (Calls.zeroOrMore.nesting_le.trans hd) _ le_rfl
  case noOne h hi =>
    have he := h.element_eq (hi hc (Calls.one.nesting_le.trans hd))
    intro errors
    simp [element, oneOrMore, he, Step.ofRun]
  case oneStill h hle hi =>
    have he := h.element_eq (hi hc (Calls.one.nesting_le.trans hd))
    intro errors
    simp [element, oneOrMore, he, Step.ofRun, hle]
  case oneMore h hlt _ hi hi' =>
    have he := h.element_eq (hi hc (Calls.one.nesting_le.trans hd))
    intro errors
    simp only [element, oneOrMore, he, Step.ofRun, if_pos hlt]
    exact Ends.map (hi' (h.next_le hs hc) ((Calls.orMore h hlt).nesting_le.trans hd) _ le_rfl) _
  case ended h hi =>
    have he := h.element_eq (hi hc (Calls.again.nesting_le.trans hd))
    intro tries ht errors
    obtain ⟨tries, rfl, ht⟩ := exists_of_triesFrom_le ht
    simp [zeroOrMore, he, Step.ofRun]
  case still h hle hi =>
    have he := h.element_eq (hi hc (Calls.again.nesting_le.trans hd))
    intro tries ht errors
    obtain ⟨tries, rfl, ht⟩ := exists_of_triesFrom_le ht
    simp [zeroOrMore, he, Step.ofRun, hle]
  case again h hlt _ hi hi' =>
    have he := h.element_eq (hi hc (Calls.again.nesting_le.trans hd))
    have hn := h.next_le hs hc
    intro tries ht errors
    obtain ⟨tries, rfl, ht⟩ := exists_of_triesFrom_le ht
    simp only [zeroOrMore, he, Step.ofRun, if_pos hlt]
    -- At least as many tries are left as the rest needs from the next cursor on.
    refine Ends.map (hi' hn ((Calls.andAgain h hlt).nesting_le.trans hd) _ ?_) _
    rw [triesFrom]
    omega
  case nil =>
    intro errors
    simp [sequence]
  case headFailed h hi =>
    have he := h.element_eq (hi hc (Calls.head.nesting_le.trans hd))
    intro errors
    simp [sequence, he, Step.ofRun]
  case tailFailed h _ hi hi' | cons h _ hi hi' =>
    have he := h.element_eq (hi hc (Calls.head.nesting_le.trans hd))
    intro errors
    simp only [sequence, he, Step.ofRun]
    exact Ends.map (hi' (h.next_le hs hc) ((Calls.tail h).nesting_le.trans hd)) _
  case exhausted =>
    intro message errors
    simp [firstOf, Step.fail]
  case first h hi =>
    have he := h.sequence_eq (hi hc (Calls.first.nesting_le.trans hd))
    intro message errors
    simp [firstOf, he, Step.ofRun]
  case later h _ hi hi' =>
    have he := h.sequence_eq (hi hc (Calls.first.nesting_le.trans hd))
    intro message errors
    simp only [firstOf, he, Step.ofRun]
    exact hi' hc ((Calls.later h).nesting_le.trans hd) message _
  case ruled hr h hi | unruled hr h hi =>
    have hlt := lt_of_lt_of_le (h.nesting_lt hr hc) hd
    obtain ⟨depth, rfl⟩ := Nat.exists_eq_add_one.mpr (Nat.zero_lt_of_lt hlt)
    intro errors
    rw [rule_eq hr]
    exact Ends.map (hi hc (Nat.le_of_lt_add_one hlt) _) errors

theorem rule_cases (hs : s.Lawful) (index : Nat) (hc : c ≤ s.size) (hd : depthLimit g s ≤ depth) :
    (∃ m ds, Runs g s (.rule index) c m ds ∧
      ∀ errors, (rule g s depth index c errors).map ([·]) = .ofRun errors ds m) ∨
    (∀ m ds, ¬Runs g s (.rule index) c m ds) ∧ ∀ errors, rule g s depth index c errors = .stuck := by
  cases rule_follows (g := g) (s := s) depth index c
  case run h he => exact .inl ⟨_, _, h, he⟩
  case stuck h =>
    have h : ∀ errors, rule g s depth index c errors = .stuck :=
      fun errors => Step.map_singleton_inj.mp (h errors)
    refine .inr ⟨fun m ds hr => ?_, h⟩
    exact hr.ends hs hc (nesting_le_depthLimit.trans hd) .empty (h .empty)

end PegParser.Parse
