import PegParser.Proofs.Expression.Reader
import PegParser.Proofs.Text.Offset

namespace PegParser.Expression

open Text (byteLength)

def Fault.char : Fault → Char
  | unmatchedClose => ')'
  | bareBar => '|'
  | unclosedGroup => '('
  | repeatedSuffix c => c
  | danglingSuffix c => c
  | unexpected c => c

-- The character that is wrong, or the name that is not known, stands in the text at the offset.
inductive Refusal.StandsIn (w : List Char) : Refusal → Prop
  | malformed {fault before after} :
    w = before ++ fault.char :: after → StandsIn w (.malformed fault (byteLength before))
  | unknown {before letters after} :
    w = before ++ letters ++ after → letters ≠ [] →
    StandsIn w (.unknown (.ofList letters) (byteLength before))

structure Progress.Keeps (p : Progress) (w : List Char) : Prop where
  offset : p.offset = byteLength w
  groups : ∀ group ∈ p.groups, ∃ before after,
    w = before ++ '(' :: after ∧ byteLength before = group.offset
  name : ∀ {start letters}, p.pending = .name start letters →
    letters ≠ [] ∧ ∃ before, w = before ++ letters.reverse ∧ byteLength before = start

variable {symbols : SymbolTable} {c : Char} {w v : List Char} {r : Refusal}

theorem Refusal.StandsIn.append (h : r.StandsIn w) : r.StandsIn (w ++ v) := by
  cases h with
  | malformed h  => exact .malformed (by rw [h, List.append_assoc, List.cons_append])
  | unknown h hl => exact .unknown (by rw [h, List.append_assoc]) hl

namespace Progress

variable {p q : Progress}

theorem keeps_nil : Keeps {} [] :=
  ⟨rfl, by simp, nofun⟩

theorem Keeps.endName (h : p.Keeps w) (he : p.endName symbols = .ok q) :
    q.Keeps w ∧ ¬q.pending.IsName := by
  unfold Progress.endName at he
  split at he
  case h_1 hp =>
    have ⟨e, _, he⟩ := Except.bind_eq_ok_iff.mp he
    cases he
    exact ⟨⟨h.offset, h.groups, nofun⟩, id⟩
  case h_2 hn =>
    cases he
    refine ⟨h, fun hp => ?_⟩
    cases hq : p.pending <;> simp_all [Pending.IsName]

theorem Keeps.takesUp (h : p.Keeps w) (ht : p.TakesUp c q) :
    ({ q with offset := p.offset + c.utf8Size } : Progress).Keeps (w ++ [c]) := by
  have hg : ∀ group ∈ p.groups, ∃ before after,
      w ++ [c] = before ++ '(' :: after ∧ byteLength before = group.offset := by
    intro group hm
    have ⟨before, after, hw, hb⟩ := h.groups group hm
    exact ⟨before, after ++ [c], by simp [hw], hb⟩
  have ho : p.offset + c.utf8Size = byteLength (w ++ [c]) := by simp [h.offset]
  cases ht
  case opened =>
    refine ⟨ho, List.forall_mem_cons.mpr ⟨⟨w, [], rfl, h.offset.symm⟩, hg⟩, nofun⟩
  case closed he =>
    rw [he] at hg
    exact ⟨ho, (List.forall_mem_cons.mp hg).2, nofun⟩
  case barred he =>
    rw [he] at hg
    exact ⟨ho, List.forall_mem_cons.mpr (List.forall_mem_cons.mp hg), nofun⟩
  case blank    => exact ⟨ho, hg, nofun⟩
  case suffixed => exact ⟨ho, hg, nofun⟩
  case named =>
    refine ⟨ho, hg, fun hn => ?_⟩
    cases hn
    exact ⟨nofun, w, rfl, h.offset.symm⟩

theorem Keeps.reads (h : p.Keeps w) (hr : p.Reads symbols c q) : q.Keeps (w ++ [c]) := by
  cases hr
  case letter hp _ =>
    have ⟨_, before, hw, hb⟩ := h.name hp
    refine ⟨by simp [h.offset], fun group hm => ?_, fun hn => ?_⟩
    · have ⟨before, after, hw, hb⟩ := h.groups group hm
      exact ⟨before, after ++ [c], by simp [hw], hb⟩
    · cases hn
      exact ⟨nofun, before, by simp [hw], hb⟩
  case symbol q₁ _ _ he ht =>
    have hk := (h.endName he).1
    have ho : q₁.offset = p.offset := hk.offset.trans h.offset.symm
    exact ho ▸ hk.takesUp ht

theorem keeps_of_foldlM (h : w.foldlM (push symbols) {} = .ok p) : p.Keeps w := by
  induction w using List.reverseRecOn generalizing p
  case nil =>
    cases h
    exact keeps_nil
  case append_singleton w c hi =>
    have ⟨p, hp, h⟩ := Except.foldlM_concat_eq_ok_iff.mp h
    exact (hi hp).reads (reads_of_push h)

theorem resolve_eq_error {name : String} {offset : Nat}
    (h : resolve symbols name offset = .error r) : r = .unknown name offset := by
  unfold resolve at h
  split at h <;> cases h
  rfl

theorem Keeps.refused_endName (h : p.Keeps w) (he : p.endName symbols = .error r) :
    r.StandsIn w := by
  unfold Progress.endName at he
  split at he
  case h_2 => contradiction
  case h_1 hp =>
    have ⟨hl, before, hw, hb⟩ := h.name hp
    cases Except.bind_eq_error_iff.mp he
    case inr he => simp [pure, Except.pure] at he
    case inl he =>
      rw [resolve_eq_error he, ← hb]
      exact .unknown (by rw [hw, List.append_nil]) (by simpa using hl)

theorem refused_pushSymbol (h : p.pushSymbol c = .error r) :
    ∃ fault : Fault, fault.char = c ∧ r = .malformed fault p.offset := by
  unfold pushSymbol at h
  split at h
  case isTrue => contradiction
  split at h
  case isTrue hc =>
    subst hc
    split at h <;> cases h
    exact ⟨.unmatchedClose, rfl, rfl⟩
  split at h
  case isTrue hc =>
    subst hc
    split at h <;> cases h
    exact ⟨.bareBar, rfl, rfl⟩
  split at h
  case isTrue => contradiction
  split at h
  case isTrue => contradiction
  split at h <;> cases h <;> exact ⟨_, rfl, rfl⟩

theorem Keeps.refused_push (h : p.Keeps w) (he : p.push symbols c = .error r) :
    r.StandsIn (w ++ [c]) := by
  unfold push at he
  split at he
  case h_1 => simp [bind, Except.bind, pure, Except.pure] at he
  case h_2 =>
    rcases Except.bind_eq_error_iff.mp he with he | ⟨q, hq, he⟩
    · exact (h.refused_endName he).append
    · rcases Except.bind_eq_error_iff.mp he with he | ⟨_, _, he⟩
      · have ⟨fault, hc, hr⟩ := refused_pushSymbol he
        rw [hr, (h.endName hq).1.offset]
        exact .malformed (by rw [hc])
      · cases he

theorem refused_of_foldlM (h : w.foldlM (push symbols) {} = .error r) : r.StandsIn w := by
  induction w using List.reverseRecOn
  case nil => simp [pure, Except.pure] at h
  case append_singleton w c hi =>
    rw [List.foldlM_append] at h
    rcases Except.bind_eq_error_iff.mp h with h | ⟨p, hp, h⟩
    · exact (hi h).append
    · rw [List.foldlM_cons] at h
      rcases Except.bind_eq_error_iff.mp h with h | ⟨_, _, h⟩
      · exact (keeps_of_foldlM hp).refused_push h
      · simp [pure, Except.pure] at h

theorem Keeps.refused_finish (h : p.Keeps w) (he : p.finish symbols = .error r) : r.StandsIn w := by
  unfold finish at he
  rcases Except.bind_eq_error_iff.mp he with he | ⟨q, hq, he⟩
  · exact h.refused_endName he
  · split at he <;> cases he
    case h_2 hg =>
      have ⟨before, after, hw, hb⟩ := (h.endName hq).1.groups _ (hg ▸ List.mem_cons_self)
      exact hb ▸ .malformed hw

end Progress

theorem standsIn_of_ofChars (h : ofChars symbols w = .error r) : r.StandsIn w := by
  rcases Except.bind_eq_error_iff.mp h with h | ⟨p, hp, h⟩
  · exact Progress.refused_of_foldlM h
  · exact (Progress.keeps_of_foldlM hp).refused_finish h

end PegParser.Expression
