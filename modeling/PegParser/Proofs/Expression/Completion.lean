import PegParser.Proofs.Expression.Agreement
import PegParser.Proofs.Expression.Offsets

namespace PegParser.Expression

open Text (byteLength)

inductive Balanced : List Char → Prop
  | nil : Balanced []
  | concat {w c} : Balanced w → c ≠ '(' → c ≠ ')' → Balanced (w ++ [c])
  | group {w v} : Balanced w → Balanced v → Balanced (w ++ '(' :: v ++ [')'])

section

variable (symbols : SymbolTable) (rule : String)

def Accepts (w : List Char) : Prop :=
  ∃ es, ofText symbols rule (.ofList w) = .ok es

-- Some number of closing parentheses completes the text.
def Completable (w : List Char) : Prop :=
  ∃ n, Accepts symbols rule (w ++ List.replicate n ')')

-- An error of a text, which starts where the text can no longer be completed.
inductive Located (text : String) : GrammarError → Prop
  | malformed {reason before c after stop} :
    reason ≠ "unclosed parenthesis" → text.toList = before ++ c :: after →
    Completable symbols rule before → (∀ more, ¬Accepts symbols rule (before ++ c :: more)) →
    Located text (.malformedExpression rule text reason ⟨byteLength before, stop⟩)
  -- All that is missing are closing parentheses, the first of them for the last group.
  | unclosed {before after n stop} :
    text.toList = before ++ '(' :: after → Balanced after → 0 < n →
    Accepts symbols rule (text.toList ++ List.replicate n ')') →
    Located text (.malformedExpression rule text "unclosed parenthesis" ⟨byteLength before, stop⟩)
  | unknown {before letters after} :
    text.toList = before ++ letters ++ after → IsName letters →
    (∀ c ∈ after.head?, ¬isNamePart c) → symbols.get? (.ofList letters) = none →
    Completable symbols rule before →
    Located text (.unknownSymbol rule (.ofList letters) text
      ⟨byteLength before, byteLength before + byteLength letters⟩)

end

-- The groups that are open, by the offsets of their parentheses.
inductive Nested : List Nat → List Char → Prop
  | nil {w} : Balanced w → Nested [] w
  | cons {offsets w v} :
    Nested offsets w → Balanced v → Nested (byteLength w :: offsets) (w ++ '(' :: v)

variable {symbols : SymbolTable} {rule text : String} {w v before : List Char} {c : Char}
variable {r : Refusal} {e : GrammarError}

theorem accepts_iff : Accepts symbols rule w ↔ ∃ es, ofChars symbols w = .ok es := by
  simp only [Accepts, ofText, String.toList_ofList]
  cases ofChars symbols w <;> simp [Except.mapError]

namespace Nested

variable {offset : Nat} {offsets : List Nat}

theorem concat (h : Nested offsets w) (ho : c ≠ '(') (hc : c ≠ ')') :
    Nested offsets (w ++ [c]) := by
  cases h
  case nil hw => exact .nil (.concat hw ho hc)
  case cons h hv =>
    rw [List.append_assoc]
    exact .cons h (.concat hv ho hc)

theorem opened (h : Nested offsets w) : Nested (byteLength w :: offsets) (w ++ ['(']) :=
  .cons h .nil

theorem closed (h : Nested (offset :: offsets) w) : Nested offsets (w ++ [')']) := by
  cases h
  case cons w v hv h =>
    cases h
    case nil hw => exact .nil (by simpa using Balanced.group hw hv)
    case cons h hw =>
      have := Nested.cons h (.group hw hv)
      simpa using this

theorem exists_of_cons (h : Nested (offset :: offsets) w) :
    ∃ before after, w = before ++ '(' :: after ∧ Balanced after ∧ byteLength before = offset := by
  cases h
  case cons hv _ => exact ⟨_, _, rfl, hv, rfl⟩

end Nested

def Progress.opened (p : Progress) : List Nat :=
  p.groups.map (·.offset)

variable {p q : Progress}

namespace Progress

theorem nested_of_foldlM (h : w.foldlM (push symbols) {} = .ok p) : Nested p.opened w := by
  induction w using List.reverseRecOn generalizing p
  case nil =>
    cases h
    exact .nil .nil
  case append_singleton w c hi =>
    have ⟨p', hp, h⟩ := Except.foldlM_concat_eq_ok_iff.mp h
    have hi := hi hp
    have ho := (keeps_of_foldlM hp).offset
    have hr := reads_of_push h
    clear h
    cases hr
    case letter hc =>
      exact hi.concat (by rintro rfl; contradiction) (by rintro rfl; contradiction)
    case symbol q q' _ he ht =>
      rw [opened, ← (eq_of_endName he).2] at hi
      rw [← (eq_of_endName he).1] at ho
      cases ht
      case opened => simpa [opened, ho] using hi.opened
      case closed hg _ =>
        rw [hg] at hi
        exact hi.closed
      case barred hg _ =>
        rw [hg] at hi
        exact hi.concat (by decide) (by decide)
      all_goals exact hi.concat (by rintro rfl; contradiction) (by rintro rfl; contradiction)

theorem exists_of_name {start : Nat} {letters : List Char}
    (h : w.foldlM (push symbols) {} = .ok p) (hp : p.pending = .name start letters) :
    IsName letters.reverse ∧ ∃ before p' q, w = before ++ letters.reverse ∧
      byteLength before = start ∧ before.foldlM (push symbols) {} = .ok p' ∧
      p'.endName symbols = .ok q := by
  induction w using List.reverseRecOn generalizing p start letters
  case nil =>
    cases h
    cases hp
  case append_singleton w c hi =>
    have ⟨p', hp', h⟩ := Except.foldlM_concat_eq_ok_iff.mp h
    have hr := reads_of_push h
    clear h
    cases hr
    case letter hp₁ hc =>
      cases hp
      have ⟨hl, before, p₁, q, hw, hb, hf, he⟩ := hi hp' hp₁
      exact ⟨by simpa using hl.concat hc, before, p₁, q, by simp [hw], hb, hf, he⟩
    case symbol q q' _ he ht =>
      cases ht <;> cases hp
      case named hc =>
        have ho := (eq_of_endName he).1.trans (keeps_of_foldlM hp').offset
        exact ⟨.singleton hc, w, p', q, rfl, ho.symm, hp', he⟩

theorem exists_run_eq_ok (h : p.endName symbols = .ok q) :
    ∃ es, p.run symbols (List.replicate q.groups.length ')') = .ok es := by
  generalize hn : q.groups.length = n
  induction n generalizing p q
  case zero =>
    have hg := List.length_eq_zero_iff.mp hn
    exact ⟨q.sequence.reverse, by simp [run, finish, h, hg, pure, Except.pure]⟩
  case succ n hi =>
    obtain ⟨group, groups, hg⟩ := List.exists_cons_of_length_eq_add_one hn
    have hr : p.Reads symbols ')' _ := .symbol (absurd · (by decide)) h (.closed hg)
    rw [List.replicate_succ, hr.run]
    exact hi (endName_eq id) (by simpa [hg] using hn)

theorem completable_of_foldlM (hf : w.foldlM (push symbols) {} = .ok p)
    (he : p.endName symbols = .ok q) : Completable symbols rule w := by
  have ⟨es, h⟩ := exists_run_eq_ok he
  exact ⟨_, accepts_iff.mpr ⟨es, (run_append hf).trans h⟩⟩

theorem get?_of_resolve_eq_error {name : String} {offset : Nat}
    (h : resolve symbols name offset = .error r) : symbols.get? name = none := by
  unfold resolve at h
  split at h <;> first | assumption | cases h

theorem exists_of_endName_eq_error (h : p.endName symbols = .error r) :
    ∃ start letters, p.pending = .name start letters ∧
      symbols.get? (.ofList letters.reverse) = none ∧
      r = .unknown (.ofList letters.reverse) start := by
  unfold endName at h
  split at h
  case h_1 start letters hp =>
    rcases Except.bind_eq_error_iff.mp h with h | ⟨_, _, h⟩
    case inl => exact ⟨start, letters, hp, get?_of_resolve_eq_error h, resolve_eq_error h⟩
    case inr => cases h
  case h_2 => cases h

end Progress

theorem Fault.reason_ne {fault : Fault} (h : fault ≠ .unclosedGroup) :
    fault.reason ≠ "unclosed parenthesis" := by
  cases fault <;> dsimp only [reason]
  case unclosedGroup            => contradiction
  case unmatchedClose | bareBar => simp
  all_goals simp [String.ext_iff]

-- A name that is not known is found at its end, and is as long as it can be.
theorem Progress.located_of_endName (hf : w.foldlM (push symbols) {} = .ok p)
    (he : p.endName symbols = .error r) (ht : text.toList = w ++ v)
    (hv : ∀ c ∈ v.head?, ¬isNamePart c) : Located symbols rule text (r.toError rule text) := by
  have ⟨start, letters, hp, hs, hr⟩ := exists_of_endName_eq_error he
  have ⟨hn, before, p', q, hw, hb, hf', he'⟩ := exists_of_name hf hp
  have hl : (String.ofList letters.reverse).utf8ByteSize = byteLength letters.reverse := by
    rw [← Text.byteLength_toList, String.toList_ofList]
  subst hr hb
  rw [Refusal.toError, hl]
  exact .unknown (ht.trans (by rw [hw])) hn hv hs (completable_of_foldlM hf' he')

theorem Progress.pushSymbol_eq_error (h : p.pushSymbol c = .error r) :
    ∃ fault : Fault, fault ≠ .unclosedGroup ∧ r = .malformed fault p.offset := by
  have ⟨fault, hc, hr⟩ := refused_pushSymbol h
  refine ⟨fault, ?_, hr⟩
  rintro rfl
  subst hc
  simp [pushSymbol, Fault.char] at h

theorem Progress.located_of_push (hf : w.foldlM (push symbols) {} = .ok p)
    (h : p.push symbols c = .error r) (ht : text.toList = w ++ c :: v) :
    Located symbols rule text (r.toError rule text) := by
  have hpush := h
  unfold push at h
  split at h
  case h_1 => cases h
  case h_2 hn =>
    rcases Except.bind_eq_error_iff.mp h with h | ⟨q, he, h⟩
    case inl =>
      have ⟨_, _, hp, _⟩ := exists_of_endName_eq_error h
      refine located_of_endName hf h ht fun d hd hc => ?_
      cases hd
      exact hn _ _ hp hc
    case inr =>
      rcases Except.bind_eq_error_iff.mp h with h | ⟨_, _, h⟩
      case inr => cases h
      case inl =>
        have ⟨fault, hne, hr⟩ := pushSymbol_eq_error h
        have ho := (eq_of_endName he).1.trans (keeps_of_foldlM hf).offset
        subst hr
        rw [Refusal.toError, ho]
        refine .malformed (Fault.reason_ne hne) ht (completable_of_foldlM hf he) fun more ha => ?_
        have ⟨es, ha⟩ := accepts_iff.mp ha
        have ha : ({} : Progress).run symbols (w ++ c :: more) = .ok es := ha
        rw [run_append hf, run_eq_error hpush] at ha
        cases ha

theorem Progress.located_of_finish (hf : text.toList.foldlM (push symbols) {} = .ok p)
    (h : p.finish symbols = .error r) : Located symbols rule text (r.toError rule text) := by
  rcases Except.bind_eq_error_iff.mp h with h | ⟨q, he, h⟩
  case inl => exact located_of_endName hf h (List.append_nil _).symm nofun
  case inr =>
    split at h <;> cases h
    case h_2 group groups hg =>
      have hn := nested_of_foldlM hf
      have ⟨es, ha⟩ := exists_run_eq_ok he
      rw [opened, ← (eq_of_endName he).2, hg, List.map_cons] at hn
      have ⟨before, after, ht, hb, ho⟩ := hn.exists_of_cons
      rw [Refusal.toError, ← ho]
      exact .unclosed ht hb (by simp [hg]) (accepts_iff.mpr ⟨es, (run_append hf).trans ha⟩)

theorem located_of_eq_error (h : ofText symbols rule text = .error e) :
    Located symbols rule text e := by
  unfold ofText at h
  cases hr : ofChars symbols text.toList
  case ok => simp [hr, Except.mapError] at h
  case error r =>
    have he : r.toError rule text = e := by simpa [hr, Except.mapError] using h
    rw [← he]
    rcases Except.bind_eq_error_iff.mp hr with hr | ⟨p, hf, hr⟩
    case inl =>
      have ⟨before, c, after, p, ht, hf, hp⟩ := Except.exists_of_foldlM_eq_error hr
      exact Progress.located_of_push hf hp ht
    case inr => exact Progress.located_of_finish hf hr

-- Reading stops where the text cannot be completed any more, and not before. Reading by recursive
-- descent stops there too, never for want of an element at the end of the text, and with nothing
-- left over but what is refused.
theorem refuses_what_cannot_be_completed (symbols : SymbolTable) (rule text : String) :
    (∀ e, ofText symbols rule text = .error e → Located symbols rule text e) ∧
    ∀ depth, 2 * text.length < depth →
      Descent.read symbols depth text.toList = (ofChars symbols text.toList).mapError .refused ∧
      Descent.read symbols depth text.toList ≠ .error .endOfText ∧
      ∀ c, Descent.read symbols depth text.toList ≠ .error (.leftOver c) := by
  refine ⟨fun e h => located_of_eq_error h, fun depth hd => ?_⟩
  have he : Descent.read symbols depth text.toList =
      (ofChars symbols text.toList).mapError .refused := descent_eq hd
  rw [he]
  refine ⟨rfl, ?_, fun c => ?_⟩ <;> cases ofChars symbols text.toList <;> simp [Except.mapError]

theorem refuses_what_cannot_be_completed_lists :
    ofText someSymbols "list" "item (comma | (rest" =
        .error (.malformedExpression "list" "item (comma | (rest" "unclosed parenthesis" ⟨14, 15⟩) ∧
      Located someSymbols "list" "item (comma | (rest"
        (.malformedExpression "list" "item (comma | (rest" "unclosed parenthesis" ⟨14, 15⟩) ∧
      Descent.read someSymbols 50 "item (comma | (rest".toList =
        .error (.refused (.malformed .unclosedGroup 14)) := by
  have he : ofText someSymbols "list" "item (comma | (rest" = .error
      (.malformedExpression "list" "item (comma | (rest" "unclosed parenthesis" ⟨14, 15⟩) := rfl
  have ⟨hl, hd⟩ := refuses_what_cannot_be_completed someSymbols "list" "item (comma | (rest"
  exact ⟨he, hl _ he, (hd 50 (by decide)).1.trans rfl⟩

end PegParser.Expression
