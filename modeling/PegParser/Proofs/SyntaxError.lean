import Mathlib
import PegParser.SyntaxError

namespace PegParser

-- No failure is further into the input, and the later ones are less far.
def SyntaxError.IsFurthest (f : SyntaxError) (es : List SyntaxError) : Prop :=
  ∃ before after, es = before ++ f :: after ∧
    (∀ e ∈ before, e.position.index ≤ f.position.index) ∧
    ∀ e ∈ after, e.position.index < f.position.index

namespace SyntaxError.IsFurthest

variable {f e : SyntaxError} {es : List SyntaxError}

theorem mem (h : f.IsFurthest es) : f ∈ es := by
  have ⟨before, after, he, _⟩ := h
  simp [he]

theorem le (h : f.IsFurthest es) (he : e ∈ es) : e.position.index ≤ f.position.index := by
  have ⟨before, after, hes, hb, ha⟩ := h
  rw [hes, List.mem_append, List.mem_cons] at he
  cases he
  case inl he => exact hb e he
  case inr he =>
    cases he
    case inl he => exact he ▸ le_rfl
    case inr he => exact le_of_lt (ha e he)

theorem singleton : e.IsFurthest [e] :=
  ⟨[], [], rfl, nofun, nofun⟩

theorem push_of_le (h : f.IsFurthest es) (hle : f.position.index ≤ e.position.index) :
    e.IsFurthest (es ++ [e]) :=
  ⟨es, [], rfl, fun _ h' => le_trans (h.le h') hle, nofun⟩

theorem push_of_lt (h : f.IsFurthest es) (hlt : e.position.index < f.position.index) :
    f.IsFurthest (es ++ [e]) := by
  have ⟨before, after, hes, hb, ha⟩ := h
  refine ⟨before, after ++ [e], by simp [hes], hb, fun e' he' => ?_⟩
  cases List.mem_append.mp he'
  case inl he' => exact ha e' he'
  case inr he' => exact List.mem_singleton.mp he' ▸ hlt

end SyntaxError.IsFurthest

namespace ErrorStack

def pushAll (s : ErrorStack) (es : List SyntaxError) : ErrorStack :=
  es.foldl push s

variable {s : ErrorStack} {es es' : List SyntaxError} {e : SyntaxError}

@[simp]
theorem pushAll_nil : s.pushAll [] = s := rfl

@[simp]
theorem pushAll_append : s.pushAll (es ++ es') = (s.pushAll es).pushAll es' :=
  List.foldl_append

@[simp]
theorem pushAll_singleton : s.pushAll [e] = s.push e := rfl

@[simp]
theorem toList_pushAll : (s.pushAll es).toList = s.toList ++ es := by
  induction es generalizing s
  case nil => simp
  case cons e es hi => exact (hi (s := s.push e)).trans (by simp)

theorem last_pushAll_empty : (empty.pushAll es).last.toOption = es.getLast? := by
  have h : (empty.pushAll es).errors.back? = es.getLast? := by
    rw [← Array.getLast?_toList]
    exact congrArg List.getLast? toList_pushAll
  rw [last, h]
  cases es.getLast? <;> rfl

theorem foldl_further (h : es ≠ []) : ∃ f, es.foldl further none = some f ∧ f.IsFurthest es := by
  induction es using List.reverseRecOn
  case nil => contradiction
  case append_singleton es e hi =>
    rw [List.foldl_concat]
    by_cases he : es = []
    case pos =>
      subst he
      exact ⟨e, rfl, .singleton⟩
    case neg =>
      have ⟨f, hf, h⟩ := hi he
      rw [hf, further]
      split
      case isTrue hle => exact ⟨e, rfl, h.push_of_le hle⟩
      case isFalse hle => exact ⟨f, rfl, h.push_of_lt (by omega)⟩

theorem exists_furthest? (h : s.toList ≠ []) :
    ∃ f, s.furthest? = some f ∧ f.IsFurthest s.toList := by
  rw [furthest?, ← Array.foldl_toList]
  exact foldl_further h

end ErrorStack
end PegParser
