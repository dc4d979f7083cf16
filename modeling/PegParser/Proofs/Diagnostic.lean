import PegParser.Grammar.Source
import PegParser.Proofs.Expression.Offsets
import PegParser.Proofs.Grammar.Document
import PegParser.Proofs.Parse.Failures
import PegParser.Proofs.Parse.Spans

namespace PegParser

open Text (IsBoundary byteLength)

namespace Label

-- The label is one byte of a character that has more.
def Cuts (l : Label) (text : List Char) : Prop :=
  l.length = 1 ∧ ∃ before c after,
    text = before ++ c :: after ∧ byteLength before = l.offset ∧ 1 < c.utf8Size

theorem Cuts.not_isBoundary {l : Label} {text : List Char} (h : l.Cuts text) :
    ¬IsBoundary text (l.offset + l.length) := by
  obtain ⟨hl, before, c, after, rfl, ho, hc⟩ := h
  intro hb
  have := hb.add_utf8Size_le (by omega)
  omega

theorem Cuts.iff_of_isBoundary {l : Label} {text : List Char}
    (h : IsBoundary text (l.offset + l.length)) :
    IsBoundary text (l.offset + l.length) ↔ ¬l.Cuts text :=
  iff_of_true h fun hc => hc.not_isBoundary h

-- What a label marks in a text.
structure Marks (l : Label) (text : List Char) : Prop where
  isBoundary : IsBoundary text l.offset
  stop_le : l.offset + l.length ≤ byteLength text
  length_eq_zero_iff : l.length = 0 ↔ l.offset = byteLength text
  isBoundary_stop_iff : IsBoundary text (l.offset + l.length) ↔ ¬l.Cuts text

namespace Marks

variable {l : Label} {text before part after : List Char} {c : Char}

theorem whole (ht : text = before ++ part ++ after) (hp : part ≠ [])
    (ho : l.offset = byteLength before) (hl : l.length = byteLength part) : l.Marks text := by
  have := Text.byteLength_pos hp
  have hb : IsBoundary text (l.offset + l.length) :=
    ⟨before ++ part, ⟨after, ht.symm⟩, by simp [ho, hl]⟩
  refine ⟨⟨before, ⟨part ++ after, by simp [ht]⟩, ho.symm⟩, ?_, ?_, Cuts.iff_of_isBoundary hb⟩
  · simp [ht, ho, hl]
  · simp only [ht, ho, hl, Text.byteLength_append]
    omega

theorem byte (ht : text = before ++ c :: after) (ho : l.offset = byteLength before)
    (hl : l.length = 1) : l.Marks text := by
  by_cases hc : c.utf8Size = 1
  case pos =>
    have ht : text = before ++ [c] ++ after := by simp [ht]
    exact whole ht nofun ho (by simp [hl, hc])
  case neg =>
    have := c.utf8Size_pos
    have hcut : l.Cuts text := ⟨hl, before, c, after, ht, ho.symm, by omega⟩
    refine ⟨⟨before, ⟨c :: after, ht.symm⟩, ho.symm⟩, ?_, ?_, ?_⟩
    · simp only [ht, ho, hl, Text.byteLength_append, Text.byteLength_cons]
      omega
    · simp only [ht, ho, hl, Text.byteLength_append, Text.byteLength_cons]
      omega
    · simp [hcut, hcut.not_isBoundary]

theorem atEnd (ho : l.offset = byteLength text) (hl : l.length = 0) : l.Marks text := by
  have hb : IsBoundary text (l.offset + l.length) := by
    rw [ho, hl]
    exact Text.isBoundary_byteLength
  exact ⟨ho ▸ Text.isBoundary_byteLength, by omega, by omega, Cuts.iff_of_isBoundary hb⟩

theorem of_isBoundary (ho : IsBoundary text l.offset)
    (hl : l.length = if l.offset < byteLength text then 1 else 0) : l.Marks text := by
  obtain ⟨before, ⟨after, ht⟩, hb⟩ := ho
  cases after
  case nil =>
    rw [List.append_nil] at ht
    subst ht
    exact atEnd hb.symm (by simp [hl, hb])
  case cons c after =>
    have := c.utf8Size_pos
    refine byte ht.symm hb.symm ?_
    rw [hl, if_pos]
    simp only [← ht, ← hb, Text.byteLength_append, Text.byteLength_cons]
    omega

end Marks
end Label

-- The labels of a report stand in its source.
def Diagnostic.Marks (d : Diagnostic) : Prop :=
  ∀ labels, d.labels = some labels →
    ∃ source, d.source = some source ∧ ∀ l ∈ labels, l.Marks source.text.toList

namespace GrammarError

variable {text label : String} {span : Span} {before part after : List Char}

theorem length_labelOn : (labelOn text label span).length =
    if span.start < byteLength text.toList then max span.length 1 else 0 := by
  rw [Text.byteLength_toList]
  rfl

theorem labelOn_marks (ht : text.toList = before ++ part ++ after)
    (ho : span.start = byteLength before) (hl : span.length = byteLength part) :
    (labelOn text label span).Marks text.toList := by
  by_cases hp : part = []
  case pos =>
    rw [hp, List.append_nil] at ht
    refine .of_isBoundary ⟨before, ⟨after, ht.symm⟩, ho.symm⟩ ?_
    rw [length_labelOn, hl, hp]
    rfl
  case neg =>
    have := Text.byteLength_pos hp
    refine .whole ht hp ho ?_
    rw [length_labelOn, if_pos, hl]
    · omega
    · simp only [ht, ho, Text.byteLength_append]
      omega

end GrammarError

namespace Expression

variable {symbols : SymbolTable} {rule text : String} {e : GrammarError} {r : Refusal}

theorem Refusal.StandsIn.marks (h : r.StandsIn text.toList) :
    (r.toError rule text).diagnostic.Marks := by
  intro labels hl
  cases h with
  | @malformed fault before after h =>
    cases hl
    refine ⟨_, rfl, List.forall_mem_singleton.mpr (.of_isBoundary ⟨before, ⟨_, h.symm⟩, rfl⟩ ?_)⟩
    rw [GrammarError.length_labelOn, Span.length, ← Text.byteLength_toList]
    split <;> simp_all [GrammarError.labelOn]
  | @unknown before letters after h hn =>
    cases hl
    refine ⟨_, rfl, List.forall_mem_singleton.mpr (GrammarError.labelOn_marks h rfl ?_)⟩
    simp [Span.length, ← Text.byteLength_toList]

theorem marks_of_ofText (h : ofText symbols rule text = .error e) : e.diagnostic.Marks := by
  cases ho : ofChars symbols text.toList <;> rw [ofText, ho] at h <;> cases h
  exact (standsIn_of_ofChars ho).marks

end Expression

namespace Grammar

variable {e : GrammarError} {document : Json} {before entries : List Json}

theorem marks_of_labels? (h : e.labels? = none) : e.diagnostic.Marks :=
  fun labels hl => absurd hl (by simp [GrammarError.diagnostic, h])

theorem mem_violationsFrom {f : List Json → Json → List GrammarError}
    (h : e ∈ violationsFrom f before entries) : ∃ before entry, e ∈ f before entry := by
  induction entries generalizing before
  case nil => simp [violationsFrom] at h
  case cons entry entries hi =>
    rcases List.mem_append.mp h with h | h
    · exact ⟨before, entry, h⟩
    · exact hi h

theorem marks_of_mem_check {p : Prop} [Decidable p] {e' : GrammarError} (h : e ∈ Except.check p e')
    (hl : e'.labels? = none) : e.diagnostic.Marks :=
  marks_of_labels? (Except.eq_of_mem_check h ▸ hl)

theorem spanOf_marks {name text label : String} :
    (GrammarError.labelOn text label (spanOf name text)).Marks text.toList := by
  unfold spanOf
  split
  case h_1 hf =>
    obtain ⟨before, after, ht, hb⟩ := Text.exists_of_find? hf
    exact GrammarError.labelOn_marks ht hb.symm (by simp [Span.length, Text.byteLength_toList])
  case h_2 =>
    have ht : text.toList = [] ++ text.toList ++ [] := by simp
    refine GrammarError.labelOn_marks ht rfl ?_
    simp [Span.length, Text.byteLength_toList]

theorem marks_of_mem_ruleViolations {entry : Json} (h : e ∈ ruleViolations before entry) :
    e.diagnostic.Marks := by
  simp only [ruleViolations, List.mem_append, List.mem_flatMap, or_assoc] at h
  rcases h with h | h | ⟨_, _, h⟩ | h <;> exact marks_of_mem_check h rfl

variable [RegexEngine]

theorem marks_of_mem_patternViolations {name pattern : String}
    (h : e ∈ patternViolations name pattern) : e.diagnostic.Marks := by
  have h := Except.eq_error_of_mem_errors h
  cases hc : RegexEngine.compile pattern <;> rw [hc] at h <;> cases h
  exact marks_of_labels? rfl

theorem marks_of_mem_terminalViolations {entry : Json} (h : e ∈ terminalViolations before entry) :
    e.diagnostic.Marks := by
  simp only [terminalViolations, List.mem_append, or_assoc] at h
  rcases h with h | h | h | h
  case inr.inr.inr =>
    cases hp : patternOf? entry <;> simp only [hp, Option.elim] at h
    case none => contradiction
    case some => exact marks_of_mem_patternViolations h
  all_goals exact marks_of_mem_check h rfl

theorem marks_of_mem_violations (h : e ∈ violations document) : e.diagnostic.Marks := by
  simp only [violations, List.mem_append, List.mem_flatMap, or_assoc] at h
  rcases h with h | h | h | h | h | h | h | h | h | ⟨entry, _, h⟩
  case inr.inr.inr.inr.inr.inl =>
    obtain ⟨_, _, h⟩ := mem_violationsFrom h
    exact marks_of_mem_terminalViolations h
  case inr.inr.inr.inr.inr.inr.inl =>
    obtain ⟨_, _, h⟩ := mem_violationsFrom h
    exact marks_of_mem_ruleViolations h
  case inr.inr.inr.inr.inr.inr.inr.inr.inl =>
    obtain ⟨_, _, h⟩ := mem_violationsFrom h
    rcases List.mem_append.mp h with h | h <;> exact marks_of_mem_check h rfl
  case inr.inr.inr.inr.inr.inr.inr.inr.inr =>
    obtain ⟨_, _, h⟩ := List.mem_flatMap.mp h
    exact Expression.marks_of_ofText (Except.eq_error_of_mem_errors h)
  all_goals exact marks_of_mem_check h rfl

theorem marks_of_ofDocument (h : ofDocument document = .error e) : e.diagnostic.Marks :=
  marks_of_mem_violations (List.mem_of_mem_head? (ofDocument_reports.eq_error_iff.mp h))

theorem marks_of_ofTables {terminals : List Terminal} {rules : List Rule}
    (h : ofTables terminals rules = .error e) : e.diagnostic.Marks := by
  simp only [ofTables] at h
  split at h
  case isTrue =>
    cases h
    exact marks_of_labels? rfl
  case isFalse =>
    split at h <;> cases h
    case h_1 hf =>
      obtain ⟨r, _, hr⟩ := List.exists_of_findSome?_eq_some hf
      obtain ⟨es, _, hes⟩ := List.exists_of_findSome?_eq_some hr
      obtain ⟨name, _, he⟩ := Option.map_eq_some_iff.mp hes
      intro labels hl
      subst he
      cases hl
      exact ⟨_, rfl, List.forall_mem_singleton.mpr spanOf_marks⟩

theorem marks_of_ofFile {path : String} {content : FileContent}
    (h : ofFile path content = .error e) : e.diagnostic.Marks := by
  unfold ofFile at h
  split at h
  case h_1 =>
    cases h
    exact marks_of_labels? rfl
  case h_2 =>
    split at h
    case isTrue =>
      unfold ofYamlText at h
      split at h
      case h_1 => exact marks_of_ofDocument h
      case h_2 =>
        cases h
        exact marks_of_labels? rfl
    case isFalse =>
      unfold ofJsonText at h
      split at h
      case h_1 => exact marks_of_ofDocument h
      case h_2 =>
        cases h
        exact marks_of_labels? rfl

end Grammar

theorem ParseError.marks {e : ParseError}
    (h : IsBoundary e.input.text.toList e.error.position.index)
    (hf : ∀ f, e.furthest = some f → IsBoundary e.input.text.toList f.position.index) :
    e.diagnostic.Marks := by
  intro labels hl
  cases hl
  refine ⟨_, rfl, fun l hl => ?_⟩
  obtain ⟨d, hd, rfl⟩ := List.mem_map.mp hl
  have hb : IsBoundary e.input.text.toList d.position.index := by
    rcases List.mem_cons.mp hd with rfl | hd
    · exact h
    · exact hf d (by simpa using (List.mem_filter.mp hd).1)
  exact .of_isBoundary hb (by rw [Text.byteLength_toList]; rfl)

namespace Parse

variable {input : String} {errors : ErrorStack} {e : ParseError} {ds : List SyntaxError}

theorem mem_of_rejection (hne : ds ≠ []) (h : (.rejected e, errors) = rejection input ds) :
    e.input.text = input ∧ e.error ∈ errors.toList ∧
      ∀ f, e.furthest = some f → f ∈ errors.toList := by
  cases h
  refine ⟨rfl, ?_, fun f hf => ?_⟩
  · rw [ErrorStack.toList_pushAll, List.getLast?_eq_some_getLast hne]
    simp [ParseError.ofInput]
  · obtain ⟨f', hf', hi⟩ := ErrorStack.exists_furthest? (s := .pushAll .empty ds) (by simpa)
    cases hf.symm.trans hf'
    exact hi.mem

variable [RegexEngine] {g : Grammar} {complete : Bool}

theorem Parses.mem_of_rejected (h : Parses g input complete (.rejected e, errors)) :
    e.input.text = input ∧ e.error ∈ errors.toList ∧
      ∀ f, e.furthest = some f → f ∈ errors.toList := by
  generalize hr : (Outcome.rejected e, errors) = r at h
  cases h
  case parsed | stuck => cases hr
  case failed h       => exact mem_of_rejection (h.pushed_ne_nil nofun) hr
  case trailing       => exact mem_of_rejection (by simp) hr

theorem marks_of_analyze {errors' : ErrorStack}
    (h : g.analyze input complete errors = (.rejected e, errors')) : e.diagnostic.Marks := by
  have hp := h ▸ analyze_parses g input complete errors
  obtain ⟨hi, he, hf⟩ := hp.mem_of_rejected
  have hb {d} (hd : d ∈ errors'.toList) : IsBoundary e.input.text.toList d.position.index := by
    obtain ⟨k, _, hk⟩ := hp.marked.2.places d hd
    rw [hk, hi]
    exact position_isBoundary (fun t ht => Token.tokenize_standsIn (Grammar.mem_stream_iff.mp ht))
      Grammar.stream_length k
  exact ParseError.marks (hb he) fun f h => hb (hf f h)

end Parse

section

variable [RegexEngine]

-- What is reported of a text, a document, a file, two tables or an input.
inductive Reported : Diagnostic → Prop
  | text {symbols rule text e} :
    Expression.ofText symbols rule text = .error e → Reported e.diagnostic
  | document {document e} : Grammar.ofDocument document = .error e → Reported e.diagnostic
  | file {path content e} : Grammar.ofFile path content = .error e → Reported e.diagnostic
  | tables {terminals rules e} :
    Grammar.ofTables terminals rules = .error e → Reported e.diagnostic
  | input {g : Grammar} {input complete errors e errors'} :
    g.analyze input complete errors = (.rejected e, errors') → Reported e.diagnostic
  | named {g : Grammar} {input complete errors e errors' name} :
    g.analyze input complete errors = (.rejected e, errors') →
    Reported (e.withSourceName name).diagnostic

-- The labels of a report stand in its source: each starts at a character or at the end, where it is
-- empty, and ends behind a character just where it is no byte of a longer one.
theorem labels_stand_at_characters {d : Diagnostic} (h : Reported d) : d.Marks := by
  cases h with
  | text h     => exact Expression.marks_of_ofText h
  | document h => exact Grammar.marks_of_ofDocument h
  | file h     => exact Grammar.marks_of_ofFile h
  | tables h   => exact Grammar.marks_of_ofTables h
  | input h    => exact Parse.marks_of_analyze h
  | named h =>
    -- The name changes neither the labels nor the text.
    intro labels hl
    have ⟨source, hs, hm⟩ := Parse.marks_of_analyze h labels hl
    cases hs
    exact ⟨_, rfl, hm⟩

end

theorem labels_stand_at_characters_lists :
    ∃ e, Expression.ofText Expression.someSymbols "list" "item (it" = .error e ∧
      Reported e.diagnostic ∧ e.diagnostic.labels = some [⟨"`it` is not defined", 6, 2⟩] ∧
      (⟨"`it` is not defined", 6, 2⟩ : Label).Marks "item (it".toList := by
  have h : Expression.ofText Expression.someSymbols "list" "item (it" =
      .error (.unknownSymbol "list" "it" "item (it" ⟨6, 8⟩) := rfl
  have ⟨source, hs, hm⟩ := labels_stand_at_characters (.text h) _ rfl
  cases hs
  exact ⟨_, h, .text h, rfl, hm _ (List.mem_singleton_self _)⟩

-- A character that cannot be read has two bytes, and the label is on the first of them.
theorem label_cuts_character :
    ∃ e l, Expression.ofText Expression.someSymbols "list" "é" = .error e ∧
      e.diagnostic.labels = some [l] ∧ e.diagnostic.source = some ⟨none, "é"⟩ ∧
      ¬IsBoundary "é".toList (l.offset + l.length) := by
  have h : Expression.ofText Expression.someSymbols "list" "é" =
      .error (.malformedExpression "list" "é" "unexpected character `é`" ⟨0, 1⟩) := rfl
  refine ⟨_, ⟨"unexpected character `é`", 0, 1⟩, h, rfl, rfl, ?_⟩
  exact Label.Cuts.not_isBoundary ⟨rfl, [], 'é', [], rfl, rfl, by decide⟩

end PegParser
