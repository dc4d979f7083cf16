import PegParser.Proofs.Expression.Offsets
import PegParser.Proofs.Parse.Derivation
import PegParser.Proofs.Parse.Furthest
import PegParser.Proofs.Position

namespace PegParser

theorem Expression.Progress.Keeps.slices {p : Progress} {text w rest : List Char}
    (h : p.Keeps w) (ht : text = w ++ rest) :
    Text.IsBoundary text p.offset ∧ Text.dropBytes? text p.offset = some rest ∧
      ∀ start letters, p.pending = .name start letters →
        Text.slice? text start p.offset = some letters.reverse := by
  subst ht
  refine ⟨⟨w, List.prefix_append _ _, h.offset.symm⟩, h.offset ▸ Text.dropBytes?_append, ?_⟩
  intro start letters hp
  obtain ⟨_, before, rfl, rfl⟩ := h.name hp
  rw [h.offset, Text.byteLength_append]
  exact Text.slice?_append

namespace Grammar

variable [RegexEngine] {g : Grammar}

theorem ofTables_of_ofDocument {document : Json} (h : ofDocument document = .ok g) :
    ofTables g.terminals g.rules.toList = .ok g := by
  have ⟨terminals, rules, hs, hd⟩ := (ofDocument_reports.eq_ok h).2
  exact hd.ofTables_eq (proper_and_resolved_of_ofDocument h).1

end Grammar

namespace TokenStream

variable {s : TokenStream} {cursor : Nat}

theorem Lawful.group_ne_nil (hs : s.Lawful) (h : ¬s.isExhausted cursor) : s.group cursor ≠ [] := by
  have hlt : cursor < s.tokens.size := by simpa [isExhausted] using h
  have hh := hs.head?_group cursor
  rw [Array.getElem?_eq_getElem hlt] at hh
  exact List.ne_nil_of_mem (List.mem_of_mem_head? hh)

end TokenStream

namespace LineIndex

variable {text : String} {offset i : Nat}

theorem exists_newline (h : ((ofText text).position offset).line = i + 1) :
    ∃ n, (ofText text).newlines[i]? = some n ∧ n < ((ofText text).position offset).index := by
  have hl : lineOf text ((ofText text).position offset).index = i + 1 := h
  have hi : i < (ofText text).newlines.size := by
    have : lineOf text ((ofText text).position offset).index ≤ _ := lineOf_le
    omega
  have hn := (isGreatest_newlines hl).1.2
  simp only [Array.getD_eq_getD_getElem?, Array.getElem?_eq_getElem hi, Option.getD_some] at hn
  exact ⟨_, Array.getElem?_eq_getElem hi, hn⟩

end LineIndex

namespace Parse

section

variable [RegexEngine] {g : Grammar} {s : TokenStream} {x y : Phrase × Nat}

def Phrase.InTable (g : Grammar) : Phrase → Prop
  | rule index => (g.rule? index).isSome
  | _ => True

theorem Calls.resolved (hg : g.Resolved) (h : Calls g s x y) (hx : x.1.Resolved g) :
    y.1.Resolved g ∧ y.1.InTable g := by
  cases h
  case call => exact ⟨trivial, Grammar.isSome_rule?_of_unresolved? hx⟩
  case rule hr =>
    refine ⟨?_, trivial⟩
    exact Grammar.unresolvedInAlternatives?_eq_none_iff.mpr fun _ => hg.unresolved?_eq_none hr
  all_goals
    simp_all [Phrase.Resolved, Phrase.InTable, Grammar.unresolved?, Grammar.unresolvedInSequence?,
      Grammar.unresolvedInAlternatives?]

theorem resolved_of_visits (hg : g.Resolved)
    (h : Relation.ReflTransGen (Calls g s) (.rule 0, 0) x) : x.1.Resolved g ∧ x.1.InTable g := by
  induction h
  case refl          => exact ⟨trivial, by simp [Phrase.InTable, Grammar.rule?, hg.size_pos]⟩
  case tail hcall hi => exact hcall.resolved hg hi.1

-- Nothing is looked up out of range. The reader stands between two characters of its text wherever
-- it has got, and cuts names out of it. A parse without left recursion calls only rules of the
-- table, moves its cursor within the tokens, and finds a token wherever they are not exhausted. The
-- line of a position starts after a newline that exists.
theorem looks_up_in_range :
    (∀ (symbols : SymbolTable) (text : String) (w rest : List Char) (p : Expression.Progress),
      text.toList = w ++ rest → w.foldlM (Expression.Progress.push symbols) {} = .ok p →
      p.offset ≤ text.utf8ByteSize ∧ Text.IsBoundary text.toList p.offset ∧
        Text.dropBytes? text.toList p.offset = some rest ∧
        ∀ start letters, p.pending = .name start letters →
          Text.slice? text.toList start p.offset = some letters.reverse) ∧
    (∀ g : Grammar, ((∃ document, Grammar.ofDocument document = .ok g) ∨
        ∃ terminals rules, Grammar.ofTables terminals rules = .ok g) → ¬g.LeftRecursive →
      ∀ input complete errors,
      let s := g.stream input
      0 < g.rules.size ∧ (g.analyze input complete errors).1 ≠ .stuck ∧
        (∀ index c, Visits g s (.rule index) c → index < g.rules.size) ∧
        (∀ p c, Visits g s p c →
          c ≤ s.size ∧ ∀ stop, c ≤ s.skipTo c stop ∧ s.skipTo c stop ≤ s.size) ∧
        ∀ c, ¬s.isExhausted c → s.group c ≠ []) ∧
    ∀ text offset i, let p := (LineIndex.ofText text).position offset
      p.line = i + 1 → ∃ n, (LineIndex.ofText text).newlines[i]? = some n ∧ n ≤ p.index := by
  refine ⟨fun symbols text w rest p ht hp => ?_, fun g hg hl input complete errors => ?_, ?_⟩
  · have hk := (Expression.Progress.keeps_of_foldlM hp).slices ht
    exact ⟨Text.byteLength_toList text ▸ hk.1.le, hk⟩
  · have ⟨terminals, rules, hg⟩ : ∃ terminals rules, Grammar.ofTables terminals rules = .ok g := by
      rcases hg with ⟨_, hg⟩ | hg
      · exact ⟨_, _, Grammar.ofTables_of_ofDocument hg⟩
      · exact hg
    have hr := Grammar.resolved_of_ofTables hg
    have hs : (g.stream input).Lawful := g.lawful_stream
    have ⟨m, ds, h⟩ := exists_runs hg hl hs
    refine ⟨hr.size_pos, analyze_ne_stuck hg hl, fun index c hv => ?_, fun p c hv => ?_,
      fun c => ?_⟩
    · exact Grammar.lt_size (resolved_of_visits hr hv).2
    · have hc := (h.within_visits hs hv).1
      exact ⟨hc, fun stop => ⟨TokenStream.le_skipTo hc, TokenStream.skipTo_le hc⟩⟩
    · exact hs.group_ne_nil
  · intro text offset i p hl
    have ⟨n, hn, hlt⟩ := LineIndex.exists_newline hl
    exact ⟨n, hn, hlt.le⟩

end

open Grammar in
theorem looks_up_in_range_lists :
    (∃ p, "item\u3000(re".toList.foldlM (Expression.Progress.push Expression.someSymbols) {} = .ok p ∧
      p.offset = 10 ∧ Text.slice? "item\u3000(rest".toList 8 10 = some ['r', 'e']) ∧
    (∃ document g, ofDocument document = .ok g ∧ ¬g.LeftRecursive ∧
      ∀ index c, Visits g (g.stream "3.5,(7") (.rule index) c → index < g.rules.size) ∧
    (lists.analyze "3.5,(7" true .empty).1 ≠ .stuck ∧
    ∃ n, (LineIndex.ofText "a\nb").newlines[0]? = some n ∧ n ≤ 3 := by
  have ⟨hread, hparse, hline⟩ := looks_up_in_range
  refine ⟨?_, ?_, ?_, ?_⟩
  · have hp : "item\u3000(re".toList.foldlM (Expression.Progress.push Expression.someSymbols) {} =
        .ok ⟨10, [⟨7, [.rule "item" 1], []⟩], [], .name 8 ['e', 'r']⟩ := rfl
    have ⟨_, _, _, hn⟩ := hread _ "item\u3000(rest" _ ['s', 't'] _ rfl hp
    exact ⟨_, hp, rfl, hn _ _ rfl⟩
  · have ⟨g, hg, hl⟩ := exists_lists
    exact ⟨_, g, hg, hl, (hparse g (.inl ⟨_, hg⟩) hl "3.5,(7" true .empty).2.2.1⟩
  · exact (hparse lists (.inr ⟨_, _, lists_ofTables⟩) not_leftRecursive_lists _ _ _).2.1
  · exact hline "a\nb" 9 0 rfl

end Parse
end PegParser
