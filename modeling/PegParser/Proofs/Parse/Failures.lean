import PegParser.Proofs.Parse.Complete
import PegParser.Proofs.Parse.Stack
import PegParser.Proofs.Position
import PegParser.Proofs.Token.Reordering

namespace PegParser.Parse

open Relation

section Step

variable [RegexEngine] {g : Grammar} {s : TokenStream} {p : Phrase} {c : Nat} {x y : Phrase × Nat}
variable {own : List SyntaxError} {e : SyntaxError}

theorem Origin.index_le (hs : s.Lawful) (h : Origin g s p c own e) :
    ∀ d ∈ own, e.position.index ≤ d.position.index := by
  intro d hd
  rw [h.position_eq hs]
  exact h.runs.index_le hs d (List.mem_append_left _ hd)

theorem exists_at_of_calls (hs : s.Lawful) (h : ReflTransGen (Calls g s) x y)
    (hx : ∃ o, s.At o x.2) : ∃ o, s.At o y.2 := by
  induction h
  case refl => exact hx
  case tail hcall hi =>
    cases hcall.matched
    case inl he => exact he ▸ hi
    case inr hm =>
      have ⟨_, _, _, _, hr⟩ := hm
      have ⟨_, ho⟩ := hi
      exact hr.exists_at hs ho

theorem Origin.attempt_eq (hs : s.Lawful) (h : Origin g s p c own e) (hc : c ≤ s.size)
    (errors : ErrorStack) :
    p.attempt g s (depthLimit g s) c errors = .failed e (errors.pushAll (own ++ [e])) := by
  rw [h.runs.attempt_eq hs hc h.ne_firstOf, Step.ofRun, List.getLast?_concat, Option.getD_some]

end Step

section Parse

variable [RegexEngine]

-- The failure stands at a token or at the end of the input, with the line and the column of that.
structure Located (g : Grammar) (input : String) (e : SyntaxError) : Prop where
  locates : e.position.Locates input.toList
  index : e.position.index = input.utf8ByteSize ∨ ∃ t ∈ g.tokenize input, t.index = e.position.index

-- Of the terminals with a token where this one starts, its own is declared first.
structure DeclaredFirst (g : Grammar) (input : String) (t : Token) : Prop where
  mem : t ∈ g.tokenize input
  name : g.terminals[t.rank]?.map (·.name) = some t.terminal
  rank_le : ∀ u ∈ g.tokenize input, u.index = t.index → t.rank ≤ u.rank

-- What the failure of a phrase says is so. `own` are the failures since the phrase has been tried.
inductive Tells (g : Grammar) (input : String) : Phrase → List SyntaxError → SyntaxError → Prop
  | ended {name position} :
    position.index = input.utf8ByteSize →
    Tells g input (.element (.terminal name)) []
      ⟨.expectedToken, "expected `" ++ name ++ "`, found end of input", position⟩
  | unexpected {name found} :
    DeclaredFirst g input found →
    (∀ t ∈ g.tokenize input, t.terminal = name → t.index ≠ found.index) →
    Tells g input (.element (.terminal name)) []
      ⟨.unexpectedToken,
        "expected `" ++ name ++ "`, found `" ++ found.terminal ++ "` " ++ Text.quote found.value,
        found.position⟩
  | choice {alternatives own position} :
    (∀ d ∈ own, position.index ≤ d.position.index) →
    Tells g input (.element (.choice alternatives)) own
      ⟨.expectedToken, choiceMessage alternatives, position⟩
  | rule {index r own position} :
    g.rule? index = some r → (∀ d ∈ own, position.index ≤ d.position.index) →
    Tells g input (.rule index) own ⟨.expectedToken, ruleMessage r, position⟩

variable {g : Grammar} {input : String} {complete : Bool} {p : Phrase} {c o k : Nat} {t : Token}
variable {own : List SyntaxError} {e : SyntaxError} {r : Outcome × ErrorStack}

theorem located_of_eq (h : e.position = (g.stream input).position k) : Located g input e := by
  cases ht : (g.stream input).tokens[k]? <;> simp only [TokenStream.position, ht] at h
  case none =>
    refine ⟨h ▸ LineIndex.position_locates input _, .inl ?_⟩
    rw [h, LineIndex.last_index]
    rfl
  case some t =>
    have ht := Grammar.mem_stream_iff.mp (TokenStream.mem_tokens_iff.mpr ⟨k, ht⟩)
    refine ⟨?_, .inr ⟨t, ht, congrArg Position.index h.symm⟩⟩
    rw [h, (Token.tokenize_standsIn ht).position]
    exact LineIndex.position_locates input _

theorem declaredFirst_of_at (ho : (g.stream input).At o c)
    (ht : (g.stream input).tokens[c]? = some t) : DeclaredFirst g input t := by
  have hf := firstFrom_of_at ho g.lawful_stream ht
  rw [Grammar.setOf_mem_stream] at hf
  constructor
  case mem  => exact hf.mem
  case name => simpa using Token.name_of_mem_tokenize hf.mem
  case rank_le =>
    intro u hu hi
    cases hf.before u hu (hi ▸ hf.le_index)
    case inl he => exact he ▸ le_rfl
    case inr hb =>
      simp only [Token.Before] at hb
      omega

theorem terminalError_tells {name : String} (ho : (g.stream input).At o c)
    (h : ((g.stream input).group c).find? (·.terminal == name) = none) :
    Tells g input (.element (.terminal name)) [] (terminalError (g.stream input) name c) := by
  have hs : (g.stream input).Lawful := g.lawful_stream
  have hh := hs.head?_group c
  have hn := ho.index_ne_of_find?_eq_none hs h
  cases hg : (g.stream input).group c <;> simp only [terminalError, hg]
  case nil =>
    rw [hg, List.head?_nil, eq_comm] at hh
    apply Tells.ended
    simp [TokenStream.position, hh, LineIndex.last_index, Grammar.stream_length]
  case cons found others =>
    rw [hg, List.head?_cons, eq_comm] at hh
    refine .unexpected (declaredFirst_of_at ho hh) fun t ht he => ?_
    simpa [TokenStream.position, hh, Token.index] using hn t (Grammar.mem_stream_iff.mpr ht) he

theorem Origin.tells (h : Origin g (g.stream input) p c own e) (ho : (g.stream input).At o c) :
    Tells g input p own e := by
  have hle := h.index_le g.lawful_stream
  cases h
  case terminal hf => exact terminalError_tells ho hf
  case choice      => exact .choice hle
  case rule hr _   => exact .rule hr hle

-- A failure on the stack of a parse, between those before and after it.
inductive Recorded (g : Grammar) (input : String) (complete : Bool) :
    List SyntaxError → SyntaxError → List SyntaxError → Prop
  -- What it is about has pushed `own` and then this one.
  | tried {p c earlier own e after} :
    Visits g (g.stream input) p c → Tells g input p own e →
    p.attempt g (g.stream input) (depthLimit g (g.stream input)) c (.pushAll .empty earlier) =
      .failed e (.pushAll .empty (earlier ++ own ++ [e])) →
    Recorded g input complete (earlier ++ own) e after
  | left {before found} :
    complete → DeclaredFirst g input found →
    Recorded g input complete before (trailingError g found) []

variable {m : Option (List Tree × Nat)} {ds before after : List SyntaxError}

theorem Runs.recorded (h : Runs g (g.stream input) (.rule 0) 0 m ds)
    (he : ds = before ++ e :: after) (rest : List SyntaxError) :
    Located g input e ∧ Recorded g input complete before e rest := by
  have hs : (g.stream input).Lawful := g.lawful_stream
  have ⟨p, c, earlier, own, hv, hb, ho⟩ := h.traces before e after he
  have ⟨hc, _⟩ := h.within_visits hs hv
  have ⟨_, ha⟩ := exists_at_of_calls hs hv ⟨0, .zero⟩
  subst hb
  refine ⟨located_of_eq (ho.position_eq hs), .tried hv (ho.tells ha) ?_⟩
  rw [ho.attempt_eq hs hc, ← ErrorStack.pushAll_append, List.append_assoc]

theorem Parses.recorded (h : Parses g input complete r)
    (he : r.2.toList = before ++ e :: after) :
    Located g input e ∧ Recorded g input complete before e after := by
  cases h
  case stuck       => simp at he
  case parsed h _  => exact h.recorded (by simpa using he) after
  case failed h    => exact h.recorded (by simpa [rejection] using he) after
  case trailing h hc ht =>
    rw [rejection, ErrorStack.toList_pushAll, ErrorStack.toList_empty, List.nil_append] at he
    rcases append_singleton_eq_append_cons he with ⟨_, rfl, rfl⟩ | ⟨_, he⟩
    case inr => exact h.recorded he after
    case inl =>
      obtain ⟨_, ha⟩ := h.exists_at g.lawful_stream .zero
      exact ⟨located_of_eq (trailingError_position ht), .left hc (declaredFirst_of_at ha ht)⟩

theorem Parses.mem_toList {errors errors' : ErrorStack} (h : Parses g input complete r)
    (hne : r.1 ≠ .stuck) (hv : Visits g (g.stream input) p c)
    (hp : ∀ alternatives, p ≠ .firstOf alternatives)
    (he : p.attempt g (g.stream input) (depthLimit g (g.stream input)) c errors =
      .failed e errors') : e ∈ r.2.toList := by
  have hs : (g.stream input).Lawful := g.lawful_stream
  have ⟨_, _, hr, hsub⟩ := h.exists_subset hne
  have ⟨hc, m, ds, hr', hw⟩ := hr.within_visits hs hv
  rw [hr'.attempt_eq hs hc hp] at he
  cases m
  case some => cases he
  case none =>
    have hl := List.getLast?_eq_some_getLast (hr'.pushed_ne_nil hp)
    rw [Step.ofRun, hl, Option.getD_some] at he
    cases he
    exact hsub (hw.pushed (List.getLast_mem _))

-- Every failure on the stack of a parse stands at a token or at the end of the input, and what it
-- says is so. Where it misses a terminal, no token of that starts. The failure of a choice or a rule
-- is the last since that has been tried, and none of the others stands before it. Whatever is tried
-- and fails is on the stack.
theorem failures_tell_the_truth (g : Grammar) (input : String) (complete : Bool)
    (errors : ErrorStack) :
    let s := g.stream input
    let r := g.analyze input complete errors
    (∀ before e after, r.2.toList = before ++ e :: after →
      Located g input e ∧ Recorded g input complete before e after) ∧
    (r.1 ≠ .stuck → ∀ (p : Phrase) c e errors errors', Visits g s p c →
      (∀ alternatives, p ≠ .firstOf alternatives) →
      p.attempt g s (depthLimit g s) c errors = .failed e errors' → e ∈ r.2.toList) := by
  intro s r
  have h : Parses g input complete r := analyze_parses g input complete errors
  exact ⟨fun _ _ _ he => h.recorded he, fun hne _ _ _ _ _ hv hp he => h.mem_toList hne hv hp he⟩

end Parse

open Grammar in
theorem failures_tell_the_truth_lists :
    let s := lists.stream "\n)"
    let r := lists.analyze "\n)" true .empty
    let number : SyntaxError := ⟨.unexpectedToken, "expected `real`, found `close` \")\"", ⟨1, 1, 1⟩⟩
    let inner : SyntaxError := ⟨.unexpectedToken, "expected `open`, found `close` \")\"", ⟨1, 1, 1⟩⟩
    let item : SyntaxError := ⟨.expectedToken, "no alternative of rule `item` matched", ⟨1, 1, 1⟩⟩
    let list : SyntaxError := ⟨.expectedToken, "no alternative of rule `list` matched", ⟨1, 1, 1⟩⟩
    r.2.toList = [number, inner, item, list] ∧
      Located lists "\n)" item ∧ Recorded lists "\n)" true [number, inner] item [list] ∧
      ∃ e errors, (Phrase.rule 0).attempt lists s (depthLimit lists s) 0 .empty = .failed e errors ∧
        e ∈ r.2.toList := by
  intro s r number inner item list
  obtain ⟨hstack, htried⟩ := failures_tell_the_truth lists "\n)" true .empty
  have hr : r.2.toList = [number, inner] ++ item :: [list] := by decide +kernel
  obtain ⟨hl, hi⟩ := hstack _ _ _ hr
  have he : ((Phrase.rule 0).attempt lists s (depthLimit lists s) 0 .empty).error?.isSome := by
    decide +kernel
  obtain ⟨e, he⟩ := Option.isSome_iff_exists.mp he
  obtain ⟨errors, he⟩ := Step.exists_of_error? he
  have hf : (furthestOf? r.1).isSome := by decide +kernel
  obtain ⟨_, hf⟩ := Option.isSome_iff_exists.mp hf
  obtain ⟨_, hf, _⟩ := exists_of_furthestOf? hf
  have hne : r.1 ≠ .stuck := by
    rw [hf]
    nofun
  exact ⟨hr, hl, hi, e, errors, he, htried hne (.rule 0) 0 e .empty errors .refl nofun he⟩

end PegParser.Parse
