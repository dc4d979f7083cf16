import PegParser.Proofs.Parse.Outcome
import PegParser.Proofs.Parse.Path

namespace PegParser

namespace TokenStream.At

variable {s : TokenStream} {offset cursor : Nat} {name : String} {t : Token}

theorem mem_group_iff (h : s.At offset cursor) (hs : s.Lawful) :
    t ∈ s.group cursor ↔ t ∈ s.tokens ∧ t.index = (s.position cursor).index := by
  rw [hs.mem_group_iff, mem_tokens_iff]
  cases hf : s.tokens[cursor]? <;> simp only [position, hf]
  case none =>
    rw [LineIndex.last_index]
    constructor
    · rintro ⟨_, _, hf, _⟩
      contradiction
    · rintro ⟨ht, he⟩
      exact absurd he (hs.index_lt_length (mem_tokens_iff.mpr ht)).ne
  case some first =>
    constructor
    · rintro ⟨_, i, hf, _, ht, he⟩
      cases hf
      exact ⟨⟨i, ht⟩, he⟩
    · rintro ⟨⟨i, ht⟩, he⟩
      have := h.le_index hf le_rfl
      have := mt (h.lt_iff ht).mp
      exact ⟨first, i, rfl, by simp only [Token.index] at *; omega, ht, he⟩

theorem lt_stop (h : s.At offset cursor) (hs : s.Lawful) (ht : t ∈ s.group cursor) :
    offset < t.stop := by
  have ⟨first, _, hf, _, _, he⟩ := hs.mem_group_iff.mp ht
  have := h.le_index hf le_rfl
  have := hs.index_lt_stop t (hs.mem_tokens_of_mem_group ht)
  omega

theorem size_le_iff (h : s.At offset cursor) :
    s.size ≤ cursor ↔ ∀ t ∈ s.tokens, t.index < offset := by
  constructor
  · intro hc t ht
    have ⟨i, ht⟩ := mem_tokens_iff.mp ht
    exact (h.lt_iff ht).mp (lt_of_lt_of_le (lt_size ht) hc)
  · intro ho
    by_contra hc
    have ht := Array.getElem?_eq_getElem (not_le.mp hc)
    exact lt_irrefl _ ((h.lt_iff ht).mpr (ho _ (mem_tokens_iff.mpr ⟨_, ht⟩)))

theorem nextStart (h : s.At offset cursor) (hs : s.Lawful) :
    NextStart {t | t ∈ s.tokens} s.lines.length offset (s.position cursor).index := by
  cases hf : s.tokens[cursor]? <;> simp only [position, hf]
  case none =>
    rw [LineIndex.last_index]
    exact .none (h.size_le_iff.mp (TokenStream.size_le_iff.mpr hf))
  case some first =>
    refine .token ⟨⟨h.le_index hf le_rfl, first, mem_tokens_iff.mpr ⟨cursor, hf⟩, rfl⟩, ?_⟩
    rintro _ ⟨ho, t, ht, he⟩
    obtain ⟨i, ht⟩ := mem_tokens_iff.mp ht
    have := mt (h.lt_iff ht).mp
    exact he ▸ hs.index_le (by omega) hf ht

theorem tokenAt (h : s.At offset cursor) (hs : s.Lawful)
    (hf : (s.group cursor).find? (·.terminal == name) = some t) :
    TokenAt {t | t ∈ s.tokens} name (s.position cursor).index t := by
  have ⟨hn, before, after, hg, hb⟩ := List.find?_eq_some_iff_append.mp hf
  have ⟨ht, hi⟩ := (h.mem_group_iff hs).mp (List.mem_of_find?_eq_some hf)
  refine ⟨ht, by simpa using hn, hi, fun u hu hn' hi' => ?_⟩
  have hu := (h.mem_group_iff hs).mpr ⟨hu, hi'⟩
  have hp := hs.group_pairwise cursor
  rw [hg] at hu hp
  cases List.mem_append.mp hu
  case inl hu => simpa [hn'] using hb u hu
  case inr hu =>
    cases List.mem_cons.mp hu
    case inl he => exact he ▸ le_rfl
    case inr hu =>
      have := List.rel_of_pairwise_cons (List.pairwise_append.mp hp).2.1 hu
      simp only [Token.Before] at this
      omega

theorem index_ne_of_find?_eq_none (h : s.At offset cursor) (hs : s.Lawful)
    (hf : (s.group cursor).find? (·.terminal == name) = none) :
    ∀ t ∈ {t | t ∈ s.tokens}, t.terminal = name → t.index ≠ (s.position cursor).index := by
  intro t ht hn hi
  simpa [hn] using List.find?_eq_none.mp hf t ((h.mem_group_iff hs).mpr ⟨ht, hi⟩)

theorem find?_eq_some (h : s.At offset cursor) (hs : s.Lawful) {start : Nat}
    (hn : NextStart {t | t ∈ s.tokens} s.lines.length offset start)
    (ht : TokenAt {t | t ∈ s.tokens} name start t) :
    (s.group cursor).find? (·.terminal == name) = some t := by
  cases hn.unique (h.nextStart hs)
  cases hf : (s.group cursor).find? (·.terminal == name)
  case none => exact absurd ht.index (h.index_ne_of_find?_eq_none hs hf t ht.mem ht.terminal)
  case some =>
    exact congrArg some ((h.tokenAt hs hf).unique ht fun _ ht _ hu => hs.eq_of_index_rank ht hu)

theorem find?_eq_none (h : s.At offset cursor) (hs : s.Lawful) {start : Nat}
    (hn : NextStart {t | t ∈ s.tokens} s.lines.length offset start)
    (ht : ∀ t ∈ {t | t ∈ s.tokens}, t.terminal = name → t.index ≠ start) :
    (s.group cursor).find? (·.terminal == name) = none := by
  cases hn.unique (h.nextStart hs)
  refine List.find?_eq_none.mpr fun t hg => ?_
  have ⟨hm, hi⟩ := (h.mem_group_iff hs).mp hg
  simpa using fun hn => ht t hm hn hi

end TokenStream.At

namespace Parse

section

variable [RegexEngine] {g : Grammar} {s : TokenStream} {p q : Phrase} {o c : Nat}
variable {m : Option (List Tree × Nat)} {ds : List SyntaxError}

-- A match from an offset on and one from its cursor on give the same and end at the same place. The
-- one takes a token if the other does.
inductive Tracks (s : TokenStream) (o c : Nat) :
    Option (List Tree × Nat) → Option (List Tree × Nat) → Prop
  | failed : Tracks s o c none none
  | matched {nodes stop next} :
    s.At stop next → (stop = o ∧ next = c ∨ o < stop ∧ c < next) →
    Tracks s o c (some (nodes, stop)) (some (nodes, next))

omit [RegexEngine] in
theorem Tracks.still {nodes : List Tree} (ho : s.At o c) :
    Tracks s o c (some (nodes, o)) (some (nodes, c)) :=
  .matched ho (.inl ⟨rfl, rfl⟩)

theorem Runs.means (hs : s.Lawful) (h : Runs g s p c m ds) (ho : s.At o c) :
    ∃ m', Means g s p o m' ∧ Tracks s o c m' m := by
  induction h generalizing o
  case taken hf =>
    have ht := List.mem_of_find?_eq_some hf
    exact ⟨_, .taken (ho.nextStart hs) (ho.tokenAt hs hf),
      .matched (ho.skipTo hs ht) (.inr ⟨ho.lt_stop hs ht, hs.lt_skipTo ht⟩)⟩
  case missing hf =>
    exact ⟨_, .missing (ho.nextStart hs) (ho.index_ne_of_find?_eq_none hs hf), .failed⟩
  case call hi =>
    have ⟨_, h, ht⟩ := hi ho
    exact ⟨_, .call h, ht⟩
  case chosen hi | unchosen hi =>
    have ⟨_, h, ht⟩ := hi ho
    exact ⟨_, .choice h, ht⟩
  case present hi =>
    have ⟨_, h, .matched ha hm⟩ := hi ho
    exact ⟨_, .present h, .matched ha hm⟩
  case absent hi =>
    have ⟨_, h, .failed⟩ := hi ho
    exact ⟨_, .absent h, .still ho⟩
  case many hi =>
    have ⟨_, h, ht⟩ := hi ho
    exact ⟨_, .many h, ht⟩
  case noOne hi =>
    have ⟨_, h, .failed⟩ := hi ho
    exact ⟨_, .noOne h, .failed⟩
  case oneStill hle hi =>
    have ⟨_, h, .matched ha hm⟩ := hi ho
    have ⟨he, _⟩ := hm.resolve_right fun hm => hle hm.2
    subst he
    exact ⟨_, .oneStill h, .matched ha hm⟩
  case oneMore hlt _ hi hi' =>
    have ⟨_, h, .matched ha hm⟩ := hi ho
    have ⟨_, h', .matched ha' hm'⟩ := hi' ha
    have ⟨hlt, _⟩ := hm.resolve_left fun hm => by omega
    exact ⟨_, .oneMore h hlt h', .matched ha' (by omega)⟩
  case ended hi =>
    have ⟨_, h, .failed⟩ := hi ho
    exact ⟨_, .ended h, .still ho⟩
  case still hle hi =>
    have ⟨_, h, .matched ha hm⟩ := hi ho
    have ⟨he, _⟩ := hm.resolve_right fun hm => hle hm.2
    subst he
    exact ⟨_, .still h, .matched ha hm⟩
  case again hlt _ hi hi' =>
    have ⟨_, h, .matched ha hm⟩ := hi ho
    have ⟨_, h', .matched ha' hm'⟩ := hi' ha
    have ⟨hlt, _⟩ := hm.resolve_left fun hm => by omega
    exact ⟨_, .again h hlt h', .matched ha' (by omega)⟩
  case nil => exact ⟨_, .nil, .still ho⟩
  case headFailed hi =>
    have ⟨_, h, .failed⟩ := hi ho
    exact ⟨_, .headFailed h, .failed⟩
  case tailFailed hi hi' =>
    have ⟨_, h, .matched ha _⟩ := hi ho
    have ⟨_, h', .failed⟩ := hi' ha
    exact ⟨_, .tailFailed h h', .failed⟩
  case cons hi hi' =>
    have ⟨_, h, .matched ha hm⟩ := hi ho
    have ⟨_, h', .matched ha' hm'⟩ := hi' ha
    exact ⟨_, .cons h h', .matched ha' (by omega)⟩
  case exhausted => exact ⟨_, .exhausted, .failed⟩
  case first hi =>
    have ⟨_, h, .matched ha hm⟩ := hi ho
    exact ⟨_, .first h, .matched ha hm⟩
  case later hi hi' =>
    have ⟨_, h, .failed⟩ := hi ho
    have ⟨_, h', ht⟩ := hi' ho
    exact ⟨_, .later h h', ht⟩
  case ruled hr _ hi =>
    have ⟨_, h, .matched ha hm⟩ := hi ho
    exact ⟨_, .ruled hr (ho.nextStart hs) h, .matched ha hm⟩
  case unruled hr _ hi =>
    have ⟨_, h, .failed⟩ := hi ho
    exact ⟨_, .unruled hr h, .failed⟩

theorem Runs.exists_at {nodes : List Tree} {next : Nat} (hs : s.Lawful)
    (h : Runs g s p c (some (nodes, next)) ds) (ho : s.At o c) : ∃ stop, s.At stop next := by
  have ⟨_, _, .matched ha _⟩ := h.means hs ho
  exact ⟨_, ha⟩

theorem Means.runs (hs : s.Lawful) (h : Means g s p o m) (ho : s.At o c) :
    ∃ m' ds, Runs g s p c m' ds ∧ Tracks s o c m m' := by
  induction h generalizing c
  case taken hn ht =>
    have hf := ho.find?_eq_some hs hn ht
    have hm := List.mem_of_find?_eq_some hf
    exact ⟨_, _, .taken hf, .matched (ho.skipTo hs hm) (.inr ⟨ho.lt_stop hs hm, hs.lt_skipTo hm⟩)⟩
  case missing hn ht => exact ⟨_, _, .missing (ho.find?_eq_none hs hn ht), .failed⟩
  case call hi =>
    have ⟨_, _, h, ht⟩ := hi ho
    exact ⟨_, _, .call h, ht⟩
  case choice hi =>
    have ⟨_, _, h, ht⟩ := hi ho
    cases ht
    case failed          => exact ⟨_, _, .unchosen h, .failed⟩
    case matched ha hm _ => exact ⟨_, _, .chosen h, .matched ha hm⟩
  case present hi =>
    have ⟨_, _, h, .matched ha hm⟩ := hi ho
    exact ⟨_, _, .present h, .matched ha hm⟩
  case absent hi =>
    have ⟨_, _, h, .failed⟩ := hi ho
    exact ⟨_, _, .absent h, .still ho⟩
  case many hi =>
    have ⟨_, _, h, ht⟩ := hi ho
    exact ⟨_, _, .many h, ht⟩
  case noOne hi =>
    have ⟨_, _, h, .failed⟩ := hi ho
    exact ⟨_, _, .noOne h, .failed⟩
  case oneStill hi =>
    have ⟨_, _, h, .matched ha hm⟩ := hi ho
    exact ⟨_, _, .oneStill h (by omega), .matched ha hm⟩
  case oneMore hlt _ hi hi' =>
    have ⟨_, _, h, .matched ha hm⟩ := hi ho
    have ⟨_, _, h', .matched ha' hm'⟩ := hi' ha
    exact ⟨_, _, .oneMore h (by omega) h', .matched ha' (by omega)⟩
  case ended hi =>
    have ⟨_, _, h, .failed⟩ := hi ho
    exact ⟨_, _, .ended h, .still ho⟩
  case still hi =>
    have ⟨_, _, h, .matched ha hm⟩ := hi ho
    exact ⟨_, _, .still h (by omega), .matched ha hm⟩
  case again hlt _ hi hi' =>
    have ⟨_, _, h, .matched ha hm⟩ := hi ho
    have ⟨_, _, h', .matched ha' hm'⟩ := hi' ha
    exact ⟨_, _, .again h (by omega) h', .matched ha' (by omega)⟩
  case nil => exact ⟨_, _, .nil, .still ho⟩
  case headFailed hi =>
    have ⟨_, _, h, .failed⟩ := hi ho
    exact ⟨_, _, .headFailed h, .failed⟩
  case tailFailed hi hi' =>
    have ⟨_, _, h, .matched ha _⟩ := hi ho
    have ⟨_, _, h', .failed⟩ := hi' ha
    exact ⟨_, _, .tailFailed h h', .failed⟩
  case cons hi hi' =>
    have ⟨_, _, h, .matched ha hm⟩ := hi ho
    have ⟨_, _, h', .matched ha' hm'⟩ := hi' ha
    exact ⟨_, _, .cons h h', .matched ha' (by omega)⟩
  case exhausted => exact ⟨_, _, .exhausted, .failed⟩
  case first hi =>
    have ⟨_, _, h, .matched ha hm⟩ := hi ho
    exact ⟨_, _, .first h, .matched ha hm⟩
  case later hi hi' =>
    have ⟨_, _, h, .failed⟩ := hi ho
    have ⟨_, _, h', ht⟩ := hi' ho
    exact ⟨_, _, .later h h', ht⟩
  case ruled hr hn _ hi =>
    have ⟨_, _, h, .matched ha hm⟩ := hi ho
    cases hn.unique (ho.nextStart hs)
    exact ⟨_, _, .ruled hr h, .matched ha hm⟩
  case unruled hr _ hi =>
    have ⟨_, _, h, .failed⟩ := hi ho
    exact ⟨_, _, .unruled hr h, .failed⟩

inductive Gives (g : Grammar) (s : TokenStream) (complete : Bool) : Outcome → Prop
  | parsed {tree stop} :
    Means g s (.rule 0) 0 (some ([tree], stop)) → (complete → ∀ t ∈ s.tokens, t.index < stop) →
    Gives g s complete (.parsed tree)
  | failed {e} : Means g s (.rule 0) 0 none → Gives g s complete (.rejected e)
  | trailing {tree stop t e} :
    Means g s (.rule 0) 0 (some ([tree], stop)) → complete → t ∈ s.tokens → stop ≤ t.index →
    Gives g s complete (.rejected e)
  | stuck : (∀ m, ¬Means g s (.rule 0) 0 m) → Gives g s complete .stuck

theorem not_means_of_not_runs (hs : s.Lawful) (ho : s.At o c) (h : ∀ m ds, ¬Runs g s p c m ds)
    (m : Option (List Tree × Nat)) : ¬Means g s p o m :=
  fun hm => have ⟨_, _, hr, _⟩ := hm.runs hs ho; h _ _ hr

theorem Parses.gives {input : String} {complete : Bool} {o : Outcome × ErrorStack}
    (h : Parses g input complete o) : Gives g (g.stream input) complete o.1 := by
  have hs : (g.stream input).Lawful := g.lawful_stream
  cases h
  case parsed h hc =>
    have ⟨_, h, .matched ha _⟩ := h.means hs .zero
    exact .parsed h (ha.size_le_iff.mp ∘ hc)
  case failed h =>
    have ⟨_, h, .failed⟩ := h.means hs .zero
    exact .failed h
  case trailing h hc ht =>
    have ⟨_, h, .matched ha _⟩ := h.means hs .zero
    exact .trailing h hc (TokenStream.mem_tokens_iff.mpr ⟨_, ht⟩) (ha.le_index ht le_rfl)
  case stuck h => exact .stuck (not_means_of_not_runs hs .zero h)

namespace Gives

variable {complete : Bool} {outcome : Outcome}

theorem eq_parsed_iff {tree : Tree} (hs : s.Lawful) (h : Gives g s complete outcome) :
    outcome = .parsed tree ↔
      ∃ stop, Means g s (.rule 0) 0 (some ([tree], stop)) ∧
        (complete → ∀ t ∈ s.tokens, t.index < stop) := by
  constructor
  case mp =>
    intro he
    subst he
    have .parsed h hc := h
    exact ⟨_, h, hc⟩
  case mpr =>
    intro ⟨stop, hm, hc⟩
    cases h
    case parsed h _ => cases hm.deterministic hs h; rfl
    case failed h   => cases hm.deterministic hs h
    case stuck h    => exact absurd hm (h _)
    case trailing h hc' ht hle =>
      cases hm.deterministic hs h
      exact absurd (hc hc' _ ht) (by omega)

theorem eq_rejected_iff (hs : s.Lawful) (h : Gives g s complete outcome) :
    (∃ e, outcome = .rejected e) ↔
      Means g s (.rule 0) 0 none ∨
      complete ∧ ∃ tree stop, Means g s (.rule 0) 0 (some ([tree], stop)) ∧
        ∃ t ∈ s.tokens, stop ≤ t.index := by
  constructor
  case mp =>
    intro ⟨e, he⟩
    subst he
    cases h
    case failed h => exact .inl h
    case trailing h hc ht hle => exact .inr ⟨hc, _, _, h, _, ht, hle⟩
  case mpr =>
    intro hm
    cases h
    case parsed h hc =>
      cases hm
      case inl hm => cases hm.deterministic hs h
      case inr hm =>
        have ⟨hc', _, _, hm, t, ht, hle⟩ := hm
        cases hm.deterministic hs h
        exact absurd (hc hc' t ht) (by omega)
    case failed   => exact ⟨_, rfl⟩
    case trailing => exact ⟨_, rfl⟩
    case stuck h =>
      cases hm
      case inl hm => exact absurd hm (h _)
      case inr hm =>
        have ⟨_, _, _, hm, _⟩ := hm
        exact absurd hm (h _)

theorem eq_stuck_iff (h : Gives g s complete outcome) :
    outcome = .stuck ↔ ∀ m, ¬Means g s (.rule 0) 0 m := by
  constructor
  case mp =>
    intro he
    subst he
    have .stuck h := h
    exact h
  case mpr =>
    intro hn
    cases h
    case parsed h _         => exact absurd h (hn _)
    case failed h           => exact absurd h (hn _)
    case trailing h _ _ _   => exact absurd h (hn _)
    case stuck              => rfl

end Gives

theorem rule_means (hs : s.Lawful) {depth index : Nat} (ho : s.At o c)
    (hd : depthLimit g s ≤ depth) (errors : ErrorStack) :
    (∃ tree stop next errors', rule g s depth index c errors = .matched tree next errors' ∧
      s.At stop next ∧ Means g s (.rule index) o (some ([tree], stop))) ∨
    (∃ error errors', rule g s depth index c errors = .failed error errors' ∧
      Means g s (.rule index) o none) ∨
    rule g s depth index c errors = .stuck ∧ ∀ m, ¬Means g s (.rule index) o m := by
  cases rule_cases hs index ho.le_size hd
  case inr h =>
    have ⟨h, he⟩ := h
    exact .inr (.inr ⟨he errors, not_means_of_not_runs hs ho h⟩)
  case inl h =>
    have ⟨m, ds, h, he⟩ := h
    have ⟨m', hm, ht⟩ := h.means hs ho
    cases h
    case ruled =>
      have .matched ha _ := ht
      exact .inl ⟨_, _, _, _, Step.map_singleton_inj.mp (he errors), ha, hm⟩
    case unruled =>
      have .failed := ht
      exact .inr (.inl ⟨_, _, Step.map_singleton_inj.mp (he errors), hm⟩)

-- A phrase means one thing at most at an offset, and a match that leaves the offset where it is has
-- taken no token. Every rule gives at every cursor what it means at the offset there. A parse gives
-- the tree that the start rule means, unless tokens must not be left over and are; it fails where the
-- rule fails or such tokens are left over; and it has no end just where the rule means nothing, which
-- takes left recursion.
theorem analyze_gives_meaning (g : Grammar) (input : String) :
    let s := g.stream input
    let tokens := {t | t ∈ g.tokenize input}
    let means := Derives g tokens input.utf8ByteSize
    (∀ p o m m', means p o m → means p o m' → m = m') ∧
    (∀ p o nodes stop, means p o (some (nodes, stop)) →
      o ≤ stop ∧ (stop = o ↔ Tree.leavesOf nodes = [])) ∧
    (∀ index o c depth errors, s.At o c → depthLimit g s ≤ depth →
      (∃ tree stop next errors', rule g s depth index c errors = .matched tree next errors' ∧
        s.At stop next ∧ means (.rule index) o (some ([tree], stop))) ∨
      (∃ error errors', rule g s depth index c errors = .failed error errors' ∧
        means (.rule index) o none) ∨
      rule g s depth index c errors = .stuck ∧ ∀ m, ¬means (.rule index) o m) ∧
    (∀ complete errors,
      (∀ tree, (g.analyze input complete errors).1 = .parsed tree ↔
        ∃ stop, means (.rule 0) 0 (some ([tree], stop)) ∧
          (complete → ∀ t ∈ tokens, t.index < stop)) ∧
      ((∃ e, (g.analyze input complete errors).1 = .rejected e) ↔
        means (.rule 0) 0 none ∨
        complete ∧ ∃ tree stop, means (.rule 0) 0 (some ([tree], stop)) ∧
          ∃ t ∈ tokens, stop ≤ t.index) ∧
      ((g.analyze input complete errors).1 = .stuck ↔ ∀ m, ¬means (.rule 0) 0 m)) ∧
    ∀ terminals rules, Grammar.ofTables terminals rules = .ok g → ¬g.LeftRecursive →
      ∃ m, means (.rule 0) 0 m := by
  intro s tokens means
  have hs : s.Lawful := g.lawful_stream
  have hm : means = Means g s := means_stream.symm
  have ht {t} : t ∈ tokens ↔ t ∈ s.tokens := Grammar.mem_stream_iff.symm
  simp only [hm, ht]
  refine ⟨?unique, ?moves, ?rule, ?analyze, ?total⟩
  case unique =>
    intro p o m m' h h'
    exact h.deterministic hs h'
  case moves =>
    intro p o nodes stop h
    exact ⟨h.le hs, h.stop_eq_iff hs⟩
  case rule =>
    intro index o c depth errors ho hd
    exact rule_means hs ho hd errors
  case analyze =>
    intro complete errors
    have h := (analyze_parses g input complete errors).gives
    exact ⟨fun tree => h.eq_parsed_iff hs, h.eq_rejected_iff hs, h.eq_stuck_iff⟩
  case total =>
    intro terminals rules hg hl
    have ⟨_, _, hr⟩ := exists_runs hg hl hs
    have ⟨m, hm, _⟩ := hr.means hs .zero
    exact ⟨m, hm⟩

end

open Grammar in
theorem analyze_gives_meaning_lists :
    let tokens := {t | t ∈ lists.tokenize "3.5,(7)"}
    ofTables listTerminals listRules = .ok lists ∧ ¬lists.LeftRecursive ∧
      ∃ tree stop, (lists.analyze "3.5,(7)" true .empty).1 = .parsed tree ∧
        tree.pretty = "(list (item (real \"3.5\")) (comma \",\") (item (open \"(\") " ++
          "(list (item (real \"7\")) (rest)) (close \")\")) (rest))" ∧
        Derives lists tokens 7 (.rule 0) 0 (some ([tree], stop)) ∧ ∀ t ∈ tokens, t.index < stop := by
  intro tokens
  have h := analyze_gives_meaning lists "3.5,(7)"
  have ht : (treeOf? (lists.analyze "3.5,(7)" true .empty).1).map (·.pretty) =
      some ("(list (item (real \"3.5\")) (comma \",\") (item (open \"(\") " ++
        "(list (item (real \"7\")) (rest)) (close \")\")) (rest))") := by
    decide +kernel
  have ⟨tree, ht, hp⟩ := Option.map_eq_some_iff.mp ht
  have ho := eq_parsed_of_treeOf? ht
  have ⟨stop, hm, hc⟩ := ((h.2.2.2.1 true .empty).1 tree).mp ho
  exact ⟨lists_ofTables, not_leftRecursive_lists, tree, stop, ho, hp, hm, hc rfl⟩

end Parse
end PegParser
