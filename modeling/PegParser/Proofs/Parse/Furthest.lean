import PegParser.Proofs.Parse.Origins
import PegParser.Proofs.Parse.Outcome

namespace PegParser.Parse

open Relation

section

variable [RegexEngine] (g : Grammar) (s : TokenStream)

-- The phrase is tried at the cursor in a parse from the start rule.
def Visits (p : Phrase) (c : Nat) : Prop :=
  ReflTransGen (Calls g s) (.rule 0, 0) (p, c)

-- The cursors up to which something has matched in a parse, and the start of the input.
def reached : Set Nat :=
  insert 0 {k | ∃ p c nodes ds, Visits g s p c ∧ Runs g s p c (some (nodes, k)) ds}

def Takes (t : Token) : Prop :=
  ∃ name c, Visits g s (.element (.terminal name)) c ∧
    (s.group c).find? (·.terminal == name) = some t

end

section Step

variable {s : TokenStream} {k next : Nat} {nodes : List Tree}
variable {m m' : Option (List Tree × Nat)} {ds ds' : List SyntaxError}

-- A run that ends at the cursor or beyond, or has pushed a failure there or beyond.
def Marks (s : TokenStream) (m : Option (List Tree × Nat)) (ds : List SyntaxError) (k : Nat) :
    Prop :=
  (∃ nodes next, m = some (nodes, next) ∧ k ≤ next) ∨
  ∃ d ∈ ds, (s.position k).index ≤ d.position.index

theorem Marks.of_le (h : k ≤ next) : Marks s (some (nodes, next)) ds k :=
  .inl ⟨nodes, next, rfl, h⟩

-- What one run is to another one that it is part of: its failures are pushed, and its end is marked.
structure Within (s : TokenStream) (m : Option (List Tree × Nat)) (ds : List SyntaxError)
    (m' : Option (List Tree × Nat)) (ds' : List SyntaxError) : Prop where
  pushed : ds' ⊆ ds
  marks : ∀ nodes next, m' = some (nodes, next) → Marks s m ds next

namespace Within

theorem failed (h : ds' ⊆ ds) : Within s m ds none ds' :=
  ⟨h, nofun⟩

theorem same (h : ds' ⊆ ds) : Within s m ds m ds' :=
  ⟨h, fun _ _ hm => hm ▸ .of_le le_rfl⟩

theorem refl : Within s m ds m ds :=
  .same (List.Subset.refl _)

variable {nodes' : List Tree} {last : Nat}

theorem matched (h : ds' ⊆ ds) (hle : next ≤ last) :
    Within s (some (nodes', last)) ds (some (nodes, next)) ds' := by
  refine ⟨h, fun _ _ hm => ?_⟩
  cases hm
  exact .of_le hle

theorem tail : Within s (some (nodes', next)) (ds ++ ds') (some (nodes, next)) ds' :=
  .matched (List.subset_append_right _ _) le_rfl

end Within

theorem Marks.of_within (hs : s.Lawful) (h : Within s m ds m' ds') (hk : Marks s m' ds' k) :
    Marks s m ds k := by
  cases hk
  case inr hk =>
    have ⟨d, hd, hle⟩ := hk
    exact .inr ⟨d, h.pushed hd, hle⟩
  case inl hk =>
    have ⟨nodes', next', hm, hle⟩ := hk
    cases h.marks nodes' next' hm
    case inl hn =>
      have ⟨nodes, next, hm, hle'⟩ := hn
      exact .inl ⟨nodes, next, hm, hle.trans hle'⟩
    case inr hn =>
      have ⟨d, hd, hle'⟩ := hn
      exact .inr ⟨d, hd, (hs.position_index_le hle).trans hle'⟩

theorem Within.trans {m'' : Option (List Tree × Nat)} {ds'' : List SyntaxError} (hs : s.Lawful)
    (h : Within s m ds m' ds') (h' : Within s m' ds' m'' ds'') : Within s m ds m'' ds'' where
  pushed := List.Subset.trans h'.pushed h.pushed
  marks nodes next hm := (h'.marks nodes next hm).of_within hs h

variable [RegexEngine] {g : Grammar} {p q : Phrase} {c c' : Nat}

theorem Runs.exists_position_le (hs : s.Lawful) (h : Runs g s p c none ds) (hc : c ≤ s.size)
    (hp : ∀ alternatives, p ≠ .firstOf alternatives) :
    ∃ d ∈ ds, (s.position c).index ≤ d.position.index := by
  generalize hm : none = m at h
  induction h <;> try contradiction
  case missing => exact ⟨_, List.mem_singleton_self _, by rw [terminalError_position hs]⟩
  case call hi | many hi | noOne hi | headFailed hi => exact hi hc (by simp) hm
  case unchosen | unruled => exact ⟨_, List.mem_append_right _ (List.mem_singleton_self _), le_rfl⟩
  case tailFailed h _ _ hi =>
    obtain ⟨hcn, hn, _⟩ := h.advances hs hc _ _ rfl
    obtain ⟨d, hd, hle⟩ := hi hn (by simp) hm
    exact ⟨d, List.mem_append_right _ hd, (hs.position_index_le hcn).trans hle⟩
  case exhausted | later => exact absurd rfl (hp _)

namespace Within

variable {nodes' nodes'' : List Tree} {last : Nat}

theorem head (hs : s.Lawful) (hn : next ≤ s.size)
    (h : Runs g s q next (some (nodes', last)) ds') :
    Within s (some (nodes'', last)) (ds ++ ds') (some (nodes, next)) ds :=
  have ⟨hle, _, _⟩ := h.advances hs hn _ _ rfl
  .matched (List.subset_append_left _ _) hle

theorem head_of_failed (hs : s.Lawful) (hn : next ≤ s.size) (h : Runs g s q next none ds')
    (hq : ∀ alternatives, q ≠ .firstOf alternatives) :
    Within s none (ds ++ ds') (some (nodes, next)) ds := by
  refine ⟨List.subset_append_left _ _, fun _ _ hm => ?_⟩
  have ⟨d, hd, hle⟩ := h.exists_position_le hs hn hq
  cases hm
  exact .inr ⟨d, List.mem_append_right _ hd, hle⟩

end Within

theorem Calls.within (hs : s.Lawful) (hcall : Calls g s (p, c) (q, c')) (h : Runs g s p c m ds)
    (hc : c ≤ s.size) :
    c' ≤ s.size ∧ ∃ m' ds', Runs g s q c' m' ds' ∧ Within s m ds m' ds' := by
  cases hcall
  case call       => cases h with | call h => exact ⟨hc, _, _, h, .refl⟩
  case zeroOrMore => cases h with | many h => exact ⟨hc, _, _, h, .refl⟩
  case choice =>
    cases h with
    | chosen h   => exact ⟨hc, _, _, h, .refl⟩
    | unchosen h => exact ⟨hc, _, _, h, .failed (List.subset_append_left _ _)⟩
  case zeroOrOne =>
    cases h with
    | present h => exact ⟨hc, _, _, h, .refl⟩
    | absent h  => exact ⟨hc, _, _, h, .failed (List.Subset.refl _)⟩
  case one =>
    cases h with
    | noOne h        => exact ⟨hc, _, _, h, .refl⟩
    | oneStill h     => exact ⟨hc, _, _, h, .refl⟩
    | oneMore h _ h' => exact ⟨hc, _, _, h, .head hs (h.next_le hs hc) h'⟩
  case orMore he hlt =>
    cases h with
    | noOne h      => cases (he.deterministic h).1
    | oneStill h _ => cases (he.deterministic h).1; contradiction
    | oneMore h _ h' =>
      cases (he.deterministic h).1
      exact ⟨h.next_le hs hc, _, _, h', .tail⟩
  case again =>
    cases h with
    | ended h      => exact ⟨hc, _, _, h, .failed (List.Subset.refl _)⟩
    | still h      => exact ⟨hc, _, _, h, .refl⟩
    | again h _ h' => exact ⟨hc, _, _, h, .head hs (h.next_le hs hc) h'⟩
  case andAgain he hlt =>
    cases h with
    | ended h   => cases (he.deterministic h).1
    | still h _ => cases (he.deterministic h).1; contradiction
    | again h _ h' =>
      cases (he.deterministic h).1
      exact ⟨h.next_le hs hc, _, _, h', .tail⟩
  case head =>
    cases h with
    | headFailed h    => exact ⟨hc, _, _, h, .refl⟩
    | tailFailed h h' => exact ⟨hc, _, _, h, .head_of_failed hs (h.next_le hs hc) h' nofun⟩
    | cons h h'       => exact ⟨hc, _, _, h, .head hs (h.next_le hs hc) h'⟩
  case tail he =>
    cases h with
    | headFailed h => cases (he.deterministic h).1
    | tailFailed h h' =>
      cases (he.deterministic h).1
      exact ⟨h.next_le hs hc, _, _, h', .failed (List.subset_append_right _ _)⟩
    | cons h h' =>
      cases (he.deterministic h).1
      exact ⟨h.next_le hs hc, _, _, h', .tail⟩
  case first =>
    cases h with
    | first h   => exact ⟨hc, _, _, h, .refl⟩
    | later h _ => exact ⟨hc, _, _, h, .failed (List.subset_append_left _ _)⟩
  case later he =>
    cases h with
    | first h    => cases (he.deterministic h).1
    | later _ h' => exact ⟨hc, _, _, h', .same (List.subset_append_right _ _)⟩
  case rule hr =>
    cases h with
    | ruled hr' h =>
      cases hr.symm.trans hr'
      exact ⟨hc, _, _, h, .matched (List.Subset.refl _) le_rfl⟩
    | unruled hr' h =>
      cases hr.symm.trans hr'
      exact ⟨hc, _, _, h, .failed (List.subset_append_left _ _)⟩

variable {x y : Phrase × Nat}

theorem Runs.within (hs : s.Lawful) (h : Runs g s x.1 x.2 m ds) (hx : x.2 ≤ s.size)
    (hv : ReflTransGen (Calls g s) x y) :
    y.2 ≤ s.size ∧ ∃ m' ds', Runs g s y.1 y.2 m' ds' ∧ Within s m ds m' ds' := by
  induction hv
  case refl => exact ⟨hx, m, ds, h, .refl⟩
  case tail hcall hi =>
    have ⟨hy, _, _, hr, hw⟩ := hi
    have ⟨hz, _, _, hr', hw'⟩ := hcall.within hs hr hy
    exact ⟨hz, _, _, hr', hw.trans hs hw'⟩

theorem Runs.within_visits (hs : s.Lawful) (h : Runs g s (.rule 0) 0 m ds) (hv : Visits g s p c) :
    c ≤ s.size ∧ ∃ m' ds', Runs g s p c m' ds' ∧ Within s m ds m' ds' :=
  h.within hs (x := (.rule 0, 0)) (Nat.zero_le _) hv

theorem Calls.matched (h : Calls g s x y) :
    y.2 = x.2 ∨ ∃ p nodes ds, Calls g s x (p, x.2) ∧ Runs g s p x.2 (some (nodes, y.2)) ds := by
  cases h
  case orMore h _   => exact .inr ⟨_, _, _, .one, h⟩
  case andAgain h _ => exact .inr ⟨_, _, _, .again, h⟩
  case tail h       => exact .inr ⟨_, _, _, .head, h⟩
  all_goals exact .inl rfl

theorem mem_reached (h : ReflTransGen (Calls g s) (.rule 0, 0) y) : y.2 ∈ reached g s := by
  induction h
  case refl => exact .inl rfl
  case tail hx hcall hi =>
    cases hcall.matched
    case inl he => exact he ▸ hi
    case inr hm =>
      have ⟨q, nodes, ds, hcall, hr⟩ := hm
      exact .inr ⟨_, _, _, _, hx.tail hcall, hr⟩

def Places (g : Grammar) (s : TokenStream) (x : Phrase × Nat) (ds : List SyntaxError) : Prop :=
  ∀ d ∈ ds, ∃ y, ReflTransGen (Calls g s) x y ∧ d.position = s.position y.2

theorem Runs.places (hs : s.Lawful) (h : Runs g s p c m ds) : Places g s (p, c) ds := by
  intro d hd
  have ⟨_, _, hd⟩ := List.append_of_mem hd
  have ⟨q, c', _, _, hcall, _, ho⟩ := h.traces _ d _ hd
  exact ⟨(q, c'), hcall, ho.position_eq hs⟩

end Step

section Parse

variable [RegexEngine] {g : Grammar} {s : TokenStream} {k : Nat} {m : Option (List Tree × Nat)}
variable {ds : List SyntaxError}

theorem Runs.marks (hs : s.Lawful) (h : Runs g s (.rule 0) 0 m ds) (hk : k ∈ reached g s) :
    k ≤ s.size ∧ Marks s m ds k := by
  cases hk
  case inl he =>
    subst he
    refine ⟨Nat.zero_le _, ?_⟩
    match m with
    | some (nodes, next) => exact .of_le (Nat.zero_le _)
    | none               => exact .inr (h.exists_position_le hs (Nat.zero_le _) nofun)
  case inr hk =>
    have ⟨p, c, nodes, ds', hv, hr⟩ := hk
    have ⟨hc, _, _, hr', hw⟩ := h.within_visits hs hv
    have ⟨hm, hd⟩ := hr.deterministic hr'
    subst hm hd
    exact ⟨hr.next_le hs hc, hw.marks nodes k rfl⟩

-- The failures of a parse stand where it has got, and there is one at its furthest or beyond.
structure Marked (g : Grammar) (s : TokenStream) (es : List SyntaxError) : Prop where
  places : ∀ d ∈ es, ∃ k ∈ reached g s, d.position = s.position k
  marks : ∀ k ∈ reached g s, k ≤ s.size ∧ ∃ d ∈ es, (s.position k).index ≤ d.position.index

theorem Runs.places_reached (hs : s.Lawful) (h : Runs g s (.rule 0) 0 m ds) :
    ∀ d ∈ ds, ∃ k ∈ reached g s, d.position = s.position k := by
  intro d hd
  have ⟨y, hy, he⟩ := h.places hs d hd
  exact ⟨y.2, mem_reached hy, he⟩

theorem Runs.marked (hs : s.Lawful) (h : Runs g s (.rule 0) 0 none ds) : Marked g s ds where
  places := h.places_reached hs
  marks k hk := by
    have ⟨hks, hm⟩ := h.marks hs hk
    exact ⟨hks, hm.resolve_left nofun⟩

theorem trailingError_position {next : Nat} {found : Token} (h : s.tokens[next]? = some found) :
    (trailingError g found).position = s.position next := by
  simp [trailingError, TokenStream.position, h]

theorem Runs.marked_of_trailing {nodes : List Tree} {next : Nat} {found : Token} (hs : s.Lawful)
    (h : Runs g s (.rule 0) 0 (some (nodes, next)) ds) (ht : s.tokens[next]? = some found) :
    Marked g s (ds ++ [trailingError g found]) where
  places := by
    refine List.forall_mem_append.mpr ⟨h.places_reached hs, List.forall_mem_singleton.mpr ?_⟩
    exact ⟨next, .inr ⟨_, _, _, _, .refl, h⟩, trailingError_position ht⟩
  marks k hk := by
    have ⟨hks, hm⟩ := h.marks hs hk
    refine ⟨hks, ?_⟩
    cases hm
    case inl hm =>
      have ⟨_, _, hm, hle⟩ := hm
      cases hm
      refine ⟨_, List.mem_append_right _ (List.mem_singleton_self _), ?_⟩
      rw [trailingError_position ht]
      exact hs.position_index_le hle
    case inr hm =>
      have ⟨d, hd, hle⟩ := hm
      exact ⟨d, List.mem_append_left _ hd, hle⟩

variable {input : String} {complete : Bool} {e : ParseError} {errors : ErrorStack}

theorem Parses.marked (h : Parses g input complete (.rejected e, errors)) :
    e.furthest = errors.furthest? ∧ Marked g (g.stream input) errors.toList := by
  generalize ho : (Outcome.rejected e, errors) = o at h
  cases h
  case parsed | stuck => cases ho
  case failed h =>
    cases ho
    exact ⟨rfl, by simpa using h.marked g.lawful_stream⟩
  case trailing h hc ht =>
    cases ho
    exact ⟨rfl, by simpa using h.marked_of_trailing g.lawful_stream ht⟩

theorem Marked.exists_isGreatest {es : List SyntaxError} {f : SyntaxError} (hs : s.Lawful)
    (h : Marked g s es) (hf : f.IsFurthest es) :
    ∃ m, IsGreatest (reached g s) m ∧ f.position.index = (s.position m).index := by
  have hb : BddAbove (reached g s) := ⟨s.size, fun k hk => (h.marks k hk).1⟩
  have hm : sSup (reached g s) ∈ reached g s := Nat.sSup_mem ⟨0, .inl rfl⟩ hb
  refine ⟨sSup (reached g s), ⟨hm, fun k hk => le_csSup hb hk⟩, le_antisymm ?_ ?_⟩
  · have ⟨k, hk, he⟩ := h.places f hf.mem
    exact he ▸ hs.position_index_le (le_csSup hb hk)
  · have ⟨_, d, hd, hle⟩ := h.marks _ hm
    exact hle.trans (hf.le hd)

theorem Marked.stop_le {es : List SyntaxError} {f : SyntaxError} {t : Token} (hs : s.Lawful)
    (h : Marked g s es) (hf : f.IsFurthest es) (ht : Takes g s t) :
    t.stop ≤ f.position.index := by
  have ⟨name, c, hv, ht⟩ := ht
  have ⟨hc, _⟩ := h.marks c (mem_reached hv)
  have ⟨_, d, hd, hle⟩ := h.marks _ (.inr ⟨_, _, _, _, hv, .taken ht⟩)
  have hstop := hs.stop_le t (hs.mem_tokens_of_mem_group (List.mem_of_find?_eq_some ht))
  exact (hs.offset_le_position_skipTo hc hstop).trans (hle.trans (hf.le hd))

-- A parse that fails has a furthest failure, at the greatest cursor that anything has matched up
-- to. No token that was ever taken ends beyond it, and it is the latest of those that are level.
theorem furthest_marks_reached {g : Grammar} {input : String} {complete : Bool}
    {errors errors' : ErrorStack} {e : ParseError}
    (h : g.analyze input complete errors = (.rejected e, errors')) :
    let s := g.stream input
    ∃ f m, e.furthest = some f ∧ IsGreatest (reached g s) m ∧
      f.position.index = (s.position m).index ∧
      (∀ t, Takes g s t → t.stop ≤ f.position.index) ∧ f.IsFurthest errors'.toList := by
  intro s
  have hs : s.Lawful := g.lawful_stream
  have ⟨hf, hm⟩ := (h ▸ analyze_parses g input complete errors).marked
  have hne : errors'.toList ≠ [] := by
    have ⟨_, d, hd, _⟩ := hm.marks 0 (.inl rfl)
    exact List.ne_nil_of_mem hd
  have ⟨f, hf', hi⟩ := ErrorStack.exists_furthest? hne
  have ⟨m, hg, he⟩ := hm.exists_isGreatest hs hi
  exact ⟨f, m, hf.trans hf', hg, he, fun t ht => hm.stop_le hs hi ht, hi⟩

end Parse

open Grammar in
theorem furthest_marks_reached_lists :
    let s := lists.stream "3.5,(7"
    ∃ e errors f m, lists.analyze "3.5,(7" true .empty = (.rejected e, errors) ∧
      e.furthest = some f ∧ IsGreatest (reached lists s) m ∧ f.position.index = 6 ∧
      (s.position m).index = 6 ∧ f.IsFurthest errors.toList := by
  intro s
  have hf : (furthestOf? (lists.analyze "3.5,(7" true .empty).1).map
      (·.position.index) = some 6 := by
    decide +kernel
  have ⟨f, hf, h6⟩ := Option.map_eq_some_iff.mp hf
  have ⟨e, ho, he⟩ := exists_of_furthestOf? hf
  have h : lists.analyze "3.5,(7" true .empty =
      (.rejected e, (lists.analyze "3.5,(7" true .empty).2) := Prod.ext ho rfl
  have ⟨f', m, hf', hm, hi, _, hl⟩ := furthest_marks_reached h
  cases he.symm.trans hf'
  exact ⟨e, _, f, m, h, he, hm, h6, hi.symm.trans h6, hl⟩

end PegParser.Parse
