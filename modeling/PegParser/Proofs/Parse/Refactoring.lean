import PegParser.Proofs.Parse.Answers
import PegParser.Proofs.Parse.Append

namespace PegParser.Parse

-- One place of a phrase in other words.
inductive Refactors : Phrase → Phrase → Prop
  -- A group with one alternative makes way for its elements.
  | splice {es} : Refactors (.sequence [.choice [es]]) (.sequence es)
  -- An alternative that is just a group makes way for the alternatives of the group.
  | dissolve {alternatives} : Refactors (.firstOf [[.choice alternatives]]) (.firstOf alternatives)
  -- What two alternatives start with is put before a group of how they go on.
  | factor {es xs ys} :
    Refactors (.firstOf [es ++ xs, es ++ ys]) (.firstOf [es ++ [.choice [xs, ys]]])
  | inSequence {before es es' after} :
    Refactors (.sequence es) (.sequence es') →
    Refactors (.sequence (before ++ es ++ after)) (.sequence (before ++ es' ++ after))
  | inAlternatives {before alternatives alternatives' after} :
    Refactors (.firstOf alternatives) (.firstOf alternatives') →
    Refactors (.firstOf (before ++ alternatives ++ after))
      (.firstOf (before ++ alternatives' ++ after))
  | item {e e'} : Refactors (.element e) (.element e') → Refactors (.sequence [e]) (.sequence [e'])
  | alternative {es es'} :
    Refactors (.sequence es) (.sequence es') → Refactors (.firstOf [es]) (.firstOf [es'])
  | choice {alternatives alternatives'} :
    Refactors (.firstOf alternatives) (.firstOf alternatives') →
    Refactors (.element (.choice alternatives)) (.element (.choice alternatives'))
  | zeroOrOne {e e'} :
    Refactors (.element e) (.element e') →
    Refactors (.element (.zeroOrOne e)) (.element (.zeroOrOne e'))
  | zeroOrMore {e e'} :
    Refactors (.element e) (.element e') →
    Refactors (.element (.zeroOrMore e)) (.element (.zeroOrMore e'))
  | oneOrMore {e e'} :
    Refactors (.element e) (.element e') →
    Refactors (.element (.oneOrMore e)) (.element (.oneOrMore e'))

variable [RegexEngine]

-- Each run of the first phrase is answered by one of the second phrase.
def AnsweredBy (g : Grammar) (s : TokenStream) (p p' : Phrase) : Prop :=
  ∀ ⦃c m ds⦄, Runs g s p c m ds → Answers g s p' c m ds

section

variable {g : Grammar} {s : TokenStream} {p p' : Phrase} {c : Nat} {e e' : Element}
variable {m : Option (List Tree × Nat)} {ds : List SyntaxError}
variable {es es' fs fs' xs ys : List Element}
variable {alternatives alternatives' rows rows' : List (List Element)}

theorem Answers.trans (h : Answers g s p c m ds) (hp : AnsweredBy g s p p') :
    Answers g s p' c m ds :=
  have ⟨_, h, hl⟩ := h
  have ⟨_, h', hl'⟩ := hp h
  ⟨_, h', hl.trans hl'⟩

-- Where the first alternative matches the prefix and fails after it, the second one matches the
-- prefix in the same way again.
theorem then_of_common_prefix (h : Runs g s (.firstOf [es ++ xs, es ++ ys]) c m ds) :
    ∃ ds', Then g s (.sequence es) (.firstOf [xs, ys]) c m ds' ∧ Level s (after c m) ds ds' := by
  cases h with
  | first hesx =>
    cases sequence_append_iff.mp hesx with
    | both h hx => exact ⟨_, .both h (.first hx), rfl⟩
  | later hesx hesy =>
    have hesy := sequence_append_iff.mp (firstOf_singleton_iff.mp hesy)
    cases sequence_append_iff.mp hesx with
    | failed h =>
      cases hesy with
      | failed h'       => cases (h.deterministic h').2; exact ⟨_, .failed h, .twice⟩
      | tailFailed h' _ => cases (h.deterministic h').1
      | both h' _       => cases (h.deterministic h').1
    | tailFailed h hx =>
      cases hesy with
      | failed h' => cases (h.deterministic h').1
      | tailFailed h' hy =>
        obtain ⟨he, rfl⟩ := h.deterministic h'
        cases he
        exact ⟨_, .tailFailed h (.later hx (firstOf_singleton_iff.mpr hy)), .prefix_twice⟩
      | both h' hy =>
        obtain ⟨he, rfl⟩ := h.deterministic h'
        cases he
        exact ⟨_, .both h (.later hx (firstOf_singleton_iff.mpr hy)), .prefix_twice⟩

theorem Then.answers_group (hs : s.Lawful)
    (h : Then g s (.sequence es) (.firstOf (xs :: rows)) c m ds) :
    Answers g s (.sequence (es ++ [.choice (xs :: rows)])) c m ds := by
  cases h with
  | failed h => exact .of_runs (sequence_append_iff.mpr (.failed h))
  | both h h' =>
    exact .of_runs (sequence_append_iff.mpr (.both h (sequence_singleton_iff.mpr (.chosen h'))))
  | tailFailed h h' =>
    have hgroup := sequence_singleton_iff.mpr (.unchosen h')
    refine ⟨_, sequence_append_iff.mpr (.tailFailed h hgroup), ?_⟩
    cases h' with
    | later hx _ =>
      have := hx.le_farthest hs nofun
      simp only [Level, exhaustedError, farthest_append, farthest_cons, farthest_nil]
      omega

namespace AnsweredBy

theorem refl : AnsweredBy g s p p :=
  fun _ _ _ => .of_runs

theorem splice : AnsweredBy g s (.sequence [.choice [es]]) (.sequence es) := by
  intro c m ds h
  cases sequence_singleton_iff.mp h with
  | chosen hr   => exact .of_runs (firstOf_singleton_iff.mp hr)
  | unchosen hr => exact ⟨_, firstOf_singleton_iff.mp hr, .concat_exhausted⟩

theorem dissolve : AnsweredBy g s (.firstOf [[.choice alternatives]]) (.firstOf alternatives) := by
  intro c m ds h
  cases sequence_singleton_iff.mp (firstOf_singleton_iff.mp h) with
  | chosen hr   => exact .of_runs hr
  | unchosen hr => exact ⟨_, hr, .concat_exhausted⟩

theorem factor (hs : s.Lawful) :
    AnsweredBy g s (.firstOf [es ++ xs, es ++ ys]) (.firstOf [es ++ [.choice [xs, ys]]]) := by
  intro c m ds h
  have ⟨_, h, hl⟩ := then_of_common_prefix h
  have ⟨_, h, hl'⟩ := h.answers_group hs
  exact ⟨_, firstOf_singleton_iff.mpr h, hl.trans hl'⟩

theorem append (hs : s.Lawful) (h : AnsweredBy g s (.sequence es) (.sequence es'))
    (h' : AnsweredBy g s (.sequence fs) (.sequence fs')) :
    AnsweredBy g s (.sequence (es ++ fs)) (.sequence (es' ++ fs')) := by
  intro c m ds hes
  cases sequence_append_iff.mp hes with
  | failed hr => exact (h hr).imp rfl fun hr => sequence_append_iff.mpr (.failed hr)
  | tailFailed hr hr' =>
    exact (h hr).tailFailed hs (h' hr') nofun (hr'.le_farthest hs nofun) fun hr hr' =>
      sequence_append_iff.mpr (.tailFailed hr hr')
  | both hr hr' =>
    exact (h hr).append hs (h' hr') rfl fun hr hr' => sequence_append_iff.mpr (.both hr hr')

theorem orElse (hs : s.Lawful) (h : AnsweredBy g s (.firstOf alternatives) (.firstOf alternatives'))
    (h' : AnsweredBy g s (.firstOf rows) (.firstOf rows')) :
    AnsweredBy g s (.firstOf (alternatives ++ rows)) (.firstOf (alternatives' ++ rows')) := by
  intro c m ds hrows
  cases firstOf_append_iff.mp hrows with
  | first hr => exact (h hr).imp rfl fun hr => firstOf_append_iff.mpr (.first hr)
  | later hr hr' =>
    exact (h hr).append hs (h' hr') rfl fun hr hr' => firstOf_append_iff.mpr (.later hr hr')

theorem item (h : AnsweredBy g s (.element e) (.element e')) :
    AnsweredBy g s (.sequence [e]) (.sequence [e']) :=
  fun _ _ _ hr => (h (sequence_singleton_iff.mp hr)).imp rfl sequence_singleton_iff.mpr

theorem alternative (h : AnsweredBy g s (.sequence es) (.sequence es')) :
    AnsweredBy g s (.firstOf [es]) (.firstOf [es']) :=
  fun _ _ _ hr => (h (firstOf_singleton_iff.mp hr)).imp rfl firstOf_singleton_iff.mpr

theorem choice (h : AnsweredBy g s (.firstOf alternatives) (.firstOf alternatives')) :
    AnsweredBy g s (.element (.choice alternatives)) (.element (.choice alternatives')) := by
  intro c m ds hr
  cases hr with
  | chosen hr   => exact (h hr).imp rfl .chosen
  | unchosen hr => exact (h hr).exhausted .unchosen

section Repetition

variable (h : AnsweredBy g s (.element e) (.element e'))
include h

theorem zeroOrOne : AnsweredBy g s (.element (.zeroOrOne e)) (.element (.zeroOrOne e')) := by
  intro c m ds hr
  cases hr with
  | present hr => exact (h hr).imp rfl .present
  | absent hr  => exact (h hr).imp rfl .absent

variable (hs : s.Lawful)
include hs

theorem repetition : AnsweredBy g s (.repetition e) (.repetition e') := by
  intro c m ds hr
  generalize hp : Phrase.repetition e = p at hr
  induction hr
  case ended hr _ =>
    cases hp
    exact (h hr).imp rfl .ended
  case still hr hle _ =>
    cases hp
    exact (h hr).imp rfl (.still · hle)
  case again hr hlt _ _ hi =>
    cases hp
    exact (h hr).append hs (hi rfl) rfl (.again · hlt)
  all_goals cases hp

theorem zeroOrMore : AnsweredBy g s (.element (.zeroOrMore e)) (.element (.zeroOrMore e')) := by
  intro c m ds hr
  cases hr with
  | many hr => exact (h.repetition hs hr).imp rfl .many

theorem oneOrMore : AnsweredBy g s (.element (.oneOrMore e)) (.element (.oneOrMore e')) := by
  intro c m ds hr
  cases hr with
  | noOne hr           => exact (h hr).imp rfl .noOne
  | oneStill hr hle    => exact (h hr).imp rfl (.oneStill · hle)
  | oneMore hr hlt hr' => exact (h hr).append hs (h.repetition hs hr') rfl (.oneMore · hlt)

end Repetition
end AnsweredBy

theorem Refactors.answeredBy (hs : s.Lawful) (h : Refactors p p') : AnsweredBy g s p p' := by
  induction h
  case splice            => exact .splice
  case dissolve          => exact .dissolve
  case factor            => exact .factor hs
  case inSequence hi     => exact .append hs (.append hs .refl hi) .refl
  case inAlternatives hi => exact .orElse hs (.orElse hs .refl hi) .refl
  case item hi           => exact hi.item
  case alternative hi    => exact hi.alternative
  case choice hi         => exact hi.choice
  case zeroOrOne hi      => exact hi.zeroOrOne
  case zeroOrMore hi     => exact hi.zeroOrMore hs
  case oneOrMore hi      => exact hi.oneOrMore hs

end

structure RefactorsTo (g g' : Grammar) : Prop where
  terminals_eq : g.terminals = g'.terminals
  size_eq : g.rules.size = g'.rules.size
  rule {index r} : g.rule? index = some r →
    ∃ alternatives, g'.rule? index = some { r with expressions := alternatives } ∧
      (r.expressions = alternatives ∨ Refactors (.firstOf r.expressions) (.firstOf alternatives))

-- Both parses give the same tree, or both fail with the same failure and get equally far.
inductive SameVerdict : Outcome → Outcome → Prop
  | parsed {tree} : SameVerdict (.parsed tree) (.parsed tree)
  | rejected {e e' f f'} :
    e.error = e'.error → e.furthest = some f → e'.furthest = some f' →
    f.position.index = f'.position.index → SameVerdict (.rejected e) (.rejected e')

section

variable {g g' : Grammar} {s : TokenStream} {p : Phrase} {c index : Nat} {r : Rule}
variable {m : Option (List Tree × Nat)} {ds ds' : List SyntaxError} {input : String}
variable {complete : Bool}

omit [RegexEngine] in
theorem furthest?_pushAll {d : SyntaxError} (h : d ∈ ds) :
    ∃ f, (ErrorStack.empty.pushAll ds).furthest? = some f ∧ f.position.index = farthest ds := by
  have hl : (ErrorStack.empty.pushAll ds).toList = ds := by simp
  have ⟨f, hf, hi⟩ := ErrorStack.exists_furthest? (hl.symm ▸ List.ne_nil_of_mem h)
  exact ⟨f, hf, (farthest_eq (hl ▸ hi)).symm⟩

omit [RegexEngine] in
theorem SameVerdict.rejection {d : SyntaxError} (hd : ds.getLast? = some d)
    (hd' : ds'.getLast? = some d) (hf : farthest ds = farthest ds') :
    SameVerdict (rejection input ds).1 (rejection input ds').1 := by
  have ⟨f, hs, hi⟩ := furthest?_pushAll (List.mem_of_getLast? hd)
  have ⟨f', hs', hi'⟩ := furthest?_pushAll (List.mem_of_getLast? hd')
  exact .rejected (by simp [ParseError.ofInput, hd, hd']) hs hs' (hi.trans (hf.trans hi'.symm))

namespace RefactorsTo

variable (hg : RefactorsTo g g')
include hg

theorem stream_eq (input : String) : g.stream input = g'.stream input := by
  rw [Grammar.stream, Grammar.stream, Grammar.tokenize, Grammar.tokenize, hg.terminals_eq]

theorem startName_eq (h : g.rule? 0 = some r) : g.startName = g'.startName := by
  have ⟨_, h', _⟩ := hg.rule h
  rw [← name_eq_startName h, ← name_eq_startName h']

theorem exists_answeredBy (hs : s.Lawful) (h : g.rule? index = some r) :
    ∃ alternatives, g'.rule? index = some { r with expressions := alternatives } ∧
      AnsweredBy g' s (.firstOf r.expressions) (.firstOf alternatives) := by
  obtain ⟨alternatives, h', hr⟩ := hg.rule h
  refine ⟨alternatives, h', ?_⟩
  cases hr with
  | inl he => exact he ▸ .refl
  | inr hr => exact hr.answeredBy hs

theorem answers (hs : s.Lawful) (h : Runs g s p c m ds) : Answers g' s p c m ds := by
  induction h
  case taken ht            => exact .of_runs (.taken ht)
  case missing ht          => exact .of_runs (.missing ht)
  case call hi             => exact hi.imp rfl .call
  case chosen hi           => exact hi.imp rfl .chosen
  case unchosen hi         => exact hi.exhausted .unchosen
  case present hi          => exact hi.imp rfl .present
  case absent hi           => exact hi.imp rfl .absent
  case many hi             => exact hi.imp rfl .many
  case noOne hi            => exact hi.imp rfl .noOne
  case oneStill hle hi     => exact hi.imp rfl (.oneStill · hle)
  case oneMore hlt _ hi hi' => exact hi.append hs hi' rfl (.oneMore · hlt)
  case ended hi            => exact hi.imp rfl .ended
  case still hle hi        => exact hi.imp rfl (.still · hle)
  case again hlt _ hi hi'  => exact hi.append hs hi' rfl (.again · hlt)
  case nil                 => exact .of_runs .nil
  case headFailed hi       => exact hi.imp rfl .headFailed
  case tailFailed h hi hi' => exact hi.tailFailed hs hi' nofun (h.le_farthest hs nofun) .tailFailed
  case cons hi hi'         => exact hi.append hs hi' rfl .cons
  case exhausted           => exact .of_runs .exhausted
  case first hi            => exact hi.imp rfl .first
  case later hi hi'        => exact hi.append hs hi' rfl .later
  case ruled hr _ hi =>
    have ⟨_, hr', ha⟩ := hg.exists_answeredBy hs hr
    exact (hi.trans ha).imp rfl fun h => (Runs.ruled hr' h :)
  case unruled hr _ hi =>
    have ⟨_, hr', ha⟩ := hg.exists_answeredBy hs hr
    exact (hi.trans ha).exhausted (.unruled hr')

theorem exists_getLast? (h : Runs g s (.rule index) c none ds)
    (h' : Runs g' s (.rule index) c none ds') :
    ∃ d, ds.getLast? = some d ∧ ds'.getLast? = some d := by
  have ⟨r, hr, hd⟩ := h.exists_getLast?
  have ⟨_, hr', hd'⟩ := h'.exists_getLast?
  have ⟨_, hr₂, _⟩ := hg.rule hr
  cases hr'.symm.trans hr₂
  exact ⟨_, hd, hd'⟩

theorem exists_parses {r : Outcome × ErrorStack} (h : Parses g input complete r)
    (hruns : ∃ m ds, Runs g (g.stream input) (.rule 0) 0 m ds) :
    ∃ r', Parses g' input complete r' ∧ SameVerdict r.1 r'.1 := by
  have hs : (g.stream input).Lawful := g.lawful_stream
  have hst := hg.stream_eq input
  cases h
  case stuck h =>
    have ⟨m, ds, hm⟩ := hruns
    exact absurd hm (h m ds)
  case parsed h hc =>
    have ⟨_, h', _⟩ := hg.answers hs h
    rw [hst] at h' hc
    exact ⟨_, .parsed h' hc, .parsed⟩
  case failed h =>
    have ⟨_, h', hl⟩ := hg.answers hs h
    have ⟨_, hd, hd'⟩ := hg.exists_getLast? h h'
    have hf := hl.farthest_eq (h.le_farthest hs nofun) (h'.le_farthest hs nofun)
    rw [hst] at h'
    exact ⟨_, .failed h', .rejection hd hd' hf⟩
  case trailing found h hc hn =>
    have ⟨_, h', hl⟩ := hg.answers hs h
    have he : trailingError g found = trailingError g' found := by
      cases h with
      | ruled hr _ => rw [trailingError, trailingError, hg.startName_eq hr]
    have hf := hl.farthest_concat (trailingError_position (g := g') hn)
    rw [hst] at h' hn
    rw [he]
    exact ⟨_, .trailing h' hc hn, .rejection List.getLast?_concat List.getLast?_concat hf⟩

end RefactorsTo

end

end PegParser.Parse
