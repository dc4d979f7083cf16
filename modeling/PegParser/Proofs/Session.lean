import PegParser.Proofs.Parse.Outcome
import PegParser.Proofs.SyntaxError
import PegParser.Session

namespace PegParser

theorem ErrorStack.last_eq_error_iff {s : ErrorStack} {e : EmptyStack} :
    s.last = .error e ↔ s = .empty := by
  have ⟨errors⟩ := s
  cases h : errors.back? <;> simp_all [last, empty]
  case some => rintro rfl; simp at h

namespace Parser

variable [RegexEngine]

def fresh (g : Grammar) (complete : Bool) : Parser :=
  (ofGrammar g).requireComplete complete

variable {p : Parser} {input : String}

theorem parse_eq : p.parse input = (fresh p.grammar p.complete).parse input := rfl

@[simp]
theorem grammar_parse : (p.parse input).2.grammar = p.grammar := rfl

@[simp]
theorem complete_parse : (p.parse input).2.complete = p.complete := rfl

end Parser

namespace Command

def parser? : Command → Option Nat
  | parse index _ => some index
  | analyze _ _ => none
  | requireComplete index _ => some index
  | clone index => some index
  | errors index => some index
  | lastError index => some index
  | tokenize index _ => some index

def Parses (c : Command) (i : Nat) : Prop :=
  ∃ input, c = parse i input

def Requires (c : Command) (i : Nat) : Prop :=
  ∃ complete, c = requireComplete i complete

def Analyzes (c : Command) : Prop :=
  ∃ input complete, c = analyze input complete

end Command

namespace Session

-- A command and those before it, with none of a kind since.
def NoneSince (P : Command → Prop) (commands before : List Command) (command : Command) : Prop :=
  ∃ rest, commands = before ++ command :: rest ∧ ∀ c ∈ rest, ¬P c

namespace NoneSince

variable {P : Command → Prop} {commands before : List Command} {command command' : Command}

theorem last : NoneSince P (commands ++ [command]) commands command :=
  ⟨[], rfl, by simp⟩

theorem concat (h : NoneSince P commands before command) (hc : ¬P command') :
    NoneSince P (commands ++ [command']) before command := by
  obtain ⟨rest, rfl, hr⟩ := h
  refine ⟨rest ++ [command'], by simp, ?_⟩
  simpa [or_imp, forall_and] using ⟨hr, hc⟩

end NoneSince

section

variable [RegexEngine]

def after (g : Grammar) (commands : List Command) : Session :=
  ((ofGrammar g).run commands).2

section Spec

variable (g : Grammar)

-- What a command is answered in a session.
inductive Answers (s : Session) : Command → Reply → Prop
  | parse {i input p} :
    s.parsers[i]? = some p →
    Answers s (.parse i input)
      (.outcome ((Parser.fresh g p.complete).parse input).1
        ((Parser.fresh g p.complete).parse input).2.errors)
  | analyze {input complete} :
    Answers s (.analyze input complete)
      (.outcome (g.analyze input complete .empty).1 (g.analyze input complete .empty).2)
  | requireComplete {i complete p} :
    s.parsers[i]? = some p → Answers s (.requireComplete i complete) .done
  | clone {i p} : s.parsers[i]? = some p → Answers s (.clone i) (.parser s.parsers.size)
  | errors {i p} : s.parsers[i]? = some p → Answers s (.errors i) (.errors p.errors)
  | lastError {i p} : s.parsers[i]? = some p → Answers s (.lastError i) (.lastError p.lastError)
  | tokenize {i input p} :
    s.parsers[i]? = some p → Answers s (.tokenize i input) (.tokens (g.tokenize input))
  | noSuchParser {command i} :
    command.parser? = some i → s.parsers[i]? = none → Answers s command .noSuchParser

-- The stack of a parser: that of its latest parse, with the setting that it had then. A parser that
-- has not parsed since it is there has an empty one.
inductive StackOf (commands : List Command) (i : Nat) : ErrorStack → Prop
  | parsed {before input p} :
    NoneSince (·.Parses i) commands before (.parse i input) →
    (after g before).parsers[i]? = some p →
    StackOf commands i ((Parser.fresh g p.complete).parse input).2.errors
  | unused :
    (∀ before input, before ++ [.parse i input] <+: commands →
      (after g before).parsers[i]? = none) →
    StackOf commands i .empty

-- The setting of a parser: what was last required of it, or else what its original had when it was
-- made.
inductive SettingOf (commands : List Command) (i : Nat) : Bool → Prop
  | required {before complete p} :
    NoneSince (·.Requires i) commands before (.requireComplete i complete) →
    (after g before).parsers[i]? = some p →
    SettingOf commands i complete
  | cloned {before j p} :
    NoneSince (·.Requires i) commands before (.clone j) →
    (after g before).parsers.size = i → (after g before).parsers[j]? = some p →
    SettingOf commands i p.complete
  | first : i = 0 → (∀ c ∈ commands, ¬c.Requires i) → SettingOf commands i false

-- The stack that the parses of the grammar itself share: that of the latest one.
inductive SharedStack (commands : List Command) : ErrorStack → Prop
  | analyzed {before input complete} :
    NoneSince Command.Analyzes commands before (.analyze input complete) →
    SharedStack commands (g.analyze input complete .empty).2
  | unused : (∀ c ∈ commands, ¬c.Analyzes) → SharedStack commands .empty

end Spec

-- What a command does: the reply to it, and the session after it.
inductive Does (s : Session) : Command → Reply → Session → Prop
  | parse {i input p} :
    s.parsers[i]? = some p →
    Does s (.parse i input) (.outcome (p.parse input).1 (p.parse input).2.errors)
      (s.setParser i (p.parse input).2)
  | analyze {input complete} :
    Does s (.analyze input complete)
      (.outcome (s.grammar.analyze input complete s.shared).1
        (s.grammar.analyze input complete s.shared).2)
      { s with shared := (s.grammar.analyze input complete s.shared).2 }
  | requireComplete {i complete p} :
    s.parsers[i]? = some p →
    Does s (.requireComplete i complete) .done (s.setParser i (p.requireComplete complete))
  | clone {i p} :
    s.parsers[i]? = some p →
    Does s (.clone i) (.parser s.parsers.size) { s with parsers := s.parsers.push p.clone }
  | errors {i p} : s.parsers[i]? = some p → Does s (.errors i) (.errors p.errors) s
  | lastError {i p} : s.parsers[i]? = some p → Does s (.lastError i) (.lastError p.lastError) s
  | tokenize {i input p} :
    s.parsers[i]? = some p → Does s (.tokenize i input) (.tokens (p.tokenize input)) s
  | noSuchParser {command i} :
    command.parser? = some i → s.parsers[i]? = none → Does s command .noSuchParser s

inductive ComesFrom (s : Session) (command : Command) (i : Nat) : Parser → Prop
  | parsed {input p} :
    command = .parse i input → s.parsers[i]? = some p → ComesFrom s command i (p.parse input).2
  | required {complete p} :
    command = .requireComplete i complete → s.parsers[i]? = some p →
    ComesFrom s command i (p.requireComplete complete)
  | cloned {j p} :
    command = .clone j → s.parsers.size = i → s.parsers[j]? = some p →
    ComesFrom s command i p.clone
  | kept {p} :
    ¬command.Parses i → ¬command.Requires i → s.parsers[i]? = some p → ComesFrom s command i p

section Step

variable {s s' : Session} {command : Command} {reply : Reply} {i j : Nat} {p q : Parser}

theorem onParser_does {f : Parser → Reply × Session} (hc : command.parser? = some i)
    (hf : ∀ p, s.parsers[i]? = some p → s.Does command (f p).1 (f p).2) :
    s.Does command (s.onParser i f).1 (s.onParser i f).2 := by
  cases hi : s.parsers[i]? <;> simp only [onParser, hi]
  case none => exact .noSuchParser hc hi
  case some p => exact hf p hi

theorem step_does (s : Session) (command : Command) :
    s.Does command (s.step command).1 (s.step command).2 := by
  cases command
  case parse           => exact onParser_does rfl fun _ => .parse
  case analyze         => exact .analyze
  case requireComplete => exact onParser_does rfl fun _ => .requireComplete
  case clone           => exact onParser_does rfl fun _ => .clone
  case errors          => exact onParser_does rfl fun _ => .errors
  case lastError       => exact onParser_does rfl fun _ => .lastError
  case tokenize        => exact onParser_does rfl fun _ => .tokenize

theorem getElem?_setParser (h : (s.setParser j q).parsers[i]? = some p) :
    (i = j ∧ p = q) ∨ (i ≠ j ∧ s.parsers[i]? = some p) := by
  rw [setParser, Array.getElem?_setIfInBounds] at h
  grind

namespace Does

variable (h : s.Does command reply s')
include h

theorem comesFrom (hp : s'.parsers[i]? = some p) : ComesFrom s command i p := by
  cases h with
  | parse hj =>
    rcases getElem?_setParser hp with ⟨rfl, rfl⟩ | ⟨hi, hp⟩
    · exact .parsed rfl hj
    · exact .kept (fun ⟨_, he⟩ => hi (Command.parse.inj he).1.symm) nofun hp
  | requireComplete hj =>
    rcases getElem?_setParser hp with ⟨rfl, rfl⟩ | ⟨hi, hp⟩
    · exact .required rfl hj
    · exact .kept nofun (fun ⟨_, he⟩ => hi (Command.requireComplete.inj he).1.symm) hp
  | clone hj =>
    rw [Array.getElem?_push] at hp
    split at hp
    case isTrue hi => exact Option.some.inj hp ▸ .cloned rfl hi.symm hj
    case isFalse   => exact .kept nofun nofun hp
  | analyze | errors | lastError | tokenize => exact .kept nofun nofun hp
  | noSuchParser hc hn =>
    -- A command for this parser would have found it.
    have hi : command.parser? ≠ some i := by grind
    exact .kept (fun ⟨_, he⟩ => hi (he ▸ rfl)) (fun ⟨_, he⟩ => hi (he ▸ rfl)) hp

theorem size_le : s.parsers.size ≤ s'.parsers.size := by
  cases h <;> simp [setParser]

theorem grammar_eq : s'.grammar = s.grammar := by
  cases h <;> rfl

theorem shared_eq (hc : ¬command.Analyzes) : s'.shared = s.shared := by
  cases h
  case analyze => exact absurd ⟨_, _, rfl⟩ hc
  all_goals rfl

theorem answers {g : Grammar} (hg : s.grammar = g)
    (hp : ∀ (i : Nat) p, s.parsers[i]? = some p → p.grammar = g) : Answers g s command reply := by
  cases h with
  | parse hi           => exact hp _ _ hi ▸ .parse hi
  | analyze            => exact hg ▸ .analyze
  | requireComplete hi => exact .requireComplete hi
  | clone hi           => exact .clone hi
  | errors hi          => exact .errors hi
  | lastError hi       => exact .lastError hi
  | tokenize hi        => exact hp _ _ hi ▸ .tokenize hi
  | noSuchParser hc hn => exact .noSuchParser hc hn

end Does

theorem Answers.exists_analyze {g : Grammar} {o : Outcome} {errors : ErrorStack}
    (h : Answers g s command (.outcome o errors)) :
    ∃ input complete errors', (g.analyze input complete errors').1 = o := by
  cases h with
  | @parse _ input p => exact ⟨input, p.complete, .empty, rfl⟩
  | analyze          => exact ⟨_, _, _, rfl⟩

theorem ComesFrom.grammar_eq {g : Grammar} (h : ComesFrom s command i p)
    (hs : ∀ (i : Nat) q, s.parsers[i]? = some q → q.grammar = g) : p.grammar = g := by
  cases h with
  | @parsed _ q _ hi   => exact hs _ q hi
  | @required _ q _ hi => exact hs _ q hi
  | @cloned _ q _ _ hi => exact hs _ q hi
  | kept _ _ hi        => exact hs _ _ hi

end Step

section Run

variable {g : Grammar} {s : Session} {before rest commands : List Command} {command : Command}
variable {i : Nat} {p : Parser}

theorem run_append (s : Session) (before rest : List Command) :
    s.run (before ++ rest) =
      ((s.run before).1 ++ ((s.run before).2.run rest).1, ((s.run before).2.run rest).2) := by
  induction before generalizing s
  case nil => rfl
  case cons command before hi => simp [run, hi]

@[simp]
theorem length_run (s : Session) (commands : List Command) :
    (s.run commands).1.length = commands.length := by
  induction commands generalizing s <;> simp_all [run]

theorem after_concat : after g (commands ++ [command]) = ((after g commands).step command).2 := by
  simp [after, run_append, run]

theorem does_after : (after g commands).Does command ((after g commands).step command).1
    (after g (commands ++ [command])) := by
  rw [after_concat]
  exact step_does _ _

theorem getElem?_run : ((ofGrammar g).run (before ++ command :: rest)).1[before.length]? =
    some ((after g before).step command).1 := by
  simp [run_append, run, after, length_run]

theorem size_after_le (h : before <+: commands) :
    (after g before).parsers.size ≤ (after g commands).parsers.size := by
  obtain ⟨rest, rfl⟩ := h
  induction rest using List.reverseRecOn
  case nil => simp
  case append_singleton rest command hi =>
    rw [← List.append_assoc]
    exact hi.trans does_after.size_le

theorem grammar_after : (after g commands).grammar = g := by
  induction commands using List.reverseRecOn
  case nil => rfl
  case append_singleton hi => rw [does_after.grammar_eq, hi]

theorem eq_of_parsers_after_nil (hp : (after g []).parsers[i]? = some p) :
    i = 0 ∧ p = .ofGrammar g := by
  cases i <;> simp_all [after, run, ofGrammar]

theorem grammar_parsers_after (hp : (after g commands).parsers[i]? = some p) : p.grammar = g := by
  induction commands using List.reverseRecOn generalizing i p
  case nil => exact (eq_of_parsers_after_nil hp).2 ▸ rfl
  case append_singleton hi => exact (does_after.comesFrom hp).grammar_eq fun _ _ => hi

theorem StackOf.concat {errors : ErrorStack} (h : StackOf g commands i errors)
    (hc : ¬command.Parses i) : StackOf g (commands ++ [command]) i errors := by
  cases h with
  | parsed hl hp => exact .parsed (hl.concat hc) hp
  | unused hn =>
    refine .unused fun before input hpre => ?_
    rcases List.prefix_concat_iff.mp hpre with he | hpre
    · exact absurd ⟨input, (List.cons.inj (List.append_inj_right' he rfl)).1.symm⟩ hc
    · exact hn before input hpre

theorem stackOf_after (hp : (after g commands).parsers[i]? = some p) :
    StackOf g commands i p.errors := by
  induction commands using List.reverseRecOn generalizing i p
  case nil =>
    rw [(eq_of_parsers_after_nil hp).2]
    exact .unused fun before input hpre => by simp at hpre
  case append_singleton commands command hi =>
    cases does_after.comesFrom hp with
    | parsed hc hq =>
      rw [Parser.parse_eq, grammar_parsers_after hq, hc]
      exact .parsed .last hq
    | required hc hq =>
      exact (hi hq).concat (by simp [hc, Command.Parses])
    | cloned hc hs hq =>
      -- A parser that is new here has had no command before.
      refine .unused fun before input hpre => ?_
      rcases List.prefix_concat_iff.mp hpre with he | hpre
      · simp [hc] at he
      · have := size_after_le (g := g) ((List.prefix_append before _).trans hpre)
        exact Array.getElem?_eq_none (by omega)
    | kept hc _ hq =>
      exact (hi hq).concat hc

theorem SettingOf.concat {complete : Bool} (h : SettingOf g commands i complete)
    (hc : ¬command.Requires i) : SettingOf g (commands ++ [command]) i complete := by
  cases h with
  | required hl hp  => exact .required (hl.concat hc) hp
  | cloned hl hs hp => exact .cloned (hl.concat hc) hs hp
  | first hi hn     => exact .first hi (by simpa [or_imp, forall_and] using ⟨hn, hc⟩)

theorem settingOf_after (hp : (after g commands).parsers[i]? = some p) :
    SettingOf g commands i p.complete := by
  induction commands using List.reverseRecOn generalizing i p
  case nil =>
    obtain ⟨rfl, rfl⟩ := eq_of_parsers_after_nil hp
    exact .first rfl (by simp)
  case append_singleton commands command hi =>
    cases does_after.comesFrom hp with
    | parsed hc hq         => exact (hi hq).concat (by simp [hc, Command.Requires])
    | required hc hq       => exact hc ▸ .required .last hq
    | @cloned _ q hc hs hq => exact hc ▸ .cloned (p := q) .last hs hq
    | kept _ hc hq         => exact (hi hq).concat hc

theorem SharedStack.concat {errors : ErrorStack} (h : SharedStack g commands errors)
    (hc : ¬command.Analyzes) : SharedStack g (commands ++ [command]) errors := by
  cases h with
  | analyzed hl => exact .analyzed (hl.concat hc)
  | unused hn   => exact .unused (by simpa [or_imp, forall_and] using ⟨hn, hc⟩)

theorem sharedStack_after : SharedStack g commands (after g commands).shared := by
  induction commands using List.reverseRecOn
  case nil => exact .unused (by simp)
  case append_singleton commands command hi =>
    by_cases hc : command.Analyzes
    case pos =>
      obtain ⟨input, complete, rfl⟩ := hc
      have he : (after g (commands ++ [.analyze input complete])).shared =
          (g.analyze input complete .empty).2 := by
        rw [after_concat, step, grammar_after]
        rfl
      exact he ▸ .analyzed .last
    case neg =>
      rw [does_after.shared_eq hc]
      exact hi.concat hc

theorem answers_run (g : Grammar) (before : List Command) (command : Command)
    (rest : List Command) :
    ∃ reply, ((ofGrammar g).run (before ++ command :: rest)).1[before.length]? = some reply ∧
      Answers g (after g before) command reply :=
  ⟨_, getElem?_run, (step_does _ _).answers grammar_after fun _ _ => grammar_parsers_after⟩

theorem mem_replies {reply : Reply} (h : reply ∈ ((ofGrammar g).run commands).1) :
    ∃ before command, Answers g (after g before) command reply := by
  obtain ⟨n, hn, rfl⟩ := List.mem_iff_getElem.mp h
  have hn' : n < commands.length := by simpa using hn
  have he := List.take_append_drop n commands
  rw [List.drop_eq_getElem_cons hn'] at he
  have ⟨reply, hr, ha⟩ :=
    answers_run g (commands.take n) commands[n] (commands.drop (n + 1))
  rw [he, List.length_take_of_le hn'.le, List.getElem?_eq_getElem hn] at hr
  exact ⟨_, _, Option.some.inj hr ▸ ha⟩

end Run

-- In a session, whatever its commands are: each parse gives what a new parser gives with the same
-- setting, each stack is that of the latest parse that used it, and each parser has the setting
-- that was last required of it or that its original had.
theorem sessions_keep_apart (g : Grammar) (commands : List Command) :
    (∀ before command rest, commands = before ++ command :: rest →
      ∃ reply, ((ofGrammar g).run commands).1[before.length]? = some reply ∧
        Answers g (after g before) command reply) ∧
    (∀ i p, (after g commands).parsers[i]? = some p →
      p.grammar = g ∧ SettingOf g commands i p.complete ∧ StackOf g commands i p.errors ∧
        (p.lastError = .error {} ↔ p.errors = .empty)) ∧
    SharedStack g commands (after g commands).shared ∧
    ((after g commands).shared.last = .error {} ↔ (after g commands).shared = .empty) ∧
    ∀ terminals rules, Grammar.ofTables terminals rules = .ok g → ¬g.LeftRecursive →
      ∀ errors, .outcome .stuck errors ∉ ((ofGrammar g).run commands).1 := by
  refine ⟨?_, fun i p hp => ⟨grammar_parsers_after hp, settingOf_after hp, stackOf_after hp,
    ErrorStack.last_eq_error_iff⟩, sharedStack_after, ErrorStack.last_eq_error_iff, ?_⟩
  · rintro before command rest rfl
    exact answers_run g before command rest
  · intro terminals rules hg hl errors h
    have ⟨before, command, ha⟩ := mem_replies h
    have ⟨input, complete, errors', ho⟩ := ha.exists_analyze
    exact Parse.analyze_ne_stuck hg hl ho

end

def someCommands : List Command :=
  [.parse 0 "3)", .requireComplete 0 true, .clone 0, .parse 1 "(3", .requireComplete 0 false,
    .analyze "3,4" true]

theorem sessions_keep_apart_lists :
    (∃ reply, ((ofGrammar .lists).run someCommands).1[3]? = some reply ∧
      Answers .lists (after .lists (someCommands.take 3)) (.parse 1 "(3") reply) ∧
    (∃ p, (after .lists someCommands).parsers[1]? = some p ∧ p.complete = true ∧
      SettingOf .lists someCommands 1 p.complete ∧ StackOf .lists someCommands 1 p.errors ∧
      p.errors.size = 7 ∧ p.lastError ≠ .error {}) ∧
    SharedStack .lists someCommands (after .lists someCommands).shared ∧
    (after .lists someCommands).shared.size = 3 ∧
    ∀ errors, .outcome .stuck errors ∉ ((ofGrammar .lists).run someCommands).1 := by
  have ⟨hr, hp, hs, _, hn⟩ := sessions_keep_apart .lists someCommands
  have hr₃ := hr (someCommands.take 3) (.parse 1 "(3")
    [.requireComplete 0 false, .analyze "3,4" true] rfl
  have hp₁ : (after .lists someCommands).parsers[1]?.map (fun p => (p.complete, p.errors.size)) =
      some (true, 7) := by
    decide +kernel
  have ⟨p, hp₁, he⟩ := Option.map_eq_some_iff.mp hp₁
  have ⟨hc, hz⟩ := Prod.mk.inj he
  have ⟨_, hset, hst, hl⟩ := hp 1 p hp₁
  have hne : p.lastError ≠ .error {} := fun h => by
    simp [hl.mp h, ErrorStack.size, ErrorStack.empty] at hz
  have hsize : (after .lists someCommands).shared.size = 3 := by decide +kernel
  exact ⟨hr₃, ⟨p, hp₁, hc, hset, hst, hz, hne⟩, hs, hsize,
    hn _ _ Grammar.lists_ofTables Grammar.not_leftRecursive_lists⟩

end Session
end PegParser
