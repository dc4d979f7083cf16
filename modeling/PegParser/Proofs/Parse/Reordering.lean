import PegParser.Proofs.Expression.Renumbering
import PegParser.Proofs.Parse.Adequacy
import PegParser.Proofs.Token.Reordering

namespace PegParser

namespace TokenStream

-- The tokens are the same but for the places of their terminals. Those of the second stream that
-- start together differ in their terminals.
structure Reorders (s s' : TokenStream) : Prop where
  lines_eq : s.lines = s'.lines
  map_position_eq : s.tokens.toList.map (·.position) = s'.tokens.toList.map (·.position)
  perm : (s.tokens.toList.map Token.unranked).Perm (s'.tokens.toList.map Token.unranked)
  eq_of_terminal : ∀ t ∈ s'.tokens, ∀ u ∈ s'.tokens,
    t.terminal = u.terminal → t.index = u.index → t = u

variable {s s' : TokenStream} {offset c c' : Nat} {name : String} {t : Token}

theorem At.unique (h : s.At offset c) (h' : s.At offset c') : c = c' :=
  h.splitsAt.countP_eq.symm.trans h'.splitsAt.countP_eq

namespace Reorders

variable (h : s.Reorders s')
include h

theorem getElem?_position (c : Nat) :
    s.tokens[c]?.map (·.position) = s'.tokens[c]?.map (·.position) := by
  have := congrArg (·[c]?) h.map_position_eq
  simpa using this

theorem position_eq (c : Nat) : s.position c = s'.position c := by
  have := h.getElem?_position c
  cases ht : s.tokens[c]? <;> cases ht' : s'.tokens[c]? <;> simp_all [position, h.lines_eq]

theorem size_eq : s.size = s'.size := by
  simpa [size] using congrArg List.length h.map_position_eq

theorem exists_unranked (ht : t ∈ s.tokens) : ∃ t' ∈ s'.tokens, t'.unranked = t.unranked := by
  have := h.perm.mem_iff.mp (List.mem_map_of_mem (Array.mem_toList_iff.mpr ht))
  simpa using this

theorem exists_unranked' (ht : t ∈ s'.tokens) : ∃ t' ∈ s.tokens, t'.unranked = t.unranked := by
  have := h.perm.mem_iff.mpr (List.mem_map_of_mem (Array.mem_toList_iff.mpr ht))
  simpa using this

end Reorders

theorem At.reordered (ho : s.At offset c) (h : s.Reorders s') : s'.At offset c where
  le_size := h.size_eq ▸ ho.le_size
  lt_iff {i t'} ht' := by
    have hp := h.getElem?_position i
    rw [ht', Option.map_some, Option.map_eq_some_iff] at hp
    obtain ⟨t, ht, hp⟩ := hp
    rw [ho.lt_iff ht, Token.index, Token.index, hp]

section Terminal

variable (h : s.Reorders s') (hs : s.Lawful) (hs' : s'.Lawful) (ho : s.At offset c)
include h hs hs' ho

theorem Reorders.find?_eq_some (hf : (s.group c).find? (·.terminal == name) = some t) :
    ∃ t', (s'.group c).find? (·.terminal == name) = some t' ∧ t'.unranked = t.unranked := by
  have ho' := ho.reordered h
  have hn : t.terminal = name := by simpa using List.find?_some hf
  obtain ⟨ht, hi⟩ := (ho.mem_group_iff hs).mp (List.mem_of_find?_eq_some hf)
  obtain ⟨t', ht', hu⟩ := h.exists_unranked ht
  have hn' : t'.terminal = name := (Token.unranked_eq_iff.mp hu).1.trans hn
  have hi' : t'.index = (s'.position c).index := by
    rw [Token.index_eq_of_unranked hu, hi, h.position_eq]
  have hg := (ho'.mem_group_iff hs').mpr ⟨ht', hi'⟩
  cases hf' : (s'.group c).find? (·.terminal == name)
  case none => simpa [hn'] using List.find?_eq_none.mp hf' t' hg
  case some u =>
    have hnu : u.terminal = name := by simpa using List.find?_some hf'
    obtain ⟨hu', hiu⟩ := (ho'.mem_group_iff hs').mp (List.mem_of_find?_eq_some hf')
    obtain rfl := h.eq_of_terminal u hu' t' ht' (hnu.trans hn'.symm) (hiu.trans hi'.symm)
    exact ⟨u, rfl, hu⟩

theorem Reorders.find?_eq_none (hf : (s.group c).find? (·.terminal == name) = none) :
    (s'.group c).find? (·.terminal == name) = none := by
  refine List.find?_eq_none.mpr fun t' hg' hn' => ?_
  obtain ⟨ht', hi'⟩ := ((ho.reordered h).mem_group_iff hs').mp hg'
  obtain ⟨t, ht, hu⟩ := h.exists_unranked' ht'
  have hi : t.index = (s.position c).index := by
    rw [Token.index_eq_of_unranked hu, hi', h.position_eq]
  have hg := (ho.mem_group_iff hs).mpr ⟨ht, hi⟩
  refine List.find?_eq_none.mp hf t hg ?_
  rwa [(Token.unranked_eq_iff.mp hu).1]

theorem Reorders.skipTo_eq {t' : Token} (ht : t ∈ s.group c) (ht' : t' ∈ s'.group c)
    (hu : t'.unranked = t.unranked) : s'.skipTo c t'.stop = s.skipTo c t.stop := by
  have hstop := (Token.unranked_eq_iff.mp hu).2.2.1
  have hs₁ := (ho.reordered h).skipTo hs' ht'
  have hs₂ := (ho.skipTo hs ht).reordered h
  rw [hstop] at hs₁ ⊢
  exact hs₁.unique hs₂

end Terminal
end TokenStream

theorem Tree.leaf_eq_of_unranked {t t' : Token} (h : t'.unranked = t.unranked) :
    Tree.leaf t' = Tree.leaf t := by
  obtain ⟨hn, hp, hstop, hv⟩ := Token.unranked_eq_iff.mp h
  simp only [Tree.leaf, Token.span, Token.index, hn, hp, hstop, hv]

namespace SyntaxError

-- The same failure but for its wording.
structure Alike (e e' : SyntaxError) : Prop where
  kind_eq : e.kind = e'.kind
  position_eq : e.position = e'.position

def AlikeIf (exact : Prop) (e e' : SyntaxError) : Prop :=
  e.Alike e' ∧ (exact → e = e')

end SyntaxError

namespace Grammar

variable [RegexEngine]

def RenumbersTo (g : Grammar) (f : Nat → Nat) (g' : Grammar) : Prop :=
  ∀ index r, g.rule? index = some r → g'.rule? (f index) = some (r.renumber f)

end Grammar

namespace Parse

def Phrase.renumber (f : Nat → Nat) : Phrase → Phrase
  | element e            => element (e.renumber f)
  | sequence es          => sequence (renumberSequence f es)
  | firstOf alternatives => firstOf (renumberAlternatives f alternatives)
  | repetition e         => repetition (e.renumber f)
  | rule index           => rule (f index)

variable {f : Nat → Nat} {s s' : TokenStream} {p : Phrase} {o c : Nat}
variable {m : Option (List Tree × Nat)} {ds : List SyntaxError}

theorem terminalError_alike {name : String} (h : s.Reorders s') (hs : s.Lawful) (hs' : s'.Lawful) :
    (terminalError s name c).AlikeIf (s = s') (terminalError s' name c) := by
  have hp := h.getElem?_position c
  rw [← hs.head?_group, ← hs'.head?_group] at hp
  refine ⟨⟨?_, ?_⟩, fun he => by rw [he]⟩ <;> unfold terminalError
  all_goals
    cases hg : s.group c <;> cases hg' : s'.group c <;> simp_all [h.position_eq]

theorem exhaustedError_alike {message : String} (h : s.Reorders s') :
    (exhaustedError s message c).AlikeIf (s = s') (exhaustedError s' message c) :=
  ⟨⟨rfl, h.position_eq c⟩, fun hs => by rw [hs]⟩

theorem choiceMessage_renumber (f : Nat → Nat) (alternatives : List (List Element)) :
    choiceMessage (renumberAlternatives f alternatives) = choiceMessage alternatives := by
  have h := (Element.choice alternatives).text_renumber (f := f)
  rw [Element.renumber] at h
  exact congrArg (fun text => "no alternative of `" ++ text ++ "` matched") h

theorem ruleNode_renumber {r : Rule} {nodes : List Tree} (f : Nat → Nat) (h : s.Reorders s') :
    ruleNode s r nodes c = ruleNode s' (r.renumber f) nodes c := by
  rw [ruleNode, ruleNode, h.position_eq]
  rfl

variable [RegexEngine] {g g' : Grammar}

theorem Runs.renumber (hg : g.RenumbersTo f g') (hr : s.Reorders s') (hs : s.Lawful)
    (hs' : s'.Lawful) (h : Runs g s p c m ds) (ho : s.At o c) :
    ∃ ds', Runs g' s' (p.renumber f) c m ds' ∧
      List.Forall₂ (SyntaxError.AlikeIf (s = s')) ds ds' := by
  induction h generalizing o
  case taken hf =>
    obtain ⟨t', hf', hu⟩ := hr.find?_eq_some hs hs' ho hf
    have hm := List.mem_of_find?_eq_some hf
    have hm' := List.mem_of_find?_eq_some hf'
    refine ⟨[], ?_, .nil⟩
    rw [← Tree.leaf_eq_of_unranked hu, ← hr.skipTo_eq hs hs' ho hm hm' hu]
    exact .taken hf'
  case missing hf =>
    exact ⟨_, .missing (hr.find?_eq_none hs hs' ho hf),
      .cons (terminalError_alike hr hs hs') .nil⟩
  case call hi =>
    have ⟨_, h, hds⟩ := hi ho
    exact ⟨_, .call h, hds⟩
  case chosen hi =>
    have ⟨_, h, hds⟩ := hi ho
    exact ⟨_, .chosen h, hds⟩
  case unchosen alternatives _ _ _ hi =>
    have ⟨_, h, hds⟩ := hi ho
    refine ⟨_, .unchosen h, List.rel_append hds (.cons ?_ .nil)⟩
    rw [choiceMessage_renumber f alternatives]
    exact exhaustedError_alike hr
  case present hi =>
    have ⟨_, h, hds⟩ := hi ho
    exact ⟨_, .present h, hds⟩
  case absent hi =>
    have ⟨_, h, hds⟩ := hi ho
    exact ⟨_, .absent h, hds⟩
  case many hi =>
    have ⟨_, h, hds⟩ := hi ho
    exact ⟨_, .many h, hds⟩
  case noOne hi =>
    have ⟨_, h, hds⟩ := hi ho
    exact ⟨_, .noOne h, hds⟩
  case oneStill hle hi =>
    have ⟨_, h, hds⟩ := hi ho
    exact ⟨_, .oneStill h hle, hds⟩
  case oneMore h hlt _ hi hi' =>
    have ⟨_, ho'⟩ := h.exists_at hs ho
    have ⟨_, h, hds⟩ := hi ho
    have ⟨_, h', hds'⟩ := hi' ho'
    exact ⟨_, .oneMore h hlt h', List.rel_append hds hds'⟩
  case ended hi =>
    have ⟨_, h, hds⟩ := hi ho
    exact ⟨_, .ended h, hds⟩
  case still hle hi =>
    have ⟨_, h, hds⟩ := hi ho
    exact ⟨_, .still h hle, hds⟩
  case again h hlt _ hi hi' =>
    have ⟨_, ho'⟩ := h.exists_at hs ho
    have ⟨_, h, hds⟩ := hi ho
    have ⟨_, h', hds'⟩ := hi' ho'
    exact ⟨_, .again h hlt h', List.rel_append hds hds'⟩
  case nil => exact ⟨_, .nil, .nil⟩
  case headFailed hi =>
    have ⟨_, h, hds⟩ := hi ho
    exact ⟨_, .headFailed h, hds⟩
  case tailFailed h _ hi hi' =>
    have ⟨_, ho'⟩ := h.exists_at hs ho
    have ⟨_, h, hds⟩ := hi ho
    have ⟨_, h', hds'⟩ := hi' ho'
    exact ⟨_, .tailFailed h h', List.rel_append hds hds'⟩
  case cons h _ hi hi' =>
    have ⟨_, ho'⟩ := h.exists_at hs ho
    have ⟨_, h, hds⟩ := hi ho
    have ⟨_, h', hds'⟩ := hi' ho'
    exact ⟨_, .cons h h', List.rel_append hds hds'⟩
  case exhausted => exact ⟨_, .exhausted, .nil⟩
  case first hi =>
    have ⟨_, h, hds⟩ := hi ho
    exact ⟨_, .first h, hds⟩
  case later hi hi' =>
    have ⟨_, h, hds⟩ := hi ho
    have ⟨_, h', hds'⟩ := hi' ho
    exact ⟨_, .later h h', List.rel_append hds hds'⟩
  case ruled hrule _ hi =>
    have ⟨_, h, hds⟩ := hi ho
    refine ⟨_, ?_, hds⟩
    rw [ruleNode_renumber f hr]
    exact .ruled (hg _ _ hrule) h
  case unruled r _ _ hrule _ hi =>
    have ⟨_, h, hds⟩ := hi ho
    exact ⟨_, .unruled (hg _ _ hrule) h, List.rel_append hds (.cons (exhaustedError_alike hr) .nil)⟩

-- Both parses give the same tree or both fail, with failures of the same kinds at the same places.
inductive Agree : Outcome × ErrorStack → Outcome × ErrorStack → Prop
  | parsed {tree es es'} :
    List.Forall₂ SyntaxError.Alike es.toList es'.toList →
    Agree (.parsed tree, es) (.parsed tree, es')
  | rejected {e e' es es'} :
    List.Forall₂ SyntaxError.Alike es.toList es'.toList →
    Agree (.rejected e, es) (.rejected e', es')

variable {input : String} {complete : Bool} {r r' : Outcome × ErrorStack} {exact : Prop}
variable {ds ds' : List SyntaxError}

omit [RegexEngine] in
theorem Agree.treeOf?_eq (h : Agree r r') : treeOf? r.1 = treeOf? r'.1 := by
  cases h <;> rfl

omit [RegexEngine] in
theorem Agree.map_position_eq (h : Agree r r') :
    r.2.toList.map (·.position) = r'.2.toList.map (·.position) := by
  have ha : List.Forall₂ SyntaxError.Alike r.2.toList r'.2.toList := by
    cases h <;> assumption
  rw [← List.forall₂_eq_eq_eq, List.forall₂_map_left_iff, List.forall₂_map_right_iff]
  exact ha.imp fun _ _ h => h.position_eq

omit [RegexEngine] in
theorem alike_pushAll (h : List.Forall₂ (SyntaxError.AlikeIf exact) ds ds') :
    List.Forall₂ SyntaxError.Alike (ErrorStack.empty.pushAll ds).toList
      (ErrorStack.empty.pushAll ds').toList := by
  rw [ErrorStack.toList_pushAll, ErrorStack.toList_pushAll]
  exact h.imp fun _ _ h => h.1

omit [RegexEngine] in
theorem eq_of_alikeIf (h : List.Forall₂ (SyntaxError.AlikeIf exact) ds ds') (he : exact) :
    ds = ds' := by
  rw [← List.forall₂_eq_eq_eq]
  exact h.imp fun _ _ h => h.2 he

section Reordered

variable (hg : g.RenumbersTo f g') (hf : f 0 = 0)
include hg hf

theorem startName_eq {r : Rule} (h : g.rule? 0 = some r) : g.startName = g'.startName := by
  have h' := hg 0 r h
  rw [hf] at h'
  simp only [Grammar.rule?] at h h'
  simp [Grammar.startName, h, h', Rule.renumber]

variable (hr : (g.stream input).Reorders (g'.stream input))
include hr

theorem trailingError_alike {r : Rule} {next : Nat} {found : Token} (h : g.rule? 0 = some r)
    (hn : (g.stream input).tokens[next]? = some found) :
    ∃ found', (g'.stream input).tokens[next]? = some found' ∧
      (trailingError g found).AlikeIf (g.stream input = g'.stream input)
        (trailingError g' found') := by
  have hp := hr.getElem?_position next
  rw [hn, Option.map_some, eq_comm, Option.map_eq_some_iff] at hp
  obtain ⟨found', hn', hp⟩ := hp
  refine ⟨found', hn', ⟨rfl, hp.symm⟩, fun he => ?_⟩
  obtain rfl : found = found' := by
    rw [he] at hn
    exact Option.some.inj (hn.symm.trans hn')
  rw [trailingError, trailingError, startName_eq hg hf h]

theorem Parses.reordered (h : Parses g input complete r)
    (hruns : ∃ m ds, Runs g (g.stream input) (.rule 0) 0 m ds) :
    ∃ r', Parses g' input complete r' ∧ Agree r r' ∧
      (g.stream input = g'.stream input → r = r') := by
  have hrun {m ds} (h : Runs g (g.stream input) (.rule 0) 0 m ds) := by
    have := h.renumber hg hr g.lawful_stream g'.lawful_stream .zero
    rwa [Phrase.renumber, hf] at this
  cases h
  case stuck h =>
    obtain ⟨m, ds, hm⟩ := hruns
    exact absurd hm (h m ds)
  case parsed h hc =>
    obtain ⟨ds', h', hds⟩ := hrun h
    refine ⟨_, .parsed h' (hr.size_eq ▸ hc), .parsed (alike_pushAll hds), fun he => ?_⟩
    rw [eq_of_alikeIf hds he]
  case failed h =>
    obtain ⟨ds', h', hds⟩ := hrun h
    refine ⟨_, .failed h', .rejected (alike_pushAll hds), fun he => ?_⟩
    exact congrArg (rejection input) (eq_of_alikeIf hds he)
  case trailing next _ found h hc hn =>
    obtain ⟨ds', h', hds⟩ := hrun h
    obtain ⟨r, hrule⟩ : ∃ r, g.rule? 0 = some r := by
      cases h with
      | ruled hrule _ => exact ⟨_, hrule⟩
    obtain ⟨found', hn', he⟩ := trailingError_alike hg hf hr hrule hn
    have hds := List.rel_append hds (.cons he .nil)
    refine ⟨_, .trailing h' hc hn', .rejected (alike_pushAll hds), fun he => ?_⟩
    exact congrArg (rejection input) (eq_of_alikeIf hds he)

theorem analyze_reordered (hruns : ∃ m ds, Runs g (g.stream input) (.rule 0) 0 m ds)
    (complete : Bool) (errors errors' : ErrorStack) :
    Agree (g.analyze input complete errors) (g'.analyze input complete errors') ∧
      (g.stream input = g'.stream input →
        g.analyze input complete errors = g'.analyze input complete errors') := by
  obtain ⟨r', h, ha⟩ := (analyze_parses g input complete errors).reordered hg hf hr hruns
  rwa [← (analyze_parses g' input complete errors').unique h] at ha

end Reordered

end Parse
end PegParser
