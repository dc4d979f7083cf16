import PegParser.Proofs.Expression.Descent
import PegParser.Proofs.Expression.Reader

namespace PegParser.Expression

open Text (byteLength)
open Descent (Place Halt)

namespace Joined

variable {u v w : List Char} {c : Char}

theorem concat_left (h : ¬isNamePart c) : ¬Joined (w ++ [c]) v := by
  simp [Joined, h]

theorem append_left (h : ¬Joined w (u ++ v)) (h' : ¬Joined u v) : ¬Joined (w ++ u) v := by
  by_cases hu : u = []
  case pos => simpa [hu] using h
  case neg => rwa [append_left_iff hu]

theorem blanks_left (hw : ∀ c ∈ w, Text.isBlank c) : ¬Joined w v :=
  fun ⟨c, hc, _, _, hn, _⟩ => not_isNamePart_of_isBlank (hw c (List.mem_of_mem_getLast? hc)) hn

end Joined

namespace Progress

variable (symbols : SymbolTable)

def run (p : Progress) (w : List Char) : Except Refusal Expression := do
  (← w.foldlM (push symbols) p).finish symbols

-- All that precedes a place has been read, up to a name that ends there.
structure StandsAt (p q : Progress) (place : Place) : Prop where
  offset : p.offset = place.offset
  endName : p.endName symbols = .ok q
  fits : p.Fits place.rest
  -- A suffix is read with the element before it.
  suffix : ∀ c ∈ place.rest.head?, (suffix? c).isSome → q.pending = .nothing

variable {symbols} {p p' q q' : Progress} {place after : Place} {c : Char} {w v : List Char}
variable {r : Refusal}

theorem run_append (h : w.foldlM (push symbols) p = .ok p') :
    p.run symbols (w ++ v) = p'.run symbols v := by
  simp [run, List.foldlM_append, h]

theorem Reads.run (h : p.Reads symbols c p') :
    p.run symbols (c :: w) = p'.run symbols w :=
  run_append (w := [c]) (by simp [h.push])

theorem run_eq_error (h : p.push symbols c = .error r) : p.run symbols (c :: w) = .error r := by
  simp [Progress.run, h, bind, Except.bind]

theorem offset_of_push (h : p.push symbols c = .ok q) : q.offset = p.offset + c.utf8Size := by
  cases reads_of_push h <;> rfl

theorem offset_of_foldlM (h : w.foldlM (push symbols) p = .ok q) :
    q.offset = p.offset + byteLength w := by
  induction w generalizing p
  case nil =>
    cases h
    rfl
  case cons c w hi =>
    rw [List.foldlM_cons, Except.bind_eq_ok_iff] at h
    have ⟨p', h, h'⟩ := h
    simp [hi h', offset_of_push h, Nat.add_assoc]

theorem eq_of_endName (h : p.endName symbols = .ok q) :
    q.offset = p.offset ∧ q.groups = p.groups := by
  unfold Progress.endName at h
  split at h
  case h_1 =>
    have ⟨_, _, h⟩ := Except.bind_eq_ok_iff.mp h
    cases h
    exact ⟨rfl, rfl⟩
  case h_2 =>
    cases h
    exact ⟨rfl, rfl⟩

theorem push_eq_error (he : p.endName symbols = .ok q) (hn : isNamePart c → ¬p.pending.IsName)
    (h : q.pushSymbol c = .error r) : p.push symbols c = .error r := by
  unfold push
  split
  case h_1 hp hc => exact absurd (hp ▸ trivial) (hn hc)
  case h_2 => simp [he, h, bind, Except.bind]

theorem run_of_endName_eq_error (he : p.endName symbols = .error r)
    (hn : ∀ c ∈ w.head?, ¬isNamePart c) : p.run symbols w = .error r := by
  cases w
  case nil => simp [Progress.run, finish, he, bind, Except.bind, pure, Except.pure]
  case cons c w =>
    refine run_eq_error ?_
    unfold push
    split
    case h_1 hc => exact absurd hc (hn c rfl)
    case h_2 => simp [he, bind, Except.bind]

theorem push_of_suffix? (hc : (suffix? c).isSome) (hp : p.pending = .suffix) :
    p.push symbols c = .error (.malformed (.repeatedSuffix c) p.offset) := by
  have hn : ¬p.pending.IsName := by simp [hp, Pending.IsName]
  refine push_eq_error (endName_eq hn) (fun _ => hn) ?_
  obtain ⟨wrap, hc⟩ := Option.isSome_iff_exists.mp hc
  rcases suffix?_eq_some hc with rfl | rfl | rfl <;> (unfold pushSymbol; rw [hp]; rfl)

theorem exists_foldlM_of_isNamePart (p : Progress) {start : Nat} {letters : List Char}
    (hp : p.pending = .name start letters) (hw : ∀ c ∈ w, isNamePart c) :
    ∃ p', w.foldlM (push symbols) p = .ok p' ∧ p'.pending = .name start (w.reverse ++ letters) := by
  induction w generalizing p letters
  case nil => exact ⟨p, rfl, hp⟩
  case cons c w hi =>
    have ⟨hc, hw⟩ := List.forall_mem_cons.mp hw
    have ⟨p', h, hp'⟩ := hi {
      p with offset := p.offset + c.utf8Size, pending := .name start (c :: letters) } rfl hw
    exact ⟨p', by simp [(Reads.letter hp hc).push, h], by simp [hp']⟩

namespace StandsAt

theorem of_nothing (ho : p.offset = place.offset) (hp : p.pending = .nothing) :
    p.StandsAt symbols p place :=
  have hn : ¬p.pending.IsName := by simp [hp, Pending.IsName]
  ⟨ho, endName_eq hn, Progress.fits hn, fun _ _ _ => hp⟩

theorem offset_eq (h : p.StandsAt symbols q place) : q.offset = place.offset :=
  (eq_of_endName h.endName).1.trans h.offset

theorem run_eq (h : p.StandsAt symbols q place) (hc : place.rest = c :: w) (ht : q.TakesUp c q') :
    p.run symbols place.rest =
      ({ q' with offset := p.offset + c.utf8Size } : Progress).run symbols w := by
  have hr : p.Reads symbols c _ := .symbol (h.fits c (by simp [hc])) h.endName ht
  rw [hc, hr.run]

theorem run_eq_error (h : p.StandsAt symbols q place) (hc : place.rest = c :: w)
    (he : q.pushSymbol c = .error r) : p.run symbols place.rest = .error r := by
  rw [hc]
  exact Progress.run_eq_error (push_eq_error h.endName (h.fits c (by simp [hc])) he)

theorem run_append {part : Part} (h : p.StandsAt symbols q place) (hw : Writes symbols part w)
    (hc : part.CanStand q) (hr : place.rest = w ++ v) (hj : ¬Joined w v) :
    ∃ p' q' : Progress, p.run symbols place.rest = p'.run symbols v ∧
      p'.offset = place.offset + byteLength w ∧ p'.endName symbols = .ok q' ∧ p'.Fits v ∧
      part.TakenUp q q' := by
  have ⟨p', q', hf, he, ht⟩ := hw.read p q h.endName (hr ▸ h.fits).of_append hc
  refine ⟨p', q', hr ▸ Progress.run_append hf, h.offset ▸ offset_of_foldlM hf, he, ?_, ht⟩
  by_cases hn : w = []
  case pos =>
    subst hn
    cases hf
    simpa [hr] using h.fits
  case neg => exact fits_of_foldlM hf hn hj

theorem run_blanks (h : p.StandsAt symbols q place) (hr : place.rest = w ++ v)
    (hw : ∀ c ∈ w, Text.isBlank c) :
    ∃ p' q' : Progress, p.run symbols place.rest = p'.run symbols v ∧
      p'.StandsAt symbols q' (place.drop w v) := by
  induction w generalizing p q place
  case nil =>
    have hv : place.rest = v := hr
    exact ⟨p, q, by rw [hv], h.offset, h.endName, hv ▸ h.fits, hv ▸ h.suffix⟩
  case cons c w hi =>
    have ⟨hc, hw⟩ := List.forall_mem_cons.mp hw
    let p₁ : Progress :=
      { q with offset := p.offset + c.utf8Size, elements := q.sequence, pending := .nothing }
    have hs : p₁.StandsAt symbols p₁ (place.drop [c] (w ++ v)) :=
      of_nothing (by simp [p₁, h.offset]) rfl
    have ⟨p', q', he, hs'⟩ := hi hs rfl hw
    exact ⟨p', q', (h.run_eq hr (.blank hc)).trans he, by simpa [Place.drop_drop] using hs'⟩

theorem opens (h : p.StandsAt symbols q place) (hc : place.rest = '(' :: w) :
    ∃ p' : Progress, p.run symbols place.rest = p'.run symbols w ∧
      p'.StandsAt symbols p' (place.drop ['('] w) ∧
      p'.groups = ⟨place.offset, q.sequence, []⟩ :: q.groups ∧ p'.sequence = [] :=
  ⟨_, h.run_eq hc .opened, .of_nothing (by simp [h.offset]) rfl, by simp [h.offset_eq], rfl⟩

end StandsAt

end Progress

section Agreement

variable (symbols : SymbolTable)

-- What a descent does at a place: it takes what writes a part, or refuses what reading character
-- by character refuses from there on.
inductive Answers {α : Type} (part : α → Part) (stops : List Char → Prop) (place : Place) :
    Except Halt (α × Place) → Prop
  | taken {a w v} :
    Writes symbols (part a) w → place.rest = w ++ v → ¬Joined w v → stops v →
    Answers part stops place (.ok (a, place.drop w v))
  | refused {r} :
    (∀ p q : Progress, p.StandsAt symbols q place → (∀ a, (part a).CanStand q) →
      p.run symbols place.rest = .error r) →
    Answers part stops place (.error (.refused r))

def EndsItem (w : List Char) : Prop :=
  ∀ c ∈ w.head?, suffix? c = none

def EndsSequence (w : List Char) : Prop :=
  ∀ c ∈ w.head?, c = ')' ∨ c = '|'

def EndsGroup (w : List Char) : Prop :=
  ∀ c ∈ w.head?, c = ')'

variable {symbols} {place : Place} {c : Char} {u v w : List Char}

theorem not_of_mem_head?_dropWhile {f : Char → Bool} (h : c ∈ (w.dropWhile f).head?) : ¬f c := by
  have := List.head?_dropWhile_not f w
  rw [Option.mem_def.mp h] at this
  simp [this]

theorem answers_name (hr : place.rest = c :: w) (hc : isNameStart c) :
    Answers symbols .primary (fun _ => True) place (Descent.name symbols place) := by
  have hn : isNamePart c := by simp [isNamePart, hc]
  have ht : place.rest.takeWhile isNamePart = c :: w.takeWhile isNamePart := by simp [hr, hn]
  have hd : place.rest.dropWhile isNamePart = w.dropWhile isNamePart := by simp [hr, hn]
  have hw : w.takeWhile isNamePart ++ w.dropWhile isNamePart = w := by simp
  have hl : ∀ d ∈ w.takeWhile isNamePart, isNamePart d := fun _ => List.mem_takeWhile_imp
  have he : ∀ d ∈ (w.dropWhile isNamePart).head?, ¬isNamePart d :=
    fun _ => not_of_mem_head?_dropWhile
  simp only [Descent.name, ht, hd]
  generalize w.takeWhile isNamePart = letters at *
  generalize w.dropWhile isNamePart = rest at *
  subst hw
  have hj : ¬Joined (c :: letters) rest := by
    rintro ⟨_, _, d, hd, _, hd'⟩
    exact he d hd hd'
  have hname : IsName (c :: letters) := ⟨hc, hl⟩
  cases hs : resolve symbols (.ofList (c :: letters)) place.offset
  case ok e => exact .taken (resolve_writes hname hs) hr hj trivial
  case error r =>
    refine .refused fun p q h _ => ?_
    rw [h.run_eq hr (.named hc)]
    let p₁ : Progress := {
      q with
      offset := p.offset + c.utf8Size
      elements := q.sequence
      pending := .name q.offset [c] }
    obtain ⟨p', hf, hp'⟩ : ∃ p', letters.foldlM (Progress.push symbols) p₁ = .ok p' ∧
        p'.pending = .name q.offset (letters.reverse ++ [c]) :=
      p₁.exists_foldlM_of_isNamePart rfl hl
    rw [Progress.run_append hf]
    refine Progress.run_of_endName_eq_error ?_ he
    have hl' : (letters.reverse ++ [c]).reverse = c :: letters := by simp
    simp only [Progress.endName, hp', hl', h.offset_eq, hs]
    rfl

theorem answers_group {alternatives : Descent.Reader (List Expression)}
    (hr : place.rest = '(' :: w)
    (ha : Answers symbols .alternatives EndsGroup (place.drop ['('] w)
      (alternatives (place.drop ['('] w))) :
    Answers symbols .primary (fun _ => True) place
      (Descent.group place.offset alternatives (place.drop ['('] w)) := by
  unfold Descent.group
  generalize alternatives (place.drop ['('] w) = x at *
  cases ha
  case refused r ha =>
    refine .refused fun p q h _ => ?_
    obtain ⟨p', hp, hs, hg, _⟩ := h.opens hr
    exact hp.trans (ha p' p' hs fun _ => by simp [Part.CanStand, hg])
  case taken rows u v hw hu hj hv =>
    cases v
    case nil =>
      refine .refused fun p q h _ => ?_
      obtain ⟨p', hp, hs, hg, hq⟩ := h.opens hr
      obtain ⟨p₁, q₁, he, _, hn, _, ht⟩ := hs.run_append hw (by simp [Part.CanStand, hg]) hu hj
      obtain ⟨group, hg₁, ho, _⟩ := ht _ _ hg hq
      rw [hp, ← Place.drop_rest place ['('] w, he]
      simp [Progress.run, Progress.finish, hn, hg₁, ho]
    case cons c v =>
      cases hv c rfl
      have hr' : place.rest = '(' :: u ++ [')'] ++ v := by
        rw [hr, ← Place.drop_rest place ['('] w, hu]
        simp
      have hj' : ¬Joined ('(' :: u ++ [')']) v := Joined.concat_left (by decide)
      simpa [Place.drop_drop, pure, Except.pure] using Answers.taken (.group hw) hr' hj' trivial

theorem answers_primary {alternatives : Descent.Reader (List Expression)}
    (he : Descent.endsSequence place.rest = false) (hb : ∀ c ∈ place.rest.head?, ¬Text.isBlank c)
    (ha : ∀ w, place.rest = '(' :: w → Answers symbols .alternatives EndsGroup (place.drop ['('] w)
      (alternatives (place.drop ['('] w))) :
    Answers symbols .primary (fun _ => True) place
      (Descent.primary symbols alternatives place) := by
  unfold Descent.primary
  split
  case h_1 hr => simp [hr, Descent.endsSequence] at he
  case h_2 c w hr =>
    have hc : c ≠ ')' ∧ c ≠ '|' := by simpa [hr, Descent.endsSequence] using he
    have hb : ¬Text.isBlank c := hb c (by simp [hr])
    split
    case isTrue ho =>
      subst ho
      exact answers_group hr (ha w hr)
    split
    case isTrue hn => exact answers_name hr hn
    split
    case isTrue hs =>
      refine .refused fun p q h _ => h.run_eq_error hr ?_
      have hp := h.suffix c (by simp [hr]) hs
      have ⟨wrap, hs⟩ := Option.isSome_iff_exists.mp hs
      simp [Progress.pushSymbol, *, h.offset_eq]
    case isFalse hs =>
      refine .refused fun p q h _ => h.run_eq_error hr ?_
      have hs := Option.not_isSome_iff_eq_none.mp hs
      simp [Progress.pushSymbol, *, h.offset_eq]

theorem answers_suffix {e : Element} (hw : Writes symbols (.primary e) w)
    (hr : place.rest = w ++ v) (hj : ¬Joined w v) :
    Answers symbols .item EndsItem place (Descent.suffix e (place.drop w v)) := by
  have hplain (hv : EndsItem v) := Answers.taken (.plain hw) hr hj hv
  cases v
  case nil => exact hplain (by simp [EndsItem])
  case cons c v =>
    cases hc : suffix? c
    case none =>
      have := hplain (by simp [EndsItem, hc])
      simpa [Descent.suffix, hc, pure, Except.pure] using this
    case some wrap =>
      have hr' : place.rest = (w ++ [c]) ++ v := by simp [hr]
      have hj' : ¬Joined (w ++ [c]) v := Joined.concat_left (not_isNamePart_of_suffix? hc)
      have hsuffixed (hv : EndsItem v) := Answers.taken (.suffixed hw hc) hr' hj' hv
      cases v
      case nil =>
        have := hsuffixed (by simp [EndsItem])
        simpa [Descent.suffix, hc, Place.drop_drop, pure, Except.pure] using this
      case cons c' v =>
        cases hc' : (suffix? c').isSome
        case false =>
          have := hsuffixed (by simpa [EndsItem] using hc')
          simpa [Descent.suffix, hc, hc', Place.drop_drop, pure, Except.pure] using this
        case true =>
          simp only [Descent.suffix, Place.drop_rest, hc, hc', if_true]
          refine .refused fun p q h _ => ?_
          have ⟨p', q', hp, ho, he, hf, _, _, hq⟩ := h.run_append hw trivial hr hj
          have hr : p'.Reads symbols c _ := .symbol (hf c rfl) he (.suffixed hc hq)
          rw [hp, hr.run]
          refine (Progress.run_eq_error (Progress.push_of_suffix? hc' rfl)).trans ?_
          simp [ho, Nat.add_assoc]

theorem answers_item {alternatives : Descent.Reader (List Expression)}
    (ha : Answers symbols .primary (fun _ => True) place
      (Descent.primary symbols alternatives place)) :
    Answers symbols .item EndsItem place (Descent.item symbols alternatives place) := by
  unfold Descent.item
  generalize Descent.primary symbols alternatives place = x at *
  cases ha
  case taken hw hr hj _ => exact answers_suffix hw hr hj
  case refused ha => exact .refused fun p q h _ => ha p q h fun _ => trivial

theorem Writes.blanks {es : List Element} (h : Writes symbols (.sequence es) v)
    (hw : ∀ c ∈ w, Text.isBlank c) : Writes symbols (.sequence es) (w ++ v) := by
  induction w
  case nil => exact h
  case cons c w hi =>
    have ⟨hc, hw⟩ := List.forall_mem_cons.mp hw
    exact .blank hc (hi hw)

theorem Answers.of_skipBlanks {x : Except Halt (List Element × Place)}
    (h : Answers symbols .sequence EndsSequence place.skipBlanks x) :
    Answers symbols .sequence EndsSequence place x := by
  have hr : place.rest = place.rest.takeWhile Text.isBlank ++ place.skipBlanks.rest := by
    simp [Place.skipBlanks]
  have hb : ∀ c ∈ place.rest.takeWhile Text.isBlank, Text.isBlank c :=
    fun _ => List.mem_takeWhile_imp
  cases h
  case refused h =>
    refine .refused fun p q hs _ => ?_
    have ⟨p', q', hp, hs⟩ := hs.run_blanks hr hb
    exact hp.trans (h p' q' hs fun _ => trivial)
  case taken es w v hw hr' hj hv =>
    rw [hr', ← List.append_assoc] at hr
    have hj' := Joined.append_left (Joined.blanks_left hb) hj
    simpa [Place.skipBlanks, Place.drop_drop] using Answers.taken (hw.blanks hb) hr hj' hv

theorem answers_nil (h : Descent.endsSequence place.rest) :
    Answers symbols .sequence EndsSequence place (.ok ([], place)) := by
  have hv : EndsSequence place.rest := by
    cases hr : place.rest <;> simp_all [EndsSequence, Descent.endsSequence]
  simpa [Place.drop] using Answers.taken .nil rfl Joined.nil_left hv

theorem answers_cons {sequence : Descent.Reader (List Element)} {x : Except Halt (Element × Place)}
    (hx : Answers symbols .item EndsItem place x)
    (hs : ∀ w v, w ≠ [] → place.rest = w ++ v →
      Answers symbols .sequence EndsSequence (place.drop w v) (sequence (place.drop w v))) :
    Answers symbols .sequence EndsSequence place (do
      let (e, p) ← x
      let (es, p) ← sequence p
      return (e :: es, p)) := by
  cases hx
  case refused h => exact .refused fun p q hs _ => h p q hs fun _ => trivial
  case taken e w v hw hr hj hv =>
    simp only [Except.ok_bind]
    have hs := hs w v hw.item_ne_nil hr
    generalize sequence (place.drop w v) = y at *
    cases hs
    case refused h =>
      refine .refused fun p q hs _ => ?_
      have ⟨p', q', hp, ho, he, hf, _⟩ := hs.run_append hw trivial hr hj
      have hs : p'.StandsAt symbols q' (place.drop w v) :=
        ⟨ho, he, hf, fun c hc hs => absurd (hv c hc) (Option.isSome_iff_ne_none.mp hs)⟩
      exact hp.trans (h p' q' hs fun _ => trivial)
    case taken es u v' hu hr' hj' hv' =>
      rw [Place.drop_rest] at hr'
      subst hr'
      have hj₁ : ¬Joined w u := by
        by_cases hu : u = []
        case pos => simp [hu, Joined.nil_right]
        case neg => rwa [Joined.append_right_iff hu] at hj
      rw [← List.append_assoc] at hr
      have := Answers.taken (.cons hw hu hj₁) hr (Joined.append_left hj hj') hv'
      simpa [Place.drop_drop] using this

theorem answers_rows {alternatives : Descent.Reader (List Expression)}
    {x : Except Halt (List Element × Place)}
    (hx : Answers symbols .sequence EndsSequence place x)
    (ha : ∀ w v, place.rest = w ++ '|' :: v →
      Answers symbols .alternatives EndsGroup (place.drop (w ++ ['|']) v)
        (alternatives (place.drop (w ++ ['|']) v))) :
    Answers symbols .alternatives EndsGroup place (do
      let (es, p) ← x
      match p.rest with
      | '|' :: rest =>
        let (rows, p) ← alternatives (p.drop ['|'] rest)
        return (es :: rows, p)
      | _ => return ([es], p)) := by
  cases hx
  case refused h => exact .refused fun p q hs _ => h p q hs fun _ => trivial
  case taken es w v hw hr hj hv =>
    simp only [Except.ok_bind]
    have hlast (hv : EndsGroup v) := Answers.taken (.last hw) hr hj hv
    cases v
    case nil => exact hlast (by simp [EndsGroup])
    case cons c v =>
      rcases hv c rfl with rfl | rfl
      case inl => exact hlast (by simp [EndsGroup])
      case inr =>
        have ha := ha w v hr
        simp only [Place.drop_rest, Place.drop_drop]
        generalize alternatives (place.drop (w ++ ['|']) v) = y at *
        cases ha
        case refused h =>
          refine .refused fun p q hs hc => ?_
          have ⟨p₁, q₁, hp, ho, he, hf, hg, _⟩ := hs.run_append hw trivial hr hj
          have hs₁ : p₁.StandsAt symbols q₁ (place.drop w ('|' :: v)) :=
            ⟨ho, he, hf, by simp [suffix?]⟩
          obtain ⟨group, groups, hq⟩ := List.exists_cons_of_ne_nil (hc [])
          have hb := hs₁.run_eq rfl (.barred (hg.trans hq))
          refine (hp.trans hb).trans (h _ _ (.of_nothing ?_ rfl) fun _ => ?_)
          · simp [ho, Nat.add_assoc]
          · simp [Part.CanStand]
        case taken rows u v' hu hr' hj' hv' =>
          rw [Place.drop_rest] at hr'
          subst hr'
          have hr : place.rest = (w ++ '|' :: u) ++ v' := by simp [hr]
          have hj₁ : ¬Joined (w ++ ['|'] ++ u) v' :=
            Joined.append_left (Joined.concat_left (by decide)) hj'
          rw [List.append_assoc] at hj₁
          have := Answers.taken (.more hw hu) hr hj₁ hv'
          simpa [Place.drop_drop] using this

theorem answers_of_lt (depth : Nat) :
    (∀ place : Place, 2 * place.rest.length < depth →
      Answers symbols .sequence EndsSequence place (Descent.sequence symbols depth place)) ∧
    ∀ place : Place, 2 * place.rest.length + 1 < depth →
      Answers symbols .alternatives EndsGroup place (Descent.alternatives symbols depth place) := by
  induction depth
  case zero => exact ⟨nofun, nofun⟩
  case succ depth hi =>
    have ⟨hs, ha⟩ := hi
    constructor
    case left =>
      intro place hl
      have hle : place.skipBlanks.rest.length ≤ place.rest.length :=
        (List.dropWhile_sublist _).length_le
      refine .of_skipBlanks ?_
      simp only [Descent.sequence]
      split
      case isTrue he => exact answers_nil he
      case isFalse he =>
        have hb : ∀ c ∈ place.skipBlanks.rest.head?, ¬Text.isBlank c :=
          fun _ => not_of_mem_head?_dropWhile
        refine answers_cons (answers_item (answers_primary (by simpa using he) hb ?_)) ?_
        case refine_1 =>
          intro w hr
          refine ha _ ?_
          simp only [hr, List.length_cons] at hle
          simp only [Place.drop_rest]
          omega
        case refine_2 =>
          intro w v hw hr
          refine hs _ ?_
          have := List.length_pos_iff.mpr hw
          simp only [hr, List.length_append] at hle
          simp only [Place.drop_rest]
          omega
    case right =>
      intro place hl
      rw [Descent.alternatives]
      refine answers_rows (hs place (by omega)) fun w v hr => ha _ ?_
      simp only [hr, List.length_append, List.length_cons] at hl
      simp only [Place.drop_rest]
      omega

-- With room for enough calls, the descent reads what reading character by character does.
theorem descent_eq {depth : Nat} (h : 2 * w.length < depth) :
    Descent.read symbols depth w = (ofChars symbols w).mapError .refused := by
  have ha : Answers symbols .sequence EndsSequence ⟨0, w⟩ (Descent.sequence symbols depth ⟨0, w⟩) :=
    (answers_of_lt depth).1 ⟨0, w⟩ h
  have hs : ({} : Progress).StandsAt symbols {} ⟨0, w⟩ := .of_nothing rfl rfl
  have hrun : ofChars symbols w = ({} : Progress).run symbols w := rfl
  unfold Descent.read
  generalize Descent.sequence symbols depth ⟨0, w⟩ = x at *
  cases ha
  case refused r hr =>
    rw [hrun, hr {} {} hs fun _ => trivial]
    rfl
  case taken es u v hu hr hj hv =>
    have hw : w = u ++ v := hr
    cases v
    case nil =>
      rw [List.append_nil] at hw
      rw [ofChars_of_writes (hw ▸ hu)]
      rfl
    case cons c v =>
      have ⟨p, q, hp, ho, he, hf, hg, _⟩ := hs.run_append hu trivial hr hj
      have hs' : p.StandsAt symbols q (Place.drop ⟨0, w⟩ u (c :: v)) := by
        refine ⟨ho, he, hf, fun d hd => ?_⟩
        cases hd
        rcases hv c rfl with rfl | rfl <;> simp [suffix?]
      rcases hv c rfl with rfl | rfl
      case inl =>
        have hf : q.pushSymbol ')' = .error (.malformed .unmatchedClose q.offset) := by
          simp [Progress.pushSymbol, hg]
        rw [hrun, hp.trans (hs'.run_eq_error rfl hf), hs'.offset_eq]
        rfl
      case inr =>
        have hf : q.pushSymbol '|' = .error (.malformed .bareBar q.offset) := by
          simp [Progress.pushSymbol, hg]
        rw [hrun, hp.trans (hs'.run_eq_error rfl hf), hs'.offset_eq]
        rfl

end Agreement

end PegParser.Expression
