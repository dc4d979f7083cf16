import PegParser.Proofs.Json.RoundTrip
import PegParser.Proofs.Tree

namespace PegParser

theorem Json.asWord?_natCast {n : Nat} (h : n < 0x10000000000000000) :
    (integer n).asWord? = some n :=
  if_pos h

namespace Span

def Fits (s : Span) : Prop :=
  s.start < 0x10000000000000000 ∧ s.stop < 0x10000000000000000

variable {span : Span} {depth : Nat}

theorem ofJson?_toJson (h : span.Fits) : ofJson? span.toJson = some span := by
  have ⟨hstart, hstop⟩ := h
  simp [toJson, ofJson?, Json.lookup?, Json.asWord?_natCast hstart, Json.asWord?_natCast hstop]

theorem readable_toJson (h : span.Fits) : Json.Readable (depth + 1) span.toJson := by
  have ⟨hstart, hstop⟩ := h
  refine .object fun field hf => ?_
  simp only [List.mem_cons, List.not_mem_nil, or_false] at hf
  rcases hf with rfl | rfl
  · exact .integer (by simp only [Json.FitsWord]; omega)
  · exact .integer (by simp only [Json.FitsWord]; omega)

end Span

namespace Tree

variable {label : String} {value : Option String} {ts : List Tree} {span : Span} {depth : Nat}

def Fits (t : Tree) : Prop :=
  ∀ n ∈ t.nodes, n.span.Fits

theorem fits_mk : Fits ⟨label, value, ts, span⟩ ↔ span.Fits ∧ ∀ n ∈ nodesOf ts, n.span.Fits := by
  simp [Fits, nodes, filter, nodesOf]

theorem fits_cons {t : Tree} :
    (∀ n ∈ nodesOf (t :: ts), n.span.Fits) ↔ t.Fits ∧ ∀ n ∈ nodesOf ts, n.span.Fits := by
  simp [Fits, or_imp, forall_and]

mutual

def levels : Tree → Nat
  | ⟨_, _, children, _⟩ => levelsOf children + 1

def levelsOf : List Tree → Nat
  | [] => 0
  | t :: ts => max t.levels (levelsOf ts)

end

theorem ofJson?_mk (hs : span.Fits) (hc : ofJsonAll? (toJsonAll ts) = some ts) :
    ofJson? (toJson ⟨label, value, ts, span⟩) = some ⟨label, value, ts, span⟩ := by
  cases value <;> cases ts <;>
    simp_all [toJson, toJsonAll, ofJson?, Json.lookup?, Json.asString?, valueOfJson?,
      lastChildren?, childrenOfJson?, Span.ofJson?_toJson]

mutual

theorem ofJson?_toJson : (t : Tree) → t.Fits → ofJson? t.toJson = some t
  | ⟨_, _, children, _⟩, h =>
    have ⟨hs, hc⟩ := fits_mk.mp h
    ofJson?_mk hs (ofJsonAll?_toJsonAll children hc)

theorem ofJsonAll?_toJsonAll : (ts : List Tree) → (∀ n ∈ nodesOf ts, n.span.Fits) →
    ofJsonAll? (toJsonAll ts) = some ts
  | [], _ => by rw [toJsonAll, ofJsonAll?]
  | t :: ts, h => by
    have ⟨ht, hts⟩ := fits_cons.mp h
    simp [toJsonAll, ofJsonAll?, ofJson?_toJson t ht, ofJsonAll?_toJsonAll ts hts]

end

theorem readable_mk (hs : span.Fits) (hc : ∀ item ∈ toJsonAll ts, Json.Readable depth item) :
    Json.Readable (depth + 2) (toJson ⟨label, value, ts, span⟩) := by
  rw [toJson]
  refine .object fun field hf => ?_
  simp only [List.mem_append, List.mem_singleton, Option.mem_toList, Option.map_eq_some_iff] at hf
  rcases hf with ((rfl | ⟨text, _, rfl⟩) | hf) | rfl
  · exact .string
  · exact .string
  · split at hf
    case isTrue => cases hf
    case isFalse =>
      rw [List.mem_singleton.mp hf]
      exact .array hc
  · exact Span.readable_toJson hs

mutual

theorem readable_toJson : (t : Tree) → {depth : Nat} → t.Fits → 2 * t.levels ≤ depth →
    Json.Readable depth t.toJson
  | ⟨_, _, children, _⟩, depth, h, hd => by
    have ⟨hs, hc⟩ := fits_mk.mp h
    rw [levels] at hd
    have ⟨d, hd'⟩ : ∃ d, depth = d + 2 := ⟨depth - 2, by omega⟩
    subst hd'
    exact readable_mk hs (readable_toJsonAll children hc (by omega))

theorem readable_toJsonAll : (ts : List Tree) → {depth : Nat} →
    (∀ n ∈ nodesOf ts, n.span.Fits) → 2 * levelsOf ts ≤ depth →
    ∀ item ∈ toJsonAll ts, Json.Readable depth item
  | [], _, _, _ => by simp [toJsonAll]
  | t :: ts, _, h, hd => by
    have ⟨ht, hts⟩ := fits_cons.mp h
    rw [levelsOf] at hd
    rw [toJsonAll]
    exact List.forall_mem_cons.mpr
      ⟨readable_toJson t ht (by omega), readable_toJsonAll ts hts (by omega)⟩

end

theorem ofTextWithin?_toJson {t : Tree} (h : t.Fits) (hl : 2 * t.levels ≤ depth) :
    (Json.ofTextWithin? depth t.toJson.listing).bind ofJson? = some t := by
  rw [Json.ofTextWithin?_listing (readable_toJson t h hl)]
  exact ofJson?_toJson t h

-- A tree is read from its JSON as it was, and no other tree has the same text: what is left out is
-- not taken for something that is empty.
theorem json_loses_nothing {t : Tree} (h : t.Fits) :
    ofJson? t.toJson = some t ∧
    (t.levels ≤ 63 → (Json.ofText? t.toJson.listing).bind ofJson? = some t) ∧
    ∀ t' : Tree, t'.Fits → t'.toJson.listing = t.toJson.listing → t' = t := by
  refine ⟨ofJson?_toJson t h, fun hl => ?_, fun t' h' he => ?_⟩
  · exact ofTextWithin?_toJson h (by simp only [Json.depthLimit]; omega)
  · -- A reader that takes both of them reads the one text as either.
    have ht := ofTextWithin?_toJson h (Nat.le_max_left _ (2 * t'.levels))
    have ht' := ofTextWithin?_toJson h' (Nat.le_max_right (2 * t.levels) _)
    rw [he, ht] at ht'
    exact (Option.some.inj ht').symm

def unusual : Tree where
  label := "\"\\\x08é😀"
  value := some "\n\t\x01\x7f"
  children := [⟨"", some "", [], ⟨0, 0⟩⟩, ⟨"", none, [⟨"/", none, [], ⟨7, 3⟩⟩], ⟨0, 0⟩⟩]
  span := ⟨0, 0xffffffffffffffff⟩

theorem json_loses_nothing_unusual :
    unusual.Fits ∧ unusual.levels ≤ 63 ∧
    ofJson? unusual.toJson = some unusual ∧
    (Json.ofText? unusual.toJson.listing).bind ofJson? = some unusual ∧
    { unusual with value := none }.toJson.listing ≠ unusual.toJson.listing ∧
    { unusual with value := some "" }.toJson.listing ≠ unusual.toJson.listing ∧
    { unusual with children := [] }.toJson.listing ≠ unusual.toJson.listing := by
  have hf (value) : Fits { unusual with value } := by
    simp [Fits, nodes, filter, filterAll, unusual, Span.Fits]
  have hf' : Fits { unusual with children := [] } := by
    simp [Fits, nodes, filter, filterAll, unusual, Span.Fits]
  have hl : unusual.levels ≤ 63 := by
    simp [levels, levelsOf, unusual]
  obtain ⟨hv, ht, hd⟩ := json_loses_nothing (hf unusual.value)
  refine ⟨hf _, hl, hv, ht hl, fun he => ?_, fun he => ?_, fun he => ?_⟩
  · simpa [unusual] using hd _ (hf none) he
  · simpa [unusual] using hd _ (hf (some "")) he
  · simpa [unusual] using hd _ hf' he

end Tree
end PegParser
