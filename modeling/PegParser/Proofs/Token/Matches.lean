import PegParser.Proofs.Grammar.LeftRecursion
import PegParser.Proofs.Position
import PegParser.Proofs.Token

namespace PegParser.Token

section

variable [RegexEngine]

-- The token stands for a match of the terminal at that place of the table.
structure Records (t : Token) (input : String) (terminal : Terminal) (rank : Nat)
    (m : Regex.Match) : Prop where
  terminal : t.terminal = terminal.name
  rank : t.rank = rank
  index : t.index = m.start
  stop : t.stop = m.stop
  value : t.value.toList = m.text
  standsIn : t.StandsIn input
  locates : t.position.Locates input.toList

def matchesOf (input : String) (terminal : Terminal) : List Regex.Match :=
  (RegexEngine.findAll terminal.regex input.toList).filter (!·.text.isEmpty)

instance : Std.Irrefl Before where
  irrefl t h := by simp [Before] at h

instance : Std.Antisymm Before where
  antisymm t u h h' := by
    simp only [Before] at h h'
    omega

variable {terminals : List Terminal} {input : String} {terminal : Terminal} {rank : Nat} {t : Token}

theorem ofMatch_records {m : Regex.Match} (h : m ∈ matchesOf input terminal) :
    (ofMatch (.ofText input) terminal rank m).Records input terminal rank m where
  terminal := rfl
  rank := rfl
  index := ofMatch_index _ _ (RegexEngine.findAll_standsIn (List.mem_of_mem_filter h))
  stop := rfl
  value := by simp [ofMatch]
  standsIn := ofInput_standsIn (List.mem_map_of_mem h)
  locates := LineIndex.position_locates input m.start

theorem ofInput_records :
    List.Forall₂ (fun m t => t.Records input terminal rank m) (matchesOf input terminal)
      (ofInput input terminal rank) :=
  List.forall₂_map_right_iff.mpr (List.forall₂_same.mpr fun _ => ofMatch_records)

theorem filter_rank_eq (h : terminals[rank]? = some terminal) :
    (tokenize terminals input).filter (·.rank = rank) = ofInput input terminal rank := by
  apply (tokenize_pairwise.filter _).eq_of_mem_iff ofInput_pairwise
  intro t
  simp [mem_tokenize_iff]
  constructor
  case mp =>
    intro ⟨⟨rank', terminal', h', ht⟩, hr⟩
    cases (ofInput_rank ht).symm.trans hr
    cases h.symm.trans h'
    exact ht
  case mpr => exact fun ht => ⟨⟨rank, terminal, h, ht⟩, ofInput_rank ht⟩

theorem rank_lt (h : t ∈ tokenize terminals input) : t.rank < terminals.length := by
  have ⟨rank, terminal, hr, ht⟩ := mem_tokenize_iff.mp h
  rw [ofInput_rank ht]
  exact (List.getElem?_eq_some_iff.mp hr).1

theorem mem_tokenize_append_iff {more : List Terminal} (h : t.rank < terminals.length) :
    t ∈ tokenize (terminals ++ more) input ↔ t ∈ tokenize terminals input := by
  simp only [mem_tokenize_iff]
  constructor <;> intro ⟨rank, terminal, hr, ht⟩ <;> refine ⟨rank, terminal, ?_, ht⟩
  all_goals
    rw [ofInput_rank ht] at h
    simpa [List.getElem?_append_left h] using hr

-- Tokens are strictly ordered, by where they start and by the places of their terminals. Those of a
-- place are all matches there that are not empty, one by one, and there are no others; and what is
-- added at the end of the table takes no token away.
theorem tokens_are_matches (terminals : List Terminal) (input : String) :
    (tokenize terminals input).Pairwise Before ∧
    (∀ t ∈ tokenize terminals input, t.rank < terminals.length) ∧
    (∀ rank terminal, terminals[rank]? = some terminal →
      List.Forall₂ (fun m t => t.Records input terminal rank m) (matchesOf input terminal)
        ((tokenize terminals input).filter (·.rank = rank))) ∧
    ∀ more, (tokenize (terminals ++ more) input).filter (·.rank < terminals.length) =
      tokenize terminals input := by
  refine ⟨tokenize_pairwise, fun _ => rank_lt, ?places, ?added⟩
  case places =>
    intro rank terminal h
    rw [filter_rank_eq h]
    exact ofInput_records
  case added =>
    intro more
    apply (tokenize_pairwise.filter _).eq_of_mem_iff tokenize_pairwise
    intro t
    simp
    constructor
    case mp  => exact fun ⟨ht, hr⟩ => (mem_tokenize_append_iff hr).mp ht
    case mpr => exact fun ht => ⟨(mem_tokenize_append_iff (rank_lt ht)).mpr ht, rank_lt ht⟩

end

open Grammar in
theorem tokens_are_matches_lists :
    ∃ integer, listTerminals[0]? = some integer ∧ integer.name = "integer" ∧
      (tokenize listTerminals "3.5\n42").map (fun t => (t.terminal, t.index, t.position.column)) =
        [("integer", 0, 0), ("real", 0, 0), ("integer", 2, 2), ("integer", 4, 1), ("real", 4, 1)] ∧
      List.Forall₂ (fun m t => t.Records "3.5\n42" integer 0 m) (matchesOf "3.5\n42" integer)
        ((tokenize listTerminals "3.5\n42").filter (·.rank = 0)) ∧
      (tokenize listTerminals "3.5\n42").filter (·.rank < 1) =
        tokenize (listTerminals.take 1) "3.5\n42" := by
  have hi : listTerminals[0]?.any (·.name == "integer") := by decide +kernel
  simp only [Option.any_eq_true, beq_iff_eq] at hi
  have ⟨integer, hi, hn⟩ := hi
  have ⟨_, _, hm, _⟩ := tokens_are_matches listTerminals "3.5\n42"
  have ⟨_, _, _, ha⟩ := tokens_are_matches (listTerminals.take 1) "3.5\n42"
  exact ⟨integer, hi, hn, by decide +kernel, hm 0 integer hi, ha (listTerminals.drop 1)⟩

end PegParser.Token
