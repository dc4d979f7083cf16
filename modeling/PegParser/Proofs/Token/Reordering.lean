import PegParser.Proofs.Token

namespace PegParser.Token

def unranked (t : Token) : Token :=
  { t with rank := 0 }

variable {lists : List (List Token)} {input : String} {t u : Token}

theorem unranked_eq_iff :
    t.unranked = u.unranked ↔
      t.terminal = u.terminal ∧ t.position = u.position ∧ t.stop = u.stop ∧ t.value = u.value := by
  simp [unranked]

theorem index_eq_of_unranked (h : t.unranked = u.unranked) : t.index = u.index :=
  congrArg (·.index) (unranked_eq_iff.mp h).2.1

theorem foldr_merge_perm : (lists.foldr (merge []) []).Perm lists.flatten := by
  induction lists
  case nil => rfl
  case cons ts lists hi =>
    rw [List.foldr_cons, merge_eq, List.flatten_cons]
    exact (List.merge_perm_append _).trans (hi.append_left ts)

variable [RegexEngine] {terminals terminals' : List Terminal}

theorem map_unranked_ofInput {terminal : Terminal} {rank : Nat} :
    (ofInput input terminal rank).map unranked = ofInput input terminal 0 := by
  simp [ofInput, ofTerminal, Function.comp_def, unranked, ofMatch]

theorem map_unranked_tokenize_perm :
    ((tokenize terminals input).map unranked).Perm (terminals.flatMap (ofInput input · 0)) := by
  refine (foldr_merge_perm.map unranked).trans (.of_eq ?_)
  have hz : terminals.zipIdx.map (fun p => (ofInput input p.1 p.2).map unranked) =
      terminals.map (ofInput input · 0) := by
    conv_rhs => rw [← List.zipIdx_map_fst 0 terminals, List.map_map]
    simp only [map_unranked_ofInput, Function.comp_def]
  rw [List.map_flatten, List.map_map, List.flatMap_def, ← hz]
  rfl

theorem unranked_perm (h : terminals.Perm terminals') (input : String) :
    ((tokenize terminals input).map unranked).Perm ((tokenize terminals' input).map unranked) :=
  map_unranked_tokenize_perm.trans ((h.flatMap_right _).trans map_unranked_tokenize_perm.symm)

theorem map_position_eq (h : terminals.Perm terminals') :
    (tokenize terminals input).map (·.position) = (tokenize terminals' input).map (·.position) := by
  have hp := (unranked_perm h input).map (·.position)
  rw [List.map_map, List.map_map] at hp
  have hle (terminals : List Terminal) :
      ((tokenize terminals input).map (·.position)).Pairwise (·.index ≤ ·.index) :=
    List.pairwise_map.mpr (tokenize_pairwise.imp Before.index_le)
  refine List.Perm.eq_of_pairwise (fun p q hp hq hpq hqp => ?_) (hle terminals) (hle terminals') hp
  obtain ⟨t, ht, rfl⟩ := List.mem_map.mp hp
  obtain ⟨u, hu, rfl⟩ := List.mem_map.mp hq
  rw [(tokenize_standsIn ht).position, (tokenize_standsIn hu).position]
  exact congrArg _ (le_antisymm hpq hqp)

theorem name_of_mem_tokenize (h : t ∈ tokenize terminals input) :
    (terminals.map (·.name))[t.rank]? = some t.terminal := by
  obtain ⟨rank, terminal, hr, ht⟩ := mem_tokenize_iff.mp h
  rw [List.getElem?_map, ofInput_rank ht, hr]
  simp only [ofInput, ofTerminal, List.mem_map] at ht
  obtain ⟨_, _, rfl⟩ := ht
  rfl

theorem rank_eq_of_terminal (hn : (terminals.map (·.name)).Nodup)
    (ht : t ∈ tokenize terminals input) (hu : u ∈ tokenize terminals input)
    (h : t.terminal = u.terminal) : t.rank = u.rank := by
  have ht := name_of_mem_tokenize ht
  have hu := name_of_mem_tokenize hu
  refine (List.getElem?_inj (List.getElem?_eq_some_iff.mp ht).1 hn).mp ?_
  rw [ht, hu, h]

end PegParser.Token
