import RouteAtlas.Mapping.Kind

/-!
# RouteAtlas.Proofs.Mapping.Kind — spellings of a kind

A kind is written with its package, or without it and then in any case of letters, with or without
the ending that the names of all kinds have.  No text is written so for two kinds, and the kind that
a text is read as is the one that it is written for (`parse?_eq_some_iff`).
-/

namespace RouteAtlas.MappingKind

/-- The text is the qualified name of the kind or, in some case of letters, its simple name or what
stands before `Mapping` in that. -/
inductive Spells (k : MappingKind) (s : String) : Prop where
  | qualified : s = k.qualifiedName → Spells k s
  | simple : sameLetters k.simpleName s = true → Spells k s
  | short (name : String) : k.simpleName = name ++ "Mapping" → sameLetters name s = true →
    Spells k s

theorem mem_all (k : MappingKind) : k ∈ all := by
  cases k <;> decide

theorem simpleName_eq_append (k : MappingKind) : k.simpleName = k.shortName ++ "Mapping" := by
  cases k <;> decide

theorem eq_shortName {k : MappingKind} {name : String} (h : k.simpleName = name ++ "Mapping") :
    name = k.shortName := by
  rw [simpleName_eq_append] at h
  exact ((String.append_left_inj _).1 h).symm

theorem sameLetters_iff {s t : String} :
    sameLetters s t = true ↔ s.toList.map Char.toLower = t.toList.map Char.toLower :=
  beq_iff_eq

/-- The texts that a kind is written as, up to the case of letters. -/
def names (k : MappingKind) : List String := [k.qualifiedName, k.simpleName, k.shortName]

theorem Spells.exists_name {k : MappingKind} {s : String} (h : k.Spells s) :
    ∃ name ∈ k.names, sameLetters name s = true := by
  cases h with
  | qualified h => exact ⟨k.qualifiedName, by simp [names], sameLetters_iff.2 (by rw [h])⟩
  | simple h => exact ⟨k.simpleName, by simp [names], h⟩
  | short name hname h => exact ⟨k.shortName, by simp [names], eq_shortName hname ▸ h⟩

/-- The names of two kinds differ in more than the case of letters. -/
theorem eq_of_sameLetters_names : ∀ k ∈ all, ∀ k' ∈ all, ∀ name ∈ k.names, ∀ name' ∈ k'.names,
    sameLetters name name' = true → k = k' := by
  decide +kernel

/-- No text denotes two kinds. -/
theorem Spells.kind_eq {k k' : MappingKind} {s : String} (h : k.Spells s) (h' : k'.Spells s) :
    k = k' := by
  obtain ⟨name, hname, hs⟩ := h.exists_name
  obtain ⟨name', hname', hs'⟩ := h'.exists_name
  refine eq_of_sameLetters_names k k.mem_all k' k'.mem_all name hname name' hname' ?_
  exact sameLetters_iff.2 ((sameLetters_iff.1 hs).trans (sameLetters_iff.1 hs').symm)

/-! ## What is read -/

theorem spells_of_parse? {s : String} {k : MappingKind} (h : parse? s = some k) : k.Spells s := by
  rw [parse?, Option.or_eq_some_iff] at h
  rcases h with h | ⟨-, h⟩
  · have hname : k.qualifiedName = s := by simpa using List.find?_some h
    exact .qualified hname.symm
  · have hname := List.find?_some h
    rcases Bool.or_eq_true_iff.1 hname with hsimple | hshort
    · exact .simple hsimple
    · exact .short k.shortName k.simpleName_eq_append hshort

/-- The list of kinds is searched in order, so this finds some kind, and `Spells.kind_eq` which. -/
theorem exists_parse?_of_spells {s : String} {k : MappingKind} (h : k.Spells s) :
    ∃ k', parse? s = some k' := by
  refine Option.isSome_iff_exists.1 ?_
  rw [parse?, Option.isSome_or, Bool.or_eq_true_iff, ofQualifiedName?, List.find?_isSome,
    List.find?_isSome]
  cases h with
  | qualified h => exact .inl ⟨k, k.mem_all, by simp [h]⟩
  | simple h => exact .inr ⟨k, k.mem_all, by simp [h]⟩
  | short name hname h => exact .inr ⟨k, k.mem_all, by simp [← eq_shortName hname, h]⟩

/-- A text is read as the kind that it is written for. -/
theorem parse?_eq_some_iff {s : String} {k : MappingKind} : parse? s = some k ↔ k.Spells s := by
  refine ⟨spells_of_parse?, fun h => ?_⟩
  obtain ⟨k', hk'⟩ := exists_parse?_of_spells h
  rw [hk', (spells_of_parse? hk').kind_eq h]

theorem parse?_eq_none_iff {s : String} : parse? s = none ↔ ¬ ∃ k : MappingKind, k.Spells s := by
  simp only [← parse?_eq_some_iff, ← Option.isSome_iff_exists, Option.not_isSome_iff_eq_none]

end RouteAtlas.MappingKind
