import RouteAtlas.Load
import RouteAtlas.Proofs.Text.Segments

/-!
# RouteAtlas.Proofs.Load — which files are loaded

A tree or settings are loaded from a file exactly where the file has a text and the reader for the
ending of its name accepts that (`SyntaxTree.load_eq_ok_iff`, `ScanConfig.load_eq_ok_iff`).  The
ending stands behind the last dot of the last part of a path, and something stands before that dot.
-/

namespace RouteAtlas

variable {file : String}

/-! ## The endings of names -/

namespace Medium

/-- The last part of the path is `extension` behind a dot behind something. -/
def HasExtension (file extension : String) : Prop :=
  (∀ c ∈ extension.toList, isDot c = false) ∧
    ∃ stem, stem ≠ [] ∧
      Text.IsLastSegment (· == '/') file.toList (stem ++ '.' :: extension.toList)

/-- The ending of the file's name says how a tree in it is written. -/
inductive OfTree (file : String) : Medium → Prop
  | yaml : HasExtension file "yaml" ∨ HasExtension file "yml" → OfTree file yaml
  | json : ¬ HasExtension file "yaml" → ¬ HasExtension file "yml" → OfTree file json

/-- The ending of the file's name says how settings in it are written. -/
inductive OfConfig (file : String) : Medium → Prop
  | yaml : HasExtension file "yaml" ∨ HasExtension file "yml" → OfConfig file yaml
  | toml : HasExtension file "toml" → OfConfig file toml
  | json : ¬ HasExtension file "yaml" → ¬ HasExtension file "yml" → ¬ HasExtension file "toml" →
    OfConfig file json

variable {medium : Medium} {extension : String}

theorem extension?_eq_some_iff :
    extension? file = some extension ↔ HasExtension file extension := by
  rw [extension?]
  constructor
  · intro h
    split at h
    next c cs after hcut =>
      cases h
      obtain ⟨dot, hdot, hname⟩ := Text.eq_append_of_cutLast? hcut
      obtain rfl : dot = '.' := isDot_iff.1 hdot
      have hfree := Text.sep_eq_false_of_cutLast? hcut
      rw [HasExtension, String.toList_ofList]
      exact ⟨hfree, c :: cs, List.cons_ne_nil c cs, Text.afterLast_eq_iff.1 hname⟩
    · cases h
    · cases h
  · rintro ⟨hfree, stem, hstem, hlast⟩
    obtain ⟨c, cs, rfl⟩ := List.exists_cons_of_ne_nil hstem
    rw [Text.afterLast_eq_iff.2 hlast, Text.cutLast?_append rfl _ hfree]
    simp

theorem ofTreeFile_eq_iff : ofTreeFile file = medium ↔ OfTree file medium := by
  constructor
  · rintro rfl
    unfold ofTreeFile
    split
    next h => exact .yaml (.inl (extension?_eq_some_iff.1 h))
    next h => exact .yaml (.inr (extension?_eq_some_iff.1 h))
    next hyaml hyml =>
      exact .json (fun h => hyaml (extension?_eq_some_iff.2 h))
        fun h => hyml (extension?_eq_some_iff.2 h)
  · intro h
    cases h with
    | yaml h => rcases h with h | h <;> simp [ofTreeFile, extension?_eq_some_iff.2 h]
    | json hyaml hyml =>
      rw [← extension?_eq_some_iff] at hyaml hyml
      simp [ofTreeFile]

theorem ofConfigFile_eq_iff : ofConfigFile file = medium ↔ OfConfig file medium := by
  constructor
  · rintro rfl
    unfold ofConfigFile
    split
    next h => exact .yaml (.inl (extension?_eq_some_iff.1 h))
    next h => exact .yaml (.inr (extension?_eq_some_iff.1 h))
    next h => exact .toml (extension?_eq_some_iff.1 h)
    next hyaml hyml htoml =>
      exact .json (fun h => hyaml (extension?_eq_some_iff.2 h))
        (fun h => hyml (extension?_eq_some_iff.2 h)) fun h => htoml (extension?_eq_some_iff.2 h)
  · intro h
    cases h with
    | yaml h => rcases h with h | h <;> simp [ofConfigFile, extension?_eq_some_iff.2 h]
    | toml h => simp [ofConfigFile, extension?_eq_some_iff.2 h]
    | json hyaml hyml htoml =>
      rw [← extension?_eq_some_iff] at hyaml hyml htoml
      simp [ofConfigFile]

end Medium

/-! ## What files hold -/

namespace Readers

variable (readers : Readers) (content : String → Option String) (file : String)

/-- The file holds the tree. -/
def HoldsTree (tree : SyntaxTree) : Prop :=
  ∃ medium text, Medium.OfTree file medium ∧ content file = some text ∧
    readers.tree medium text = .ok tree

/-- The file holds the settings. -/
def HoldsConfig (config : ScanConfig) : Prop :=
  ∃ medium text, Medium.OfConfig file medium ∧ content file = some text ∧
    readers.config medium text = .ok config

end Readers

variable {readers : Readers} {content : String → Option String}

theorem SyntaxTree.load_eq_ok_iff {tree : SyntaxTree} :
    SyntaxTree.load readers file (content file) = .ok tree ↔
      readers.HoldsTree content file tree := by
  unfold load Readers.HoldsTree
  simp only [← Medium.ofTreeFile_eq_iff]
  cases content file with
  | none => simp
  | some text => cases htree : readers.tree (.ofTreeFile file) text <;> simp [htree]

theorem ScanConfig.load_eq_ok_iff {config : ScanConfig} :
    ScanConfig.load readers file (content file) = .ok config ↔
      readers.HoldsConfig content file config := by
  unfold load Readers.HoldsConfig
  simp only [← Medium.ofConfigFile_eq_iff]
  cases content file with
  | none => simp
  | some text => cases hconfig : readers.config (.ofConfigFile file) text <;> simp [hconfig]

end RouteAtlas
