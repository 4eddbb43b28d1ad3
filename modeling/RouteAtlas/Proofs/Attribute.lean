import Mathlib.Data.List.Basic
import RouteAtlas.Proofs.Folding.Completeness

/-!
# RouteAtlas.Proofs.Attribute — blank entries of attributes

An entry that folds to blanks is read as it is written, and it is written as blanks or not before
its quotes are taken off.  So there is one way to a blank entry that is not empty: quotes around
blanks.  The main statement says that an attribute has such an entry exactly where an element of it
is written so.
-/

namespace RouteAtlas

/-! ## Texts between quotes -/

/-- The text is a pair of equal quotes around these characters. -/
def IsQuoted (s : String) (cs : List Char) : Prop :=
  ∃ q, (q = '"' ∨ q = '\'') ∧ s.toList = q :: (cs ++ [q])

/-- The text is a pair of equal quotes around at least one blank and nothing else. -/
def QuotesBlanks (s : String) : Prop :=
  ∃ blanks, IsQuoted s blanks ∧ blanks ≠ [] ∧ ∀ c ∈ blanks, Text.isBlankChar c = true

section Unquote

variable {s : String} {cs : List Char}

theorem toList_unquote_of_isQuoted (h : IsQuoted s cs) : (unquote s).toList = cs := by
  obtain ⟨q, hq, hs⟩ := h
  unfold unquote
  split
  next h => simp [h] at hs
  next h => simp [h] at hs
  next x xs _ h =>
    rw [h] at hs
    obtain ⟨rfl, rfl⟩ := List.cons_eq_cons.1 hs
    rw [if_pos (by simpa using hq), String.toList_ofList, List.dropLast_concat]

theorem unquote_of_not_isQuoted (h : ¬ ∃ cs, IsQuoted s cs) : unquote s = s := by
  unfold unquote
  split
  · rfl
  · rfl
  next q cs _ hs =>
    split
    next hquoted =>
      obtain ⟨hq, hlast⟩ : (q = '"' ∨ q = '\'') ∧ cs.getLast? = some q := by simpa using hquoted
      obtain ⟨inner, rfl⟩ := List.getLast?_eq_some_iff.1 hlast
      exact absurd ⟨inner, q, hq, hs⟩ h
    · rfl

theorem not_isBlank_of_isQuoted (h : IsQuoted s cs) : Text.isBlank s = false := by
  obtain ⟨q, hq, hs⟩ := h
  rw [Text.isBlank, hs]
  rcases hq with rfl | rfl
  · rfl
  · rfl

/-- Taking off quotes leaves a text blank but not empty exactly where it stood around blanks. -/
theorem unquote_isBlank_iff (hs : Text.isBlank s = false) :
    unquote s ≠ "" ∧ Text.isBlank (unquote s) = true ↔ QuotesBlanks s := by
  constructor
  · rintro ⟨hne, hblank⟩
    by_cases h : ∃ cs, IsQuoted s cs
    · obtain ⟨cs, hquoted⟩ := h
      have hcs := toList_unquote_of_isQuoted hquoted
      refine ⟨cs, hquoted, ?_, ?_⟩
      · rintro rfl
        exact hne (String.toList_eq_nil_iff.1 hcs)
      · rw [Text.isBlank, hcs, List.all_eq_true] at hblank
        exact hblank
    · rw [unquote_of_not_isQuoted h, hs] at hblank
      cases hblank
  · rintro ⟨blanks, hquoted, hne, hblanks⟩
    have hcs := toList_unquote_of_isQuoted hquoted
    constructor
    · intro hempty
      rw [hempty] at hcs
      exact hne hcs.symm
    · rw [Text.isBlank, hcs, List.all_eq_true]
      exact hblanks

end Unquote

namespace Expr

variable {tree : SyntaxTree}

theorem entryText_unresolved (tree : SyntaxTree) {name : String}
    (h : Text.isBlank (unquote name) = false) :
    (reference name none).entryText tree = unquote name := by
  have hfold : (reference name none).fold tree = "" := by simp [fold, foldIn, Piece.text]
  exact entryText_of_isBlank (by rw [hfold]; rfl) h

theorem entryText_eq_empty_or_not_isBlank_iff {e : Expr} :
    e.entryText tree = "" ∨ Text.isBlank (e.entryText tree) = false ↔
      (Text.isBlank (e.fold tree) = true → ¬ QuotesBlanks e.sourceText) := by
  cases hfold : Text.isBlank (e.fold tree) with
  | false => simp [entryText_of_not_isBlank hfold, hfold]
  | true =>
    cases hwritten : Text.isBlank e.sourceText with
    | true =>
      have hempty : e.entryText tree = "" := by simp [entryText, hfold, hwritten]
      have hplain : ¬ QuotesBlanks e.sourceText := by
        rintro ⟨blanks, hquoted, -⟩
        rw [not_isBlank_of_isQuoted hquoted] at hwritten
        cases hwritten
      simp [hempty, hplain]
    | false =>
      have hentry : e.entryText tree = unquote e.sourceText := by
        simp [entryText, hfold, hwritten]
      rw [hentry, ← unquote_isBlank_iff hwritten]
      simp [imp_iff_not_or]

end Expr

namespace Annotation

/-- An array is read element by element. -/
theorem read_of_array {tree : SyntaxTree} {a : Annotation} {name : String} {es : List Expr}
    (h : a.attribute? name = some (.array es)) :
    a.read tree name = es.map (·.entryText tree) := by
  rw [read, entries, h]

/-- **Entries are empty or not blank** exactly where no element of the attribute that folds to
blanks is written as blanks between quotes. -/
theorem read_empty_or_not_isBlank_iff (tree : SyntaxTree) (a : Annotation) (name : String) :
    (∀ entry ∈ a.read tree name, entry = "" ∨ Text.isBlank entry = false) ↔
      ∀ e ∈ a.entries name, Text.isBlank (e.fold tree) = true → ¬ QuotesBlanks e.sourceText := by
  rw [read, List.forall_mem_map]
  exact forall₂_congr fun e _ => Expr.entryText_eq_empty_or_not_isBlank_iff

/-- A string literal of two blanks is read as the two blanks. -/
theorem read_quoted_blanks :
    (getMapping (.string "  ")).entries "path" = [.string "  "] ∧
      (getMapping (.string "  ")).read {} "path" = ["  "] ∧
      ¬ ∀ entry ∈ (getMapping (.string "  ")).read {} "path",
        entry = "" ∨ Text.isBlank entry = false := by
  have hentries : (getMapping (.string "  ")).entries "path" = [.string "  "] := rfl
  have hread : (getMapping (.string "  ")).read {} "path" = ["  "] := by
    have hfold : (Expr.string "  ").fold {} = "  " := Expr.foldIn_string {} [] "  "
    have hentry : (Expr.string "  ").entryText {} = "  " := by
      rw [Expr.entryText, hfold]
      decide
    rw [read, hentries, List.map_singleton, hentry]
  refine ⟨hentries, hread, ?_⟩
  rw [hread]
  decide

end Annotation

end RouteAtlas
