import RouteAtlas.Proofs.Path.JoinedText
import RouteAtlas.Proofs.Path.Variables
import RouteAtlas.Proofs.Text.Trimming

/-!
# RouteAtlas.Proofs.Path.Associativity — three paths joined

A path stands as its `stem` before a seam, and without its first slashes behind one.  What a joined
path is at a further seam depends on whether its parts hold anything but slashes.  The main statement
says that three paths may be joined in either order: the variables and their types are always the
same, and so are the texts, unless the last path is empty and the one in the middle holds nothing but
slashes, which then end the path or not.
-/

namespace RouteAtlas

namespace Path

variable {a b c cs ss : List Char}

/-! ## Slashes at the ends -/

theorem not_slashes_iff : ¬ Slashes cs ↔ ∃ c ∈ cs, c ≠ '/' := by
  simp [Slashes]

theorem ne_nil_of_not_slashes (h : ¬ Slashes cs) : cs ≠ [] := by
  rintro rfl
  exact h slashes_nil

theorem trimSlashesStart_of_slashes (h : Slashes cs) : trimSlashesStart cs = [] :=
  List.dropWhile_eq_nil_iff.2 h.beq_slash

theorem trimSlashesEnd_of_slashes (h : Slashes cs) : trimSlashesEnd cs = [] :=
  List.rdropWhile_eq_nil_iff.2 h.beq_slash

theorem trimSlashesStart_idem (cs : List Char) :
    trimSlashesStart (trimSlashesStart cs) = trimSlashesStart cs :=
  List.dropWhile_idempotent _ cs

theorem trimSlashesEnd_idem (cs : List Char) :
    trimSlashesEnd (trimSlashesEnd cs) = trimSlashesEnd cs :=
  List.rdropWhile_idempotent _ cs

theorem not_slashes_trimSlashesStart (h : ¬ Slashes cs) : ¬ Slashes (trimSlashesStart cs) := by
  intro hs
  have hnil := trimSlashesStart_of_slashes hs
  rw [trimSlashesStart_idem] at hnil
  exact trimSlashesStart_ne_nil (not_slashes_iff.1 h) hnil

theorem not_slashes_trimSlashesEnd (h : ¬ Slashes cs) : ¬ Slashes (trimSlashesEnd cs) := by
  intro hs
  have hnil := trimSlashesEnd_of_slashes hs
  rw [trimSlashesEnd_idem] at hnil
  exact trimSlashesEnd_ne_nil (not_slashes_iff.1 h) hnil

/-- A path that holds anything but slashes keeps what stands behind it. -/
theorem trimSlashesStart_append_of_not_slashes (h : ¬ Slashes cs) (after : List Char) :
    trimSlashesStart (cs ++ after) = trimSlashesStart cs ++ after := by
  have hne := trimSlashesStart_ne_nil (not_slashes_iff.1 h)
  exact List.dropWhile_append.trans (if_neg (hne ∘ List.isEmpty_iff.1))

/-- A path that holds anything but slashes keeps what stands before it. -/
theorem trimSlashesEnd_append_of_not_slashes (h : ¬ Slashes cs) (before : List Char) :
    trimSlashesEnd (before ++ cs) = before ++ trimSlashesEnd cs := by
  obtain ⟨c, hc, hne⟩ := not_slashes_iff.1 h
  exact Text.rdropWhile_append_of_exists ⟨c, hc, by simpa using hne⟩ before

/-- The path without the slashes at either end. -/
def trimSlashes (cs : List Char) : List Char := trimSlashesEnd (trimSlashesStart cs)

theorem trimSlashesStart_trimSlashesEnd (cs : List Char) :
    trimSlashesStart (trimSlashesEnd cs) = trimSlashes cs :=
  Text.dropWhile_rdropWhile (· == '/') cs

/-! ## Paths before a seam -/

/-- A path as it stands before a seam: behind a slash and without its last slashes, or nothing where
it holds slashes only. -/
def stem (cs : List Char) : List Char :=
  if (trimSlashesEnd cs).isEmpty then [] else withLeadingSlash (trimSlashesEnd cs)

theorem stem_of_slashes (h : Slashes cs) : stem cs = [] := by
  rw [stem, trimSlashesEnd_of_slashes h]
  rfl

theorem stem_of_not_slashes (h : ¬ Slashes cs) :
    stem cs = withLeadingSlash (trimSlashesEnd cs) :=
  if_neg (by simpa using trimSlashesEnd_ne_nil (not_slashes_iff.1 h))

theorem head?_stem (h : ¬ Slashes cs) : (stem cs).head? = some '/' := by
  rw [stem_of_not_slashes h]
  exact head?_withLeadingSlash _

theorem stem_eq_nil_iff : stem cs = [] ↔ Slashes cs := by
  constructor
  · intro hnil
    by_contra h
    have hhead := head?_stem h
    rw [hnil] at hhead
    cases hhead
  · exact stem_of_slashes

theorem stem_append_slashes (h : Slashes ss) (cs : List Char) : stem (cs ++ ss) = stem cs := by
  rw [stem, trimSlashesEnd_append h, stem]

theorem trimSlashesEnd_stem (cs : List Char) : trimSlashesEnd (stem cs) = stem cs := by
  by_cases h : Slashes cs
  · rw [stem_of_slashes h]
    rfl
  · obtain ⟨lead, -, heq⟩ := exists_withLeadingSlash_eq (trimSlashesEnd cs)
    rw [stem_of_not_slashes h, heq,
      trimSlashesEnd_append_of_not_slashes (not_slashes_trimSlashesEnd h), trimSlashesEnd_idem]

theorem trimSlashesStart_stem (cs : List Char) : trimSlashesStart (stem cs) = trimSlashes cs := by
  by_cases h : Slashes cs
  · rw [stem_of_slashes h, trimSlashes, trimSlashesStart_of_slashes h]
    rfl
  · obtain ⟨lead, hlead, heq⟩ := exists_withLeadingSlash_eq (trimSlashesEnd cs)
    rw [stem_of_not_slashes h, heq, trimSlashesStart_append hlead, trimSlashesStart_trimSlashesEnd]

/-- A path that starts with a slash needs no other one. -/
theorem stem_of_head? (h : (trimSlashesEnd cs).head? = some '/') : stem cs = trimSlashesEnd cs := by
  have hne : trimSlashesEnd cs ≠ [] := by
    intro hnil
    rw [hnil] at h
    cases h
  rw [stem, if_neg (by simpa using hne), withLeadingSlash, if_pos h]

theorem stem_stem (cs : List Char) : stem (stem cs) = stem cs := by
  by_cases h : Slashes cs
  · rw [stem_of_slashes h]
    rfl
  · have hhead : (trimSlashesEnd (stem cs)).head? = some '/' := by
      rw [trimSlashesEnd_stem, head?_stem h]
    rw [stem_of_head? hhead, trimSlashesEnd_stem]

theorem not_slashes_stem (h : ¬ Slashes cs) : ¬ Slashes (stem cs) := by
  intro hs
  have hnil := stem_of_slashes hs
  rw [stem_stem, stem_eq_nil_iff] at hnil
  exact h hnil

/-! ## Two paths -/

/-- Behind its slash the method path follows the stem of the class path. -/
theorem joinText_eq_stem_append (a : List Char) (hb : b ≠ []) :
    joinText a b = stem a ++ '/' :: trimSlashesStart b := by
  by_cases ha : a = []
  · subst ha
    exact joinText_nil_left hb
  · exact joinText_of_ne_nil ha hb

theorem joinText_nil_of_not_slashes (h : ¬ Slashes a) : joinText a [] = stem a := by
  rw [joinText_nil_right (ne_nil_of_not_slashes h), stem_of_not_slashes h]
  exact if_neg (by simpa using trimSlashesEnd_ne_nil (not_slashes_iff.1 h))

theorem joinText_nil_of_slashes (h : Slashes a) (hne : a ≠ []) : joinText a [] = ['/'] := by
  rw [joinText_nil_right hne, trimSlashesEnd_of_slashes h]
  rfl

/-- Slashes at the end of a joined path are lost at the next seam. -/
theorem stem_joinText_of_slashes (a : List Char) (hb : Slashes b) :
    stem (joinText a b) = stem a := by
  by_cases hne : b = []
  · subst hne
    by_cases ha : Slashes a
    · by_cases hnil : a = []
      · subst hnil
        rfl
      · rw [joinText_nil_of_slashes ha hnil, stem_of_slashes ha, stem_of_slashes slashes_singleton]
    · rw [joinText_nil_of_not_slashes ha, stem_stem]
  · rw [joinText_eq_stem_append a hne, trimSlashesStart_of_slashes hb,
      stem_append_slashes slashes_singleton, stem_stem]

theorem stem_joinText_of_not_slashes (a : List Char) (hb : ¬ Slashes b) :
    stem (joinText a b) = stem a ++ '/' :: trimSlashes b := by
  have hend : trimSlashesEnd (joinText a b) = stem a ++ '/' :: trimSlashes b := by
    rw [joinText_eq_stem_append a (ne_nil_of_not_slashes hb), List.append_cons,
      trimSlashesEnd_append_of_not_slashes (not_slashes_trimSlashesStart hb), ← List.append_cons]
    rfl
  have hhead : (trimSlashesEnd (joinText a b)).head? = some '/' := by
    rw [hend]
    by_cases ha : Slashes a
    · rw [stem_of_slashes ha]
      rfl
    · rw [List.head?_append, head?_stem ha]
      rfl
  rw [stem_of_head? hhead, hend]

/-- Slashes at the start of a joined path are lost behind a seam. -/
theorem trimSlashesStart_joinText_of_slashes (hb : Slashes b) (hc : c ≠ []) :
    trimSlashesStart (joinText b c) = trimSlashesStart c := by
  rw [joinText_eq_stem_append b hc, stem_of_slashes hb, List.nil_append, ← List.singleton_append,
    trimSlashesStart_append slashes_singleton, trimSlashesStart_idem]

theorem trimSlashesStart_joinText_of_not_slashes (hb : ¬ Slashes b) (hc : c ≠ []) :
    trimSlashesStart (joinText b c) = trimSlashes b ++ '/' :: trimSlashesStart c := by
  rw [joinText_eq_stem_append b hc, trimSlashesStart_append_of_not_slashes (not_slashes_stem hb),
    trimSlashesStart_stem]

/-! ## Three paths -/

theorem joinText_ne_nil (h : a ≠ [] ∨ b ≠ []) : joinText a b ≠ [] := by
  intro hnil
  obtain ⟨ha, hb⟩ := joinText_eq_nil_iff.1 hnil
  exact h.elim (absurd ha) (absurd hb)

/-- A path that is not empty has just one slash before it, whatever it is joined to. -/
theorem joinText_assoc_of_ne_nil (a b : List Char) (hc : c ≠ []) :
    joinText (joinText a b) c = joinText a (joinText b c) := by
  rw [joinText_eq_stem_append _ hc, joinText_eq_stem_append a (joinText_ne_nil (.inr hc))]
  by_cases hb : Slashes b
  · rw [stem_joinText_of_slashes a hb, trimSlashesStart_joinText_of_slashes hb hc]
  · rw [stem_joinText_of_not_slashes a hb, trimSlashesStart_joinText_of_not_slashes hb hc,
      List.append_assoc]
    rfl

theorem joinText_assoc_nil_of_not_slashes (a : List Char) (hb : ¬ Slashes b) :
    joinText (joinText a b) [] = joinText a (joinText b []) := by
  have hjoined : ¬ Slashes (joinText a b) := by
    intro hs
    have hnil := stem_of_slashes hs
    rw [stem_joinText_of_not_slashes a hb] at hnil
    simp at hnil
  have hne : stem b ≠ [] := fun hnil => hb (stem_eq_nil_iff.1 hnil)
  rw [joinText_nil_of_not_slashes hjoined, joinText_nil_of_not_slashes hb,
    stem_joinText_of_not_slashes a hb, joinText_eq_stem_append a hne, trimSlashesStart_stem]

theorem joinText_nil_nil (a : List Char) : joinText (joinText a []) [] = joinText a [] := by
  by_cases ha : Slashes a
  · by_cases hne : a = []
    · subst hne
      rfl
    · rw [joinText_nil_of_slashes ha hne]
      rfl
  · rw [joinText_nil_of_not_slashes ha, joinText_nil_of_not_slashes (not_slashes_stem ha),
      stem_stem]

/-- Slashes in the middle stay if they are joined to the empty path first, and are cut off behind a
class path otherwise. -/
theorem joinText_assoc_nil_iff_of_slashes (a : List Char) (hb : Slashes b) (hne : b ≠ []) :
    joinText (joinText a b) [] = joinText a (joinText b []) ↔ Slashes a := by
  have hright : joinText a (joinText b []) = stem a ++ ['/'] := by
    rw [joinText_nil_of_slashes hb hne, joinText_eq_stem_append a (by simp),
      trimSlashesStart_of_slashes slashes_singleton]
  have hjoined : joinText a b = stem a ++ ['/'] := by
    rw [joinText_eq_stem_append a hne, trimSlashesStart_of_slashes hb]
  rw [hright]
  constructor
  · intro heq
    by_contra ha
    have hleft : joinText (joinText a b) [] = stem a := by
      rw [joinText_nil_of_not_slashes, stem_joinText_of_slashes a hb]
      rw [hjoined]
      intro hs
      exact not_slashes_stem ha fun c hc => hs c (List.mem_append_left _ hc)
    rw [hleft] at heq
    simp at heq
  · intro ha
    rw [hjoined, stem_of_slashes ha]
    rfl

/-- **Joining texts is associative** but for one corner: slashes before an empty path. -/
theorem joinText_assoc_iff (a b c : List Char) :
    joinText (joinText a b) c = joinText a (joinText b c) ↔
      ¬ (c = [] ∧ b ≠ [] ∧ Slashes b ∧ ∃ x ∈ a, x ≠ '/') := by
  rw [← not_slashes_iff]
  by_cases hc : c = []
  · subst hc
    by_cases hb : Slashes b
    · by_cases hne : b = []
      · subst hne
        simp [joinText_nil_nil, joinText_eq_nil_iff.2 ⟨rfl, rfl⟩]
      · rw [joinText_assoc_nil_iff_of_slashes a hb hne]
        simp [hb, hne]
    · simp [joinText_assoc_nil_of_not_slashes a hb, hb]
  · simp [joinText_assoc_of_ne_nil a b hc, hc]

end Path

namespace PathFragment

variable {a b c : PathFragment}

theorem names_join_assoc (hb : b.names.Nodup) (hc : c.names.Nodup) :
    ((a.join b).join c).names = (a.join (b.join c)).names := by
  rw [names_join hc, names_join hb, names_join (nodup_names_join hb hc), names_join hc,
    List.filter_append, List.filter_filter, List.append_assoc]
  congr 2
  apply List.filter_congr
  intro name _
  simp only [List.mem_append, List.mem_filter]
  by_cases ha : name ∈ a.names
  · simp [ha]
  · simp [ha]

/-- Whichever two of three paths are joined first, the last one that has a variable decides its
type. -/
theorem typeOf?_join_assoc (hb : b.names.Nodup) (hc : c.names.Nodup) (name : String) :
    ((a.join b).join c).typeOf? name = (a.join (b.join c)).typeOf? name := by
  rw [typeOf?_join hc, typeOf?_join hb, typeOf?_join (nodup_names_join hb hc), typeOf?_join hc,
    names_join hc]
  by_cases hnamec : name ∈ c.names
  · by_cases hnameb : name ∈ b.names
    · simp [hnamec, hnameb]
    · simp [hnamec, hnameb]
  · simp [hnamec]

theorem vars_join_assoc (ha : a.names.Nodup) (hb : b.names.Nodup) (hc : c.names.Nodup) :
    ((a.join b).join c).vars = (a.join (b.join c)).vars := by
  rw [vars_eq_map_names (nodup_names_join (nodup_names_join ha hb) hc),
    vars_eq_map_names (nodup_names_join ha (nodup_names_join hb hc)), names_join_assoc hb hc]
  apply List.map_congr_left
  intro name _
  rw [typeOf?_join_assoc hb hc]

/-- **Three paths may be joined in either order.**  The variables, their order and their types are
always the same.  The texts are the same in all cases but one: the last text is empty, the one in the
middle holds slashes and nothing else, and the first one holds anything else. -/
theorem join_assoc_iff (ha : a.names.Nodup) (hb : b.names.Nodup) (hc : c.names.Nodup) :
    ((a.join b).join c).vars = (a.join (b.join c)).vars ∧
      (((a.join b).join c).text = (a.join (b.join c)).text ↔
        ¬ (c.text = "" ∧ b.text ≠ "" ∧ Path.Slashes b.text.toList ∧
          ∃ x ∈ a.text.toList, x ≠ '/')) := by
  refine ⟨vars_join_assoc ha hb hc, ?_⟩
  have htexts := Path.joinText_assoc_iff a.text.toList b.text.toList c.text.toList
  rw [← String.toList_inj, toList_text_join, toList_text_join, toList_text_join, toList_text_join,
    htexts, String.toList_eq_nil_iff, ne_eq, String.toList_eq_nil_iff]

/-- Behind `/orgs` the slashes in the middle are cut off or kept; the type of `id` is lost either
way. -/
theorem join_assoc_iff_slashed :
    let a : PathFragment := ⟨"/orgs", [⟨"id", some "Long"⟩, ⟨"org", none⟩]⟩
    let b : PathFragment := ⟨"//", [⟨"id", none⟩]⟩
    let c : PathFragment := ⟨"", [⟨"org", some "String"⟩]⟩
    a.names.Nodup ∧ b.names.Nodup ∧ c.names.Nodup ∧
      ((a.join b).join c).vars = (a.join (b.join c)).vars ∧
      ((a.join b).join c).text ≠ (a.join (b.join c)).text := by
  intro a b c
  have ha : a.names.Nodup := by decide
  have hb : b.names.Nodup := by decide
  have hc : c.names.Nodup := by decide
  obtain ⟨hvars, htexts⟩ := join_assoc_iff ha hb hc
  refine ⟨ha, hb, hc, hvars, fun heq => ?_⟩
  have hslashes : Path.Slashes b.text.toList := by simp [b, Path.Slashes]
  exact htexts.1 heq ⟨rfl, by decide, hslashes, 'o', by decide, by decide⟩

end PathFragment

end RouteAtlas
