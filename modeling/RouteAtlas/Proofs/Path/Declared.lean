import Mathlib
import RouteAtlas.Proofs.FirstAppearance
import RouteAtlas.Proofs.Path.Groups

/-!
# RouteAtlas.Proofs.Path.Declared — the variables that the groups of a path declare

A group declares the name that stands in it before its first colon, where nothing but a name stands
there.  The main statement says that the variables of a text are the names its groups declare, each
once and in the order of first appearance, and that a group that is never closed hides the rest of
the text.
-/

namespace RouteAtlas

namespace Path

/-! ## The name in a group -/

/-- The group declares the variable: up to its first colon, or up to its end, it holds the name and
perhaps blanks around it, and neither a brace nor a slash. -/
def Group.Declares (g : Group) (name : String) : Prop :=
  ∃ head tail, g.inner = head ++ tail ∧ (∀ c ∈ head, c ≠ ':') ∧
    (∀ c, tail.head? = some c → c = ':') ∧ (∀ c ∈ head, c ≠ '{' ∧ c ≠ '}' ∧ c ≠ '/') ∧
    Text.trim head = name.toList ∧ name ≠ ""

theorem takeWhile_colon {head tail : List Char} (hhead : ∀ c ∈ head, c ≠ ':')
    (htail : ∀ c, tail.head? = some c → c = ':') : (head ++ tail).takeWhile (· != ':') = head := by
  have hstop : tail.takeWhile (· != ':') = [] := by
    cases tail with
    | nil => rfl
    | cons c tail => simp [htail c rfl]
  have hin : ∀ c ∈ head, (c != ':') = true := fun c hc => by simpa using hhead c hc
  rw [List.takeWhile_append_of_pos hin, hstop, List.append_nil]

theorem exists_takeWhile_colon (cs : List Char) :
    ∃ tail, cs = cs.takeWhile (· != ':') ++ tail ∧ (∀ c ∈ cs.takeWhile (· != ':'), c ≠ ':') ∧
      ∀ c, tail.head? = some c → c = ':' := by
  refine ⟨cs.dropWhile (· != ':'), List.takeWhile_append_dropWhile.symm, fun c hc => ?_,
    fun c hc => ?_⟩
  · simpa using List.mem_takeWhile_imp hc
  · have hstop := List.head?_dropWhile_not (· != ':') cs
    rw [hc] at hstop
    simpa using hstop

theorem variableName?_eq_some_iff {g : Group} {name : String} :
    variableName? g.inner = some name ↔ g.Declares name := by
  have hplain : ∀ head : List Char, head.any isStructural = false ↔
      ∀ c ∈ head, c ≠ '{' ∧ c ≠ '}' ∧ c ≠ '/' := by
    intro head
    simp [isStructural, and_assoc]
  constructor
  · intro h
    obtain ⟨tail, hcs, hhead, htail⟩ := exists_takeWhile_colon g.inner
    simp only [variableName?] at h
    split_ifs at h with hbad
    obtain rfl := Option.some.inj h
    rw [Bool.not_eq_true, Bool.or_eq_false_iff] at hbad
    refine ⟨_, tail, hcs, hhead, htail, (hplain _).1 hbad.1, String.toList_ofList.symm, ?_⟩
    intro hempty
    simp [String.ofList_eq_empty_iff.1 hempty] at hbad
  · rintro ⟨head, tail, hinner, hhead, htail, hname, htrim, hne⟩
    have hbad : (head.any isStructural || (Text.trim head).isEmpty) = false := by
      rw [Bool.or_eq_false_iff, htrim]
      exact ⟨(hplain head).2 hname, by simpa using hne⟩
    simp only [variableName?, hinner, takeWhile_colon hhead htail, hbad]
    simp [htrim]

/-- Some group that declares the name opens before every group that declares the other one. -/
def DeclaredBefore (cs : List Char) (name other : String) : Prop :=
  ∃ g : Group, g.In cs ∧ g.Declares name ∧
    ∀ h : Group, h.In cs → h.Declares other → g.before.length < h.before.length

/-! ## The variables of a text -/

theorem exists_variableNames (cs : List Char) :
    ∃ gs : List Group, Enumerates gs cs ∧
      variableNames cs = (gs.filterMap fun g => variableName? g.inner).eraseDups := by
  obtain ⟨gs, hgs, hmap⟩ := exists_groups cs
  refine ⟨gs, hgs, ?_⟩
  rw [variableNames, ← hmap, List.filterMap_map]
  rfl

theorem mem_variableNames_iff {cs : List Char} {name : String} :
    name ∈ variableNames cs ↔ ∃ g : Group, g.In cs ∧ g.Declares name := by
  obtain ⟨gs, hgs, hnames⟩ := exists_variableNames cs
  rw [hnames, List.mem_eraseDups, List.mem_filterMap]
  simp only [hgs.mem_iff, variableName?_eq_some_iff]

theorem variableNames_pairwise (cs : List Char) :
    (variableNames cs).Pairwise (DeclaredBefore cs) := by
  obtain ⟨gs, hgs, hnames⟩ := exists_variableNames cs
  rw [hnames]
  refine (pairwise_eraseDups_filterMap _ hgs.sorted).imp fun {name other} hfirst => ?_
  obtain ⟨g, hg, hname, hall⟩ := hfirst
  refine ⟨g, (hgs.mem_iff g).1 hg, variableName?_eq_some_iff.1 hname, fun h hh hother => ?_⟩
  exact hall h ((hgs.mem_iff h).2 hh) (variableName?_eq_some_iff.2 hother)

theorem groups_of_unclosed {before rest : List Char} (hbefore : depth before = 0)
    (hopen : ∀ q, q <+: rest → depth (before ++ '{' :: q) ≠ 0) :
    groups (before ++ '{' :: rest) = groups before := by
  have hrest : StaysOpen 1 rest := by
    intro q hq
    rw [← depth_append_open hbefore]
    exact hopen q hq
  rw [groups_append hbefore, groups_open_of_none (closeGroup?_eq_none_iff.2 hrest),
    List.append_nil]

end Path

namespace PathFragment

/-- **The variables of a text are the names that its groups declare**, untyped, each once and in the
order of first appearance.  The text itself is kept.  A group that is never closed declares nothing,
and neither does anything behind its brace. -/
theorem vars_ofText (text : String) :
    let p := ofText text
    let cs := text.toList
    p.text = text ∧ (∀ v ∈ p.vars, v.typeName = none) ∧ p.names.Nodup ∧
      (∀ name, name ∈ p.names ↔ ∃ g : Path.Group, g.In cs ∧ g.Declares name) ∧
      p.names.Pairwise (Path.DeclaredBefore cs) ∧
      ∀ before rest, cs = before ++ '{' :: rest → Path.depth before = 0 →
        (∀ q, q <+: rest → Path.depth (before ++ '{' :: q) ≠ 0) →
          p.vars = (ofText (String.ofList before)).vars := by
  intro p cs
  have hnames : p.names = Path.variableNames cs := names_ofText text
  refine ⟨rfl, fun v hv => ?_, nodup_names_ofText text, fun name => ?_, ?_, ?_⟩
  · obtain ⟨name, -, rfl⟩ := List.mem_map.1 hv
    rfl
  · rw [hnames]
    exact Path.mem_variableNames_iff
  · rw [hnames]
    exact Path.variableNames_pairwise cs
  · intro before rest hcs hbefore hopen
    have hvars : Path.variableNames cs = Path.variableNames before := by
      rw [Path.variableNames, Path.variableNames, hcs, Path.groups_of_unclosed hbefore hopen]
    show (Path.variableNames cs).map _ = (Path.variableNames (String.ofList before).toList).map _
    rw [hvars, String.toList_ofList]

/-- The brace before `file` is never closed, so of the names written in the path only `id` is one of
its variables. -/
theorem vars_ofText_unclosed :
    (ofText "/a\x7d/\x7bid:[0-9]\x7b2\x7d\x7d/\x7bfile/\x7bname\x7d").names = ["id"] := by
  have hsplit : "/a\x7d/\x7bid:[0-9]\x7b2\x7d\x7d/\x7bfile/\x7bname\x7d".toList =
      "/a\x7d/\x7bid:[0-9]\x7b2\x7d\x7d/".toList ++ '{' :: "file/\x7bname\x7d".toList := by
    decide
  have hbefore : Path.depth "/a\x7d/\x7bid:[0-9]\x7b2\x7d\x7d/".toList = 0 := by decide
  have hopen : Path.StaysOpen 1 "file/\x7bname\x7d".toList :=
    Path.closeGroup?_eq_none_iff.1 (by decide)
  obtain ⟨-, -, -, -, -, hunclosed⟩ := vars_ofText _
  have hvars := hunclosed _ _ hsplit hbefore fun q hq => by
    rw [Path.depth_append_open hbefore]
    exact hopen q hq
  rw [names, hvars]
  cbv

end PathFragment

end RouteAtlas
