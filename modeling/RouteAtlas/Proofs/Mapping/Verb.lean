import Mathlib
import RouteAtlas.Mapping.Kind
import RouteAtlas.Mapping.Verb
import RouteAtlas.Proofs.Text.Segments
import RouteAtlas.Proofs.Text.Trimming

/-!
# RouteAtlas.Proofs.Mapping.Verb — spellings of a request method

A text names a verb by what stands after its last dot, without the blanks around it.  So neither a
qualification nor the case of letters makes a difference (`parse?_qualified`,
`parse?_of_sameLetters`).
-/

namespace RouteAtlas.Verb

/-- What a text is recognised by. -/
def part (s : String) : List Char := Text.trim (Text.afterLast isDot s.toList)

/-! ## Capital letters -/

theorem toNat_of_isAlpha {c : Char} (h : c.isAlpha = true) :
    65 ≤ c.toNat ∧ c.toNat ≤ 90 ∨ 97 ≤ c.toNat ∧ c.toNat ≤ 122 := by
  simpa [Char.isAlpha, Char.isUpper, Char.isLower, UInt32.le_iff_toNat_le] using h

/-- A property that holds of all letters, or of none, does not see their case. -/
theorem apply_toUpper {p : Char → Bool} {b : Bool} (h : ∀ c : Char, c.isAlpha = true → p c = b)
    (c : Char) : p c.toUpper = p c := by
  by_cases hc : c.isAlpha = true
  · rw [h c hc, h c.toUpper (by simpa using hc)]
  · have hlower : ¬ c.isLower := fun hlower => hc (by simp [Char.isAlpha, hlower])
    rw [Char.toUpper_eq_of_not_isLower hlower]

theorem isDot_toUpper (c : Char) : isDot c.toUpper = isDot c := by
  refine apply_toUpper (b := false) (fun c hc => ?_) c
  rw [isDot_eq_false_iff]
  rintro rfl
  cases hc

theorem isBlankChar_toUpper (c : Char) : Text.isBlankChar c.toUpper = Text.isBlankChar c := by
  refine apply_toUpper (b := false) (fun c hc => ?_) c
  have hletter := toNat_of_isAlpha hc
  simp only [Text.isBlankChar, Bool.or_eq_false_iff, Bool.and_eq_false_iff,
    decide_eq_false_iff_not, beq_eq_false_iff_ne]
  omega

theorem isTokenChar_toUpper (c : Char) : isTokenChar c.toUpper = isTokenChar c := by
  refine apply_toUpper (b := true) (fun c hc => ?_) c
  simp [isTokenChar, Char.isAlphanum, hc]

theorem map_toUpper_part (s : String) :
    (part s).map Char.toUpper =
      Text.trim (Text.afterLast isDot (s.toList.map Char.toUpper)) := by
  rw [part, Text.afterLast_map isDot_toUpper, Text.trim_map isBlankChar_toUpper]

/-! ## Spellings -/

theorem parse?_eq (s : String) :
    parse? s = if (part s).isEmpty || !(part s).all isTokenChar then none
      else some (String.ofList ((part s).map Char.toUpper)) := rfl

theorem parse?_congr {s t : String}
    (h : (part s).map Char.toUpper = (part t).map Char.toUpper) : parse? s = parse? t := by
  have hempty : (part s).isEmpty = (part t).isEmpty := by
    rw [← List.isEmpty_map (f := Char.toUpper), h, List.isEmpty_map]
  have htoken : ∀ cs : List Char, cs.all isTokenChar = (cs.map Char.toUpper).all isTokenChar := by
    intro cs
    rw [List.all_map]
    exact congrArg cs.all (funext fun c => (isTokenChar_toUpper c).symm)
  rw [parse?_eq, parse?_eq, hempty, htoken (part s), htoken (part t), h]

/-- The case of letters makes no difference. -/
theorem parse?_of_sameLetters {s t : String} (h : MappingKind.sameLetters s t = true) :
    parse? s = parse? t := by
  have hlower : s.toList.map Char.toLower = t.toList.map Char.toLower := beq_iff_eq.1 h
  have hupper : ∀ cs : List Char,
      cs.map Char.toUpper = (cs.map Char.toLower).map Char.toUpper := by
    intro cs
    rw [List.map_map]
    exact List.map_congr_left fun c _ => (Char.toUpper_toLower_eq_toUpper c).symm
  apply parse?_congr
  rw [map_toUpper_part, map_toUpper_part, hupper, hlower, ← hupper]

/-- A qualification makes no difference. -/
theorem parse?_qualified (q s : String) : parse? (q ++ "." ++ s) = parse? s := by
  have hpart : part (q ++ "." ++ s) = part s := by
    have hchars : (q ++ "." ++ s).toList = q.toList ++ '.' :: s.toList := by simp
    rw [part, part, hchars, Text.afterLast_append rfl]
  rw [parse?_eq, parse?_eq, hpart]

/-! ## Verbs with bars between them -/

/-- A bar separates the verbs of a route. -/
def isBar (c : Char) : Bool := c == '|'

/-- The texts between the bars. -/
def split (s : String) : List String := (Text.segments isBar s.toList).map String.ofList

theorem isBar_eq_false_iff {cs : List Char} : (∀ c ∈ cs, isBar c = false) ↔ '|' ∉ cs := by
  simp only [isBar, beq_eq_false_iff_ne]
  exact List.forall_mem_ne'

theorem bar_not_mem_of_mem_split {s t : String} (h : t ∈ split s) : '|' ∉ t.toList := by
  obtain ⟨cs, hcs, rfl⟩ := List.mem_map.1 h
  rw [String.toList_ofList]
  exact isBar_eq_false_iff.1 (Text.sep_eq_false_of_mem_segments hcs)

theorem split_of_bar_not_mem {s : String} (h : '|' ∉ s.toList) : split s = [s] := by
  rw [split, Text.segments_of_sep_eq_false (isBar_eq_false_iff.2 h), List.map_singleton,
    String.ofList_toList]

theorem split_intercalate {verbs : List String} (h : verbs ≠ []) :
    split ("|".intercalate verbs) = verbs.flatMap split := by
  have hchars : ("|".intercalate verbs).toList = ['|'].intercalate (verbs.map String.toList) :=
    String.toList_intercalate
  have hne : verbs.map String.toList ≠ [] := by simpa using h
  rw [split, hchars, Text.segments_intercalate rfl hne, List.flatMap_map, List.map_flatMap]
  rfl

/-- Joined verbs are read back exactly where a bar is part of none. -/
theorem flatMap_split_eq_self_iff {verbs : List String} :
    verbs.flatMap split = verbs ↔ ∀ verb ∈ verbs, '|' ∉ verb.toList := by
  constructor
  · intro h verb hverb
    rw [← h] at hverb
    obtain ⟨s, -, hs⟩ := List.mem_flatMap.1 hverb
    exact bar_not_mem_of_mem_split hs
  · intro h
    calc verbs.flatMap split = verbs.flatMap fun verb => [verb] :=
          List.flatMap_congr fun verb hverb => split_of_bar_not_mem (h verb hverb)
      _ = verbs := List.flatMap_singleton' verbs

end RouteAtlas.Verb
