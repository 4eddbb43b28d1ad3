import RouteAtlas.Document.Yaml.Cell

/-!
# RouteAtlas.Document.Yaml.Block — texts in lines of their own

A block text stands below its mark, in lines that are indented alike, and needs no quotes.  In a
folded one a line end between two lines is a blank, as it is in the other scalars.
-/

namespace RouteAtlas.Document.Yaml

/-- Which of the line ends at its end belong to a block text. -/
inductive Chomping where
  | strip
  /-- The first one. -/
  | clip
  | keep

/-- The sign for the line ends, where there is one. -/
def chompingMark : List Cell → Chomping × List Cell
  | [] => (.clip, [])
  | x :: rest =>
    if x.char == '+' then (.keep, rest)
    else if x.char == '-' then (.strip, rest)
    else (.clip, x :: rest)

/-- The digit for the indentation, 0 where there is none. -/
def indentMark? : List Cell → Option (Nat × List Cell)
  | [] => some (0, [])
  | x :: rest =>
    if x.char == '0' then none
    else if x.char.isDigit then some (x.char.toNat - '0'.toNat, rest)
    else some (0, x :: rest)

/-- The sign and the digit behind the mark of a block text, in either order. -/
def blockMarks? (xs : List Cell) : Option (Chomping × Nat × List Cell) :=
  match chompingMark xs with
  | (.clip, _) =>
    (indentMark? xs).map fun (indent, rest) =>
      let (chomping, rest) := chompingMark rest
      (chomping, indent, rest)
  | (chomping, rest) => (indentMark? rest).map fun (indent, rest) => (chomping, indent, rest)

/-- What follows a line that holds nothing more but a comment. -/
def endLine? (xs : List Cell) : Option (List Cell) :=
  match xs.dropWhile (isSpace ·.char) with
  | [] => some []
  | x :: rest =>
    if isBreak x.char then some rest
    else if x.char == '#' then some (rest.dropWhile (!isBreak ·.char)).tail
    else none

/-- The line ends before the next line that is not blank, how deep the blank lines are indented, and
what follows the indentation of that line; it has at most `indent` blanks, or any number if that is
0. -/
def blankLines? (indent deepest : Nat) : List Cell → Option (List Char × Nat × List Cell)
  | [] => some ([], deepest, [])
  | x :: rest =>
    if (indent == 0 || x.column < indent) && isSpace x.char then
      if x.char == '\t' then none else blankLines? indent (max deepest (x.column + 1)) rest
    else if isBreak x.char then
      (blankLines? indent deepest rest).map fun (cs, deepest, rest) => (x.char :: cs, deepest, rest)
    else some ([], deepest, x :: rest)

/-- What a gap between two lines stands for where lines are not folded. -/
def Gap.unfolded : Gap → List Char
  | blanks cs => cs
  | breaks first more => first :: more
  | escaped more => more

/-- The line ends that are left at the end of a block text. -/
def Gap.ending : Chomping → Gap → List Char
  | .strip, _ => []
  | .clip, breaks first _ => [first]
  | .clip, blanks _ | .clip, escaped _ => []
  | .keep, g => g.unfolded

theorem length_le_of_blankLines? {indent deepest deepest' : Nat} {xs rest : List Cell}
    {cs : List Char} (h : blankLines? indent deepest xs = some (cs, deepest', rest)) :
    rest.length ≤ xs.length := by
  fun_induction blankLines? indent deepest xs generalizing cs deepest' rest with
  | case1 => cases h; simp
  | case2 => simp at h
  | case3 deepest x xs _ _ ih => exact Nat.le_succ_of_le (ih h)
  | case4 deepest x xs _ _ ih =>
    obtain ⟨⟨t, d, r⟩, hr, heq⟩ := Option.map_eq_some_iff.1 h
    cases heq
    exact Nat.le_succ_of_le (ih hr)
  | case5 => cases h; exact Nat.le_refl _

/-- The lines of a block text behind `gap`, the gap after the last of them, and what follows.
`blank` says whether the line before the gap starts with a blank; next to such a line nothing is
folded. -/
def blockLines? (folded : Bool) (indent : Nat) (blank : Bool) (gap : Gap) (xs : List Cell) :
    Option (List Char × Gap × List Cell) :=
  match xs with
  | [] => some ([], gap, [])
  | x :: rest =>
    if x.column ≠ indent then some ([], gap, x :: rest)
    else
      let start := if folded && !blank && !isSpace x.char then gap.text else gap.unfolded
      let line := x.char :: (rest.takeWhile (!isBreak ·.char)).map (·.char)
      match _h : rest.dropWhile (!isBreak ·.char) with
      | [] => some (start ++ line, .none, [])
      | y :: after =>
        match _h' : blankLines? indent 0 after with
        | none => none
        | some (more, _, after) =>
          (blockLines? folded indent (isSpace x.char) (.breaks y.char more) after).map
            fun (cs, gap, rest) => (start ++ line ++ cs, gap, rest)
termination_by xs.length
decreasing_by
  have := (List.dropWhile_suffix (!isBreak ·.char) (l := rest)).length_le
  have := length_le_of_blankLines? ‹_›
  simp_all only [List.length_cons]
  omega

/-- A block text behind its mark, and what follows; `margin` is the least column of its lines. -/
def blockText? (folded : Bool) (margin : Nat) (xs : List Cell) :
    Option (List Char × List Cell) := do
  let (chomping, relative, rest) ← blockMarks? xs
  let rest ← endLine? rest
  let indent := if relative = 0 then 0 else margin - 1 + relative
  let (breaks, deepest, rest) ← blankLines? indent 0 rest
  let indent := if relative = 0 then max 1 (max margin deepest) else indent
  let (cs, gap, rest) ← blockLines? folded indent false (.escaped breaks) rest
  return (cs ++ gap.ending chomping, rest)

/-! ### What follows is no longer than the text -/

theorem length_le_of_chompingMark (xs : List Cell) :
    (chompingMark xs).2.length ≤ xs.length := by
  fun_cases chompingMark xs <;> simp

theorem length_le_of_indentMark? {xs rest : List Cell} {indent : Nat}
    (h : indentMark? xs = some (indent, rest)) : rest.length ≤ xs.length := by
  unfold indentMark? at h
  split at h
  · cases h
    exact Nat.le_refl _
  · split at h
    · cases h
    · split at h <;>
        · cases h
          simp

theorem length_le_of_blockMarks? {xs rest : List Cell} {chomping : Chomping} {indent : Nat}
    (h : blockMarks? xs = some (chomping, indent, rest)) : rest.length ≤ xs.length := by
  unfold blockMarks? at h
  split at h
  · obtain ⟨⟨n, r⟩, hr, heq⟩ := Option.map_eq_some_iff.1 h
    cases heq
    exact Nat.le_trans (length_le_of_chompingMark r) (length_le_of_indentMark? hr)
  next hmark =>
    obtain ⟨⟨n, r⟩, hr, heq⟩ := Option.map_eq_some_iff.1 h
    cases heq
    have := length_le_of_chompingMark xs
    rw [hmark] at this
    exact Nat.le_trans (length_le_of_indentMark? hr) this

theorem length_le_of_endLine? {xs rest : List Cell} (h : endLine? xs = some rest) :
    rest.length ≤ xs.length := by
  have hblanks := (List.dropWhile_suffix (isSpace ·.char) (l := xs)).length_le
  unfold endLine? at h
  split at h
  · cases h
    simp
  next x after heq =>
    rw [heq, List.length_cons] at hblanks
    split at h
    · cases h
      omega
    · split at h
      · cases h
        have := (List.dropWhile_suffix (!isBreak ·.char) (l := after)).length_le
        simp only [List.length_tail]
        omega
      · cases h

theorem length_le_of_blockLines? {folded blank : Bool} {indent : Nat} {gap gap' : Gap}
    {xs rest : List Cell} {cs : List Char}
    (h : blockLines? folded indent blank gap xs = some (cs, gap', rest)) :
    rest.length ≤ xs.length := by
  fun_induction blockLines? folded indent blank gap xs generalizing cs gap' rest with
  | case1 => cases h; simp
  | case2 => cases h; exact Nat.le_refl _
  | case3 => cases h; simp
  | case4 => cases h
  | case5 =>
    rename_i xs _ _ _ y after hline _ _ _ hblank ih
    obtain ⟨⟨t, g, r⟩, hr, heq⟩ := Option.map_eq_some_iff.1 h
    cases heq
    have hline := hline ▸ (List.dropWhile_suffix (!isBreak ·.char) (l := xs)).length_le
    have hafter := Nat.le_trans (ih hr) (length_le_of_blankLines? hblank)
    simp only [List.length_cons] at hline ⊢
    omega

theorem length_le_of_blockText? {folded : Bool} {margin : Nat} {xs rest : List Cell}
    {cs : List Char} (h : blockText? folded margin xs = some (cs, rest)) :
    rest.length ≤ xs.length := by
  simp only [blockText?, Option.bind_eq_bind, Option.bind_eq_some_iff] at h
  obtain ⟨⟨chomping, relative, r₁⟩, hmarks, r₂, hend, ⟨breaks, deepest, r₃⟩, hblank,
    ⟨text, gap, r₄⟩, hlines, heq⟩ := h
  cases heq
  calc r₄.length ≤ r₃.length := length_le_of_blockLines? hlines
    _ ≤ r₂.length := length_le_of_blankLines? hblank
    _ ≤ r₁.length := length_le_of_endLine? hend
    _ ≤ xs.length := length_le_of_blockMarks? hmarks

end RouteAtlas.Document.Yaml
