import Mathlib.Data.List.DropRight
import RouteAtlas.Text.Blank

/-!
# RouteAtlas.Proofs.Text.Trimming — texts cut at both ends

It does not matter which end of a text is cut first (`dropWhile_rdropWhile`).  So a trimmed text has
nothing left to trim, and trimming adds no character to a text.
-/

namespace RouteAtlas.Text

section Ends

variable {α : Type} {p : α → Bool}

/-- A member that stays at the end keeps all that stands before it. -/
theorem rdropWhile_append_of_exists {ys : List α} (h : ∃ y ∈ ys, p y = false) (xs : List α) :
    (xs ++ ys).rdropWhile p = xs ++ ys.rdropWhile p := by
  obtain ⟨y, hy, hp⟩ := h
  have hkeep : ys.reverse.dropWhile p ≠ [] := by
    intro hnil
    have hall := List.dropWhile_eq_nil_iff.1 hnil y (List.mem_reverse.2 hy)
    rw [hp] at hall
    cases hall
  rw [List.rdropWhile, List.reverse_append, List.dropWhile_append, if_neg (by simpa using hkeep),
    List.reverse_append, List.reverse_reverse]
  rfl

theorem rdropWhile_cons_of_neg {x : α} (hx : p x = false) (xs : List α) :
    (x :: xs).rdropWhile p = x :: xs.rdropWhile p := by
  have hstop : [x].dropWhile p = [x] := List.dropWhile_cons_of_neg (by simp [hx])
  rw [List.rdropWhile, List.reverse_cons, List.dropWhile_append, hstop]
  by_cases hxs : xs.reverse.dropWhile p = []
  · simp [List.rdropWhile, hxs]
  · simp [List.rdropWhile, hxs]

/-- It does not matter which end is cut first. -/
theorem dropWhile_rdropWhile (p : α → Bool) (xs : List α) :
    (xs.rdropWhile p).dropWhile p = (xs.dropWhile p).rdropWhile p := by
  cases h : xs.dropWhile p with
  | nil =>
    have hall := List.dropWhile_eq_nil_iff.1 h
    rw [List.rdropWhile_eq_nil_iff.2 hall]
    rfl
  | cons y ys =>
    have hy : p y = false := by
      have hstop := List.head?_dropWhile_not p xs
      rw [h] at hstop
      simpa using hstop
    have hcut : xs.rdropWhile p = xs.takeWhile p ++ (y :: ys).rdropWhile p := by
      have hsplit : xs = xs.takeWhile p ++ (y :: ys) := by
        rw [← h, List.takeWhile_append_dropWhile]
      conv_lhs => rw [hsplit]
      exact rdropWhile_append_of_exists ⟨y, List.mem_cons_self, hy⟩ _
    rw [hcut, List.dropWhile_append_of_pos fun x hx => List.mem_takeWhile_imp hx,
      rdropWhile_cons_of_neg hy, List.dropWhile_cons_of_neg (by simp [hy])]

end Ends

theorem trimStart_trimEnd (cs : List Char) : trimStart (trimEnd cs) = trimEnd (trimStart cs) :=
  dropWhile_rdropWhile isBlankChar cs

/-- A trimmed text has no blanks left at its ends. -/
theorem trim_trim (cs : List Char) : trim (trim cs) = trim cs := by
  have hstart : trimStart (trimStart cs) = trimStart cs := List.dropWhile_idempotent _ cs
  have hend : trimEnd (trimEnd (trimStart cs)) = trimEnd (trimStart cs) :=
    List.rdropWhile_idempotent _ _
  rw [trim, trim, trimStart_trimEnd, hstart, hend]

theorem mem_of_mem_trim {c : Char} {cs : List Char} (h : c ∈ trim cs) : c ∈ cs :=
  (List.dropWhile_suffix _).mem ((List.rdropWhile_prefix _ _).mem h)

/-! ## What is left between the blanks -/

/-- The text is `p` with blanks around it, and `p` neither starts nor ends with a blank. -/
structure IsTrimmed (cs p : List Char) : Prop where
  between : ∃ blanks blanks', (∀ c ∈ blanks, isBlankChar c = true) ∧
    (∀ c ∈ blanks', isBlankChar c = true) ∧ cs = blanks ++ p ++ blanks'
  head : ∀ c ∈ p.head?, isBlankChar c = false
  last : ∀ c ∈ p.getLast?, isBlankChar c = false

theorem trimStart_append_of_blank {blanks : List Char} (h : ∀ c ∈ blanks, isBlankChar c = true)
    (cs : List Char) : trimStart (blanks ++ cs) = trimStart cs :=
  List.dropWhile_append_of_pos h

theorem trimEnd_append_of_blank {blanks : List Char} (h : ∀ c ∈ blanks, isBlankChar c = true)
    (cs : List Char) : trimEnd (cs ++ blanks) = trimEnd cs := by
  have hreverse : ∀ c ∈ blanks.reverse, isBlankChar c = true := fun c hc =>
    h c (List.mem_reverse.1 hc)
  rw [trimEnd, List.reverse_append, List.dropWhile_append_of_pos hreverse, trimEnd]

/-- Blanks around a text make no difference. -/
theorem trim_append_of_blank {blanks blanks' : List Char} (h : ∀ c ∈ blanks, isBlankChar c = true)
    (h' : ∀ c ∈ blanks', isBlankChar c = true) (cs : List Char) :
    trim (blanks ++ cs ++ blanks') = trim cs :=
  calc trim (blanks ++ cs ++ blanks') = trimEnd (trimStart (cs ++ blanks')) := by
        rw [trim, List.append_assoc, trimStart_append_of_blank h]
    _ = trimStart (trimEnd (cs ++ blanks')) := (trimStart_trimEnd _).symm
    _ = trim cs := by rw [trimEnd_append_of_blank h', trimStart_trimEnd, trim]

theorem isTrimmed_trim (cs : List Char) : IsTrimmed cs (trim cs) := by
  constructor
  case between =>
    refine ⟨cs.takeWhile isBlankChar, (trimStart cs).rtakeWhile isBlankChar,
      fun c hc => List.mem_takeWhile_imp hc, fun c hc => List.mem_rtakeWhile_imp hc, ?_⟩
    have hend : trim cs ++ (trimStart cs).rtakeWhile isBlankChar = trimStart cs :=
      List.rdropWhile_append_rtakeWhile ..
    rw [List.append_assoc, hend, trimStart, List.takeWhile_append_dropWhile]
  case head =>
    intro c hc
    rw [trim, ← trimStart_trimEnd] at hc
    have hstop := List.head?_dropWhile_not isBlankChar (trimEnd cs)
    rw [← trimStart, Option.mem_def.1 hc] at hstop
    simpa using hstop
  case last =>
    intro c hc
    obtain ⟨hne, rfl⟩ := List.mem_getLast?_eq_getLast hc
    exact Bool.eq_false_iff.2 (List.rdropWhile_last_not isBlankChar (trimStart cs) hne)

/-- One text is left of a text when it is trimmed. -/
theorem trim_eq_iff {cs p : List Char} : trim cs = p ↔ IsTrimmed cs p := by
  constructor
  · rintro rfl
    exact isTrimmed_trim cs
  · rintro ⟨⟨blanks, blanks', h, h', rfl⟩, hhead, hlast⟩
    have hstart : trimStart p = p := by
      cases p with
      | nil => rfl
      | cons c p => exact List.dropWhile_cons_of_neg (by simp [hhead c rfl])
    have hend : trimEnd p = p := by
      refine List.rdropWhile_eq_self_iff.2 fun hne => ?_
      simp [hlast _ (List.getLast?_eq_some_getLast hne)]
    rw [trim_append_of_blank h h', trim, hstart, hend]

/-- A change of characters that makes and unmakes no blanks may come before trimming or after it. -/
theorem trim_map {f : Char → Char} (hf : ∀ c, isBlankChar (f c) = isBlankChar c) (cs : List Char) :
    trim (cs.map f) = (trim cs).map f := by
  have hblank : isBlankChar ∘ f = isBlankChar := funext hf
  have hstart : ∀ ds : List Char, trimStart (ds.map f) = (trimStart ds).map f := by
    intro ds
    rw [trimStart, trimStart, List.dropWhile_map, hblank]
  have hend : ∀ ds : List Char, trimEnd (ds.map f) = (trimEnd ds).map f := by
    intro ds
    rw [trimEnd, trimEnd, ← List.map_reverse, List.dropWhile_map, hblank, List.map_reverse]
  rw [trim, trim, hstart, hend]

end RouteAtlas.Text
