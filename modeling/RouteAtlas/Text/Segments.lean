/-!
# RouteAtlas.Text.Segments — texts cut at a separator

`cutLast?` cuts a text at its last separator and `segments` cuts it at every one.  The main
statements say that cutting loses nothing but the separator and that no separator stands after
the cut.
-/

namespace RouteAtlas.Text

/-- What stands before and after the last separator; nothing when there is no separator. -/
def cutLast? (sep : Char → Bool) : List Char → Option (List Char × List Char)
  | [] => none
  | c :: cs =>
    match cutLast? sep cs with
    | some (before, after) => some (c :: before, after)
    | none => if sep c then some ([], cs) else none

/-- What stands after the last separator; the whole text when there is none. -/
def afterLast (sep : Char → Bool) (cs : List Char) : List Char :=
  match cutLast? sep cs with
  | some (_, after) => after
  | none => cs

/-- The pieces between the separators, empty ones included. -/
def segments (sep : Char → Bool) : List Char → List (List Char)
  | [] => [[]]
  | c :: cs =>
    if sep c then [] :: segments sep cs
    else
      match segments sep cs with
      | [] => [[c]]
      | s :: rest => (c :: s) :: rest

theorem cutLast?_eq_none_iff {sep : Char → Bool} {cs : List Char} :
    cutLast? sep cs = none ↔ ∀ c ∈ cs, sep c = false := by
  induction cs with
  | nil => simp [cutLast?]
  | cons c cs ih =>
    cases h : cutLast? sep cs with
    | none =>
      have hcs := ih.1 h
      cases hc : sep c <;> simp [cutLast?, h, hc]
      exact hcs
    | some p =>
      have hcs : ¬ ∀ d ∈ cs, sep d = false := fun hall => by simp [ih.2 hall] at h
      simp only [cutLast?, h, List.mem_cons, forall_eq_or_imp]
      simp [hcs]

/-- No separator stands after the cut. -/
theorem sep_eq_false_of_cutLast? {sep : Char → Bool} {cs before after : List Char}
    (h : cutLast? sep cs = some (before, after)) : ∀ c ∈ after, sep c = false := by
  induction cs generalizing before with
  | nil => simp [cutLast?] at h
  | cons c cs ih =>
    cases hcs : cutLast? sep cs with
    | none =>
      cases hc : sep c
      · simp [cutLast?, hcs, hc] at h
      · simp only [cutLast?, hcs, hc, if_true, Option.some.injEq, Prod.mk.injEq] at h
        obtain ⟨-, rfl⟩ := h
        exact cutLast?_eq_none_iff.1 hcs
    | some p =>
      obtain ⟨b, a⟩ := p
      simp only [cutLast?, hcs, Option.some.injEq, Prod.mk.injEq] at h
      obtain ⟨-, rfl⟩ := h
      exact ih hcs

/-- The two sides of the cut and the separator between them are the text. -/
theorem eq_append_of_cutLast? {sep : Char → Bool} {cs before after : List Char}
    (h : cutLast? sep cs = some (before, after)) :
    ∃ c, sep c = true ∧ cs = before ++ c :: after := by
  induction cs generalizing before with
  | nil => simp [cutLast?] at h
  | cons c cs ih =>
    cases hcs : cutLast? sep cs with
    | none =>
      cases hc : sep c
      · simp [cutLast?, hcs, hc] at h
      · simp only [cutLast?, hcs, hc, if_true, Option.some.injEq, Prod.mk.injEq] at h
        obtain ⟨rfl, rfl⟩ := h
        exact ⟨c, hc, rfl⟩
    | some p =>
      obtain ⟨b, a⟩ := p
      simp only [cutLast?, hcs, Option.some.injEq, Prod.mk.injEq] at h
      obtain ⟨rfl, rfl⟩ := h
      obtain ⟨d, hd, rfl⟩ := ih hcs
      exact ⟨d, hd, rfl⟩

/-- A text is cut at its last separator, wherever further separators stand before it. -/
theorem cutLast?_append {sep : Char → Bool} {c : Char} (hc : sep c = true) (before : List Char)
    {after : List Char} (h : ∀ d ∈ after, sep d = false) :
    cutLast? sep (before ++ c :: after) = some (before, after) := by
  induction before with
  | nil => simp [cutLast?, cutLast?_eq_none_iff.2 h, hc]
  | cons b before ih => simp [cutLast?, ih]

end RouteAtlas.Text
