import Mathlib.Data.List.Basic
import RouteAtlas.Text.Segments

/-!
# RouteAtlas.Proofs.Text.Segments — pieces of texts put together

Cutting a text at its separators gives pieces without any, and texts that are put together with
separators between them are cut where they meet and wherever they hold a separator themselves
(`segments_intercalate`).  What stands after the last separator of a text does not depend on what
stands before it (`afterLast_append`).
-/

namespace RouteAtlas.Text

variable {sep : Char → Bool}

theorem segments_ne_nil (cs : List Char) : segments sep cs ≠ [] := by
  cases cs with
  | nil => simp [segments]
  | cons c cs =>
    rw [segments]
    split
    · simp
    · split <;> simp

/-- A separator ends one segment and starts the next. -/
theorem segments_append {c : Char} (hc : sep c = true) (before after : List Char) :
    segments sep (before ++ c :: after) = segments sep before ++ segments sep after := by
  induction before with
  | nil => simp [segments, hc]
  | cons b before ih =>
    rw [List.cons_append, segments, segments, ih]
    by_cases hb : sep b = true
    · rw [if_pos hb, if_pos hb, List.cons_append]
    · rw [if_neg hb, if_neg hb]
      cases hcs : segments sep before with
      | nil => exact absurd hcs (segments_ne_nil before)
      | cons s rest => rfl

/-- There is one piece more than there are separators. -/
theorem length_segments (cs : List Char) : (segments sep cs).length = cs.countP sep + 1 := by
  induction cs with
  | nil => rfl
  | cons c cs ih =>
    rw [segments]
    cases hc : sep c with
    | true =>
      rw [if_pos rfl, List.length_cons, ih, List.countP_cons_of_pos hc]
    | false =>
      rw [if_neg Bool.false_ne_true, List.countP_cons_of_neg (by simp [hc]), ← ih]
      cases hcs : segments sep cs with
      | nil => exact absurd hcs (segments_ne_nil cs)
      | cons s rest => rfl

theorem sep_eq_false_of_mem_segments {cs s : List Char} (h : s ∈ segments sep cs) :
    ∀ c ∈ s, sep c = false := by
  induction cs generalizing s with
  | nil => simp_all [segments]
  | cons c cs ih =>
    rw [segments] at h
    cases hc : sep c with
    | true =>
      rw [if_pos hc] at h
      rcases List.mem_cons.1 h with rfl | h
      · simp
      · exact ih h
    | false =>
      rw [if_neg (by simp [hc])] at h
      cases hcs : segments sep cs with
      | nil => exact absurd hcs (segments_ne_nil cs)
      | cons first rest =>
        rw [hcs] at h ih
        rcases List.mem_cons.1 h with rfl | h
        · exact List.forall_mem_cons.2 ⟨hc, ih List.mem_cons_self⟩
        · exact ih (List.mem_cons_of_mem first h)

/-- A text without a separator is one piece. -/
theorem segments_of_sep_eq_false {cs : List Char} (h : ∀ c ∈ cs, sep c = false) :
    segments sep cs = [cs] := by
  induction cs with
  | nil => rfl
  | cons c cs ih =>
    obtain ⟨hc, hcs⟩ := List.forall_mem_cons.1 h
    rw [segments, ih hcs]
    simp [hc]

/-- Texts with a separator between them are cut there and at their own separators. -/
theorem segments_intercalate {c : Char} (hc : sep c = true) :
    ∀ {texts : List (List Char)}, texts ≠ [] →
      segments sep ([c].intercalate texts) = texts.flatMap (segments sep)
  | [], h => absurd rfl h
  | [s], _ => by simp
  | s :: t :: texts, _ => by
    rw [List.intercalate_cons_cons, List.append_assoc, List.singleton_append, segments_append hc,
      segments_intercalate hc (List.cons_ne_nil t texts)]
    rfl

/-- What is put together holds the characters of the texts and of what stands between them. -/
theorem mem_of_mem_intercalate {between : List Char} {c : Char} :
    ∀ {texts : List (List Char)}, c ∈ between.intercalate texts →
      c ∈ between ∨ ∃ s ∈ texts, c ∈ s
  | [], h => by simp at h
  | [s], h => .inr ⟨s, List.mem_singleton_self s, by simpa using h⟩
  | s :: t :: texts, h => by
    rw [List.intercalate_cons_cons, List.mem_append, List.mem_append] at h
    rcases h with (h | h) | h
    · exact .inr ⟨s, List.mem_cons_self, h⟩
    · exact .inl h
    · refine (mem_of_mem_intercalate h).imp_right ?_
      rintro ⟨u, hu, hc⟩
      exact ⟨u, List.mem_cons_of_mem s hu, hc⟩

/-! ## What stands after the last separator -/

theorem afterLast_of_sep_eq_false {cs : List Char} (h : ∀ c ∈ cs, sep c = false) :
    afterLast sep cs = cs := by
  rw [afterLast, cutLast?_eq_none_iff.2 h]

/-- Nothing that stands before a separator counts. -/
theorem afterLast_append {c : Char} (hc : sep c = true) (before cs : List Char) :
    afterLast sep (before ++ c :: cs) = afterLast sep cs := by
  cases hcut : cutLast? sep cs with
  | none =>
    have hplain := cutLast?_eq_none_iff.1 hcut
    rw [afterLast_of_sep_eq_false hplain, afterLast, cutLast?_append hc before hplain]
  | some p =>
    obtain ⟨pre, after⟩ := p
    have hplain := sep_eq_false_of_cutLast? hcut
    obtain ⟨d, hd, rfl⟩ := eq_append_of_cutLast? hcut
    have hassoc : before ++ c :: (pre ++ d :: after) = (before ++ c :: pre) ++ d :: after := by simp
    rw [afterLast, afterLast, hassoc, cutLast?_append hd _ hplain, hcut]

/-- `last` holds no separator, and it stands after one or is the whole text. -/
def IsLastSegment (sep : Char → Bool) (cs last : List Char) : Prop :=
  (∀ c ∈ last, sep c = false) ∧ (last = cs ∨ ∃ before c, sep c = true ∧ cs = before ++ c :: last)

theorem isLastSegment_afterLast (sep : Char → Bool) (cs : List Char) :
    IsLastSegment sep cs (afterLast sep cs) := by
  cases hcut : cutLast? sep cs with
  | none =>
    have hplain := cutLast?_eq_none_iff.1 hcut
    rw [afterLast_of_sep_eq_false hplain]
    exact ⟨hplain, .inl rfl⟩
  | some p =>
    obtain ⟨before, after⟩ := p
    have hplain := sep_eq_false_of_cutLast? hcut
    obtain ⟨c, hc, rfl⟩ := eq_append_of_cutLast? hcut
    rw [afterLast_append hc, afterLast_of_sep_eq_false hplain]
    exact ⟨hplain, .inr ⟨before, c, hc, rfl⟩⟩

/-- A text has one last segment. -/
theorem afterLast_eq_iff {cs last : List Char} :
    afterLast sep cs = last ↔ IsLastSegment sep cs last := by
  constructor
  · rintro rfl
    exact isLastSegment_afterLast sep cs
  · rintro ⟨hplain, rfl | ⟨before, c, hc, rfl⟩⟩
    · exact afterLast_of_sep_eq_false hplain
    · rw [afterLast_append hc, afterLast_of_sep_eq_false hplain]

/-- Texts without separators on both sides of a text: the second comes after its last segment, and
the first stands before that only where the segment is the whole text. -/
theorem afterLast_append_append {before after : List Char} (hbefore : ∀ c ∈ before, sep c = false)
    (hafter : ∀ c ∈ after, sep c = false) (cs : List Char) :
    afterLast sep (before ++ cs ++ after) = before ++ afterLast sep cs ++ after ∨
      afterLast sep (before ++ cs ++ after) = afterLast sep cs ++ after := by
  obtain ⟨hplain, hwhole | ⟨start, c, hc, hcs⟩⟩ := isLastSegment_afterLast sep cs
  · left
    rw [hwhole] at hplain ⊢
    exact afterLast_of_sep_eq_false
      (List.forall_mem_append.2 ⟨List.forall_mem_append.2 ⟨hbefore, hplain⟩, hafter⟩)
  · right
    have hsplit : before ++ cs ++ after =
        (before ++ start) ++ c :: (afterLast sep cs ++ after) := by
      conv_lhs => rw [hcs]
      simp
    rw [hsplit, afterLast_append hc]
    exact afterLast_of_sep_eq_false (List.forall_mem_append.2 ⟨hplain, hafter⟩)

/-- A change of characters that keeps the separators apart from the others keeps the cut. -/
theorem IsLastSegment.map {f : Char → Char} (hf : ∀ c, sep (f c) = sep c) {cs last : List Char}
    (h : IsLastSegment sep cs last) : IsLastSegment sep (cs.map f) (last.map f) := by
  obtain ⟨hplain, hlast⟩ := h
  constructor
  · intro d hd
    obtain ⟨c, hc, rfl⟩ := List.mem_map.1 hd
    rw [hf, hplain c hc]
  · rcases hlast with rfl | ⟨before, c, hc, rfl⟩
    · exact .inl rfl
    · exact .inr ⟨before.map f, f c, by rw [hf, hc], by simp⟩

theorem afterLast_map {f : Char → Char} (hf : ∀ c, sep (f c) = sep c) (cs : List Char) :
    afterLast sep (cs.map f) = (afterLast sep cs).map f :=
  afterLast_eq_iff.2 ((isLastSegment_afterLast sep cs).map hf)

end RouteAtlas.Text
