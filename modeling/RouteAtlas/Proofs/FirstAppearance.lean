import Mathlib.Data.List.Basic
import Mathlib.Data.List.Nodup
import Mathlib.Data.List.Induction

/-!
# RouteAtlas.Proofs.FirstAppearance — values listed once

Of equal values `eraseDups` keeps the first, so a value that is there already adds nothing.  The
main statement is `firstAppearances_eraseDups`: the values that a list gives are kept once each, in
the order in which they appear first.
-/

namespace RouteAtlas

variable {α β : Type}

theorem nodup_eraseDups [BEq α] [LawfulBEq α] : ∀ xs : List α, xs.eraseDups.Nodup
  | [] => by simp
  | x :: xs => by
    rw [List.eraseDups_cons, List.nodup_cons]
    constructor
    · simp
    · exact nodup_eraseDups _
termination_by xs => xs.length
decreasing_by exact Nat.lt_succ_of_le (List.length_filter_le _ _)

theorem eraseDups_concat [BEq α] [LawfulBEq α] (xs : List α) (x : α) :
    (xs ++ [x]).eraseDups = if x ∈ xs then xs.eraseDups else xs.eraseDups ++ [x] := by
  rw [List.eraseDups_append]
  by_cases hx : x ∈ xs
  · have hnone : [x].removeAll xs = [] := by simp [List.removeAll, hx]
    rw [if_pos hx, hnone, List.eraseDups_nil, List.append_nil]
  · have hone : [x].removeAll xs = [x] := by simp [List.removeAll, hx]
    rw [if_neg hx, hone, List.eraseDups_cons, List.filter_nil, List.eraseDups_nil]

theorem eraseDups_filter [BEq α] [LawfulBEq α] (p : α → Bool) (xs : List α) :
    (xs.filter p).eraseDups = xs.eraseDups.filter p := by
  induction xs using List.reverseRecOn with
  | nil => simp
  | append_singleton xs x ih =>
    rw [List.filter_append, eraseDups_concat]
    cases hp : p x with
    | false =>
      rw [List.filter_cons_of_neg (by simp [hp]), List.filter_nil, List.append_nil, ih]
      split
      · rfl
      · simp [hp]
    | true =>
      rw [List.filter_cons_of_pos hp, List.filter_nil, eraseDups_concat, ih]
      by_cases hx : x ∈ xs
      · rw [if_pos hx, if_pos (List.mem_filter.2 ⟨hx, hp⟩)]
      · rw [if_neg hx, if_neg fun hmem => hx (List.mem_of_mem_filter hmem)]
        simp [hp]

/-- A value that is there already adds nothing. -/
theorem eraseDups_append_cons_of_mem [BEq α] [LawfulBEq α] {xs : List α} {x : α} (hx : x ∈ xs)
    (ys : List α) : (xs ++ x :: ys).eraseDups = (xs ++ ys).eraseDups := by
  have hremove : (x :: ys).removeAll xs = ys.removeAll xs := by
    rw [List.removeAll, List.removeAll, List.filter_cons_of_neg (by simp [hx])]
  rw [List.eraseDups_append, List.eraseDups_append, hremove]

/-- A member that gives nothing, or what an earlier member gives, may be inserted anywhere. -/
theorem eraseDups_filterMap_insert [BEq β] [LawfulBEq β] {f : α → Option β} {xs : List α} {x : α}
    (h : f x = none ∨ ∃ w ∈ xs, f x = f w) (ys : List α) :
    ((xs ++ x :: ys).filterMap f).eraseDups = ((xs ++ ys).filterMap f).eraseDups := by
  rw [List.filterMap_append, List.filterMap_append]
  cases hx : f x with
  | none => rw [List.filterMap_cons_none hx]
  | some b =>
    have hb : b ∈ xs.filterMap f := by
      rcases h with h | ⟨w, hw, h⟩
      · rw [hx] at h
        cases h
      · exact List.mem_filterMap.2 ⟨w, hw, h ▸ hx⟩
    rw [List.filterMap_cons_some hx, eraseDups_append_cons_of_mem hb]

/-- Of equal values `eraseDups` keeps the first, so a value that is kept stands before all that
give a later one. -/
theorem pairwise_eraseDups_filterMap [BEq β] [LawfulBEq β] {earlier : α → α → Prop}
    (f : α → Option β) {xs : List α} (h : xs.Pairwise earlier) :
    (xs.filterMap f).eraseDups.Pairwise fun a b =>
      ∃ x ∈ xs, f x = some a ∧ ∀ y ∈ xs, f y = some b → earlier x y := by
  induction xs using List.reverseRecOn with
  | nil => simp
  | append_singleton xs x ih =>
    obtain ⟨hxs, -, hlast⟩ := List.pairwise_append.1 h
    have hbefore : ∀ y ∈ xs, earlier y x := fun y hy => hlast y hy x List.mem_cons_self
    -- what `x` gives comes last, so it stands behind all that is there already
    have hold : (xs.filterMap f).eraseDups.Pairwise fun a b =>
        ∃ y ∈ xs ++ [x], f y = some a ∧ ∀ z ∈ xs ++ [x], f z = some b → earlier y z := by
      refine (ih hxs).imp fun {a b} hab => ?_
      obtain ⟨y, hy, hfy, hall⟩ := hab
      refine ⟨y, List.mem_append_left _ hy, hfy, fun z hz hfz => ?_⟩
      rcases List.mem_append.1 hz with hz | hz
      · exact hall z hz hfz
      · rw [List.mem_singleton.1 hz]
        exact hbefore y hy
    rw [List.filterMap_append]
    cases hfx : f x with
    | none =>
      rw [List.filterMap_cons_none hfx, List.filterMap_nil, List.append_nil]
      exact hold
    | some b =>
      rw [List.filterMap_cons_some hfx, List.filterMap_nil, eraseDups_concat]
      by_cases hb : b ∈ xs.filterMap f
      · rw [if_pos hb]
        exact hold
      · rw [if_neg hb]
        refine List.pairwise_append.2 ⟨hold, List.pairwise_singleton _ _, fun a ha b' hb' => ?_⟩
        obtain rfl := List.mem_singleton.1 hb'
        obtain ⟨y, hy, hfy⟩ := List.mem_filterMap.1 (List.mem_eraseDups.1 ha)
        refine ⟨y, List.mem_append_left _ hy, hfy, fun z hz hfz => ?_⟩
        rcases List.mem_append.1 hz with hz | hz
        · exact absurd (List.mem_filterMap.2 ⟨z, hz, hfz⟩) hb
        · rw [List.mem_singleton.1 hz]
          exact hbefore y hy

/-- What `f` gives of the members of `xs`, each once and in the order of first appearance. -/
structure FirstAppearances (f : α → Option β) (xs : List α) (ys : List β) : Prop where
  mem_iff : ∀ y, y ∈ ys ↔ ∃ x ∈ xs, f x = some y
  nodup : ys.Nodup
  /-- Some member gives the earlier value and stands before all that give the later one. -/
  ordered : ys.Pairwise fun y z => ∃ (i : ℕ) (x : α), xs[i]? = some x ∧ f x = some y ∧
    ∀ (j : ℕ) (x' : α), xs[j]? = some x' → f x' = some z → i < j

theorem firstAppearances_eraseDups [BEq β] [LawfulBEq β] (f : α → Option β) (xs : List α) :
    FirstAppearances f xs (xs.filterMap f).eraseDups where
  mem_iff y := by rw [List.mem_eraseDups, List.mem_filterMap]
  nodup := nodup_eraseDups _
  ordered := by
    -- the members are numbered, so that their order is one of numbers
    have hnumbered : xs.filterMap f = xs.zipIdx.filterMap fun p => f p.1 := by
      conv_lhs => rw [← List.zipIdx_map_fst 0 xs, List.filterMap_map]
      rfl
    have hsorted : xs.zipIdx.Pairwise fun p q => p.2 < q.2 := by
      rw [← List.pairwise_map (f := Prod.snd), List.zipIdx_map_snd]
      exact List.pairwise_lt_range'
    rw [hnumbered]
    refine (pairwise_eraseDups_filterMap _ hsorted).imp fun {y z} h => ?_
    obtain ⟨⟨x, i⟩, hx, hfx, hall⟩ := h
    refine ⟨i, x, List.mem_zipIdx_iff_getElem?.1 hx, hfx, fun j x' hx' hfx' => ?_⟩
    exact hall (x', j) (List.mem_zipIdx_iff_getElem?.2 hx') hfx'

end RouteAtlas
