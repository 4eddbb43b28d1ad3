import Mathlib.Data.List.Induction
import Mathlib.Data.List.Nodup
import Mathlib.Data.List.Perm.Basic
import RouteAtlas.Dictionary

/-!
# RouteAtlas.Proofs.Dictionary — entries filed in any order

Filing entries under names makes up no entry, and the order in which entries of distinct names are
filed makes no difference: a dictionary is what its own entries are filed as, however they are
shuffled (`ofList_eq_of_perm`).  Where the entries of one dictionary overwrite those of another, the
overwriting ones are looked up first (`get?_overwrite`).
-/

namespace RouteAtlas

/-! ## Lists searched by a key -/

theorem find?_eq_none_of_not_mem {α : Type} {key : α → String} {xs : List α} {name : String}
    (h : name ∉ xs.map key) : xs.find? (key · == name) = none := by
  rw [List.find?_eq_none]
  intro x hx hname
  exact h (List.mem_map.2 ⟨x, hx, beq_iff_eq.1 hname⟩)

/-- Where the keys are distinct, an element is found exactly when it is there. -/
theorem find?_eq_some_iff_of_nodup {α : Type} {key : α → String} {xs : List α}
    (hkeys : (xs.map key).Nodup) {name : String} {x : α} :
    xs.find? (key · == name) = some x ↔ x ∈ xs ∧ key x = name := by
  constructor
  · intro h
    exact ⟨List.mem_of_find?_eq_some h, by simpa using List.find?_some h⟩
  · rintro ⟨hx, rfl⟩
    -- `x` passes the test, so some `y` is found, and `y` has the key of `x`
    cases hfind : xs.find? (key · == key x) with
    | none => exact absurd (List.find?_eq_none.1 hfind x hx) (by simp)
    | some y =>
      have hkey : key y = key x := by simpa using List.find?_some hfind
      rw [List.inj_on_of_nodup_map hkeys (List.mem_of_find?_eq_some hfind) hx hkey]

theorem find?_reverse_of_nodup {α : Type} {key : α → String} {xs : List α}
    (hkeys : (xs.map key).Nodup) (name : String) :
    xs.reverse.find? (key · == name) = xs.find? (key · == name) := by
  have hreversed : (xs.reverse.map key).Nodup := by
    rw [List.map_reverse]
    exact List.nodup_reverse.2 hkeys
  ext x
  rw [find?_eq_some_iff_of_nodup hreversed, find?_eq_some_iff_of_nodup hkeys, List.mem_reverse]

namespace Dictionary

variable {α : Type} {name : String} {value : α} {es xs : List (String × α)} {x : String × α}

/-! ## Entries filed one after the other -/

theorem insertEntry_perm (h : name ∉ es.map (·.1)) :
    (insertEntry name value es).Perm ((name, value) :: es) := by
  induction es with
  | nil => exact .refl _
  | cons e es ih =>
    rw [List.map_cons, List.mem_cons, not_or] at h
    obtain ⟨he, hes⟩ := h
    unfold insertEntry
    split
    · exact .refl _
    · exact ((ih hes).cons e).trans (.swap _ _ _)

theorem entries_foldl_insert_perm {d : Dictionary α} (h : (d.names ++ xs.map (·.1)).Nodup) :
    (xs.foldl (fun d e => d.insert e.1 e.2) d).entries.Perm (d.entries ++ xs) := by
  induction xs generalizing d with
  | nil => rw [List.append_nil, List.foldl_nil]
  | cons x xs ih =>
    have hx : x.1 ∉ d.names := by
      rw [List.map_cons, List.nodup_middle] at h
      exact fun hmem => (List.nodup_cons.1 h).1 (List.mem_append_left _ hmem)
    have hinsert : (d.insert x.1 x.2).entries.Perm (x :: d.entries) := insertEntry_perm hx
    have hnames : ((d.insert x.1 x.2).names ++ xs.map (·.1)).Nodup := by
      refine ((hinsert.map (·.1)).append_right _).nodup_iff.2 ?_
      rw [List.map_cons, List.nodup_middle] at h
      exact h
    rw [List.foldl_cons]
    exact (ih hnames).trans ((hinsert.append_right xs).trans List.perm_middle.symm)

theorem names_nodup (d : Dictionary α) : d.names.Nodup := by
  refine List.pairwise_map.2 (d.sorted.imp fun hlt heq => ?_)
  rw [heq] at hlt
  exact String.lt_irrefl _ hlt

/-- Entries of distinct names may be filed in any order. -/
theorem ofList_eq_of_perm {d : Dictionary α} (h : xs.Perm d.entries) : ofList xs = d := by
  have hnames : (xs.map (·.1)).Perm d.names := h.map (·.1)
  have hnodup : (xs.map (·.1)).Nodup := hnames.nodup_iff.2 d.names_nodup
  have hperm : (ofList xs).entries.Perm d.entries :=
    (entries_foldl_insert_perm (d := empty) hnodup).trans h
  have hentries : (ofList xs).entries = d.entries :=
    hperm.eq_of_pairwise (fun _ _ _ _ hab hba => absurd hba (String.lt_asymm hab))
      (ofList xs).sorted d.sorted
  obtain ⟨entries, sorted⟩ := d
  cases h : ofList xs
  rw [h] at hentries
  cases hentries
  rfl

/-- Entries of distinct names make the same dictionary in any order. -/
theorem ofList_eq_ofList_of_perm {ys : List (String × α)} (h : (xs.map (·.1)).Nodup)
    (hperm : ys.Perm xs) : ofList ys = ofList xs :=
  ofList_eq_of_perm (hperm.trans (entries_foldl_insert_perm (d := empty) h).symm)

theorem mem_names_iff {d : Dictionary α} : name ∈ d.names ↔ d.get? name ≠ none := by
  simp [names, get?]

theorem mem_of_mem_foldl_insert {d : Dictionary α}
    (h : x ∈ (xs.foldl (fun d e => d.insert e.1 e.2) d).entries) : x ∈ d.entries ∨ x ∈ xs := by
  induction xs generalizing d with
  | nil => exact .inl h
  | cons e xs ih =>
    rcases ih h with h | h
    · rcases mem_insertEntry h with rfl | h
      · exact .inr List.mem_cons_self
      · exact .inl h
    · exact .inr (List.mem_cons_of_mem _ h)

/-- Filing makes up no entry. -/
theorem mem_of_mem_ofList (h : x ∈ (ofList xs).entries) : x ∈ xs := by
  rcases mem_of_mem_foldl_insert h with h | h
  · cases h
  · exact h

/-! ## Entries overwritten -/

/-- The entries of `d` with those of `other` in place of the ones of the same name. -/
def overwrite (d other : Dictionary α) : Dictionary α :=
  other.entries.foldl (fun d e => d.insert e.1 e.2) d

/-- The last entry of a name counts, before those that were there. -/
theorem get?_foldl_insert (d : Dictionary α) (xs : List (String × α)) (name : String) :
    (xs.foldl (fun d e => d.insert e.1 e.2) d).get? name =
      ((xs.reverse.find? (·.1 == name)).map (·.2)).or (d.get? name) := by
  induction xs using List.reverseRecOn with
  | nil => rfl
  | append_singleton xs x ih =>
    rw [List.foldl_concat, get?_insert, ih, List.reverse_concat]
    by_cases hname : x.1 = name
    · rw [if_pos hname, List.find?_cons_of_pos (by simpa using hname)]
      rfl
    · rw [if_neg hname, List.find?_cons_of_neg (by simpa using hname)]

/-- The overwriting entries are looked up first. -/
theorem get?_overwrite (d other : Dictionary α) (name : String) :
    (d.overwrite other).get? name = (other.get? name).or (d.get? name) := by
  rw [overwrite, get?_foldl_insert, find?_reverse_of_nodup other.names_nodup]
  rfl

end Dictionary

end RouteAtlas
