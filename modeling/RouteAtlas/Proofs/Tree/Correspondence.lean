import Mathlib.Data.List.Forall2
import Mathlib.Data.List.Nodup
import Mathlib.Data.List.Perm.Basic
import RouteAtlas.Proofs.Dictionary
import RouteAtlas.Tree.Basic

/-!
# RouteAtlas.Proofs.Tree.Correspondence — trees compared type by type

Two trees correspond when they have the same files in the same order and the types in them are
related place by place; one is a rearrangement of the other when only the order differs.  Both are
passed on to the list of all types and to the type that a name means.
-/

namespace RouteAtlas

/-! ## Lists and options related place by place -/

section Related

variable {α β γ : Type} {R : α → β → Prop} {xs : List α} {ys : List β}

theorem find?_rel {p : α → Bool} {q : β → Bool} (hpq : ∀ x y, R x y → p x = q y)
    (h : List.Forall₂ R xs ys) : Option.Rel R (xs.find? p) (ys.find? q) := by
  induction h with
  | nil => exact .none
  | @cons x y xs ys hxy _ ih =>
    rw [List.find?_cons, List.find?_cons, ← hpq x y hxy]
    cases p x with
    | true => exact .some hxy
    | false => exact ih

theorem bind_rel {δ : Type} {S : γ → δ → Prop} {f : α → Option γ} {g : β → Option δ}
    (hfg : ∀ x y, R x y → Option.Rel S (f x) (g y)) {x? : Option α} {y? : Option β}
    (h : Option.Rel R x? y?) : Option.Rel S (x?.bind f) (y?.bind g) := by
  cases h with
  | none => exact .none
  | some hxy => exact hfg _ _ hxy

theorem map_rel {δ : Type} {S : γ → δ → Prop} {f : α → γ} {g : β → δ}
    (hfg : ∀ x y, R x y → S (f x) (g y)) {x? : Option α} {y? : Option β}
    (h : Option.Rel R x? y?) : Option.Rel S (x?.map f) (y?.map g) := by
  cases h with
  | none => exact .none
  | some hxy => exact .some (hfg _ _ hxy)

theorem eq_none_of_rel {y? : Option β} (h : Option.Rel R none y?) : y? = none := by
  cases h
  rfl

theorem exists_of_rel {x : α} {y? : Option β} (h : Option.Rel R (some x) y?) :
    ∃ y, y? = some y ∧ R x y := by
  cases h with
  | some hxy => exact ⟨_, rfl, hxy⟩

theorem bind_eq_of_rel {f : α → Option γ} {g : β → Option γ} (hfg : ∀ x y, R x y → f x = g y)
    {x? : Option α} {y? : Option β} (h : Option.Rel R x? y?) : x?.bind f = y?.bind g := by
  cases h with
  | none => rfl
  | some hxy => exact hfg _ _ hxy

theorem map_eq_of_rel {f : α → γ} {g : β → γ} (hfg : ∀ x y, R x y → f x = g y) {x? : Option α}
    {y? : Option β} (h : Option.Rel R x? y?) : x?.map f = y?.map g := by
  cases h with
  | none => rfl
  | some hxy => exact congrArg some (hfg _ _ hxy)

theorem map_eq_of_forall₂ {f : α → γ} {g : β → γ} (h : List.Forall₂ R xs ys) :
    (∀ x ∈ xs, ∀ y, R x y → f x = g y) → xs.map f = ys.map g := by
  induction h with
  | nil => exact fun _ => rfl
  | cons hxy _ ih =>
    intro hfg
    rw [List.map_cons, List.map_cons, hfg _ List.mem_cons_self _ hxy,
      ih fun x hx => hfg x (List.mem_cons_of_mem _ hx)]

theorem filter_rel {p : α → Bool} {q : β → Bool} (hpq : ∀ x y, R x y → p x = q y)
    (h : List.Forall₂ R xs ys) : List.Forall₂ R (xs.filter p) (ys.filter q) := by
  refine List.rel_filter (fun x y hxy => ?_) h
  show p x = true ↔ q y = true
  rw [hpq x y hxy]

theorem flatMap_eq_of_rel {f : α → List γ} {g : β → List γ} (hfg : ∀ x y, R x y → f x = g y)
    (h : List.Forall₂ R xs ys) : xs.flatMap f = ys.flatMap g := by
  induction h with
  | nil => rfl
  | cons hxy _ ih => rw [List.flatMap_cons, List.flatMap_cons, hfg _ _ hxy, ih]

theorem flatMap_perm_of_rel {f : α → List γ} {g : β → List γ}
    (hfg : ∀ x y, R x y → (f x).Perm (g y)) (h : List.Forall₂ R xs ys) :
    (xs.flatMap f).Perm (ys.flatMap g) := by
  induction h with
  | nil => exact .nil
  | cons hxy _ ih =>
    rw [List.flatMap_cons, List.flatMap_cons]
    exact (hfg _ _ hxy).append ih

theorem flatMap_sublist_of_rel {f : α → List γ} {g : β → List γ}
    (hfg : ∀ x y, R x y → (g y).Sublist (f x)) (h : List.Forall₂ R xs ys) :
    (ys.flatMap g).Sublist (xs.flatMap f) := by
  induction h with
  | nil => exact .slnil
  | cons hxy _ ih =>
    rw [List.flatMap_cons, List.flatMap_cons]
    exact (hfg _ _ hxy).append ih

theorem filterMap_eq_of_rel {f : α → Option γ} {g : β → Option γ}
    (hfg : ∀ x y, R x y → f x = g y) (h : List.Forall₂ R xs ys) :
    xs.filterMap f = ys.filterMap g := by
  induction h with
  | nil => rfl
  | cons hxy _ ih => rw [List.filterMap_cons, List.filterMap_cons, hfg _ _ hxy, ih]

end Related

/-! ## Trees -/

/-- The units have the same file, and their types are related place by place. -/
structure SourceUnit.Corresponds (R : TypeDecl → TypeDecl → Prop) (u u' : SourceUnit) : Prop where
  file : u.file = u'.file
  types : List.Forall₂ R u.types u'.types

/-- The units have the same file and the same types, perhaps in another order. -/
structure SourceUnit.Rearranged (u u' : SourceUnit) : Prop where
  file : u.file = u'.file
  types : u.types.Perm u'.types

namespace SyntaxTree

/-- The trees have the same files in the same order, and their types are related place by place. -/
def Corresponds (R : TypeDecl → TypeDecl → Prop) (tree tree' : SyntaxTree) : Prop :=
  List.Forall₂ (SourceUnit.Corresponds R) tree.units tree'.units

/-- The trees have the same units up to their order and up to the order of the types in each. -/
def Rearranged (tree tree' : SyntaxTree) : Prop :=
  ∃ units, tree.units.Perm units ∧ List.Forall₂ SourceUnit.Rearranged units tree'.units

/-- All types, each with the file that it is declared in. -/
def filedTypes (tree : SyntaxTree) : List (Option String × TypeDecl) :=
  tree.units.flatMap fun u => u.types.map (u.file, ·)

theorem map_filedTypes (tree : SyntaxTree) : tree.filedTypes.map (·.2) = tree.types := by
  simp [filedTypes, types, List.map_flatMap, Function.comp_def]

theorem mem_types_of_mem_filedTypes (tree : SyntaxTree) {p : Option String × TypeDecl}
    (h : p ∈ tree.filedTypes) : p.2 ∈ tree.types := by
  rw [← map_filedTypes]
  exact List.mem_map_of_mem h

variable {R : TypeDecl → TypeDecl → Prop} {tree tree' : SyntaxTree}

/-- A tree corresponds to itself where its types are related to themselves. -/
theorem corresponds_self (h : ∀ t ∈ tree.types, R t t) : tree.Corresponds R tree := by
  refine List.forall₂_same.2 fun u hu => ⟨rfl, List.forall₂_same.2 fun t ht => ?_⟩
  exact h t (List.mem_flatMap_of_mem hu ht)

/-- The tree with every type replaced. -/
def mapTypes (f : TypeDecl → TypeDecl) (tree : SyntaxTree) : SyntaxTree :=
  ⟨tree.units.map fun u => { u with types := u.types.map f }⟩

theorem types_mapTypes (f : TypeDecl → TypeDecl) (tree : SyntaxTree) :
    (tree.mapTypes f).types = tree.types.map f := by
  rw [types, mapTypes, List.flatMap_map, types, List.map_flatMap]

theorem corresponds_mapTypes {f : TypeDecl → TypeDecl} (h : ∀ t, R t (f t)) :
    tree.Corresponds R (tree.mapTypes f) := by
  refine List.forall₂_map_right_iff.2 (List.forall₂_same.2 fun u _ => ⟨rfl, ?_⟩)
  exact List.forall₂_map_right_iff.2 (List.forall₂_same.2 fun t _ => h t)

theorem Corresponds.mono {S : TypeDecl → TypeDecl → Prop} (hRS : ∀ t t', R t t' → S t t')
    (h : tree.Corresponds R tree') : tree.Corresponds S tree' :=
  List.Forall₂.imp (fun _ _ hu => ⟨hu.file, hu.types.imp hRS⟩) h

theorem Corresponds.filedTypes (h : tree.Corresponds R tree') :
    List.Forall₂ (fun p q => p.1 = q.1 ∧ R p.2 q.2) tree.filedTypes tree'.filedTypes := by
  refine List.rel_flatMap h fun u u' hu => ?_
  refine List.rel_map (fun t t' ht => ?_) hu.types
  exact ⟨hu.file, ht⟩

theorem Corresponds.types (h : tree.Corresponds R tree') :
    List.Forall₂ R tree.types tree'.types := by
  rw [← map_filedTypes, ← map_filedTypes]
  exact List.rel_map (fun _ _ hpq => hpq.2) h.filedTypes

/-- Names mean related types, where related types have the same name. -/
theorem Corresponds.type? (hname : ∀ t t', R t t' → t.qualifiedName = t'.qualifiedName)
    (h : tree.Corresponds R tree') (name : String) :
    Option.Rel R (tree.type? name) (tree'.type? name) := by
  refine find?_rel (fun t t' ht => ?_) h.types
  rw [hname t t' ht]

theorem Rearranged.filedTypes (h : tree.Rearranged tree') :
    tree.filedTypes.Perm tree'.filedTypes := by
  obtain ⟨units, hperm, hunits⟩ := h
  -- first the units change places, then the types in each unit
  refine (hperm.flatMap_right _).trans (flatMap_perm_of_rel (fun u u' hu => ?_) hunits)
  rw [hu.file]
  exact hu.types.map _

theorem Rearranged.types (h : tree.Rearranged tree') : tree.types.Perm tree'.types := by
  rw [← map_filedTypes, ← map_filedTypes]
  exact h.filedTypes.map _

/-- Where the names of types are distinct, a name means the same type in any order. -/
theorem Rearranged.type?_eq (hnames : (tree.types.map (·.qualifiedName)).Nodup)
    (h : tree.Rearranged tree') (name : String) : tree.type? name = tree'.type? name := by
  have hnames' : (tree'.types.map (·.qualifiedName)).Nodup := (h.types.map _).nodup hnames
  refine Option.ext fun t => ?_
  rw [type?, type?, find?_eq_some_iff_of_nodup hnames, find?_eq_some_iff_of_nodup hnames',
    h.types.mem_iff]

end SyntaxTree

end RouteAtlas
