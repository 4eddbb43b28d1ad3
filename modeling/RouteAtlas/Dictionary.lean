/-!
# RouteAtlas.Dictionary — values filed under names

A dictionary keeps its entries in increasing order of their names, each name once, so two
dictionaries with the same content are equal.  The main statement is `get?_insert`: an insertion
decides its own name and no other.
-/

namespace RouteAtlas

/-- Values filed under distinct names, in increasing order of the names. -/
structure Dictionary (α : Type) where
  entries : List (String × α)
  sorted : entries.Pairwise (fun a b => a.1 < b.1)

namespace Dictionary

variable {α : Type}

/-- The dictionary without entries. -/
def empty : Dictionary α := ⟨[], .nil⟩

instance : Inhabited (Dictionary α) := ⟨empty⟩

/-- The value filed under a name. -/
def get? (d : Dictionary α) (name : String) : Option α :=
  (d.entries.find? (fun e => e.1 == name)).map (·.2)

/-- The names, in increasing order. -/
def names (d : Dictionary α) : List String := d.entries.map (·.1)

/-- How many names there are. -/
def size (d : Dictionary α) : Nat := d.entries.length

/-- Files `value` under `name` in a sorted list, in place of what was there. -/
def insertEntry (name : String) (value : α) : List (String × α) → List (String × α)
  | [] => [(name, value)]
  | e :: es =>
    if name < e.1 then (name, value) :: e :: es
    else if name = e.1 then (name, value) :: es
    else e :: insertEntry name value es

theorem mem_insertEntry {name : String} {value : α} {es : List (String × α)} {x : String × α}
    (h : x ∈ insertEntry name value es) : x = (name, value) ∨ x ∈ es := by
  induction es with
  | nil => simpa [insertEntry] using h
  | cons e es ih =>
    simp only [insertEntry] at h
    split at h
    · simpa using h
    · split at h
      · rcases List.mem_cons.1 h with rfl | h
        · exact .inl rfl
        · exact .inr (List.mem_cons_of_mem _ h)
      · rcases List.mem_cons.1 h with rfl | h
        · exact .inr List.mem_cons_self
        · exact (ih h).imp_right (List.mem_cons_of_mem _)

theorem pairwise_insertEntry {name : String} {value : α} {es : List (String × α)}
    (h : es.Pairwise (fun a b => a.1 < b.1)) :
    (insertEntry name value es).Pairwise (fun a b => a.1 < b.1) := by
  induction es with
  | nil => simp [insertEntry]
  | cons e es ih =>
    obtain ⟨he, hes⟩ := List.pairwise_cons.1 h
    simp only [insertEntry]
    split
    next hlt =>
      refine List.pairwise_cons.2 ⟨fun x hx => ?_, h⟩
      rcases List.mem_cons.1 hx with rfl | hx
      · exact hlt
      · exact String.lt_trans hlt (he x hx)
    next hlt =>
      split
      next heq => exact List.pairwise_cons.2 ⟨fun x hx => heq ▸ he x hx, hes⟩
      next hne =>
        refine List.pairwise_cons.2 ⟨fun x hx => ?_, ih hes⟩
        rcases mem_insertEntry hx with rfl | hx
        · refine Decidable.byContradiction fun hge => hne ?_
          exact String.le_antisymm (String.not_lt.1 hge) (String.not_lt.1 hlt)
        · exact he x hx

/-- Files `value` under `name`, in place of what was there. -/
def insert (d : Dictionary α) (name : String) (value : α) : Dictionary α :=
  ⟨insertEntry name value d.entries, pairwise_insertEntry d.sorted⟩

/-- Files the entries one after the other, so that the last one of a name stays. -/
def ofList (es : List (String × α)) : Dictionary α :=
  es.foldl (fun d e => d.insert e.1 e.2) empty

@[simp] theorem get?_empty (name : String) : (empty : Dictionary α).get? name = none := rfl

/-- An insertion decides its own name and no other. -/
theorem get?_insert (d : Dictionary α) (name other : String) (value : α) :
    (d.insert name value).get? other = if name = other then some value else d.get? other := by
  obtain ⟨es, hes⟩ := d
  simp only [insert, get?]
  induction es with
  | nil => by_cases h : name = other <;> simp [insertEntry, h]
  | cons e es ih =>
    obtain ⟨-, hes'⟩ := List.pairwise_cons.1 hes
    have ih := ih hes'
    simp only [insertEntry]
    split
    · by_cases h : name = other <;> simp [List.find?_cons, h]
    · split
      next _ heq => by_cases h : name = other <;> simp_all
      next _ hne =>
        by_cases he : e.1 = other
        · have : name ≠ other := fun h => hne (h.trans he.symm)
          simp [he, this]
        · have he' : (e.1 == other) = false := by simpa using he
          simpa [List.find?_cons, he'] using ih

end Dictionary

end RouteAtlas
