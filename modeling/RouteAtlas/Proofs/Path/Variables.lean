import Mathlib.Data.List.Basic
import Mathlib.Data.List.Nodup
import RouteAtlas.Path
import RouteAtlas.Proofs.Dictionary
import RouteAtlas.Proofs.FirstAppearance

/-!
# RouteAtlas.Proofs.Path.Variables — the variables of joined and typed paths

A path has each of its variables once.  `names_join` says which names a joined path has and in which
order, and `mem_vars_join` that it makes up no variable; a variable of a text has the type that is
bound to its name.
-/

namespace RouteAtlas

namespace Path

/-! ## Variables put into a list -/

variable {vs : List PathVariable} {v : PathVariable}

/-- A name that is there stays in its place, a new one comes last. -/
theorem map_name_putVariable (vs : List PathVariable) (v : PathVariable) :
    (putVariable vs v).map (·.name) =
      if v.name ∈ vs.map (·.name) then vs.map (·.name) else vs.map (·.name) ++ [v.name] := by
  have hany : vs.any (·.name == v.name) = true ↔ v.name ∈ vs.map (·.name) := by
    simp [List.any_eq_true]
  unfold putVariable
  by_cases h : v.name ∈ vs.map (·.name)
  · rw [if_pos (hany.2 h), if_pos h, List.map_map]
    apply List.map_congr_left
    intro w _
    by_cases hw : w.name = v.name
    · simp [hw]
    · simp [hw]
  · rw [if_neg (fun hput => h (hany.1 hput)), if_neg h, List.map_append]
    rfl

theorem mem_putVariable {w : PathVariable} (h : w ∈ putVariable vs v) : w = v ∨ w ∈ vs := by
  unfold putVariable at h
  split at h
  · obtain ⟨x, hx, rfl⟩ := List.mem_map.1 h
    by_cases hname : x.name = v.name
    · rw [if_pos hname]
      exact .inl rfl
    · rw [if_neg hname]
      exact .inr hx
  · rcases List.mem_append.1 h with h | h
    · exact .inr h
    · exact .inl (List.mem_singleton.1 h)

/-- Of the variables put in, only the new names come after the others, in their order. -/
theorem map_name_foldl_putVariable {ws : List PathVariable} (vs : List PathVariable)
    (hws : (ws.map (·.name)).Nodup) :
    (ws.foldl putVariable vs).map (·.name) =
      vs.map (·.name) ++ (ws.map (·.name)).filter (· ∉ vs.map (·.name)) := by
  induction ws generalizing vs with
  | nil => simp
  | cons w ws ih =>
    obtain ⟨hw, hws⟩ := List.nodup_cons.1 hws
    rw [List.foldl_cons, ih _ hws, map_name_putVariable, List.map_cons]
    by_cases h : w.name ∈ vs.map (·.name)
    · rw [if_pos h, List.filter_cons_of_neg (by simpa using h)]
    · rw [if_neg h, List.filter_cons_of_pos (by simpa using h), List.append_assoc,
        List.singleton_append]
      -- the rest does not hold the name just put in, so it loses nothing more
      congr 2
      apply List.filter_congr
      intro name hname
      have hne : name ≠ w.name := by
        rintro rfl
        exact hw hname
      simp [hne]

theorem mem_foldl_putVariable {w : PathVariable} {ws : List PathVariable}
    (h : w ∈ ws.foldl putVariable vs) : w ∈ vs ∨ w ∈ ws := by
  induction ws generalizing vs with
  | nil => exact .inl h
  | cons x ws ih =>
    rcases ih h with h | h
    · rcases mem_putVariable h with rfl | h
      · exact .inr List.mem_cons_self
      · exact .inl h
    · exact .inr (List.mem_cons_of_mem x h)

/-- The variable just put in is found under its name, and under no other. -/
theorem find?_putVariable (vs : List PathVariable) (v : PathVariable) (name : String) :
    (putVariable vs v).find? (·.name == name) =
      if v.name = name then some v else vs.find? (·.name == name) := by
  unfold putVariable
  by_cases hany : vs.any (·.name == v.name) = true
  · have hkeep : ∀ w : PathVariable, (if w.name = v.name then v else w).name = w.name := by
      intro w
      by_cases hw : w.name = v.name
      · rw [if_pos hw, hw]
      · rw [if_neg hw]
    rw [if_pos hany, List.find?_map]
    simp only [Function.comp_def, hkeep]
    cases hfind : vs.find? (·.name == name) with
    | none =>
      obtain ⟨w, hw, hname⟩ := List.any_eq_true.1 hany
      have hne : v.name ≠ name := by
        rintro rfl
        exact List.find?_eq_none.1 hfind w hw hname
      rw [if_neg hne]
      rfl
    | some w =>
      have hw : w.name = name := by simpa using List.find?_some hfind
      by_cases hname : v.name = name
      · rw [if_pos hname, Option.map_some, if_pos (hw.trans hname.symm)]
      · rw [if_neg hname, Option.map_some, if_neg fun heq => hname (heq.symm.trans hw)]
  · have hnone : v.name ∉ vs.map (·.name) := by simpa using hany
    rw [if_neg hany, List.find?_append]
    by_cases hname : v.name = name
    · subst hname
      rw [if_pos rfl, find?_eq_none_of_not_mem hnone, List.find?_cons_of_pos (by simp)]
      rfl
    · rw [if_neg hname, List.find?_cons_of_neg (by simpa using hname), List.find?_nil,
        Option.or_none]

/-- Of the variables put in, the one of a name is found before any other of that name. -/
theorem find?_foldl_putVariable {ws : List PathVariable} (vs : List PathVariable)
    (hws : (ws.map (·.name)).Nodup) (name : String) :
    (ws.foldl putVariable vs).find? (·.name == name) =
      (ws.find? (·.name == name)).or (vs.find? (·.name == name)) := by
  induction ws generalizing vs with
  | nil => rfl
  | cons w ws ih =>
    obtain ⟨hw, hws⟩ := List.nodup_cons.1 hws
    rw [List.foldl_cons, ih _ hws, find?_putVariable]
    by_cases h : w.name = name
    · subst h
      rw [if_pos rfl, find?_eq_none_of_not_mem hw, List.find?_cons_of_pos (by simp)]
      rfl
    · rw [if_neg h, List.find?_cons_of_neg (by simpa using h)]

theorem name_typed (b : Binding) (v : PathVariable) : (typed b v).name = v.name := by
  unfold typed
  split <;> rfl

/-- A variable without a type gets the one that is bound to its name, if any. -/
theorem typeName_typed_untyped (b : Binding) (name : String) :
    (typed b { name }).typeName = b.get? name := by
  unfold typed
  split
  next typeName h => exact h.symm
  next h => exact h.symm

end Path

namespace PathFragment

/-- The names of the variables, in their order. -/
def names (p : PathFragment) : List String := p.vars.map (·.name)

variable {cls method : PathFragment}

theorem names_ofText (text : String) :
    (ofText text).names = Path.variableNames text.toList := by
  simp [names, ofText, Function.comp_def]

theorem nodup_names_ofText (text : String) : (ofText text).names.Nodup := by
  rw [names_ofText, Path.variableNames]
  exact nodup_eraseDups _

@[simp] theorem names_withTypes (p : PathFragment) (b : Binding) :
    (p.withTypes b).names = p.names := by
  simp [names, withTypes, Function.comp_def, Path.name_typed]

/-- **The names of a joined path** are those of the class path, then those that only the method path
has. -/
theorem names_join (h : method.names.Nodup) :
    (cls.join method).names = cls.names ++ method.names.filter (· ∉ cls.names) :=
  Path.map_name_foldl_putVariable cls.vars h

theorem nodup_names_join (hcls : cls.names.Nodup) (hmethod : method.names.Nodup) :
    (cls.join method).names.Nodup := by
  rw [names_join hmethod, List.nodup_append]
  refine ⟨hcls, hmethod.filter _, fun name hname other hother => ?_⟩
  rintro rfl
  simpa [hname] using (List.mem_filter.1 hother).2

theorem mem_vars_join {v : PathVariable} (h : v ∈ (cls.join method).vars) :
    v ∈ cls.vars ∨ v ∈ method.vars := Path.mem_foldl_putVariable h

/-! ## The type under a name -/

/-- A variable has the type that is found under its name. -/
theorem typeOf?_of_mem {p : PathFragment} (h : p.names.Nodup) {v : PathVariable}
    (hv : v ∈ p.vars) : p.typeOf? v.name = v.typeName := by
  have hfind : p.vars.find? (·.name == v.name) = some v :=
    (find?_eq_some_iff_of_nodup h).2 ⟨hv, rfl⟩
  rw [typeOf?, hfind]
  rfl

/-- The variables are determined by their names and by the types that are found under these. -/
theorem vars_eq_map_names {p : PathFragment} (h : p.names.Nodup) :
    p.vars = p.names.map fun name => ⟨name, p.typeOf? name⟩ := by
  rw [names, List.map_map]
  conv_lhs => rw [← List.map_id p.vars]
  apply List.map_congr_left
  intro v hv
  rw [Function.comp_apply, typeOf?_of_mem h hv]
  rfl

/-- **The types of a joined path.**  A variable of the method path has the type it has there, also
where it has none, and any other variable the type that it has in the class path. -/
theorem typeOf?_join (h : method.names.Nodup) (name : String) :
    (cls.join method).typeOf? name =
      if name ∈ method.names then method.typeOf? name else cls.typeOf? name := by
  have hfind : (cls.join method).vars.find? (·.name == name) =
      (method.vars.find? (·.name == name)).or (cls.vars.find? (·.name == name)) :=
    Path.find?_foldl_putVariable cls.vars h name
  rw [typeOf?, hfind]
  by_cases hname : name ∈ method.names
  · obtain ⟨v, hv, rfl⟩ := List.mem_map.1 hname
    rw [if_pos hname, typeOf?, (find?_eq_some_iff_of_nodup h).2 ⟨hv, rfl⟩]
    rfl
  · rw [if_neg hname, find?_eq_none_of_not_mem hname, Option.none_or, typeOf?]

theorem typeName_of_mem_vars {text : String} {b : Binding} {v : PathVariable}
    (h : v ∈ ((ofText text).withTypes b).vars) : v.typeName = b.get? v.name := by
  obtain ⟨w, hw, rfl⟩ := List.mem_map.1 h
  obtain ⟨name, -, rfl⟩ := List.mem_map.1 hw
  rw [Path.typeName_typed_untyped, Path.name_typed]

end PathFragment

end RouteAtlas
