import RouteAtlas.Proofs.Path.Variables

/-!
# RouteAtlas.Proofs.Path.Retyping — paths typed before and after they are joined

A binding gives types to variables one by one and leaves their names alone, so it does not matter
whether paths are typed first and then joined or the other way round, and two bindings act like the
one in which the second overwrites the first.
-/

namespace RouteAtlas

namespace Path

/-- A binding decides the types of its own names and no others. -/
theorem typed_eq (b : Binding) (v : PathVariable) :
    typed b v = ⟨v.name, (b.get? v.name).or v.typeName⟩ := by
  unfold typed
  split
  next typeName h => rw [h, Option.some_or]
  next h => rw [h, Option.none_or]

theorem typed_typed (b other : Binding) (v : PathVariable) :
    typed other (typed b v) = typed (b.overwrite other) v := by
  rw [typed_eq, typed_eq, typed_eq, Dictionary.get?_overwrite, Option.or_assoc]

theorem map_typed_putVariable (b : Binding) (vs : List PathVariable) (v : PathVariable) :
    (putVariable vs v).map (typed b) = putVariable (vs.map (typed b)) (typed b v) := by
  have hany : (vs.map (typed b)).any (·.name == (typed b v).name) = vs.any (·.name == v.name) := by
    simp only [List.any_map, Function.comp_def, name_typed]
  unfold putVariable
  rw [hany]
  by_cases h : vs.any (·.name == v.name) = true
  · rw [if_pos h, if_pos h, List.map_map, List.map_map]
    apply List.map_congr_left
    intro w _
    rw [Function.comp_apply, Function.comp_apply, apply_ite (typed b), name_typed, name_typed]
  · rw [if_neg h, if_neg h, List.map_append, List.map_singleton]

theorem map_typed_foldl_putVariable (b : Binding) (vs ws : List PathVariable) :
    (ws.foldl putVariable vs).map (typed b) =
      (ws.map (typed b)).foldl putVariable (vs.map (typed b)) := by
  induction ws generalizing vs with
  | nil => rfl
  | cons w ws ih => rw [List.foldl_cons, ih, map_typed_putVariable, List.map_cons, List.foldl_cons]

end Path

namespace PathFragment

/-- Joining first and typing then is typing first and joining then. -/
theorem withTypes_join (b : Binding) (cls method : PathFragment) :
    (cls.join method).withTypes b = (cls.withTypes b).join (method.withTypes b) := by
  have hvars : (method.vars.foldl Path.putVariable cls.vars).map (Path.typed b) =
      (method.vars.map (Path.typed b)).foldl Path.putVariable (cls.vars.map (Path.typed b)) :=
    Path.map_typed_foldl_putVariable b cls.vars method.vars
  rw [join, withTypes, hvars]
  rfl

theorem withTypes_withTypes (b other : Binding) (p : PathFragment) :
    (p.withTypes b).withTypes other = p.withTypes (b.overwrite other) := by
  have hvars : (p.vars.map (Path.typed b)).map (Path.typed other) =
      p.vars.map (Path.typed (b.overwrite other)) := by
    rw [List.map_map]
    apply List.map_congr_left
    intro v _
    exact Path.typed_typed b other v
  rw [withTypes, withTypes, hvars, withTypes]

theorem getElem?_vars_withTypes (b : Binding) (p : PathFragment) (i : Nat) :
    (p.withTypes b).vars[i]? =
      p.vars[i]?.map fun v => ⟨v.name, (b.get? v.name).or v.typeName⟩ := by
  rw [withTypes, List.getElem?_map, funext (Path.typed_eq b)]

/-- **Typing goes along with joining and composes.**  A joined path may be typed before or after it
is joined.  Two bindings, one after the other, type a path like the one that holds the entries of
the first overwritten by those of the second.  Typing keeps the text, the names and their order, and
in its place each variable with an entry gets the type of the entry and any other keeps its own. -/
theorem withTypes_join_overwrite :
    (∀ (b : Binding) (cls method : PathFragment),
      (cls.join method).withTypes b = (cls.withTypes b).join (method.withTypes b)) ∧
    (∀ b other : Binding,
      (∀ name, (b.overwrite other).get? name = (other.get? name).or (b.get? name)) ∧
        ∀ p : PathFragment, (p.withTypes b).withTypes other = p.withTypes (b.overwrite other)) ∧
    ∀ (b : Binding) (p : PathFragment),
      (p.withTypes b).text = p.text ∧ (p.withTypes b).names = p.names ∧
        ∀ (i : Nat) (v : PathVariable), p.vars[i]? = some v →
          (b.get? v.name = none → (p.withTypes b).vars[i]? = some v) ∧
          ∀ typeName, b.get? v.name = some typeName →
            (p.withTypes b).vars[i]? = some ⟨v.name, some typeName⟩ := by
  refine ⟨withTypes_join, fun b other => ⟨b.get?_overwrite other, withTypes_withTypes b other⟩,
    fun b p => ⟨rfl, names_withTypes p b, fun i v hv => ⟨fun hnone => ?_, fun t hsome => ?_⟩⟩⟩
  · rw [getElem?_vars_withTypes, hv, Option.map_some, hnone, Option.none_or]
  · rw [getElem?_vars_withTypes, hv, Option.map_some, hsome, Option.some_or]

/-- Of two variables the binding has an entry for one, and the other stays untyped. -/
theorem withTypes_join_overwrite_bound :
    let p := ofText "/\x7bid\x7d/\x7bslug\x7d"
    let b : Binding := Dictionary.empty.insert "id" "Long"
    p.vars[0]? = some ⟨"id", none⟩ ∧ b.get? "id" = some "Long" ∧
      (p.withTypes b).vars[0]? = some ⟨"id", some "Long"⟩ ∧
      p.vars[1]? = some ⟨"slug", none⟩ ∧ b.get? "slug" = none ∧
      (p.withTypes b).vars[1]? = some ⟨"slug", none⟩ := by
  intro p b
  have hid : p.vars[0]? = some ⟨"id", none⟩ := by cbv
  have hslug : p.vars[1]? = some ⟨"slug", none⟩ := by cbv
  have hbound : b.get? "id" = some "Long" := by decide
  have hunbound : b.get? "slug" = none := by decide
  obtain ⟨-, -, htypes⟩ := withTypes_join_overwrite
  obtain ⟨-, -, hvars⟩ := htypes b p
  exact ⟨hid, hbound, (hvars 0 _ hid).2 "Long" hbound, hslug, hunbound,
    (hvars 1 _ hslug).1 hunbound⟩

end PathFragment

end RouteAtlas
