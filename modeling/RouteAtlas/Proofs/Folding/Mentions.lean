import RouteAtlas.Attribute
import RouteAtlas.Proofs.Folding.Leaves

/-!
# RouteAtlas.Proofs.Folding.Mentions — the constants that a tree names anywhere

`mentions` lists the constants that are named in an expression or a declaration, however deep the
name stands, inside lists in braces too.  What is reachable from the expressions of a tree is
mentioned in the tree.
-/

namespace RouteAtlas

namespace Expr

mutual

/-- The constants that the names in an expression mean; lists in braces are looked into. -/
def mentions : Expr → List SymbolId
  | literal .. => []
  | concat left right => left.mentions ++ right.mentions
  | polyadic operands => mentionsAll operands
  | reference _ target => target.toList
  | array elements => mentionsAll elements
  | other _ => []

/-- The constants that the names in expressions mean. -/
def mentionsAll : List Expr → List SymbolId
  | [] => []
  | e :: es => e.mentions ++ mentionsAll es

end

theorem mentionsAll_eq_flatMap (es : List Expr) : mentionsAll es = es.flatMap mentions := by
  induction es with
  | nil => rfl
  | cons e es ih => rw [mentionsAll, ih, List.flatMap_cons]

@[simp] theorem mentions_polyadic (es : List Expr) :
    (polyadic es).mentions = es.flatMap mentions := mentionsAll_eq_flatMap es

@[simp] theorem mentions_array (es : List Expr) :
    (array es).mentions = es.flatMap mentions := mentionsAll_eq_flatMap es

theorem targets_subset_mentions (e : Expr) : e.targets ⊆ e.mentions := by
  induction e using structuralInduction with
  | literal | reference | array | other => simp [targets, mentions]
  | concat left right ihl ihr =>
    intro id hid
    exact List.mem_append.2 ((List.mem_append.1 hid).imp (fun h => ihl h) fun h => ihr h)
  | polyadic es ih =>
    intro id hid
    rw [targets_polyadic] at hid
    obtain ⟨e, he, hid⟩ := List.mem_flatMap.1 hid
    rw [mentions_polyadic]
    exact List.mem_flatMap.2 ⟨e, he, ih e he hid⟩

end Expr

/-- The constants named in the attributes. -/
def Annotation.mentions (a : Annotation) : List SymbolId :=
  a.attributes.entries.flatMap (·.2.mentions)

/-- The constants named in the annotations. -/
def Parameter.mentions (p : Parameter) : List SymbolId := p.annotations.flatMap (·.mentions)

/-- The constants named in the annotations of the method and of its parameters. -/
def Method.mentions (m : Method) : List SymbolId :=
  m.annotations.flatMap (·.mentions) ++ m.parameters.flatMap (·.mentions)

/-- The constants named in the initializer. -/
def Constant.mentions (c : Constant) : List SymbolId := c.initializer.toList.flatMap (·.mentions)

/-- The constants named anywhere in the type. -/
def TypeDecl.mentions (t : TypeDecl) : List SymbolId :=
  t.annotations.flatMap (·.mentions) ++ t.methods.flatMap (·.mentions) ++
    t.constants.flatMap (·.mentions)

/-- The constants named anywhere in the tree. -/
def SyntaxTree.mentions (tree : SyntaxTree) : List SymbolId := tree.types.flatMap (·.mentions)

theorem Annotation.mentions_of_attribute? {a : Annotation} {name : String} {e : Expr}
    (h : a.attribute? name = some e) : e.mentions ⊆ a.mentions := by
  obtain ⟨entry, hentry, rfl⟩ := Option.map_eq_some_iff.1 h
  intro id hid
  exact List.mem_flatMap.2 ⟨entry, List.mem_of_find?_eq_some hentry, hid⟩

theorem Annotation.mentions_of_mem_entries {a : Annotation} {name : String} {e : Expr}
    (h : e ∈ a.entries name) : e.mentions ⊆ a.mentions := by
  unfold Annotation.entries at h
  split at h
  · cases h
  next elements ha =>
    intro id hid
    refine Annotation.mentions_of_attribute? ha ?_
    rw [Expr.mentions_array]
    exact List.mem_flatMap.2 ⟨e, h, hid⟩
  next value _ ha =>
    rw [List.mem_singleton.1 h]
    exact Annotation.mentions_of_attribute? ha

namespace SyntaxTree

variable {tree : SyntaxTree}

/-- An initializer that is followed stands in the tree. -/
theorem mentions_of_initializer? {id : SymbolId} {init : Expr}
    (h : tree.initializer? id = some init) : init.mentions ⊆ tree.mentions := by
  obtain ⟨c, hc, hinit, -⟩ := initializer?_eq_some_iff.1 h
  obtain ⟨t, ht, hct⟩ := Option.bind_eq_some_iff.1 hc
  intro other hother
  refine List.mem_flatMap.2 ⟨t, List.mem_of_find?_eq_some ht, List.mem_append_right _ ?_⟩
  refine List.mem_flatMap.2 ⟨c, List.mem_of_find?_eq_some hct, ?_⟩
  exact List.mem_flatMap.2 ⟨init, by simp [hinit], hother⟩

/-- Names of a tree lead only to names of the tree. -/
theorem Reachable.mem_mentions {e : Expr} {id : SymbolId} (h : tree.Reachable e id)
    (he : e.targets ⊆ tree.mentions) : id ∈ tree.mentions := by
  obtain ⟨t, ht, hpath⟩ := h
  -- each step of the path goes through an initializer, and that stands in the tree
  induction hpath with
  | refl => exact he ht
  | tail _ hstep _ =>
    obtain ⟨init, hinit, hother⟩ := hstep
    exact mentions_of_initializer? hinit (init.targets_subset_mentions hother)

end SyntaxTree

end RouteAtlas
