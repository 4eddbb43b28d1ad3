import RouteAtlas.Attribute
import RouteAtlas.Proofs.Folding.Leaves
import RouteAtlas.Proofs.Folding.Steps
import RouteAtlas.Proofs.Tree.Correspondence

/-!
# RouteAtlas.Proofs.Folding.Grouping — concatenations grouped in another way

Concatenations are grouped by pairs and by lists.  The main statement is that the grouping is not
noticed, neither in an expression nor in the initializers that its names lead to: the text, the
written form and the reading of an attribute depend on the leaves alone.
-/

namespace RouteAtlas

/-! ## Trees whose initializers are grouped in another way -/

/-- The constants differ at most in how the initializer is grouped, where it can be folded. -/
inductive Constant.Regrouped : Constant → Constant → Prop
  | same (c : Constant) : Regrouped c c
  | regroup (name : String) {init init' : Expr} : init.isFoldable = true →
    init'.isFoldable = true → init.leaves = init'.leaves →
    Regrouped { name, initializer := some init } { name, initializer := some init' }

/-- The types differ at most in how the initializers of constants are grouped. -/
structure TypeDecl.Regrouped (t t' : TypeDecl) : Prop where
  eq_with_constants : t' = { t with constants := t'.constants }
  constants : List.Forall₂ Constant.Regrouped t.constants t'.constants

theorem Constant.Regrouped.name_eq {c c' : Constant} (h : c.Regrouped c') : c.name = c'.name := by
  cases h with
  | same => rfl
  | regroup => rfl

theorem Constant.Regrouped.leaves_folded? {c c' : Constant} (h : c.Regrouped c') :
    c.folded?.map Expr.leaves = c'.folded?.map Expr.leaves := by
  cases h with
  | same => rfl
  | regroup name hinit hinit' hleaves =>
    simp only [Constant.folded?, Option.filter_some, hinit, hinit', if_true, Option.map_some,
      hleaves]

theorem TypeDecl.Regrouped.qualifiedName_eq {t t' : TypeDecl} (h : t.Regrouped t') :
    t.qualifiedName = t'.qualifiedName := by
  rw [h.eq_with_constants]

theorem TypeDecl.Regrouped.constant? {t t' : TypeDecl} (h : t.Regrouped t') (name : String) :
    Option.Rel Constant.Regrouped (t.constant? name) (t'.constant? name) := by
  refine find?_rel (fun c c' hc => ?_) h.constants
  rw [hc.name_eq]

namespace SyntaxTree

variable {tree tree' : SyntaxTree}

theorem Corresponds.constant?_regrouped (h : tree.Corresponds TypeDecl.Regrouped tree')
    (id : SymbolId) :
    Option.Rel Constant.Regrouped (tree.constant? id) (tree'.constant? id) := by
  have htype := h.type? (fun _ _ ht => ht.qualifiedName_eq) id.owner
  exact bind_rel (fun _ _ ht => ht.constant? id.field) htype

theorem Corresponds.agreesAt_of_regrouped (h : tree.Corresponds TypeDecl.Regrouped tree')
    (id : SymbolId) : tree.AgreesAt tree' id :=
  .of_rel (fun _ _ hc => hc.leaves_folded?) (h.constant?_regrouped id)

end SyntaxTree

/-! ## The written form -/

namespace Expr

/-- A concatenation, of a pair or of a list of operands. -/
def isConcatenation : Expr → Bool
  | concat .. | polyadic .. => true
  | literal .. | reference .. | array .. | other .. => false

/-- No concatenation in the expression is without operands. -/
inductive NoEmptyPolyadic : Expr → Prop
  | leaf {e : Expr} : e.isConcatenation = false → NoEmptyPolyadic e
  | concat {left right : Expr} : NoEmptyPolyadic left → NoEmptyPolyadic right →
    NoEmptyPolyadic (.concat left right)
  | polyadic {es : List Expr} : es ≠ [] → (∀ e ∈ es, NoEmptyPolyadic e) →
    NoEmptyPolyadic (.polyadic es)

theorem leaves_of_not_isConcatenation {e : Expr} (h : e.isConcatenation = false) :
    e.leaves = [e] := by
  cases e with
  | concat | polyadic => cases h
  | literal | reference | array | other => rfl

theorem NoEmptyPolyadic.leaves_ne_nil {e : Expr} (h : e.NoEmptyPolyadic) : e.leaves ≠ [] := by
  induction h with
  | leaf hleaf =>
    rw [leaves_of_not_isConcatenation hleaf]
    exact List.cons_ne_nil _ _
  | concat _ _ ihl _ =>
    rw [leaves]
    exact List.append_ne_nil_of_left_ne_nil ihl _
  | @polyadic es hne _ ih =>
    obtain ⟨e, es, rfl⟩ := List.exists_cons_of_ne_nil hne
    rw [leaves_polyadic, List.flatMap_cons]
    exact List.append_ne_nil_of_left_ne_nil (ih e List.mem_cons_self) _

/-- Texts put together in groups, none of them empty, and the groups put together are the texts
put together. -/
theorem intercalate_flatMap {α : Type} (sep : String) (f : α → List String) :
    ∀ xs : List α, (∀ x ∈ xs, f x ≠ []) →
      sep.intercalate (xs.map fun x => sep.intercalate (f x)) = sep.intercalate (xs.flatMap f)
  | [], _ => rfl
  | [x], _ => by
    rw [List.map_singleton, String.intercalate_singleton, List.flatMap_singleton]
  | x :: y :: xs, h => by
    have hrest := intercalate_flatMap sep f (y :: xs) fun z hz => h z (List.mem_cons_of_mem x hz)
    have hne : (y :: xs).flatMap f ≠ [] := by
      rw [List.flatMap_cons]
      exact List.append_ne_nil_of_left_ne_nil (h y (by simp)) _
    rw [List.map_cons, String.intercalate_cons_of_ne_nil (by simp), hrest,
      ← String.intercalate_append_of_ne_nil (h x List.mem_cons_self) hne, ← List.flatMap_cons]

/-- Where no concatenation is empty, the leaves are written with a plus sign between them. -/
theorem NoEmptyPolyadic.sourceText_eq {e : Expr} (h : e.NoEmptyPolyadic) :
    e.sourceText = " + ".intercalate (e.leaves.map sourceText) := by
  induction h with
  | leaf hleaf =>
    rw [leaves_of_not_isConcatenation hleaf, List.map_singleton, String.intercalate_singleton]
  | @concat left right hl hr ihl ihr =>
    have hl' : left.leaves.map sourceText ≠ [] := by simpa using hl.leaves_ne_nil
    have hr' : right.leaves.map sourceText ≠ [] := by simpa using hr.leaves_ne_nil
    rw [sourceText, ihl, ihr, leaves, List.map_append,
      String.intercalate_append_of_ne_nil hl' hr']
  | @polyadic es _ hes ih =>
    have hgroups : es.map sourceText =
        es.map fun e => " + ".intercalate (e.leaves.map sourceText) := List.map_congr_left ih
    rw [sourceText, sourceTexts_eq_map, hgroups, intercalate_flatMap, leaves_polyadic,
      List.map_flatMap]
    -- an operand without leaves would leave two plus signs with nothing between them
    intro e he
    simpa using (hes e he).leaves_ne_nil

end Expr

/-- An attribute that holds a concatenation has one entry. -/
theorem Annotation.read_of_isConcatenation (tree : SyntaxTree) {a : Annotation} {name : String}
    {e : Expr} (ha : a.attribute? name = some e) (he : e.isConcatenation = true) :
    a.read tree name = [e.entryText tree] := by
  cases e with
  | concat | polyadic => simp [read, entries, ha]
  | literal | reference | array | other => cases he

namespace Expr

/-- **Grouping is not noticed.**  Whatever initializers of a tree are grouped in another way, an
expression with the same leaves stands for the same text.  Where both are concatenations and none in
them is empty, they are also written alike, and attributes that hold them are read as the same one
entry. -/
theorem fold_regrouped {tree tree' : SyntaxTree} (h : tree.Corresponds TypeDecl.Regrouped tree')
    {e e' : Expr} (hleaves : e.leaves = e'.leaves) :
    e.fold tree = e'.fold tree' ∧
    (e.NoEmptyPolyadic → e'.NoEmptyPolyadic →
      e.isConcatenation = true → e'.isConcatenation = true →
      e.sourceText = e'.sourceText ∧
      ∀ (a a' : Annotation) (name name' : String),
        a.attribute? name = some e → a'.attribute? name' = some e' →
        ∃ entry, a.read tree name = [entry] ∧ a'.read tree' name' = [entry]) := by
  have hfold : e.fold tree = e'.fold tree' := by
    -- first the initializers change under the same expression, then the expression
    calc e.fold tree = e.fold tree' := foldIn_eq_of_agreesAt fun id _ => h.agreesAt_of_regrouped id
      _ = e'.fold tree' := by rw [fold, fold, foldIn, foldIn, expand_eq_of_leaves_eq _ _ hleaves]
  refine ⟨hfold, fun hne hne' hconcat hconcat' => ?_⟩
  have hwritten : e.sourceText = e'.sourceText := by
    rw [hne.sourceText_eq, hne'.sourceText_eq, hleaves]
  refine ⟨hwritten, fun a a' name name' ha ha' => ⟨e.entryText tree, ?_, ?_⟩⟩
  · exact Annotation.read_of_isConcatenation tree ha hconcat
  · have hentry : e.entryText tree = e'.entryText tree' := by
      rw [entryText, entryText, hfold, hwritten]
    rw [hentry]
    exact Annotation.read_of_isConcatenation tree' ha' hconcat'

/-- The constants `A = "a" + (B + "c")` and `B = "b" + A`, which lead to each other. -/
def pairedTree : SyntaxTree :=
  .ofConstants "Paths"
    [{ name := "A"
       initializer :=
         some (.concat (.string "a") (.concat (pathsReference "B") (.string "c"))) },
      { name := "B", initializer := some (.concat (.string "b") (pathsReference "A")) }]

/-- The same constants with lists of operands, as in `A = "a" + B + "c"`. -/
def listedTree : SyntaxTree :=
  .ofConstants "Paths"
    [{ name := "A"
       initializer := some (.polyadic [.string "a", pathsReference "B", .string "c"]) },
      { name := "B"
        initializer := some (.polyadic [.polyadic [.string "b", pathsReference "A"]]) }]

theorem pairedTree_corresponds : pairedTree.Corresponds TypeDecl.Regrouped listedTree := by
  refine .cons ⟨rfl, .cons ⟨rfl, ?_⟩ .nil⟩ .nil
  exact .cons (.regroup "A" rfl rfl rfl) (.cons (.regroup "B" rfl rfl rfl) .nil)

/-- Both ways round the cycle `A + "/x"` is `abc/x`, in a pair or in a list of operands. -/
theorem fold_regrouped_mutual :
    let e : Expr := .concat (pathsReference "A") (.string "/x")
    let e' : Expr := .polyadic [pathsReference "A", .polyadic [.string "/x"]]
    let holding (e : Expr) : Annotation :=
      { qualifiedName := "Get", attributes := Dictionary.empty.insert "path" e }
    pairedTree.Corresponds TypeDecl.Regrouped listedTree ∧ e.leaves = e'.leaves ∧
      e.fold pairedTree = "abc/x" ∧ e'.fold listedTree = "abc/x" ∧
      e.sourceText = e'.sourceText ∧
      (holding e).read pairedTree "path" = (holding e').read listedTree "path" := by
  intro e e' holding
  have hleaves : e.leaves = e'.leaves := rfl
  obtain ⟨hfold, hwritten⟩ := fold_regrouped pairedTree_corresponds hleaves
  have htext : e.fold pairedTree = "abc/x" := by
    have hpieces : e.expand pairedTree [] = _ := Folding.expand_eq_of_run (n := 20) rfl
    rw [fold, foldIn, hpieces]
    rfl
  have hne : e.NoEmptyPolyadic := .concat (.leaf rfl) (.leaf rfl)
  have hne' : e'.NoEmptyPolyadic := by
    have hslash : NoEmptyPolyadic (.polyadic [.string "/x"]) :=
      .polyadic (List.cons_ne_nil _ _) (List.forall_mem_singleton.2 (.leaf rfl))
    exact .polyadic (List.cons_ne_nil _ _)
      (List.forall_mem_cons.2 ⟨.leaf rfl, List.forall_mem_singleton.2 hslash⟩)
  obtain ⟨htexts, hread⟩ := hwritten hne hne' rfl rfl
  obtain ⟨entry, hentry, hentry'⟩ := hread (holding e) (holding e') "path" "path" rfl rfl
  exact ⟨pairedTree_corresponds, hleaves, htext, hfold ▸ htext, htexts, hentry.trans hentry'.symm⟩

end Expr

end RouteAtlas
