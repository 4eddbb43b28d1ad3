import Mathlib
import RouteAtlas.Proofs.Folding.Steps
import RouteAtlas.Proofs.Scan.ByType

/-!
# RouteAtlas.Proofs.Scan.Unvalued — string literals without their values

A string literal in double quotes may come with its value or without it.  The main statement is that
a scan does not notice which: the value is what stands between the quotes, whatever that is, so the
texts of expressions and the reading of declarations stay the same, and with them the report.
-/

namespace RouteAtlas

/-! ## Declarations with values left out -/

/-- The second expression is the first one, perhaps without the values of some string literals. -/
inductive Expr.Unvalued : Expr → Expr → Prop
  /-- The literal that `Expr.string` makes of a text loses its value. -/
  | string (s : String) :
    Unvalued (.literal ("\"" ++ s ++ "\"") (some (.text s))) (.literal ("\"" ++ s ++ "\"") none)
  | literal (raw : String) (value : Option Literal) :
    Unvalued (.literal raw value) (.literal raw value)
  | concat {left right left' right' : Expr} : Unvalued left left' → Unvalued right right' →
    Unvalued (.concat left right) (.concat left' right')
  | polyadic {es es' : List Expr} : List.Forall₂ Unvalued es es' →
    Unvalued (.polyadic es) (.polyadic es')
  | reference (name : String) (target : Option SymbolId) :
    Unvalued (.reference name target) (.reference name target)
  | array {es es' : List Expr} : List.Forall₂ Unvalued es es' →
    Unvalued (.array es) (.array es')
  | other (text : String) : Unvalued (.other text) (.other text)

/-- The attributes have the same names, and values of literals in them are left out. -/
structure Annotation.Unvalued (a a' : Annotation) : Prop where
  qualifiedName : a.qualifiedName = a'.qualifiedName
  attributes : List.Forall₂ (fun x y => x.1 = y.1 ∧ x.2.Unvalued y.2) a.attributes.entries
    a'.attributes.entries

/-- Values of literals are left out on the parameter. -/
structure Parameter.Unvalued (p p' : Parameter) : Prop where
  name : p.name = p'.name
  typeName : p.typeName = p'.typeName
  annotations : List.Forall₂ Annotation.Unvalued p.annotations p'.annotations

/-- Values of literals are left out on the method and its parameters. -/
structure Method.Unvalued (m m' : Method) : Prop where
  name : m.name = m'.name
  parameters : List.Forall₂ Parameter.Unvalued m.parameters m'.parameters
  annotations : List.Forall₂ Annotation.Unvalued m.annotations m'.annotations

/-- Values of literals are left out in the initializer. -/
structure Constant.Unvalued (c c' : Constant) : Prop where
  name : c.name = c'.name
  initializer : Option.Rel Expr.Unvalued c.initializer c'.initializer

/-- Values of literals are left out on the type and its members. -/
structure TypeDecl.Unvalued (t t' : TypeDecl) : Prop where
  qualifiedName : t.qualifiedName = t'.qualifiedName
  annotations : List.Forall₂ Annotation.Unvalued t.annotations t'.annotations
  methods : List.Forall₂ Method.Unvalued t.methods t'.methods
  constants : List.Forall₂ Constant.Unvalued t.constants t'.constants
  module : t.module = t'.module

/-! ## Literals -/

/-- Between the quotes of a text in quotes stands the text. -/
theorem unquote_quoted (s : String) : unquote ("\"" ++ s ++ "\"") = s := by
  have hquoted : ("\"" ++ s ++ "\"").toList = '"' :: (s.toList ++ ['"']) := by simp
  unfold unquote
  rw [hquoted]
  cases h : s.toList with
  | nil => simp [String.toList_eq_nil_iff.1 h]
  | cons c cs => simp [← h]

namespace Expr

variable {tree tree' : SyntaxTree} {e e' : Expr}

theorem Unvalued.isFoldable_eq (h : e.Unvalued e') : e.isFoldable = e'.isFoldable := by
  cases h <;> rfl

theorem Unvalued.sourceText_eq : ∀ {e' : Expr}, e.Unvalued e' → e.sourceText = e'.sourceText := by
  induction e using structuralInduction with
  | literal raw value =>
    intro e' h
    cases h with
    | string | literal => rfl
  | concat left right ihl ihr =>
    intro e' h
    cases h with
    | concat hl hr => rw [sourceText, sourceText, ihl hl, ihr hr]
  | polyadic es ih =>
    intro e' h
    cases h with
    | polyadic hes =>
      rw [sourceText, sourceText, sourceTexts_eq_map, sourceTexts_eq_map,
        map_eq_of_forall₂ hes fun x hx y hxy => ih x hx hxy]
  | reference =>
    intro e' h
    cases h
    rfl
  | array es ih =>
    intro e' h
    cases h with
    | array hes =>
      rw [sourceText, sourceText, sourceTexts_eq_map, sourceTexts_eq_map,
        map_eq_of_forall₂ hes fun x hx y hxy => ih x hx hxy]
  | other =>
    intro e' h
    cases h
    rfl

/-! ## What folding sees of it -/

/-- The trees declare the same constants, with values of literals left out in the initializers. -/
def ConstantsUnvalued (tree tree' : SyntaxTree) : Prop :=
  ∀ id, Option.Rel Unvalued (tree.initializer? id) (tree'.initializer? id)

theorem foldIn_eq_of_unvalued (htree : ConstantsUnvalued tree tree') {stack : List SymbolId} :
    ∀ {e' : Expr}, e.Unvalued e' → e.foldIn tree stack = e'.foldIn tree' stack := by
  induction stack, e using foldingInduction tree with
  | literal stack raw value =>
    intro e' h
    cases h with
    | string s => simp [foldIn, Piece.text, Literal.display, unquote_quoted]
    | literal => simp [foldIn]
  | concat stack left right ihl ihr =>
    intro e' h
    cases h with
    | concat hl hr => rw [foldIn_concat, foldIn_concat, ihl hl, ihr hr]
  | polyadic stack es ih =>
    intro e' h
    cases h with
    | polyadic hes =>
      rw [foldIn_polyadic, foldIn_polyadic, map_eq_of_forall₂ hes fun x hx y hxy => ih x hx hxy]
  | unresolved | other =>
    intro e' h
    cases h
    simp [foldIn]
  | cyclic stack name id hid =>
    intro e' h
    cases h
    rw [foldIn, foldIn, expand_cyclic hid, expand_cyclic hid]
  | unfollowed stack name id hid hinit =>
    intro e' h
    cases h
    have hinit' : tree'.initializer? id = none := eq_none_of_rel (hinit ▸ htree id)
    rw [foldIn, foldIn, expand_unfollowed hid hinit, expand_unfollowed hid hinit']
    simp
  | followed stack name id init hid hinit ih =>
    intro e' h
    cases h
    obtain ⟨init', hinit', hunvalued⟩ := exists_of_rel (hinit ▸ htree id)
    rw [foldIn, foldIn, expand_followed hid hinit, expand_followed hid hinit']
    exact ih hunvalued
  | array stack es =>
    intro e' h
    cases h
    simp [foldIn]

theorem Unvalued.entryText_eq (htree : ConstantsUnvalued tree tree') (h : e.Unvalued e') :
    e.entryText tree = e'.entryText tree' := by
  have hfold : e.fold tree = e'.fold tree' := foldIn_eq_of_unvalued htree h
  rw [entryText, entryText, hfold, h.sourceText_eq]

theorem Unvalued.variableName?_eq (htree : ConstantsUnvalued tree tree') (h : e.Unvalued e') :
    e.variableName? tree = e'.variableName? tree' := by
  have hfold : e.fold tree = e'.fold tree' := foldIn_eq_of_unvalued htree h
  cases h with
  | string | literal | reference => rw [variableName?, variableName?, hfold]
  | concat | polyadic | array | other => rfl

end Expr

/-! ## What is read of the declarations -/

section Declarations

variable {config : ScanConfig} {tree tree' : SyntaxTree}

theorem Annotation.Unvalued.attribute? {a a' : Annotation} (h : a.Unvalued a') (name : String) :
    Option.Rel Expr.Unvalued (a.attribute? name) (a'.attribute? name) :=
  map_rel (fun _ _ hxy => hxy.2) (find?_rel (fun x y hxy => by rw [hxy.1]) h.attributes)

theorem Annotation.Unvalued.entries {a a' : Annotation} (h : a.Unvalued a') (name : String) :
    List.Forall₂ Expr.Unvalued (a.entries name) (a'.entries name) := by
  have hattribute := h.attribute? name
  unfold Annotation.entries
  generalize a.attribute? name = e? at hattribute
  generalize a'.attribute? name = e?' at hattribute
  cases hattribute with
  | none => exact .nil
  | some he =>
    have hsingle := List.Forall₂.cons he .nil
    cases he with
    | array hes => exact hes
    | string | literal | concat | polyadic | reference | other => exact hsingle

theorem Annotation.Unvalued.readAlike (htree : Expr.ConstantsUnvalued tree tree')
    {a a' : Annotation} (h : a.Unvalued a') : a.ReadAlike tree tree' a' := by
  refine ⟨h.qualifiedName, fun name => ?_, fun name => ?_⟩
  · exact map_eq_of_forall₂ (h.entries name) fun _ _ _ he => he.entryText_eq htree
  · exact bind_eq_of_rel (fun _ _ he => he.variableName?_eq htree) (h.attribute? name)

theorem Parameter.Unvalued.readAlike (htree : Expr.ConstantsUnvalued tree tree')
    {p p' : Parameter} (h : p.Unvalued p') : p.ReadAlike tree tree' p' :=
  ⟨h.name, h.typeName, h.annotations.imp fun _ _ ha => ha.readAlike htree⟩

theorem Method.Unvalued.readAlike (htree : Expr.ConstantsUnvalued tree tree') {m m' : Method}
    (h : m.Unvalued m') : m.ReadAlike tree tree' m' :=
  ⟨h.name, h.parameters.imp fun _ _ hp => hp.readAlike htree,
    h.annotations.imp fun _ _ ha => ha.readAlike htree⟩

theorem TypeDecl.Unvalued.readAlike (htree : Expr.ConstantsUnvalued tree tree') {t t' : TypeDecl}
    (h : t.Unvalued t') : t.ReadAlike config tree tree' t' := by
  refine ⟨h.qualifiedName, ?_, h.methods.imp fun _ _ hm => hm.readAlike htree⟩
  have hmappings := filter_rel (p := (·.qualifiedName == config.classMapping))
    (q := (·.qualifiedName == config.classMapping)) (fun _ _ ha => by rw [ha.qualifiedName])
    h.annotations
  exact hmappings.imp fun _ _ ha => ha.readAlike htree

/-- Issues name annotations and types, and these keep their names. -/
theorem TypeDecl.Unvalued.issues_eq {t t' : TypeDecl} (h : t.Unvalued t') (k : MappingKind) :
    t.issues k = t'.issues k := by
  refine map_eq_of_forall₂ (filter_rel (fun a a' ha => by rw [ha.qualifiedName]) h.annotations)
    fun a _ a' ha => ?_
  rw [misplaced, misplaced, ha.qualifiedName, h.qualifiedName]

theorem Constant.Unvalued.folded? {c c' : Constant} (h : c.Unvalued c') :
    Option.Rel Expr.Unvalued c.folded? c'.folded? := by
  have hinit := h.initializer
  unfold Constant.folded?
  generalize c.initializer = init? at hinit
  generalize c'.initializer = init?' at hinit
  cases hinit with
  | none => exact .none
  | some hunvalued =>
    rw [Option.filter_some, Option.filter_some, ← hunvalued.isFoldable_eq]
    split
    · exact .some hunvalued
    · exact .none

theorem TypeDecl.Unvalued.constant? {t t' : TypeDecl} (h : t.Unvalued t') (name : String) :
    Option.Rel Constant.Unvalued (t.constant? name) (t'.constant? name) :=
  find?_rel (fun c c' hc => by rw [hc.name]) h.constants

theorem SyntaxTree.Corresponds.constantsUnvalued
    (h : tree.Corresponds TypeDecl.Unvalued tree') : Expr.ConstantsUnvalued tree tree' := by
  intro id
  have htype : Option.Rel TypeDecl.Unvalued (tree.type? id.owner) (tree'.type? id.owner) :=
    h.type? (fun _ _ ht => ht.qualifiedName) id.owner
  have hconstant : Option.Rel Constant.Unvalued (tree.constant? id) (tree'.constant? id) :=
    bind_rel (fun _ _ ht => ht.constant? id.field) htype
  exact bind_rel (fun _ _ hc => hc.folded?) hconstant

/-- **String literals may come without their values.**  Whichever of them lose it, in annotations of
types, methods and parameters or in the initializers of constants, every scan gives the same
report. -/
theorem scan_unvalued (h : tree.Corresponds TypeDecl.Unvalued tree') (config : ScanConfig) :
    tree.scan config = tree'.scan config :=
  scan_congr (h.mono fun _ _ ht => ht.readAlike h.constantsUnvalued)
    (h.mono fun _ _ ht => ht.issues_eq)

end Declarations

/-- A type whose method is mapped to its constant and more, with literals in a form of their own. -/
def literalTree (literal : String → Expr) : SyntaxTree :=
  ⟨[{ types := [{
      qualifiedName := "Shop"
      methods :=
        [.mappedTo "list"
          (.concat (.reference "BASE" (some (.ofParts "Shop" "BASE"))) (literal "/é"))]
      constants := [{ name := "BASE", initializer := some (literal "\"a\"") }] }] }]⟩

/-- The literals `""a""` and `"/é"` without values give the same path as with them. -/
theorem scan_unvalued_quoted :
    let quoted (s : String) : Expr := .rawLiteral ("\"" ++ s ++ "\"")
    (literalTree .string).Corresponds TypeDecl.Unvalued (literalTree quoted) ∧
      (literalTree .string).scan {} = (literalTree quoted).scan {} ∧
      ((literalTree .string).scan {}).routes.map (·.path) = ["/\"a\"/é"] := by
  intro quoted
  have hpath : (Method.mappedTo "list" (.concat (.reference "BASE" (some (.ofParts "Shop" "BASE")))
      (.string "/é"))).Unvalued (.mappedTo "list"
        (.concat (.reference "BASE" (some (.ofParts "Shop" "BASE"))) (quoted "/é"))) :=
    ⟨rfl, .nil, .cons ⟨rfl, .cons ⟨rfl, .concat (.reference _ _) (.string _)⟩ .nil⟩ .nil⟩
  have hbase : Constant.Unvalued { name := "BASE", initializer := some (.string "\"a\"") }
      { name := "BASE", initializer := some (quoted "\"a\"") } := ⟨rfl, .some (.string _)⟩
  have hcorresponds : (literalTree .string).Corresponds TypeDecl.Unvalued (literalTree quoted) :=
    .cons ⟨rfl, .cons ⟨rfl, .nil, .cons hpath .nil, .cons hbase .nil, rfl⟩ .nil⟩ .nil
  refine ⟨hcorresponds, scan_unvalued hcorresponds {}, ?_⟩
  cbv

end RouteAtlas
