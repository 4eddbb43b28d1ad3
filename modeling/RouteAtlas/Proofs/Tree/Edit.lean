import RouteAtlas.Proofs.Folding.Leaves
import RouteAtlas.Proofs.Tree.Correspondence
import RouteAtlas.Tree.Edit

/-!
# RouteAtlas.Proofs.Tree.Edit — trees that grow

A step adds a declaration behind those that are there already, and these stay in their places
(`growsTo_of_build`).  A name that means a constant goes on meaning it, and the text of what is made
of such names stays the same (`fold_of_build`).  Every tree can be built so, from the empty one
(`build_steps`).
-/

namespace RouteAtlas

/-! ## Lists that grow -/

/-- The elements of the first list come first in the second one, each as it has become. -/
inductive Grown {α : Type} (R : α → α → Prop) : List α → List α → Prop
  | nil (added : List α) : Grown R [] added
  | cons {x y : α} {xs ys : List α} : R x y → Grown R xs ys → Grown R (x :: xs) (y :: ys)

namespace Grown

variable {α β : Type} {R : α → α → Prop} {S : β → β → Prop} {xs ys zs : List α}

theorem append (hR : ∀ x, R x x) (xs added : List α) : Grown R xs (xs ++ added) := by
  induction xs with
  | nil => exact .nil added
  | cons x xs ih => exact .cons (hR x) ih

theorem refl (hR : ∀ x, R x x) (xs : List α) : Grown R xs xs := by
  simpa using append hR xs []

theorem trans (hR : ∀ x y z, R x y → R y z → R x z) (h : Grown R xs ys) (h' : Grown R ys zs) :
    Grown R xs zs := by
  induction h generalizing zs with
  | nil => exact .nil zs
  | cons hxy _ ih =>
    cases h' with
    | cons hyz h' => exact .cons (hR _ _ _ hxy hyz) (ih h')

theorem behind (hR : ∀ x, R x x) (front : List α) (h : Grown R xs ys) :
    Grown R (front ++ xs) (front ++ ys) := by
  induction front with
  | nil => exact h
  | cons x front ih => exact .cons (hR x) ih

theorem map {f : α → β} (hf : ∀ x y, R x y → S (f x) (f y)) (h : Grown R xs ys) :
    Grown S (xs.map f) (ys.map f) := by
  induction h with
  | nil added => exact .nil _
  | cons hxy _ ih => exact .cons (hf _ _ hxy) ih

/-- What is found among the old elements is found in its grown form. -/
theorem find? {p : α → Bool} (hp : ∀ x y, R x y → p x = p y) (h : Grown R xs ys) {x : α}
    (hx : xs.find? p = some x) : ∃ y, ys.find? p = some y ∧ R x y := by
  induction h with
  | nil => cases hx
  | @cons z y xs ys hzy _ ih =>
    rw [List.find?_cons] at hx ⊢
    rw [← hp z y hzy]
    cases hz : p z with
    | true =>
      rw [hz] at hx
      cases hx
      exact ⟨y, rfl, hzy⟩
    | false =>
      rw [hz] at hx
      exact ih hx

end Grown

section ChangeLast

variable {α : Type} {R : α → α → Prop} {xs ys : List α} {change : α → Option α}

theorem changeLast?_concat (change : α → Option α) (front : List α) (x : α) :
    changeLast? change (front ++ [x]) = (change x).map fun y => front ++ [y] := by
  induction front with
  | nil => rfl
  | cons y front ih =>
    have hcons : changeLast? change (y :: (front ++ [x])) =
        (changeLast? change (front ++ [x])).map (y :: ·) := by
      cases front <;> rfl
    rw [List.cons_append, hcons, ih, Option.map_map]
    rfl

theorem changeLast?_eq_some_iff :
    changeLast? change xs = some ys ↔
      ∃ front x y, xs = front ++ [x] ∧ change x = some y ∧ ys = front ++ [y] := by
  constructor
  · intro h
    rcases List.eq_nil_or_concat' xs with rfl | ⟨front, x, rfl⟩
    · cases h
    · rw [changeLast?_concat] at h
      obtain ⟨y, hy, rfl⟩ := Option.map_eq_some_iff.1 h
      exact ⟨front, x, y, rfl, hy, rfl⟩
  · rintro ⟨front, x, y, rfl, hy, rfl⟩
    rw [changeLast?_concat, hy]
    rfl

theorem grown_of_changeLast? (hR : ∀ x, R x x) (hchange : ∀ x y, change x = some y → R x y)
    (h : changeLast? change xs = some ys) : Grown R xs ys := by
  obtain ⟨front, x, y, rfl, hy, rfl⟩ := changeLast?_eq_some_iff.1 h
  exact .behind hR front (.cons (hchange x y hy) (.nil []))

end ChangeLast

/-- Of the attributes added the last one of a name counts, before those that were there. -/
theorem Annotation.get?_withAttributes (a : Annotation) (attributes : List (String × Expr))
    (name : String) :
    (a.withAttributes attributes).attributes.get? name =
      ((attributes.reverse.find? (·.1 == name)).map (·.2)).or (a.attributes.get? name) :=
  Dictionary.get?_foldl_insert a.attributes attributes name

/-! ## Declarations that grow -/

/-- The second parameter is the first one, perhaps with more annotations. -/
structure Parameter.GrowsTo (p p' : Parameter) : Prop where
  name : p'.name = p.name
  typeName : p'.typeName = p.typeName
  annotations : p.annotations <+: p'.annotations

/-- The second method is the first one, perhaps with more annotations and parameters. -/
structure Method.GrowsTo (m m' : Method) : Prop where
  name : m'.name = m.name
  annotations : m.annotations <+: m'.annotations
  parameters : Grown Parameter.GrowsTo m.parameters m'.parameters

/-- The second type is the first one, perhaps in another module and with more declared in it. -/
structure TypeDecl.GrowsTo (t t' : TypeDecl) : Prop where
  name : t'.qualifiedName = t.qualifiedName
  annotations : t.annotations <+: t'.annotations
  constants : t.constants <+: t'.constants
  methods : Grown Method.GrowsTo t.methods t'.methods

/-- The files of the first tree come first in the second one, and so do its types, each in the same
file and perhaps with more declared in it. -/
structure SyntaxTree.GrowsTo (tree tree' : SyntaxTree) : Prop where
  files : tree.units.map (·.file) <+: tree'.units.map (·.file)
  types : Grown (fun p p' => p'.1 = p.1 ∧ p.2.GrowsTo p'.2) tree.filedTypes tree'.filedTypes

theorem Parameter.GrowsTo.refl (p : Parameter) : p.GrowsTo p := ⟨rfl, rfl, List.prefix_rfl⟩

theorem Parameter.GrowsTo.trans (p p' p'' : Parameter) (h : p.GrowsTo p') (h' : p'.GrowsTo p'') :
    p.GrowsTo p'' :=
  ⟨h'.name.trans h.name, h'.typeName.trans h.typeName, h.annotations.trans h'.annotations⟩

theorem Method.GrowsTo.refl (m : Method) : m.GrowsTo m :=
  ⟨rfl, List.prefix_rfl, .refl Parameter.GrowsTo.refl _⟩

theorem Method.GrowsTo.trans (m m' m'' : Method) (h : m.GrowsTo m') (h' : m'.GrowsTo m'') :
    m.GrowsTo m'' :=
  ⟨h'.name.trans h.name, h.annotations.trans h'.annotations,
    h.parameters.trans Parameter.GrowsTo.trans h'.parameters⟩

theorem TypeDecl.GrowsTo.refl (t : TypeDecl) : t.GrowsTo t :=
  ⟨rfl, List.prefix_rfl, List.prefix_rfl, .refl Method.GrowsTo.refl _⟩

theorem TypeDecl.GrowsTo.trans (t t' t'' : TypeDecl) (h : t.GrowsTo t') (h' : t'.GrowsTo t'') :
    t.GrowsTo t'' :=
  ⟨h'.name.trans h.name, h.annotations.trans h'.annotations, h.constants.trans h'.constants,
    h.methods.trans Method.GrowsTo.trans h'.methods⟩

namespace SyntaxTree

variable {tree tree' tree'' : SyntaxTree} {s : TreeStep} {steps : List TreeStep}

theorem GrowsTo.refl (tree : SyntaxTree) : tree.GrowsTo tree :=
  ⟨List.prefix_rfl, .refl (fun p => ⟨rfl, .refl p.2⟩) _⟩

theorem GrowsTo.trans (h : tree.GrowsTo tree') (h' : tree'.GrowsTo tree'') :
    tree.GrowsTo tree'' :=
  ⟨h.files.trans h'.files,
    h.types.trans (fun _ _ _ hp hp' => ⟨hp'.1.trans hp.1, .trans _ _ _ hp.2 hp'.2⟩) h'.types⟩

/-! ## One step -/

/-- A tree grows where the types of its last unit do. -/
theorem growsTo_of_last {front : List SourceUnit} {u : SourceUnit} {types : List TypeDecl}
    (h : Grown TypeDecl.GrowsTo u.types types) :
    GrowsTo ⟨front ++ [u]⟩ ⟨front ++ [{ u with types }]⟩ := by
  constructor
  · simp
  · simp only [filedTypes, List.flatMap_append, List.flatMap_singleton]
    exact .behind (fun p => ⟨rfl, .refl p.2⟩) _ (h.map fun t t' ht => ⟨rfl, ht⟩)

theorem growsTo_of_changeType? {change : TypeDecl → Option TypeDecl}
    (hchange : ∀ t t', change t = some t' → t.GrowsTo t')
    (h : tree.changeType? change = some tree') : tree.GrowsTo tree' := by
  obtain ⟨units, hunits, rfl⟩ := Option.map_eq_some_iff.1 h
  obtain ⟨front, u, u', hfront, hu, rfl⟩ := changeLast?_eq_some_iff.1 hunits
  obtain ⟨types, htypes, rfl⟩ := Option.map_eq_some_iff.1 hu
  obtain rfl : tree = ⟨front ++ [u]⟩ := congrArg SyntaxTree.mk hfront
  exact growsTo_of_last (grown_of_changeLast? .refl hchange htypes)

theorem growsTo_of_changeMethod? {change : Method → Option Method}
    (hchange : ∀ m m', change m = some m' → m.GrowsTo m')
    (h : tree.changeMethod? change = some tree') : tree.GrowsTo tree' := by
  refine growsTo_of_changeType? (fun t t' ht => ?_) h
  obtain ⟨methods, hmethods, rfl⟩ := Option.map_eq_some_iff.1 ht
  exact ⟨rfl, List.prefix_rfl, List.prefix_rfl, grown_of_changeLast? .refl hchange hmethods⟩

theorem growsTo_of_changeParameter? {change : Parameter → Option Parameter}
    (hchange : ∀ p p', change p = some p' → p.GrowsTo p')
    (h : tree.changeParameter? change = some tree') : tree.GrowsTo tree' := by
  refine growsTo_of_changeMethod? (fun m m' hm => ?_) h
  obtain ⟨parameters, hparameters, rfl⟩ := Option.map_eq_some_iff.1 hm
  exact ⟨rfl, List.prefix_rfl, grown_of_changeLast? .refl hchange hparameters⟩

/-- Whatever a step adds, it adds behind what is there. -/
theorem growsTo_of_step? (h : tree.step? s = some tree') : tree.GrowsTo tree' := by
  cases s with
  | unit file =>
    cases h
    constructor
    · simp
    · simp only [filedTypes, List.flatMap_append]
      exact .append (fun p => ⟨rfl, .refl p.2⟩) _ _
  | type qualifiedName =>
    obtain ⟨units, hunits, rfl⟩ := Option.map_eq_some_iff.1 h
    obtain ⟨front, u, u', hfront, hu, rfl⟩ := changeLast?_eq_some_iff.1 hunits
    cases hu
    obtain rfl : tree = ⟨front ++ [u]⟩ := congrArg SyntaxTree.mk hfront
    exact growsTo_of_last (.append .refl _ _)
  | annotateType a =>
    refine growsTo_of_changeType? (fun t t' ht => ?_) h
    cases ht
    exact { TypeDecl.GrowsTo.refl t with annotations := List.prefix_append .. }
  | module name =>
    refine growsTo_of_changeType? (fun t t' ht => ?_) h
    cases ht
    exact { TypeDecl.GrowsTo.refl t with }
  | constant c =>
    refine growsTo_of_changeType? (fun t t' ht => ?_) h
    cases ht
    exact { TypeDecl.GrowsTo.refl t with constants := List.prefix_append .. }
  | method name =>
    refine growsTo_of_changeType? (fun t t' ht => ?_) h
    cases ht
    exact { TypeDecl.GrowsTo.refl t with methods := .append .refl _ _ }
  | annotateMethod a =>
    refine growsTo_of_changeMethod? (fun m m' hm => ?_) h
    cases hm
    exact { Method.GrowsTo.refl m with annotations := List.prefix_append .. }
  | parameter name typeName =>
    refine growsTo_of_changeMethod? (fun m m' hm => ?_) h
    cases hm
    exact { Method.GrowsTo.refl m with parameters := .append .refl _ _ }
  | annotateParameter a =>
    refine growsTo_of_changeParameter? (fun p p' hp => ?_) h
    cases hp
    exact { Parameter.GrowsTo.refl p with annotations := List.prefix_append .. }

/-! ## One step after the other -/

/-- The tree after all the steps, where each of them finds its place. -/
def build (steps : List TreeStep) (tree : SyntaxTree) : Option SyntaxTree :=
  steps.foldlM step? tree

theorem build_cons_eq_some_iff :
    build (s :: steps) tree = some tree' ↔
      ∃ between, tree.step? s = some between ∧ build steps between = some tree' := by
  rw [build, List.foldlM_cons]
  exact Option.bind_eq_some_iff

theorem build_append_eq_some_iff {steps' : List TreeStep} :
    build (steps ++ steps') tree = some tree' ↔
      ∃ between, build steps tree = some between ∧ build steps' between = some tree' := by
  rw [build, List.foldlM_append]
  exact Option.bind_eq_some_iff

/-- Steps that find their place in every stage of a list, put into one tree, add to the list. -/
theorem build_flatMap {α : Type} {stepsOf : α → List TreeStep} (put : List α → SyntaxTree)
    (h : ∀ xs x, build (stepsOf x) (put xs) = some (put (xs ++ [x]))) (xs ys : List α) :
    build (ys.flatMap stepsOf) (put xs) = some (put (xs ++ ys)) := by
  induction ys generalizing xs with
  | nil => simp [build]
  | cons y ys ih =>
    refine build_append_eq_some_iff.2 ⟨put (xs ++ [y]), h xs y, ?_⟩
    have hys := ih (xs ++ [y])
    rwa [List.append_assoc] at hys

/-- **Nothing is lost while a tree is built**: what is declared stays in its place. -/
theorem growsTo_of_build (h : build steps tree = some tree') : tree.GrowsTo tree' := by
  induction steps generalizing tree with
  | nil =>
    cases h
    exact .refl _
  | cons s steps ih =>
    obtain ⟨between, hstep, hrest⟩ := build_cons_eq_some_iff.1 h
    exact (growsTo_of_step? hstep).trans (ih hrest)

theorem GrowsTo.constant?_eq_some (h : tree.GrowsTo tree') {id : SymbolId} {c : Constant}
    (hc : tree.constant? id = some c) : tree'.constant? id = some c := by
  obtain ⟨t, ht, hct⟩ := Option.bind_eq_some_iff.1 hc
  have htypes : Grown TypeDecl.GrowsTo tree.types tree'.types := by
    rw [← map_filedTypes tree, ← map_filedTypes tree']
    exact h.types.map fun p p' hp => hp.2
  obtain ⟨t', ht', hgrows⟩ := htypes.find? (fun x y hxy => by rw [hxy.name]) ht
  exact Option.bind_eq_some_iff.2 ⟨t', ht', hgrows.constants.find?_eq_some hct⟩

/-- **An expression keeps its text while a tree is built**, when the constants that it leads to are
declared. -/
theorem fold_of_build {e : Expr} (h : build steps tree = some tree')
    (he : ∀ id, tree.Reachable e id → (tree.constant? id).isSome = true) :
    e.fold tree' = e.fold tree := by
  refine (Expr.foldIn_eq_of_agreesAt fun id hid => .of_constant?_eq ?_).symm
  obtain ⟨c, hc⟩ := Option.isSome_iff_exists.1 (he id hid)
  rw [hc, (growsTo_of_build h).constant?_eq_some hc]

end SyntaxTree

/-! ## Steps for a tree -/

/-- Steps that add the parameter to a method. -/
def Parameter.steps (p : Parameter) : List TreeStep :=
  .parameter p.name p.typeName :: p.annotations.map .annotateParameter

/-- Steps that add the method to a type. -/
def Method.steps (m : Method) : List TreeStep :=
  .method m.name :: (m.annotations.map .annotateMethod ++ m.parameters.flatMap (·.steps))

/-- Steps that add the type to a unit. -/
def TypeDecl.steps (t : TypeDecl) : List TreeStep :=
  .type t.qualifiedName ::
    (t.module.toList.map .module ++ t.annotations.map .annotateType ++
      t.constants.map .constant ++ t.methods.flatMap (·.steps))

/-- Steps that add the unit to a tree. -/
def SourceUnit.steps (u : SourceUnit) : List TreeStep := .unit u.file :: u.types.flatMap (·.steps)

namespace SyntaxTree

/-- Steps that build the tree. -/
def steps (tree : SyntaxTree) : List TreeStep := tree.units.flatMap (·.steps)

/-- The steps of a list one by one. -/
theorem build_map {α : Type} {step : α → TreeStep} (put : List α → SyntaxTree)
    (h : ∀ xs x, (put xs).step? (step x) = some (put (xs ++ [x]))) (xs : List α) :
    build (xs.map step) (put []) = some (put xs) := by
  rw [List.map_eq_flatMap]
  refine build_flatMap put (fun xs x => ?_) [] xs
  exact build_cons_eq_some_iff.2 ⟨_, h xs x, rfl⟩

/-- The parameter is added to the method that the steps find. -/
theorem build_parameter {put : Method → SyntaxTree}
    (hput : ∀ change m, (put m).changeMethod? change = (change m).map put) (m : Method)
    (p : Parameter) :
    build p.steps (put m) = some (put { m with parameters := m.parameters ++ [p] }) := by
  let marked (annotations : List Annotation) : SyntaxTree :=
    put { m with parameters := m.parameters ++ [{ p with annotations }] }
  have hannotations : build (p.annotations.map .annotateParameter) (marked []) =
      some (marked p.annotations) := by
    refine build_map marked (fun as a => ?_) p.annotations
    rw [step?, changeParameter?, hput, changeLast?_concat]
    rfl
  exact build_cons_eq_some_iff.2 ⟨_, hput _ m, hannotations⟩

/-- The method is added to the type that the steps find. -/
theorem build_method {put : TypeDecl → SyntaxTree}
    (hput : ∀ change t, (put t).changeType? change = (change t).map put) (t : TypeDecl)
    (m : Method) :
    build m.steps (put t) = some (put { t with methods := t.methods ++ [m] }) := by
  let placed (m : Method) : SyntaxTree := put { t with methods := t.methods ++ [m] }
  have hplaced : ∀ change m, (placed m).changeMethod? change = (change m).map placed := by
    intro change m
    rw [changeMethod?, hput, changeLast?_concat, Option.map_map, Option.map_map]
    rfl
  have hannotations : build (m.annotations.map .annotateMethod) (placed { name := m.name }) =
      some (placed { name := m.name, annotations := m.annotations }) := by
    refine build_map (fun annotations => placed { name := m.name, annotations }) (fun as a => ?_)
      m.annotations
    rw [step?, hplaced]
    rfl
  have hparameters : build (m.parameters.flatMap (·.steps))
      (placed { name := m.name, annotations := m.annotations }) = some (placed m) :=
    build_flatMap (fun parameters => placed { m with parameters })
      (fun ps p => build_parameter hplaced { m with parameters := ps } p) [] m.parameters
  exact build_cons_eq_some_iff.2
    ⟨_, hput _ t, build_append_eq_some_iff.2 ⟨_, hannotations, hparameters⟩⟩

/-- The type is added to the last unit. -/
theorem build_type (front : List SourceUnit) (u : SourceUnit) (t : TypeDecl) :
    build t.steps ⟨front ++ [u]⟩ =
      some ⟨front ++ [{ u with types := u.types ++ [t] }]⟩ := by
  let placed (t : TypeDecl) : SyntaxTree := ⟨front ++ [{ u with types := u.types ++ [t] }]⟩
  have hplaced : ∀ change t, (placed t).changeType? change = (change t).map placed := by
    intro change t
    simp only [placed, changeType?, changeLast?_concat, Option.map_map]
    rfl
  have htype : step? ⟨front ++ [u]⟩ (.type t.qualifiedName) =
      some (placed { qualifiedName := t.qualifiedName }) := by
    rw [step?, changeLast?_concat]
    rfl
  have hmodule : build (t.module.toList.map .module) (placed { qualifiedName := t.qualifiedName }) =
      some (placed { qualifiedName := t.qualifiedName, module := t.module }) := by
    cases t.module with
    | none => rfl
    | some name => exact build_cons_eq_some_iff.2 ⟨_, hplaced _ _, rfl⟩
  have hannotations : build (t.annotations.map .annotateType)
      (placed { qualifiedName := t.qualifiedName, module := t.module }) =
        some (placed { t with methods := [], constants := [] }) := by
    refine build_map
      (fun annotations => placed { t with annotations, methods := [], constants := [] })
      (fun as a => ?_) t.annotations
    rw [step?, hplaced]
    rfl
  have hconstants : build (t.constants.map .constant)
      (placed { t with methods := [], constants := [] }) =
        some (placed { t with methods := [] }) := by
    refine build_map (fun constants => placed { t with methods := [], constants }) (fun cs c => ?_)
      t.constants
    rw [step?, hplaced]
    rfl
  have hmethods : build (t.methods.flatMap (·.steps)) (placed { t with methods := [] }) =
      some (placed t) :=
    build_flatMap (fun methods => placed { t with methods })
      (fun ms m => build_method hplaced { t with methods := ms } m) [] t.methods
  refine build_cons_eq_some_iff.2 ⟨_, htype, build_append_eq_some_iff.2 ⟨_, ?_, hmethods⟩⟩
  refine build_append_eq_some_iff.2 ⟨_, ?_, hconstants⟩
  exact build_append_eq_some_iff.2 ⟨_, hmodule, hannotations⟩

theorem build_unit (units : List SourceUnit) (u : SourceUnit) :
    build u.steps ⟨units⟩ = some ⟨units ++ [u]⟩ :=
  build_cons_eq_some_iff.2 ⟨_, rfl, build_flatMap (fun types => ⟨units ++ [{ u with types }]⟩)
    (fun ts t => build_type units { u with types := ts } t) [] u.types⟩

/-- **Every tree can be built** from the empty one. -/
theorem build_steps (tree : SyntaxTree) : build tree.steps {} = some tree :=
  build_flatMap (fun units => ⟨units⟩) build_unit [] tree.units

end SyntaxTree

end RouteAtlas
