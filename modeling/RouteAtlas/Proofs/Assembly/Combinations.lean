import Mathlib.Data.List.Basic
import RouteAtlas.Assembly
import RouteAtlas.Proofs.Folding.Cases

/-!
# RouteAtlas.Proofs.Assembly.Combinations — which routes an annotation declares

The class paths, the method paths and the conditions at a site are the first of their lists that
holds anything, so there is always one of each.  The main statement counts the routes of a site and
gives the one at each place of the list.
-/

namespace RouteAtlas

/-! ## Lists made of equally long pieces -/

section Pieces

variable {α β : Type} {f : α → List β} {n : Nat}

theorem length_flatMap_of_length (hf : ∀ x, (f x).length = n) (xs : List α) :
    (xs.flatMap f).length = xs.length * n := by
  simp [List.length_flatMap, hf]

/-- The entry at `i * n + j` is entry `j` of piece `i`. -/
theorem getElem?_flatMap_of_length (hf : ∀ x, (f x).length = n) {j : Nat} (hj : j < n) :
    ∀ (xs : List α) (i : Nat), (xs.flatMap f)[i * n + j]? = xs[i]?.bind fun x => (f x)[j]?
  | [], i => by simp
  | x :: xs, 0 => by
    have hlt : j < (f x).length := by rw [hf]; exact hj
    rw [List.flatMap_cons, Nat.zero_mul, Nat.zero_add, List.getElem?_append_left hlt]
    rfl
  | x :: xs, i + 1 => by
    have hle : (f x).length ≤ (i + 1) * n + j := by
      rw [hf, Nat.succ_mul]
      omega
    have hrest : (i + 1) * n + j - n = i * n + j := by
      rw [Nat.succ_mul]
      omega
    rw [List.flatMap_cons, List.getElem?_append_right hle, hf, hrest,
      getElem?_flatMap_of_length hf hj xs i]
    rfl

end Pieces

/-! ## The first list that holds anything -/

/-- The first of the lists that holds anything. -/
def firstWritten {α : Type} (lists : List (List α)) : List α :=
  (lists.find? fun xs => !xs.isEmpty).getD []

section FirstWritten

variable {α β : Type}

theorem firstWritten_cons (xs : List α) (lists : List (List α)) :
    firstWritten (xs :: lists) = if xs.isEmpty then firstWritten lists else xs := by
  cases xs with
  | nil => rfl
  | cons x xs => rfl

theorem orSingle_eq_firstWritten (xs : List α) (x : α) : orSingle xs x = firstWritten [xs, [x]] := by
  rw [firstWritten_cons]
  rfl

/-- A last list of one entry leaves at least that one. -/
theorem firstWritten_ne_nil {x : α} : ∀ lists : List (List α), firstWritten (lists ++ [[x]]) ≠ []
  | [] => List.cons_ne_nil x []
  | [] :: lists => firstWritten_ne_nil lists
  | (y :: ys) :: _ => List.cons_ne_nil y ys

theorem map_orSingle (f : α → β) (xs : List α) (x : α) :
    orSingle (xs.map f) (f x) = (orSingle xs x).map f := by
  cases xs with
  | nil => rfl
  | cons y ys => rfl

end FirstWritten

/-- A string literal is read as its text, where that is not blank. -/
theorem Expr.entryText_string (tree : SyntaxTree) {s : String} (h : Text.isBlank s = false) :
    (Expr.string s).entryText tree = s := by
  have hfold : (Expr.string s).fold tree = s := foldIn_string tree [] s
  rw [entryText, hfold]
  simp [h]

namespace Annotation

/-- The path texts of an annotation: its `path`, else its `value`, else the empty text. -/
def pathTexts (tree : SyntaxTree) (a : Annotation) : List String :=
  firstWritten [a.read tree "path", a.read tree "value", [""]]

/-- The conditions of an annotation: its `params`, else the empty one. -/
def paramTexts (tree : SyntaxTree) (a : Annotation) : List String :=
  firstWritten [a.read tree "params", [""]]

theorem paths_eq_pathTexts (tree : SyntaxTree) (a : Annotation) :
    a.paths tree = a.pathTexts tree := by
  unfold paths pathTexts
  rw [firstWritten_cons, ← orSingle_eq_firstWritten]

theorem params_eq_paramTexts (tree : SyntaxTree) (a : Annotation) :
    a.params tree = a.paramTexts tree := orSingle_eq_firstWritten _ _

theorem pathTexts_ne_nil (tree : SyntaxTree) (a : Annotation) : a.pathTexts tree ≠ [] :=
  firstWritten_ne_nil [a.read tree "path", a.read tree "value"]

theorem paramTexts_ne_nil (tree : SyntaxTree) (a : Annotation) : a.paramTexts tree ≠ [] :=
  firstWritten_ne_nil [a.read tree "params"]

end Annotation

namespace Site

/-- The class path texts at a site: those of all class mappings on the owner one after the other,
else the empty text. -/
def classTexts (tree : SyntaxTree) (config : ScanConfig) (s : Site) : List String :=
  let mappings :=
    (s.owner.toList.flatMap (·.annotations)).filter (·.qualifiedName == config.classMapping)
  firstWritten [mappings.flatMap (·.pathTexts tree), [""]]

/-- The fragment of a path text at a site of the method. -/
def fragment (tree : SyntaxTree) (config : ScanConfig) (m : Method) (text : String) :
    PathFragment :=
  (PathFragment.ofText text).withTypes (binding tree config m)

variable (tree : SyntaxTree) (config : ScanConfig) (s : Site)

theorem classTexts_ne_nil : s.classTexts tree config ≠ [] :=
  firstWritten_ne_nil [_]

theorem fragment_empty (m : Method) : fragment tree config m "" = .empty := by
  have hnames : Path.variableNames "".toList = [] := by
    simp [Path.variableNames, Path.groups]
  rw [fragment, PathFragment.ofText, hnames]
  rfl

theorem classPaths_eq_map (m : Method) :
    s.classPaths tree config (binding tree config m) =
      (s.classTexts tree config).map (fragment tree config m) := by
  have hmappings : classMappings config s.owner =
      (s.owner.toList.flatMap (·.annotations)).filter (·.qualifiedName == config.classMapping) := by
    cases h : s.owner with
    | none => rfl
    | some t => simp [classMappings]
  have hpaths : (fun a : Annotation => a.paths tree) = fun a => a.pathTexts tree := by
    funext a
    exact a.paths_eq_pathTexts tree
  rw [classPaths, hmappings, hpaths, classTexts, ← orSingle_eq_firstWritten, ← map_orSingle,
    fragment_empty]
  rfl

theorem methodPaths_eq_map (m : Method) :
    s.methodPaths tree (binding tree config m) =
      (s.subject.pathTexts tree).map (fragment tree config m) := by
  rw [methodPaths, Annotation.paths_eq_pathTexts]
  rfl

/-! ## The combinations -/

/-- The route of one combination. -/
def combination (s : Site) (verb : String) (cls method : PathFragment) (param : String)
    (origin : RouteOrigin) : Route :=
  { verb, path := (cls.join method).text, params := param, vars := (cls.join method).vars
    source := s.handle, origin }

section Combinations

variable (verb : String) (classPaths methodPaths : List PathFragment) (params : List String)

/-- The routes of one class path and one method path. -/
def combinationsAt (cls method : PathFragment × Nat) : List Route :=
  params.zipIdx.map fun param =>
    s.combination verb cls.1 method.1 param.1 ⟨cls.2, method.2, param.2⟩

/-- The routes of one class path. -/
def combinationsOf (cls : PathFragment × Nat) : List Route :=
  methodPaths.zipIdx.flatMap (s.combinationsAt verb params cls)

theorem combinations_eq_flatMap :
    s.combinations verb classPaths methodPaths params =
      classPaths.zipIdx.flatMap (s.combinationsOf verb methodPaths params) := rfl

/-- Of the site only the names around it are in its routes. -/
theorem combinations_congr {s s' : Site} (h : s.handle = s'.handle) :
    s.combinations verb classPaths methodPaths params =
      s'.combinations verb classPaths methodPaths params := by
  rw [combinations, combinations, h]

theorem source_of_mem_combinations {r : Route}
    (h : r ∈ s.combinations verb classPaths methodPaths params) : r.source = s.handle := by
  rw [combinations_eq_flatMap] at h
  obtain ⟨cls, -, h⟩ := List.mem_flatMap.1 h
  obtain ⟨method, -, h⟩ := List.mem_flatMap.1 h
  obtain ⟨param, -, rfl⟩ := List.mem_map.1 h
  rfl

theorem length_combinationsAt (cls method : PathFragment × Nat) :
    (s.combinationsAt verb params cls method).length = params.length := by
  rw [combinationsAt, List.length_map, List.length_zipIdx]

theorem length_combinationsOf (cls : PathFragment × Nat) :
    (s.combinationsOf verb methodPaths params cls).length =
      methodPaths.length * params.length := by
  rw [combinationsOf, length_flatMap_of_length (s.length_combinationsAt verb params cls),
    List.length_zipIdx]

theorem getElem?_combinationsOf (cls : PathFragment × Nat) {method : PathFragment} {param : String}
    {j l : Nat} (hmethod : methodPaths[j]? = some method) (hparam : params[l]? = some param) :
    (s.combinationsOf verb methodPaths params cls)[j * params.length + l]? =
      some (s.combination verb cls.1 method param ⟨cls.2, j, l⟩) := by
  have hl : l < params.length := (List.getElem?_eq_some_iff.1 hparam).1
  rw [combinationsOf, getElem?_flatMap_of_length (s.length_combinationsAt verb params cls) hl,
    List.getElem?_zipIdx, hmethod]
  simp [combinationsAt, hparam]

theorem length_combinations :
    (s.combinations verb classPaths methodPaths params).length =
      classPaths.length * methodPaths.length * params.length := by
  rw [combinations_eq_flatMap,
    length_flatMap_of_length (s.length_combinationsOf verb methodPaths params),
    List.length_zipIdx, Nat.mul_assoc]

/-- The route at each place: the condition varies fastest, then the method path. -/
theorem getElem?_combinations {cls method : PathFragment} {param : String} {i j l : Nat}
    (hcls : classPaths[i]? = some cls) (hmethod : methodPaths[j]? = some method)
    (hparam : params[l]? = some param) :
    (s.combinations verb classPaths methodPaths params)[(i * methodPaths.length + j) *
      params.length + l]? = some (s.combination verb cls method param ⟨i, j, l⟩) := by
  have hj : j < methodPaths.length := (List.getElem?_eq_some_iff.1 hmethod).1
  have hl : l < params.length := (List.getElem?_eq_some_iff.1 hparam).1
  have hplace : (i * methodPaths.length + j) * params.length + l =
      i * (methodPaths.length * params.length) + (j * params.length + l) := by
    rw [Nat.add_mul, Nat.mul_assoc, Nat.add_assoc]
  have hlt : j * params.length + l < methodPaths.length * params.length := by
    calc j * params.length + l < j * params.length + params.length := Nat.add_lt_add_left hl _
      _ = (j + 1) * params.length := (Nat.succ_mul _ _).symm
      _ ≤ methodPaths.length * params.length := Nat.mul_le_mul_right _ hj
  rw [combinations_eq_flatMap, hplace,
    getElem?_flatMap_of_length (s.length_combinationsOf verb methodPaths params) hlt,
    List.getElem?_zipIdx, hcls, Option.map_some, Option.bind_some, Nat.zero_add]
  exact s.getElem?_combinationsOf verb methodPaths params (cls, i) hmethod hparam

end Combinations

variable {tree config s} (k : MappingKind)

theorem assemble_of_method {m : Method} (hm : s.method = some m) :
    s.assemble tree config k =
      .ok (s.combinations (s.subject.httpMethod tree config k)
        ((s.classTexts tree config).map (fragment tree config m))
        ((s.subject.pathTexts tree).map (fragment tree config m))
        (s.subject.paramTexts tree)) := by
  rw [← classPaths_eq_map, ← methodPaths_eq_map, ← Annotation.params_eq_paramTexts, assemble,
    assembleWith, hm]

theorem assemble_of_no_method (hm : s.method = none) :
    s.assemble tree config k = .error (.malformedTarget s.subject.qualifiedName s.location) := by
  rw [assemble, assembleWith, hm]

/-- **The routes of a site are all combinations** of its class paths, method paths and conditions,
at the places that their own places determine.  Only a site without a method is at fault. -/
theorem assemble_eq_product (tree : SyntaxTree) (config : ScanConfig) (k : MappingKind) (s : Site) :
    ((∃ name place, s.assemble tree config k = .error (.malformedTarget name place)) ↔
      s.method = none) ∧
    ∀ m, s.method = some m →
      let cs := s.classTexts tree config
      let ms := s.subject.pathTexts tree
      let ps := s.subject.paramTexts tree
      1 ≤ cs.length ∧ 1 ≤ ms.length ∧ 1 ≤ ps.length ∧
      ∃ routes, s.assemble tree config k = .ok routes ∧
        routes.length = cs.length * ms.length * ps.length ∧
        ∀ i j l (hi : i < cs.length) (hj : j < ms.length) (hl : l < ps.length),
          let joined := (fragment tree config m cs[i]).join (fragment tree config m ms[j])
          routes[(i * ms.length + j) * ps.length + l]? =
            some
              { verb := s.subject.httpMethod tree config k, path := joined.text, params := ps[l]
                vars := joined.vars, source := s.handle, origin := ⟨i, j, l⟩ } := by
  constructor
  · constructor
    · rintro ⟨name, place, herror⟩
      cases hm : s.method with
      | none => rfl
      | some m =>
        rw [assemble_of_method k hm] at herror
        cases herror
    · intro hm
      exact ⟨_, _, assemble_of_no_method k hm⟩
  · intro m hm cs ms ps
    refine ⟨List.length_pos_iff.2 (s.classTexts_ne_nil tree config),
      List.length_pos_iff.2 (s.subject.pathTexts_ne_nil tree),
      List.length_pos_iff.2 (s.subject.paramTexts_ne_nil tree), _, assemble_of_method k hm, ?_, ?_⟩
    · rw [length_combinations, List.length_map, List.length_map]
    · intro i j l hi hj hl
      have hcls : (cs.map (fragment tree config m))[i]? = some (fragment tree config m cs[i]) := by
        rw [List.getElem?_map, List.getElem?_eq_getElem hi, Option.map_some]
      have hmethod : (ms.map (fragment tree config m))[j]? = some (fragment tree config m ms[j]) := by
        rw [List.getElem?_map, List.getElem?_eq_getElem hj, Option.map_some]
      have hroute := s.getElem?_combinations (s.subject.httpMethod tree config k) _ _ ps hcls
        hmethod (List.getElem?_eq_getElem hl)
      rw [List.length_map] at hroute
      exact hroute

/-- A method mapped to `/x` in a type that is mapped to `/a` and to `/b`. -/
def aliasedSite : Site where
  subject :=
    { qualifiedName := MappingKind.get.qualifiedName
      attributes := Dictionary.empty.insert "value" (.string "/x") }
  method := some { name := "list" }
  owner := some {
    qualifiedName := "Shop"
    annotations :=
      [{ qualifiedName := MappingKind.request.qualifiedName
         attributes := Dictionary.empty.insert "path" (.array [.string "/a", .string "/b"]) }] }

/-- Two class paths, one method path and no condition make two routes, the second below `/b`. -/
theorem assemble_eq_product_aliased :
    aliasedSite.method = some { name := "list" } ∧
      ∃ routes, aliasedSite.assemble {} {} .get = .ok routes ∧ routes.length = 2 ∧
        routes[1]?.map (·.path) = some "/b/x" := by
  have hcs : aliasedSite.classTexts {} {} = ["/a", "/b"] := by
    have hread : aliasedSite.classTexts {} {} =
        [(Expr.string "/a").entryText {}, (Expr.string "/b").entryText {}] := rfl
    rw [hread, Expr.entryText_string {} (by decide), Expr.entryText_string {} (by decide)]
  have hms : aliasedSite.subject.pathTexts {} = ["/x"] := by
    have hread : aliasedSite.subject.pathTexts {} = [(Expr.string "/x").entryText {}] := rfl
    rw [hread, Expr.entryText_string {} (by decide)]
  have hps : aliasedSite.subject.paramTexts {} = [""] := rfl
  have hpath : Path.joinText "/b".toList "/x".toList = "/b/x".toList := by decide
  obtain ⟨-, hall⟩ := assemble_eq_product {} {} .get aliasedSite
  obtain ⟨-, -, -, routes, hok, hlength, hroute⟩ := hall { name := "list" } rfl
  refine ⟨rfl, routes, hok, ?_, ?_⟩
  · rw [hlength, hcs, hms, hps]
    rfl
  · have hsecond := hroute 1 0 0 (by rw [hcs]; decide) (by rw [hms]; decide) (by rw [hps]; decide)
    simp only [hcs, hms, hps] at hsecond
    refine (congrArg (Option.map (·.path)) hsecond).trans (congrArg some ?_)
    show String.ofList (Path.joinText "/b".toList "/x".toList) = "/b/x"
    rw [hpath, String.ofList_toList]

end Site

end RouteAtlas
