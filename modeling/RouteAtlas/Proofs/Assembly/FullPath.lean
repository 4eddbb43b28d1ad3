import RouteAtlas.Proofs.Assembly.Typing
import RouteAtlas.Proofs.Path.Declared
import RouteAtlas.Proofs.Path.JoinedText

/-!
# RouteAtlas.Proofs.Assembly.FullPath — the variables of a route and those of its path

The variables of a joined path are put together from those of the class path and of the method path,
its text from the two texts.  Where the class path closes its groups, the slashes that joining adds
or takes away stand outside of all groups (`groups_joinText`).  The main statement says that the
variables are then the ones that the joined text declares, also for every route of a site.
-/

namespace RouteAtlas

namespace Path

variable {cls cs ss : List Char}

/-! ## Slashes outside of groups -/

theorem depthFrom_slashes (h : Slashes ss) (d : Nat) : depthFrom d ss = d := by
  induction ss with
  | nil => rfl
  | cons c ss ih =>
    obtain ⟨rfl, hss⟩ := slashes_cons_iff.1 h
    exact ih hss

theorem groups_slashes_append (h : Slashes ss) (cs : List Char) :
    groups (ss ++ cs) = groups cs := by
  induction ss with
  | nil => rfl
  | cons c ss ih =>
    obtain ⟨rfl, hss⟩ := slashes_cons_iff.1 h
    rw [List.cons_append, groups_cons_of_ne (by decide), ih hss]

theorem groups_slashes (h : Slashes ss) : groups ss = [] := by
  have hss := groups_slashes_append h []
  rwa [List.append_nil, groups] at hss

theorem groups_trimSlashesStart (cs : List Char) : groups (trimSlashesStart cs) = groups cs := by
  obtain ⟨ss, hss, hcs⟩ := exists_trimSlashesStart cs
  conv_rhs => rw [hcs]
  rw [groups_slashes_append hss]

theorem depth_trimSlashesEnd (cs : List Char) : depth (trimSlashesEnd cs) = depth cs := by
  obtain ⟨ss, hss, hcs⟩ := exists_trimSlashesEnd cs
  conv_rhs => rw [hcs]
  rw [depth, depth, depthFrom_append, depthFrom_slashes hss]

theorem groups_trimSlashesEnd (h : depth cs = 0) : groups (trimSlashesEnd cs) = groups cs := by
  obtain ⟨ss, hss, hcs⟩ := exists_trimSlashesEnd cs
  have hclosed : depth (trimSlashesEnd cs) = 0 := by rw [depth_trimSlashesEnd, h]
  conv_rhs => rw [hcs]
  rw [groups_append hclosed, groups_slashes hss, List.append_nil]

/-- **The groups of a joined path** are those of the class path and those of the method path, where
the class path closes its groups. -/
theorem groups_joinText (h : depth cls = 0) (method : List Char) :
    groups (joinText cls method) = groups cls ++ groups method := by
  obtain ⟨lead, seam, hlead, hseam, heq, -⟩ := exists_joinText_eq cls method
  have hclosed : depth (trimSlashesEnd cls) = 0 := by rw [depth_trimSlashesEnd, h]
  calc groups (joinText cls method)
      = groups (trimSlashesEnd cls ++ (seam ++ trimSlashesStart method)) := by
        rw [heq, groups_slashes_append hlead]
    _ = groups (trimSlashesEnd cls) ++ groups (seam ++ trimSlashesStart method) :=
        groups_append hclosed _
    _ = groups cls ++ groups method := by
        rw [groups_trimSlashesEnd h, groups_slashes_append hseam, groups_trimSlashesStart]

theorem variableNames_joinText (h : depth cls = 0) (method : List Char) :
    variableNames (joinText cls method) =
      variableNames cls ++ (variableNames method).filter (· ∉ variableNames cls) := by
  rw [variableNames, groups_joinText h, List.filterMap_append, List.eraseDups_append,
    List.removeAll, eraseDups_filter, variableNames, variableNames]
  congr 1
  apply List.filter_congr
  intro name _
  simp only [List.elem_eq_mem, List.mem_eraseDups, decide_not]

end Path

namespace PathFragment

/-- The variables of a joined path are those that its text declares. -/
theorem names_join_ofText {cls : String} (h : Path.depth cls.toList = 0) (method : String) :
    ((ofText cls).join (ofText method)).names =
      (ofText ((ofText cls).join (ofText method)).text).names := by
  rw [names_join (nodup_names_ofText method), names_ofText, names_ofText, names_ofText,
    toList_text_join]
  exact (Path.variableNames_joinText h method.toList).symm

variable (p q : PathFragment) (b : Binding)

theorem text_join_withTypes : ((p.withTypes b).join (q.withTypes b)).text = (p.join q).text := rfl

theorem names_join_withTypes (h : q.names.Nodup) :
    ((p.withTypes b).join (q.withTypes b)).names = (p.join q).names := by
  have htyped : (q.withTypes b).names.Nodup := by
    rw [names_withTypes]
    exact h
  rw [names_join h, names_join htyped, names_withTypes, names_withTypes]

end PathFragment

namespace Site

section Routes

variable {tree : SyntaxTree} {config : ScanConfig}

/-- The types that the parameters of a method give do not matter for the names. -/
theorem names_join_fragment {cls : String} (h : Path.depth cls.toList = 0) (m : Method)
    (method : String) :
    let joined := (fragment tree config m cls).join (fragment tree config m method)
    joined.names = (PathFragment.ofText joined.text).names := by
  intro joined
  have htext : joined.text = ((PathFragment.ofText cls).join (PathFragment.ofText method)).text :=
    PathFragment.text_join_withTypes _ _ _
  have hnames : joined.names = ((PathFragment.ofText cls).join (PathFragment.ofText method)).names :=
    PathFragment.names_join_withTypes _ _ _ (PathFragment.nodup_names_ofText method)
  rw [htext, hnames]
  exact PathFragment.names_join_ofText h method

/-- A route has the text and the variables of one class path joined with one method path. -/
theorem exists_join_of_assemble {k : MappingKind} {s : Site} {routes : List Route} {r : Route}
    (hok : s.assemble tree config k = .ok routes) (hr : r ∈ routes) :
    ∃ m cls method, (s.classTexts tree config)[r.origin.classIndex]? = some cls ∧
      let joined := (fragment tree config m cls).join (fragment tree config m method)
      r.path = joined.text ∧ r.vars = joined.vars := by
  cases hm : s.method with
  | none =>
    rw [assemble_of_no_method k hm] at hok
    cases hok
  | some m =>
    rw [assemble_of_method k hm] at hok
    cases hok
    obtain ⟨_, _, param, hfirst, hsecond, hroute⟩ := exists_of_mem_combinations hr
    rw [List.getElem?_map] at hfirst hsecond
    obtain ⟨cls, hcls, rfl⟩ := Option.map_eq_some_iff.1 hfirst
    obtain ⟨method, -, rfl⟩ := Option.map_eq_some_iff.1 hsecond
    refine ⟨m, cls, method, hcls, ?_, ?_⟩
    · rw [hroute]
      rfl
    · rw [hroute]
      rfl

end Routes

/-- **The variables of a joined path are those that its text declares**, in the same order, where
the class path closes every group that it opens.  So the variables of a route below such a class
path are just those of its full path. -/
theorem names_eq_of_closed :
    (∀ cls method : String, Path.depth cls.toList = 0 →
      let joined := (PathFragment.ofText cls).join (PathFragment.ofText method)
      joined.names = (PathFragment.ofText joined.text).names) ∧
    ∀ (tree : SyntaxTree) (config : ScanConfig) (k : MappingKind) (s : Site) (routes : List Route),
      s.assemble tree config k = .ok routes → ∀ r ∈ routes,
        ∃ cls, (s.classTexts tree config)[r.origin.classIndex]? = some cls ∧
          (Path.depth cls.toList = 0 →
            r.vars.map (·.name) = (PathFragment.ofText r.path).names) := by
  constructor
  · intro cls method h
    exact PathFragment.names_join_ofText h method
  · intro tree config k s routes hok r hr
    obtain ⟨m, cls, method, hcls, hpath, hvars⟩ := exists_join_of_assemble hok hr
    refine ⟨cls, hcls, fun hclosed => ?_⟩
    rw [hpath, hvars]
    exact names_join_fragment hclosed m method

/-- A method mapped to `items/{id}` in a type mapped to `/{city:[a-z]{3}}/`. -/
def constrainedSite : Site where
  subject :=
    { qualifiedName := MappingKind.get.qualifiedName
      attributes := Dictionary.empty.insert "path" (.string "items/\x7bid\x7d") }
  method := some { name := "show" }
  owner := some {
    qualifiedName := "Shop"
    annotations :=
      [{ qualifiedName := MappingKind.request.qualifiedName
         attributes :=
          Dictionary.empty.insert "path" (.string "/\x7bcity:[a-z]\x7b3\x7d\x7d/") }] }

/-- The braces of the constraint are closed, so the full path declares `city` and `id` like the two
paths it is made of. -/
theorem names_eq_of_closed_constrained :
    ∃ routes, constrainedSite.assemble {} {} .get = .ok routes ∧ routes ≠ [] ∧
      ∀ r ∈ routes, r.vars.map (·.name) = (PathFragment.ofText r.path).names := by
  have hcs : constrainedSite.classTexts {} {} = ["/\x7bcity:[a-z]\x7b3\x7d\x7d/"] := by
    have hread : constrainedSite.classTexts {} {} =
        [(Expr.string "/\x7bcity:[a-z]\x7b3\x7d\x7d/").entryText {}] := rfl
    rw [hread, Expr.entryText_string {} (by decide)]
  have hm : constrainedSite.method = some { name := "show" } := rfl
  have hok : constrainedSite.assemble {} {} .get = .ok _ := assemble_of_method .get hm
  refine ⟨_, hok, ?_, fun r hr => ?_⟩
  · rw [← List.length_pos_iff, length_combinations, List.length_map, List.length_map, hcs]
    decide
  obtain ⟨cls, hcls, hnames⟩ := names_eq_of_closed.2 _ _ _ _ _ hok r hr
  rw [hcs] at hcls
  have hclosed : Path.depth cls.toList = 0 := by
    rw [List.mem_singleton.1 (List.mem_of_getElem? hcls)]
    decide
  exact hnames hclosed

end Site

end RouteAtlas
