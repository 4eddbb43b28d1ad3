import Mathlib
import RouteAtlas.Proofs.Assembly.ReadAlike
import RouteAtlas.Proofs.Assembly.Typing

/-!
# RouteAtlas.Proofs.Assembly.Bindings — which parameters bind which variables

A parameter exposes a variable by the first marker that stands on it.  The marker names the variable
in one of two attributes, where a literal or a name stands and folds to more than blanks; a marker
that does not name it leaves it the name of the parameter.  The main statement says what a list of
parameters binds in terms of the variables that they expose.
-/

namespace RouteAtlas

/-! ## The variable that a parameter exposes -/

/-- The expression is a literal or a name, and it folds to this text, which is not blank. -/
def Expr.GivesName (tree : SyntaxTree) (e : Expr) (name : String) : Prop :=
  ((∃ raw value, e = .literal raw value) ∨ ∃ written target, e = .reference written target) ∧
    e.fold tree = name ∧ Text.isBlank name = false

/-- The attribute of the marker names the variable. -/
def Annotation.Names (tree : SyntaxTree) (marker : Annotation) (key name : String) : Prop :=
  ∃ e, marker.attribute? key = some e ∧ e.GivesName tree name

namespace Parameter

/-- The annotation is the first one of the qualified name on the parameter. -/
def Marked (p : Parameter) (qualifiedName : String) (marker : Annotation) : Prop :=
  ∃ before after, p.annotations = before ++ marker :: after ∧
    marker.qualifiedName = qualifiedName ∧ ∀ a ∈ before, a.qualifiedName ≠ qualifiedName

/-- The parameter exposes the variable: the `value` of its marker names it, or else the `name` of
the marker does, or else the parameter is called so. -/
inductive Exposes (tree : SyntaxTree) (qualifiedName : String) (p : Parameter) : String → Prop
  | byValue {marker : Annotation} {name : String} : p.Marked qualifiedName marker →
    marker.Names tree "value" name → Exposes tree qualifiedName p name
  | byName {marker : Annotation} {name : String} : p.Marked qualifiedName marker →
    (∀ other, ¬ marker.Names tree "value" other) → marker.Names tree "name" name →
      Exposes tree qualifiedName p name
  | byIdentifier {marker : Annotation} : p.Marked qualifiedName marker →
    (∀ other, ¬ marker.Names tree "value" other) → (∀ other, ¬ marker.Names tree "name" other) →
      Exposes tree qualifiedName p p.name

end Parameter

section Exposes

variable {tree : SyntaxTree} {marker : Annotation} {qualifiedName name : String} {p : Parameter}

theorem Expr.variableName?_eq_some_iff {e : Expr} :
    e.variableName? tree = some name ↔ e.GivesName tree name := by
  -- what a literal or a name gives is its text, unless that is blank
  have hgiven : ∀ text : String,
      (if Text.isBlank text = true then none else some text) = some name ↔
        text = name ∧ Text.isBlank name = false := by
    intro text
    constructor
    · intro h
      split_ifs at h with hblank
      obtain rfl := Option.some.inj h
      exact ⟨rfl, by simpa using hblank⟩
    · rintro ⟨rfl, hblank⟩
      simp [hblank]
  cases e with
  | literal | reference => simp [variableName?, GivesName, hgiven]
  | concat | polyadic | array | other => simp [variableName?, GivesName]

theorem Annotation.namedVariable?_eq_some_iff {key : String} :
    marker.namedVariable? tree key = some name ↔ marker.Names tree key name := by
  simp only [namedVariable?, Names, Option.bind_eq_some_iff, Expr.variableName?_eq_some_iff]

theorem Annotation.namedVariable?_eq_none_iff {key : String} :
    marker.namedVariable? tree key = none ↔
      ∀ other, ¬ marker.Names tree key other := by
  simp only [Option.eq_none_iff_forall_ne_some, ne_eq, namedVariable?_eq_some_iff]

theorem Parameter.annotation?_eq_some_iff :
    p.annotation? qualifiedName = some marker ↔ p.Marked qualifiedName marker := by
  rw [annotation?, List.find?_eq_some_iff_append]
  constructor
  · rintro ⟨hname, before, after, happend, hbefore⟩
    exact ⟨before, after, happend, by simpa using hname, fun a ha => by simpa using hbefore a ha⟩
  · rintro ⟨before, after, happend, hname, hbefore⟩
    exact ⟨by simpa using hname, before, after, happend, fun a ha => by simpa using hbefore a ha⟩

theorem Parameter.exposedName_eq_getD (tree : SyntaxTree) (p : Parameter) (marker : Annotation) :
    p.exposedName tree marker =
      ((marker.namedVariable? tree "value").or
        (marker.namedVariable? tree "name")).getD p.name := by
  rw [exposedName_eq, namingAttributes]
  cases hvalue : marker.namedVariable? tree "value" with
  | some name => simp [hvalue]
  | none =>
    cases hname : marker.namedVariable? tree "name" with
    | some name => simp [hvalue, hname]
    | none => simp [hvalue, hname]

/-- A parameter exposes just the variable that it is looked up to bind. -/
theorem Parameter.exposes_iff :
    p.Exposes tree qualifiedName name ↔
      ∃ marker, p.annotation? qualifiedName = some marker ∧ p.exposedName tree marker = name := by
  constructor
  · intro h
    cases h with
    | byValue hmarked hvalue =>
      refine ⟨_, annotation?_eq_some_iff.2 hmarked, ?_⟩
      rw [exposedName_eq_getD, Annotation.namedVariable?_eq_some_iff.2 hvalue]
      rfl
    | byName hmarked hvalue hname =>
      refine ⟨_, annotation?_eq_some_iff.2 hmarked, ?_⟩
      rw [exposedName_eq_getD, Annotation.namedVariable?_eq_none_iff.2 hvalue,
        Annotation.namedVariable?_eq_some_iff.2 hname]
      rfl
    | byIdentifier hmarked hvalue hname =>
      refine ⟨_, annotation?_eq_some_iff.2 hmarked, ?_⟩
      rw [exposedName_eq_getD, Annotation.namedVariable?_eq_none_iff.2 hvalue,
        Annotation.namedVariable?_eq_none_iff.2 hname]
      rfl
  · rintro ⟨marker, hmarker, rfl⟩
    have hmarked := annotation?_eq_some_iff.1 hmarker
    rw [exposedName_eq_getD]
    cases hvalue : marker.namedVariable? tree "value" with
    | some name =>
      have hnamed := Annotation.namedVariable?_eq_some_iff.1 hvalue
      exact .byValue hmarked hnamed
    | none =>
      have hno := Annotation.namedVariable?_eq_none_iff.1 hvalue
      cases hname : marker.namedVariable? tree "name" with
      | some name =>
        have hnamed := Annotation.namedVariable?_eq_some_iff.1 hname
        exact .byName hmarked hno hnamed
      | none =>
        have hnone := Annotation.namedVariable?_eq_none_iff.1 hname
        exact .byIdentifier hmarked hno hnone

theorem Parameter.exposes_iff_binds :
    p.Exposes tree qualifiedName name ↔ p.binds tree qualifiedName name = true := by
  rw [exposes_iff, binds, Option.any_eq_true]
  simp only [beq_iff_eq]

theorem Parameter.exposes_of_bound? {bound : String × String}
    (h : p.bound? tree qualifiedName = some bound) : p.Exposes tree qualifiedName bound.1 := by
  obtain ⟨marker, hmarker, rfl⟩ := Option.map_eq_some_iff.1 h
  exact exposes_iff.2 ⟨marker, hmarker, rfl⟩

/-- A parameter with a marker exposes one variable. -/
theorem Parameter.existsUnique_exposes
    (h : ∃ a ∈ p.annotations, a.qualifiedName = qualifiedName) :
    ∃! name, p.Exposes tree qualifiedName name := by
  obtain ⟨a, ha, hname⟩ := h
  cases hmarker : p.annotation? qualifiedName with
  | none => exact absurd hname (by simpa using List.find?_eq_none.1 hmarker a ha)
  | some marker =>
    refine ⟨_, exposes_iff.2 ⟨marker, hmarker, rfl⟩, fun other hother => ?_⟩
    obtain ⟨marker', hmarker', rfl⟩ := exposes_iff.1 hother
    rw [hmarker] at hmarker'
    cases hmarker'
    rfl

end Exposes

/-! ## What the parameters bind -/

section Bind

variable {tree : SyntaxTree} {qualifiedName name : String} {ps : List Parameter} {p : Parameter}

theorem lastBinding?_eq_some_iff :
    lastBinding? tree qualifiedName name ps = some p ↔
      ∃ before after, ps = before ++ p :: after ∧ p.Exposes tree qualifiedName name ∧
        ∀ q ∈ after, ¬ q.Exposes tree qualifiedName name := by
  simp only [Parameter.exposes_iff_binds]
  rw [lastBinding?, List.getLast?_filter, List.find?_eq_some_iff_append]
  constructor
  · rintro ⟨hp, after, before, happend, hafter⟩
    refine ⟨before.reverse, after.reverse, ?_, hp, fun q hq => ?_⟩
    · rw [List.reverse_eq_iff.1 happend]
      simp
    · simpa using hafter q (List.mem_reverse.1 hq)
  · rintro ⟨before, after, rfl, hp, hafter⟩
    refine ⟨hp, after.reverse, before.reverse, by simp, fun q hq => ?_⟩
    simpa using hafter q (List.mem_reverse.1 hq)

theorem lastBinding?_eq_none_iff :
    lastBinding? tree qualifiedName name ps = none ↔
      ∀ p ∈ ps, ¬ p.Exposes tree qualifiedName name := by
  simp only [Parameter.exposes_iff_binds]
  rw [lastBinding?, List.getLast?_filter, List.find?_eq_none]
  simp only [List.mem_reverse]

theorem get?_bind_ne_none_iff :
    (bind tree qualifiedName ps).get? name ≠ none ↔
      ∃ p ∈ ps, p.Exposes tree qualifiedName name := by
  rw [get?_bind, ne_eq, Option.map_eq_none_iff, lastBinding?_eq_none_iff]
  push Not
  rfl

theorem size_bind :
    (bind tree qualifiedName ps).size =
      {name | ∃ p ∈ ps, p.Exposes tree qualifiedName name}.ncard := by
  have hset : {name | ∃ p ∈ ps, p.Exposes tree qualifiedName name} =
      ((bind tree qualifiedName ps).names.toFinset : Set String) := by
    ext name
    simp [Dictionary.mem_names_iff, get?_bind_ne_none_iff]
  rw [hset, Set.ncard_coe_finset, List.toFinset_card_of_nodup (Dictionary.names_nodup _)]
  simp [Dictionary.names, Dictionary.size]

theorem bind_eq_of_perm {ps' : List Parameter} (hperm : ps'.Perm ps)
    (h : ps.Pairwise fun p q => ∀ name, p.Exposes tree qualifiedName name →
      ¬ q.Exposes tree qualifiedName name) :
    bind tree qualifiedName ps' = bind tree qualifiedName ps := by
  have hnodup : ((ps.filterMap (·.bound? tree qualifiedName)).map (·.1)).Nodup := by
    refine List.pairwise_map.2 (List.pairwise_filterMap.2 (h.imp ?_))
    intro p q hdistinct bound hp bound' hq heq
    have hexposes := Parameter.exposes_of_bound? hq
    rw [← heq] at hexposes
    exact hdistinct bound.1 (Parameter.exposes_of_bound? hp) hexposes
  exact Dictionary.ofList_eq_ofList_of_perm hnodup (hperm.filterMap _)

end Bind

/-- **What parameters bind.**  A parameter with a marker exposes one variable.  A variable is bound
to the type of the last parameter that exposes it, as that type is written, and to nothing when none
does, so there are as many bindings as variables that are exposed.  Where no two parameters expose
the same variable, their order makes no difference. -/
theorem bind_of_exposes (tree : SyntaxTree) (marker : String) (ps : List Parameter) :
    (∀ p : Parameter, (∃ a ∈ p.annotations, a.qualifiedName = marker) →
      ∃! name, p.Exposes tree marker name) ∧
    (∀ name typeName, (bind tree marker ps).get? name = some typeName ↔
      ∃ before p after, ps = before ++ p :: after ∧ p.Exposes tree marker name ∧
        p.typeName = typeName ∧ ∀ q ∈ after, ¬ q.Exposes tree marker name) ∧
    (∀ name, (bind tree marker ps).get? name = none ↔
      ∀ p ∈ ps, ¬ p.Exposes tree marker name) ∧
    (bind tree marker ps).size = {name | ∃ p ∈ ps, p.Exposes tree marker name}.ncard ∧
    ∀ ps' : List Parameter, ps'.Perm ps →
      (ps.Pairwise fun p q => ∀ name, p.Exposes tree marker name →
        ¬ q.Exposes tree marker name) →
      bind tree marker ps' = bind tree marker ps := by
  refine ⟨fun p => Parameter.existsUnique_exposes, fun name typeName => ?_, fun name => ?_,
    size_bind, fun ps' hperm hdistinct => bind_eq_of_perm hperm hdistinct⟩
  · rw [get?_bind, Option.map_eq_some_iff]
    constructor
    · rintro ⟨p, hp, htype⟩
      obtain ⟨before, after, hps, hexposes, hafter⟩ := lastBinding?_eq_some_iff.1 hp
      exact ⟨before, p, after, hps, hexposes, htype, hafter⟩
    · rintro ⟨before, p, after, hps, hexposes, htype, hafter⟩
      exact ⟨p, lastBinding?_eq_some_iff.2 ⟨before, after, hps, hexposes, hafter⟩, htype⟩
  · rw [get?_bind, Option.map_eq_none_iff]
    exact lastBinding?_eq_none_iff

/-- A parameter `String login` whose marker has a blank `value` and the `name` `user`. -/
def renamedParameter : Parameter where
  name := "login"
  typeName := "String"
  annotations :=
    [{ qualifiedName := "PathVariable"
       attributes := .ofList [("name", .string "user"), ("value", .string " ")] }]

/-- A parameter `Long id` with a bare marker. -/
def plainParameter : Parameter where
  name := "id"
  typeName := "Long"
  annotations := [{ qualifiedName := "PathVariable" }]

/-- The two parameters expose `user` and `id`, so they may change places. -/
theorem bind_of_exposes_swapped :
    let ps := [renamedParameter, plainParameter]
    let swapped := [plainParameter, renamedParameter]
    renamedParameter.Exposes {} "PathVariable" "user" ∧
      plainParameter.Exposes {} "PathVariable" "id" ∧
      bind {} "PathVariable" swapped = bind {} "PathVariable" ps ∧
      (bind {} "PathVariable" swapped).get? "user" = some "String" ∧
      (bind {} "PathVariable" swapped).get? "login" = none := by
  intro ps swapped
  have hrenamed : renamedParameter.Exposes {} "PathVariable" "user" := by
    have hbound : renamedParameter.bound? {} "PathVariable" = some ("user", "String") := by cbv
    exact Parameter.exposes_of_bound? hbound
  have hplain : plainParameter.Exposes {} "PathVariable" "id" := by
    have hbound : plainParameter.bound? {} "PathVariable" = some ("id", "Long") := by cbv
    exact Parameter.exposes_of_bound? hbound
  obtain ⟨hone, hlast, hnone, -, hperm⟩ := bind_of_exposes {} "PathVariable" ps
  have hrenamedOnly : ∀ name, renamedParameter.Exposes {} "PathVariable" name → name = "user" :=
    fun name h => (hone renamedParameter ⟨_, List.mem_cons_self, rfl⟩).unique h hrenamed
  have hplainOnly : ∀ name, plainParameter.Exposes {} "PathVariable" name → name = "id" :=
    fun name h => (hone plainParameter ⟨_, List.mem_cons_self, rfl⟩).unique h hplain
  have hdistinct : ps.Pairwise fun p q => ∀ name, p.Exposes {} "PathVariable" name →
      ¬ q.Exposes {} "PathVariable" name := by
    refine List.pairwise_pair.2 fun name hp hq => ?_
    obtain rfl := hrenamedOnly name hp
    exact absurd (hplainOnly _ hq) (by decide)
  have hswap := hperm swapped (.swap _ _ _) hdistinct
  refine ⟨hrenamed, hplain, hswap, ?_, ?_⟩
  · rw [hswap]
    refine (hlast "user" "String").2
      ⟨[], renamedParameter, [plainParameter], rfl, hrenamed, rfl, fun q hq h => ?_⟩
    obtain rfl := List.mem_singleton.1 hq
    exact absurd (hplainOnly _ h) (by decide)
  · rw [hswap]
    refine (hnone "login").2 fun p hp h => ?_
    rcases List.mem_cons.1 hp with rfl | hp
    · exact absurd (hrenamedOnly _ h) (by decide)
    · obtain rfl := List.mem_singleton.1 hp
      exact absurd (hplainOnly _ h) (by decide)

end RouteAtlas
