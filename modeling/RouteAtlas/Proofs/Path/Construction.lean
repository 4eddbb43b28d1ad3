import RouteAtlas.Proofs.Path.Declared
import RouteAtlas.Proofs.Path.Variables
import RouteAtlas.Proofs.Text.Trimming

/-!
# RouteAtlas.Proofs.Path.Construction — what holds of every path that can be built

Paths are made of texts, typed and joined.  Each of these steps keeps the names of the variables
distinct and makes none that could not stand in a group.  The main statement says so of all paths
that such steps build, so that a name means just one variable, and gives the variables of two such
paths when they are joined.
-/

namespace RouteAtlas

/-- The text may stand in a group as the name of a variable. -/
structure IsVariableName (name : String) : Prop where
  ne_empty : name ≠ ""
  trimmed : Text.trimmed name = name
  plain : ∀ c ∈ name.toList, c ≠ '{' ∧ c ≠ '}' ∧ c ≠ ':' ∧ c ≠ '/'

theorem Path.Group.Declares.isVariableName {g : Path.Group} {name : String}
    (h : g.Declares name) : IsVariableName name := by
  obtain ⟨head, tail, -, hcolon, -, hplain, htrim, hne⟩ := h
  refine ⟨hne, ?_, fun c hc => ?_⟩
  · rw [← String.toList_inj, Text.toList_trimmed, ← htrim, Text.trim_trim]
  · rw [← htrim] at hc
    have hmem := Text.mem_of_mem_trim hc
    obtain ⟨hopen, hclose, hslash⟩ := hplain c hmem
    exact ⟨hopen, hclose, hcolon c hmem, hslash⟩

namespace PathFragment

/-- The paths that are built from texts by typing and joining. -/
inductive Built : PathFragment → Prop
  | ofText (text : String) : Built (ofText text)
  | empty : Built empty
  | withTypes {p : PathFragment} (b : Binding) : Built p → Built (p.withTypes b)
  | join {cls method : PathFragment} : Built cls → Built method → Built (cls.join method)

/-- The variables have distinct names, and each of them could stand in a group. -/
structure WellNamed (p : PathFragment) : Prop where
  nodup : p.names.Nodup
  isVariableName : ∀ name ∈ p.names, IsVariableName name

theorem wellNamed_ofText (text : String) : (ofText text).WellNamed := by
  refine ⟨nodup_names_ofText text, fun name hname => ?_⟩
  rw [names_ofText] at hname
  obtain ⟨g, -, hdeclares⟩ := Path.mem_variableNames_iff.1 hname
  exact hdeclares.isVariableName

theorem wellNamed_empty : empty.WellNamed := ⟨.nil, by simp [names, empty]⟩

theorem WellNamed.withTypes {p : PathFragment} (h : p.WellNamed) (b : Binding) :
    (p.withTypes b).WellNamed := by
  constructor
  · rw [names_withTypes]
    exact h.nodup
  · rw [names_withTypes]
    exact h.isVariableName

theorem WellNamed.join {cls method : PathFragment} (hcls : cls.WellNamed)
    (hmethod : method.WellNamed) : (cls.join method).WellNamed := by
  refine ⟨nodup_names_join hcls.nodup hmethod.nodup, fun name hname => ?_⟩
  rw [names_join hmethod.nodup] at hname
  rcases List.mem_append.1 hname with hname | hname
  · exact hcls.isVariableName name hname
  · exact hmethod.isVariableName name (List.mem_of_mem_filter hname)

theorem Built.wellNamed {p : PathFragment} (h : Built p) : p.WellNamed := by
  induction h with
  | ofText text => exact wellNamed_ofText text
  | empty => exact wellNamed_empty
  | withTypes b _ ih => exact ih.withTypes b
  | join _ _ ihcls ihmethod => exact ihcls.join ihmethod

/-- Of a joined path the names come in order, each with the type that the method path gives to it
or else with the one of the class path. -/
theorem vars_join {cls method : PathFragment} (hcls : cls.names.Nodup)
    (hmethod : method.names.Nodup) :
    (cls.join method).vars = (cls.names ++ method.names.filter (· ∉ cls.names)).map fun name =>
      ⟨name, if name ∈ method.names then method.typeOf? name else cls.typeOf? name⟩ := by
  rw [vars_eq_map_names (nodup_names_join hcls hmethod), names_join hmethod]
  apply List.map_congr_left
  intro name _
  rw [typeOf?_join hmethod]

/-- **Every path that is built** has distinct variables.  Their names are not empty, have no blanks
at their ends and hold neither a brace nor a colon nor a slash, and a name has the type of the one
variable that bears it.  A joined path has the names of the class path and then the other ones of
the method path.  A name that the method path has gets its type from there, even if that is none, and
any other name from the class path. -/
theorem vars_of_built {p : PathFragment} (h : Built p) :
    p.names.Nodup ∧
      (∀ name ∈ p.names, name ≠ "" ∧ Text.trimmed name = name ∧
        ∀ c ∈ name.toList, c ≠ '{' ∧ c ≠ '}' ∧ c ≠ ':' ∧ c ≠ '/') ∧
      (∀ v ∈ p.vars, p.typeOf? v.name = v.typeName ∧ ∀ w ∈ p.vars, w.name = v.name → w = v) ∧
      ∀ q : PathFragment, Built q →
        (p.join q).vars = (p.names ++ q.names.filter (· ∉ p.names)).map fun name =>
          ⟨name, if name ∈ q.names then q.typeOf? name else p.typeOf? name⟩ := by
  obtain ⟨hnodup, hnames⟩ := h.wellNamed
  refine ⟨hnodup, fun name hname => ?_, fun v hv => ⟨typeOf?_of_mem hnodup hv, ?_⟩, ?_⟩
  · obtain ⟨hne, htrimmed, hplain⟩ := hnames name hname
    exact ⟨hne, htrimmed, hplain⟩
  · intro w hw hname
    exact List.inj_on_of_nodup_map hnodup hw hv hname
  · intro q hq
    exact vars_join hnodup hq.wellNamed.nodup

/-- The method path names `id` with blanks around it and leaves it untyped, so the type that the
class path has for it is lost; the one of `org` stays. -/
theorem vars_of_built_untyped :
    let b : Binding := (Dictionary.empty.insert "id" "Long").insert "org" "String"
    let p := (ofText "/orgs/\x7borg\x7d/\x7bid\x7d").withTypes b
    let q := ofText "\x7b id :[0-9]\x7b2\x7d\x7d/\x7bslug\x7d"
    Built p ∧ Built q ∧
      (p.join q).vars = [⟨"org", some "String"⟩, ⟨"id", none⟩, ⟨"slug", none⟩] := by
  intro b p q
  have hp : Built p := .withTypes b (.ofText _)
  have hq : Built q := .ofText _
  obtain ⟨-, -, -, hjoin⟩ := vars_of_built hp
  refine ⟨hp, hq, ?_⟩
  rw [hjoin q hq]
  cbv

end PathFragment

end RouteAtlas
