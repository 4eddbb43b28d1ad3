import Mathlib.Data.List.Perm.Basic
import RouteAtlas.Proofs.Document.Fields

/-!
# RouteAtlas.Proofs.Document.JsonForm — documents as JSON values

A document that is written as JSON keeps its scalars, as far as JSON has them, its lists item by
item, and the fields of its objects in any order.  The main statements are `exists_jsonForm`, every
document can be written, and `JsonForm.ofFields`: an object of distinct fields is written with those
of them that are there.
-/

namespace RouteAtlas

theorem exists_forall₂ {α β : Type} {R : α → β → Prop} {xs : List α} :
    (∀ x ∈ xs, ∃ y, R x y) → ∃ ys, List.Forall₂ R xs ys := by
  induction xs with
  | nil => exact fun _ => ⟨[], .nil⟩
  | cons x xs ih =>
    intro h
    obtain ⟨y, hxy⟩ := h x List.mem_cons_self
    obtain ⟨ys, hys⟩ := ih fun x hx => h x (List.mem_cons_of_mem _ hx)
    exact ⟨y :: ys, .cons hxy hys⟩

namespace Document

/-- Induction over a document, from the items of lists and the values of objects. -/
@[elab_as_elim]
theorem structuralInduction {motive : Document → Prop} (null : motive .null)
    (bool : ∀ b, motive (.bool b)) (integer : ∀ n, motive (.integer n))
    (float : ∀ x, motive (.float x)) (text : ∀ s, motive (.text s))
    (plain : ∀ s, motive (.plain s))
    (list : ∀ ds closed, (∀ d ∈ ds, motive d) → motive (.list ds closed))
    (row : ∀ ds closed, (∀ d ∈ ds, motive d) → motive (.row ds closed))
    (map : ∀ es closed, (∀ e ∈ es, motive e.2) → motive (.map es closed))
    (unreadable : motive .unreadable) (malformed : motive .malformed) (d : Document) :
    motive d := by
  refine @Document.rec motive (fun ds => ∀ d ∈ ds, motive d) (fun es => ∀ e ∈ es, motive e.2)
    (fun e => motive e.2) null bool integer float text plain list row map unreadable malformed
    ?_ ?_ ?_ ?_ ?_ d
  · intro d hd
    cases hd
  · intro d ds hd hds x hx
    rcases List.mem_cons.1 hx with rfl | hx
    · exact hd
    · exact hds x hx
  · intro e he
    cases he
  · intro e es he hes x hx
    rcases List.mem_cons.1 hx with rfl | hx
    · exact he
    · exact hes x hx
  · intro _ _ hd
    exact hd

/-- Fields of one name whose values are related. -/
inductive FieldRel {α β : Type} (R : α → β → Prop) : String × α → String × β → Prop where
  | mk {name : String} {a : α} {b : β} : R a b → FieldRel R (name, a) (name, b)

/-- The second document is a JSON value that the first is written as.  JSON has one kind of lists,
and what it has no text for is written as nothing. -/
inductive JsonForm : Document → Document → Prop where
  | null : JsonForm .null .null
  | bool (b : Bool) : JsonForm (.bool b) (.bool b)
  | integer (n : Int) : JsonForm (.integer n) (.integer n)
  | float {x : Float} : x.isFinite = true → JsonForm (.float x) (.float x)
  | notFinite {x : Float} : x.isFinite = false → JsonForm (.float x) .null
  | text (s : String) : JsonForm (.text s) (.text s)
  | plain (s : String) : JsonForm (.plain s) (.text s)
  | list {ds ds' : List Document} {closed : Bool} :
    List.Forall₂ JsonForm ds ds' → JsonForm (.list ds closed) (.row ds' true)
  | row {ds ds' : List Document} {closed : Bool} :
    List.Forall₂ JsonForm ds ds' → JsonForm (.row ds closed) (.row ds' true)
  /-- The fields may come in any order. -/
  | map {es es' es'' : List (String × Document)} {closed : Bool} :
    List.Forall₂ (FieldRel JsonForm) es es' → es'.Perm es'' →
      JsonForm (.map es closed) (.map es'' true)
  | unreadable : JsonForm .unreadable .null
  | malformed : JsonForm .malformed .null

/-- Every document can be written as JSON. -/
theorem exists_jsonForm (d : Document) : ∃ d', d.JsonForm d' := by
  induction d using structuralInduction with
  | null => exact ⟨_, .null⟩
  | bool b => exact ⟨_, .bool b⟩
  | integer n => exact ⟨_, .integer n⟩
  | float x =>
    cases hx : x.isFinite with
    | true => exact ⟨_, .float hx⟩
    | false => exact ⟨_, .notFinite hx⟩
  | text s => exact ⟨_, .text s⟩
  | plain s => exact ⟨_, .plain s⟩
  | list ds closed ih =>
    obtain ⟨ds', hds⟩ := exists_forall₂ ih
    exact ⟨_, .list hds⟩
  | row ds closed ih =>
    obtain ⟨ds', hds⟩ := exists_forall₂ ih
    exact ⟨_, .row hds⟩
  | map es closed ih =>
    have hfields : ∀ e ∈ es, ∃ e', FieldRel JsonForm e e' := by
      rintro ⟨name, d⟩ he
      obtain ⟨d', hd⟩ := ih _ he
      exact ⟨(name, d'), .mk hd⟩
    obtain ⟨es', hes⟩ := exists_forall₂ hfields
    exact ⟨_, .map hes (.refl es')⟩
  | unreadable => exact ⟨_, .unreadable⟩
  | malformed => exact ⟨_, .malformed⟩

/-- The value is read of each JSON value that the document is written as. -/
def ReadsBack {α : Type} (read : Document → Except Fault α) (d : Document) (a : α) : Prop :=
  ∀ ⦃d' : Document⦄, d.JsonForm d' → read d' = .ok a

theorem readsBack_text (s : String) : ReadsBack readText (.text s) s := by
  intro d hd
  cases hd
  rfl

theorem readsBack_text? (s : String) : ReadsBack readText? (.text s) (some s) := by
  intro d hd
  cases hd
  rfl

/-- A list is read back when its items are. -/
theorem readsBack_list {α : Type} {write : α → Document} {read : Document → Except Fault α}
    {as : List α} (h : ∀ a ∈ as, ReadsBack read (write a) a) :
    ReadsBack (readList read) (.ofList write as) as := by
  intro d hd
  cases hd with
  | @list _ ds _ hds =>
    rw [List.forall₂_map_left_iff] at hds
    have hread : ds.mapM read = .ok as := by
      rw [mapM_eq_ok_iff]
      exact (((List.forall₂_and_left _ _).2 ⟨h, hds⟩).imp fun _ _ h => h.1 h.2).flip
    exact bind_eq_ok_iff.2 ⟨as, hread, rfl⟩

/-- The fields that are there. -/
theorem mem_filterMap_fields {fields : List (String × Option Document)} {name : String}
    {d : Document} :
    (name, d) ∈ fields.filterMap (fun (name, d) => d.map (name, ·)) ↔ (name, some d) ∈ fields := by
  rw [List.mem_filterMap]
  constructor
  · rintro ⟨⟨name', d?⟩, hmem, h⟩
    obtain ⟨d', rfl, heq⟩ := Option.map_eq_some_iff.1 h
    cases heq
    exact hmem
  · intro h
    exact ⟨_, h, rfl⟩

theorem names_filterMap_fields (fields : List (String × Option Document)) :
    ((fields.filterMap (fun (name, d) => d.map (name, ·))).map (·.1)).Sublist
      (fields.map (·.1)) := by
  induction fields with
  | nil => exact .slnil
  | cons field fields ih =>
    obtain ⟨name, _ | d⟩ := field
    · exact ih.cons name
    · exact ih.cons_cons name

/-- An object of distinct fields has those of them that are there. -/
theorem holds_ofFields {fields : List (String × Option Document)}
    (hnodup : (fields.map (·.1)).Nodup) :
    ({ fields := fields.filterMap fun (name, d) => d.map (name, ·) } : Record Document).Holds
      Eq fields := by
  constructor
  case nodup => exact hnodup.sublist (names_filterMap_fields fields)
  case ending => rfl
  case written => exact fun hmem => ⟨_, mem_filterMap_fields.1 hmem, rfl⟩
  case present => exact fun hmem => ⟨_, rfl, mem_filterMap_fields.2 hmem⟩
  case absent =>
    intro name hmem hname
    obtain ⟨⟨name', d⟩, hd, rfl⟩ := List.mem_map.1 hname
    -- the names are distinct, so the field is not there and missing at once
    cases List.inj_on_of_nodup_map hnodup (mem_filterMap_fields.1 hd) hmem rfl

theorem names_eq_of_forall₂ {α β : Type} {R : α → β → Prop} {es : List (String × α)}
    {es' : List (String × β)} (h : List.Forall₂ (FieldRel R) es es') :
    es.map (·.1) = es'.map (·.1) := by
  induction h with
  | nil => rfl
  | cons he _ ih =>
    cases he
    exact congrArg _ ih

/-- An object of distinct fields is written with the fields that are there. -/
theorem JsonForm.ofFields {fields : List (String × Option Document)} {d : Document}
    (h : (Document.ofFields fields).JsonForm d) (hnodup : (fields.map (·.1)).Nodup) :
    ∃ es, d = .map es true ∧ ({ fields := es } : Record Document).Holds JsonForm fields := by
  generalize hwritten : Document.ofFields fields = written at h
  cases h with
  | @map es es' es'' closed hes hperm =>
    cases hwritten
    have hnames : (es''.map (·.1)).Perm
        ((fields.filterMap (fun (name, d) => d.map (name, ·))).map (·.1)) := by
      rw [names_eq_of_forall₂ hes]
      exact (hperm.map _).symm
    refine ⟨es'', rfl, ?_⟩
    constructor
    case nodup => exact hnames.nodup_iff.2 (hnodup.sublist (names_filterMap_fields fields))
    case ending => rfl
    case written =>
      intro name d' hmem
      obtain ⟨e, he, hd⟩ := exists_right_of_forall₂ hes.flip (hperm.symm.subset hmem)
      cases hd with
      | mk hd => exact ⟨_, mem_filterMap_fields.1 he, hd⟩
    case present =>
      intro name d hmem
      obtain ⟨e', he', hd⟩ := exists_right_of_forall₂ hes (mem_filterMap_fields.2 hmem)
      cases hd with
      | mk hd => exact ⟨_, hd, hperm.subset he'⟩
    case absent =>
      intro name hmem hname
      obtain ⟨⟨name', d⟩, he, rfl⟩ := List.mem_map.1 (hnames.subset hname)
      have hsome := mem_filterMap_fields.1 he
      -- the names are distinct, so the field is not there and missing at once
      cases List.inj_on_of_nodup_map hnodup hsome hmem rfl
  | _ => cases hwritten

end Document

end RouteAtlas
