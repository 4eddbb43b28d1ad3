import RouteAtlas.Format.Expr
import RouteAtlas.Proofs.Document.JsonForm
import RouteAtlas.Proofs.Folding.Mentions
import RouteAtlas.Proofs.Symbol

/-!
# RouteAtlas.Proofs.Format.Expressions — expressions are read back from JSON

The fields of an expression come in any order and are settled before its form says what they mean,
so an expression inside another one is read of a settled document, and one that stands alone is not.
Both ways lead back to the expression that was written, when it has no floats and its names mean
constants whose written forms can be read (`readsBack`).
-/

namespace RouteAtlas

open Document (JsonForm)

/-- The value is a float. -/
def Literal.isFloat : Literal → Bool
  | float _ => true
  | bool _ | integer _ | text _ => false

namespace Expr

/-! ## Values in expressions -/

mutual

/-- The values of the literals in an expression; lists in braces are looked into. -/
def values : Expr → List Literal
  | literal _ value => value.toList
  | concat left right => left.values ++ right.values
  | polyadic operands => valuesAll operands
  | reference .. => []
  | array elements => valuesAll elements
  | other _ => []

/-- The values of the literals in expressions. -/
def valuesAll : List Expr → List Literal
  | [] => []
  | e :: es => e.values ++ valuesAll es

end

theorem valuesAll_eq_flatMap (es : List Expr) : valuesAll es = es.flatMap values := by
  induction es with
  | nil => rfl
  | cons e es ih => rw [valuesAll, ih, List.flatMap_cons]

@[simp] theorem values_polyadic (es : List Expr) : (polyadic es).values = es.flatMap values :=
  valuesAll_eq_flatMap es

@[simp] theorem values_array (es : List Expr) : (array es).values = es.flatMap values :=
  valuesAll_eq_flatMap es

/-- The constants that names in the expression mean have written forms that can be read. -/
def TargetsParse (e : Expr) : Prop := ∀ id ∈ e.mentions, (SymbolId.parse? id.text).isSome = true

theorem targetsParse_concat {left right : Expr} :
    (concat left right).TargetsParse ↔ left.TargetsParse ∧ right.TargetsParse :=
  List.forall_mem_append

theorem targetsParse_polyadic {es : List Expr} :
    (polyadic es).TargetsParse ↔ ∀ e ∈ es, e.TargetsParse := by
  rw [TargetsParse, mentions_polyadic]
  exact List.forall_mem_flatMap

theorem targetsParse_array {es : List Expr} :
    (array es).TargetsParse ↔ ∀ e ∈ es, e.TargetsParse := by
  rw [TargetsParse, mentions_array]
  exact List.forall_mem_flatMap

/-- No literal in the expression has a float for its value. -/
def FloatFree (e : Expr) : Prop := ∀ v ∈ e.values, v.isFloat = false

/-! ## Settled documents -/

theorem ofName_name (form : Form) : Form.ofName form.name = .ok form := by
  cases form <;> rfl

theorem nodup_fields (form : Form) : (formField :: form.fields).Nodup := by
  cases form <;> decide

theorem settleAll_eq_mapM (ds : List Document) : settleAll ds = ds.mapM settle := by
  induction ds with
  | nil => rfl
  | cons d ds ih => rw [settleAll, ih, List.mapM_cons]

theorem nodes_eq_map (ds : List Document) : nodes ds = ds.map node := by
  induction ds with
  | nil => rfl
  | cons d ds ih => rw [nodes, ih, List.map_cons]

theorem nodeEntries_eq_map (es : List (String × Document)) :
    nodeEntries es = es.map fun e => (e.1, node e.2) := by
  induction es with
  | nil => rfl
  | cons e es ih => rw [nodeEntries, ih, List.map_cons]

theorem node_document (d : Document) : (node d).document = d := by
  cases d <;> rfl

/-- A list of settled documents is settled. -/
theorem settle_row {ds : List Document} (h : ∀ d ∈ ds, settle d = .ok d) :
    settle (.row ds true) = .ok (.row ds true) := by
  have hall : settleAll ds = .ok ds := by
    rw [settleAll_eq_mapM, mapM_eq_ok_iff, List.forall₂_same]
    exact h
  rw [settle, hall]
  rfl

theorem settleEntries_of_settled {es : List (String × Document)}
    (h : ∀ e ∈ es, settle e.2 = .ok e.2) : settleEntries es = .ok es := by
  induction es with
  | nil => rfl
  | cons e es ih =>
    rw [settleEntries, h e List.mem_cons_self, ih fun e he => h e (List.mem_cons_of_mem _ he)]
    rfl

/-- Without a form among them, the entries of an object are its settled fields. -/
theorem readEntries_of_settled {form : Option Form} {es : List (String × Document)}
    (h : ∀ e ∈ es, settle e.2 = .ok e.2) (hform : formField ∉ es.map (·.1)) :
    readEntries form es = .ok (form, es.map fun e => (e.1, node e.2)) := by
  induction es with
  | nil => rfl
  | cons e es ih =>
    rw [List.map_cons, List.mem_cons, not_or] at hform
    rw [readEntries, if_neg (Ne.symm hform.1), h e List.mem_cons_self,
      ih (fun e he => h e (List.mem_cons_of_mem _ he)) hform.2]
    rfl

/-- The form is met once, and the other entries are the settled fields. -/
theorem readEntries_of_form {form : Form} {es : List (String × Document)}
    (h : ∀ e ∈ es, settle e.2 = .ok e.2) (hnodup : (es.map (·.1)).Nodup)
    (hform : (formField, .text form.name) ∈ es) :
    readEntries none es =
      .ok (some form, (es.filter (·.1 != formField)).map fun e => (e.1, node e.2)) := by
  induction es with
  | nil => cases hform
  | cons e es ih =>
    obtain ⟨he, hes⟩ := List.nodup_cons.1 hnodup
    have hsettled : ∀ e ∈ es, settle e.2 = .ok e.2 := fun e he => h e (List.mem_cons_of_mem _ he)
    rcases List.mem_cons.1 hform with rfl | hform
    · have hrest : es.filter (·.1 != formField) = es := by
        rw [List.filter_eq_self]
        intro e' he'
        have hother : e'.1 ≠ formField :=
          ne_of_mem_of_not_mem (List.mem_map_of_mem (f := (·.1)) he') he
        simpa using hother
      rw [List.filter_cons_of_neg (by simp), hrest, readEntries, if_pos rfl]
      show (do readEntries (some (← Form.ofName form.name)) es) = _
      rw [ofName_name]
      exact readEntries_of_settled hsettled he
    · have hother : e.1 ≠ formField :=
        (ne_of_mem_of_not_mem (List.mem_map_of_mem (f := (·.1)) hform) he).symm
      rw [List.filter_cons_of_pos (by simpa using hother), readEntries, if_neg hother,
        h e List.mem_cons_self, ih hsettled hes hform]
      rfl

/-! ## Fields of expressions -/

/-- The JSON values of the document are settled. -/
def Settles (d : Document) : Prop := ∀ ⦃d' : Document⦄, d.JsonForm d' → settle d' = .ok d'

/-- The JSON values of the document are settled, and `a` is read of them. -/
def Reads {α : Type} (d : Document) (read : Node → Except Fault α) (a : α) : Prop :=
  ∀ ⦃d' : Document⦄, d.JsonForm d' → settle d' = .ok d' ∧ read (node d') = .ok a

/-- What a JSON value of the document stands for. -/
def NodeForm (d : Document) (n : Node) : Prop := ∃ d', d.JsonForm d' ∧ node d' = n

section Fields

variable {α : Type} {d : Document} {read : Node → Except Fault α} {a : α} {r : Record Node}
  {fields : List (String × Option Document)} {name : String}

theorem Reads.settles (h : Reads d read a) : Settles d := fun _ hd => (h hd).1

theorem Reads.required (h : Reads d read a) (hr : r.Holds NodeForm fields)
    (hmem : (name, some d) ∈ fields) : r.required name read = .pure a := by
  refine hr.required hmem ?_
  rintro _ ⟨d', hd, rfl⟩
  exact (h hd).2

theorem Reads.optional {write : α → Document} {read : Node → Except Fault (Option α)}
    {a? : Option α} (h : ∀ a ∈ a?, Reads (write a) read (some a)) (hr : r.Holds NodeForm fields)
    (hmem : (name, a?.map write) ∈ fields) : r.optional name none read = .pure a? := by
  refine hr.optional hmem fun a ha => ?_
  rintro _ ⟨d', hd, rfl⟩
  exact (h a ha hd).2

end Fields

theorem reads_text (s : String) : Reads (.text s) (·.readText) s := by
  intro d hd
  cases hd
  exact ⟨rfl, rfl⟩

/-- A value that is no float keeps its kind. -/
theorem reads_value {v : Literal} (hv : v.isFloat = false) :
    Reads v.write (·.readValue) (some v) := by
  intro d hd
  cases v with
  | bool b =>
    cases hd
    exact ⟨rfl, rfl⟩
  | integer n =>
    cases hd
    have hlow : Int64.minValue.toInt ≤ n.toInt := n.minValue_le_toInt
    have hhigh : n.toInt ≤ Int64.maxValue.toInt := n.toInt_le
    have hrange : (Int64.minValue.toInt ≤ n.toInt && n.toInt < UInt64.size) = true := by
      have hmax : Int64.maxValue.toInt < UInt64.size := by decide
      simp only [Bool.and_eq_true, decide_eq_true_eq]
      omega
    constructor
    · show (if _ then _ else _) = _
      rw [if_pos hrange]
    · simp only [Node.readValue, node_document]
      rw [if_pos (by simpa using hhigh), Int64.ofInt_toInt]
  | float x => cases hv
  | text s =>
    cases hd
    exact ⟨rfl, rfl⟩

/-- A name means the same constant again. -/
theorem reads_target {id : SymbolId} (hid : (SymbolId.parse? id.text).isSome = true) :
    Reads (.text id.text) (·.readTarget) (some id) := by
  intro d hd
  cases hd
  refine ⟨rfl, ?_⟩
  simp only [Node.readTarget, node_document]
  refine bind_eq_ok_iff.2 ⟨id.text, rfl, ?_⟩
  rw [SymbolId.parse?_text hid]

/-- The expression comes back from each JSON value it is written as, inside another expression and
alone. -/
structure ReadsBack (e : Expr) : Prop where
  inside : Reads e.write (·.expr) e
  alone : Document.ReadsBack read e.write e

theorem writeAll_eq_map (es : List Expr) : writeAll es = es.map write := by
  induction es with
  | nil => rfl
  | cons e es ih => rw [writeAll, ih, List.map_cons]

/-- Expressions in a list are read back one by one. -/
theorem reads_exprs {es : List Expr} (h : ∀ e ∈ es, e.ReadsBack) :
    Reads (.list (writeAll es) true) (·.exprs) es := by
  intro d hd
  cases hd with
  | @list _ ds _ hds =>
    rw [writeAll_eq_map, List.forall₂_map_left_iff] at hds
    have hback := (List.forall₂_and_left _ _).2 ⟨h, hds⟩
    constructor
    · refine settle_row fun d hd => ?_
      obtain ⟨e, -, he, hed⟩ := exists_right_of_forall₂ hback.flip hd
      exact (he.inside hed).1
    · show (nodes ds).mapM (·.expr) = _
      rw [nodes_eq_map, mapM_eq_ok_iff, List.forall₂_map_left_iff]
      exact (hback.imp fun _ _ h => (h.1.inside h.2).2).flip

/-! ## Objects of a form -/

section Object

variable {form : Form} {fields : List (String × Option Document)} {e : Expr}

theorem readExpr_of_holds {r : Record Node} (hr : r.Holds NodeForm fields)
    (hnames : fields.map (·.1) = form.fields) (hread : form.readFields r = .pure e) :
    form.readExpr r = .ok e := by
  rw [Form.readExpr, hread]
  exact hr.finish hnames _ e

/-- The JSON value of a form is an object with the form and its fields, all of them settled. -/
theorem exists_entries_of_jsonForm (hnames : fields.map (·.1) = form.fields)
    (hsettle : ∀ field ∈ fields, ∀ d ∈ field.2, Settles d) {d : Document}
    (hd : (form.write fields).JsonForm d) :
    ∃ es, d = .map es true ∧ (∀ e ∈ es, settle e.2 = .ok e.2) ∧
      ({ fields := es } : Record Document).Holds JsonForm
        ((formField, some (.text form.name)) :: fields) := by
  have hnodup := nodup_fields form
  rw [← hnames] at hnodup
  rw [Form.write] at hd
  obtain ⟨es, rfl, hes⟩ := hd.ofFields hnodup
  refine ⟨es, rfl, ?_, hes⟩
  rintro ⟨name, d'⟩ hmem
  obtain ⟨d, hd, hd'⟩ := hes.written hmem
  rcases List.mem_cons.1 hd with heq | hd
  · cases heq
    exact (reads_text _).settles hd'
  · exact hsettle _ hd d rfl hd'

/-- Among settled entries the form is found, wherever it stands. -/
theorem ofSettledFields_of_holds {es : List (String × Document)}
    (hes : ({ fields := es } : Record Document).Holds JsonForm
      ((formField, some (.text form.name)) :: fields))
    (hnames : fields.map (·.1) = form.fields)
    (hread : ∀ {r : Record Node}, r.Holds NodeForm fields → form.readFields r = .pure e) :
    ofSettledFields (nodeEntries es) = .ok e := by
  have hnodes := hes.map node
  have hrest := hnodes.erase (hnames ▸ (List.nodup_cons.1 (nodup_fields form)).1)
  obtain ⟨n, ⟨d, hd, rfl⟩, hmem⟩ := hnodes.present List.mem_cons_self
  cases hd
  rw [ofSettledFields, nodeEntries_eq_map, Record.filter_eq_singleton hnodes.nodup hmem]
  show (do
    let form ← Form.ofName form.name
    form.readExpr { fields := _ }) = _
  rw [ofName_name]
  exact readExpr_of_holds hrest hnames (hread hrest)

/-- Entries that are read one by one are settled, and the form is met among them. -/
theorem read_of_holds {es : List (String × Document)}
    (hsettled : ∀ e ∈ es, settle e.2 = .ok e.2)
    (hes : ({ fields := es } : Record Document).Holds JsonForm
      ((formField, some (.text form.name)) :: fields))
    (hnames : fields.map (·.1) = form.fields)
    (hread : ∀ {r : Record Node}, r.Holds NodeForm fields → form.readFields r = .pure e) :
    read (.map es true) = .ok e := by
  have hrest := (hes.erase (hnames ▸ (List.nodup_cons.1 (nodup_fields form)).1)).map node
  obtain ⟨d, hd, hmem⟩ := hes.present List.mem_cons_self
  cases hd
  rw [read, readEntries_of_form hsettled hes.nodup hmem]
  exact readExpr_of_holds hrest hnames (hread hrest)

/-- An expression is read back when its fields are. -/
theorem ReadsBack.of_fields (form : Form) (hwrite : e.write = form.write fields)
    (hnames : fields.map (·.1) = form.fields)
    (hsettle : ∀ field ∈ fields, ∀ d ∈ field.2, Settles d)
    (hread : ∀ {r : Record Node}, r.Holds NodeForm fields → form.readFields r = .pure e) :
    e.ReadsBack := by
  constructor
  case inside =>
    intro d hd
    obtain ⟨es, rfl, hsettled, hes⟩ := exists_entries_of_jsonForm hnames hsettle (hwrite ▸ hd)
    constructor
    · rw [settle, settleEntries_of_settled hsettled]
      rfl
    · exact ofSettledFields_of_holds hes hnames hread
  case alone =>
    intro d hd
    obtain ⟨es, rfl, hsettled, hes⟩ := exists_entries_of_jsonForm hnames hsettle (hwrite ▸ hd)
    exact read_of_holds hsettled hes hnames hread

/-- An object with one field. -/
theorem ReadsBack.of_field (form : Form) {name : String} {d : Document} {α : Type}
    {read : Node → Except Fault α} {a : α} (hwrite : e.write = form.write [(name, some d)])
    (hname : [name] = form.fields) (hfield : Reads d read a)
    (hread : ∀ {r : Record Node}, r.required name read = .pure a → form.readFields r = .pure e) :
    e.ReadsBack := by
  refine .of_fields form hwrite hname ?_ fun hr => hread (hfield.required hr List.mem_cons_self)
  refine List.forall_mem_singleton.2 fun d hd => ?_
  cases hd
  exact hfield.settles

end Object

/-! ## The forms -/

/-- **Expressions are read back** from JSON, when the names and values in them can be. -/
theorem readsBack {e : Expr} : e.TargetsParse → e.FloatFree → e.ReadsBack := by
  induction e using structuralInduction with
  | literal raw value =>
    intro _ hfloat
    have hraw := reads_text raw
    have hvalue : ∀ v ∈ value, Reads v.write (·.readValue) (some v) := fun v hv =>
      reads_value (hfloat v (Option.mem_toList.2 hv))
    refine .of_fields .literal rfl rfl ?_ fun hr => ?_
    · refine List.forall_mem_cons.2 ⟨?_, List.forall_mem_singleton.2 ?_⟩
      · rintro _ ⟨⟩
        exact hraw.settles
      · intro d hd
        obtain ⟨v, hv, rfl⟩ := Option.map_eq_some_iff.1 hd
        exact (hvalue v hv).settles
    · rw [Form.readFields, hraw.required hr List.mem_cons_self,
        Reads.optional hvalue hr (List.mem_cons_of_mem _ List.mem_cons_self)]
      rfl
  | concat left right ihl ihr =>
    intro htargets hfloat
    obtain ⟨htl, htr⟩ := targetsParse_concat.1 htargets
    have hleft := ihl htl fun v hv => hfloat v (List.mem_append_left _ hv)
    have hright := ihr htr fun v hv => hfloat v (List.mem_append_right _ hv)
    refine .of_fields .concat rfl rfl ?_ fun hr => ?_
    · refine List.forall_mem_cons.2 ⟨?_, List.forall_mem_singleton.2 ?_⟩
      · rintro _ ⟨⟩
        exact hleft.inside.settles
      · rintro _ ⟨⟩
        exact hright.inside.settles
    · rw [Form.readFields, hleft.inside.required hr List.mem_cons_self,
        hright.inside.required hr (List.mem_cons_of_mem _ List.mem_cons_self)]
      rfl
  | polyadic es ih =>
    intro htargets hfloat
    have hback : ∀ e ∈ es, e.ReadsBack := fun e he =>
      ih e he (targetsParse_polyadic.1 htargets e he)
        fun v hv => hfloat v (values_polyadic es ▸ List.mem_flatMap.2 ⟨e, he, hv⟩)
    refine .of_field .polyadic rfl rfl (reads_exprs hback) fun hr => ?_
    rw [Form.readFields, hr]
    rfl
  | reference name target =>
    intro htargets _
    have hname := reads_text name
    have htarget : ∀ id ∈ target, Reads (.text id.text) (·.readTarget) (some id) := fun id hid =>
      reads_target (htargets id (Option.mem_toList.2 hid))
    refine .of_fields .reference rfl rfl ?_ fun hr => ?_
    · refine List.forall_mem_cons.2 ⟨?_, List.forall_mem_singleton.2 ?_⟩
      · rintro _ ⟨⟩
        exact hname.settles
      · intro d hd
        obtain ⟨id, hid, rfl⟩ := Option.map_eq_some_iff.1 hd
        exact (htarget id hid).settles
    · rw [Form.readFields, hname.required hr List.mem_cons_self,
        Reads.optional htarget hr (List.mem_cons_of_mem _ List.mem_cons_self)]
      rfl
  | array es ih =>
    intro htargets hfloat
    have hback : ∀ e ∈ es, e.ReadsBack := fun e he =>
      ih e he (targetsParse_array.1 htargets e he)
        fun v hv => hfloat v (values_array es ▸ List.mem_flatMap.2 ⟨e, he, hv⟩)
    refine .of_field .array rfl rfl (reads_exprs hback) fun hr => ?_
    rw [Form.readFields, hr]
    rfl
  | other text =>
    intro _ _
    refine .of_field .other rfl rfl (reads_text text) fun hr => ?_
    rw [Form.readFields, hr]
    rfl

end Expr

end RouteAtlas
