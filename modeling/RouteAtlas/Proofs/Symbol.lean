import Mathlib.Data.Prod.Basic
import RouteAtlas.Tree.Basic

/-!
# RouteAtlas.Proofs.Symbol — symbols, their written forms and what they name

A text is the written form of a symbol just when it is cut in two at its last dot and both parts
hold something (`parse?_eq_some_iff`).  So symbols, their parts and their written forms determine
each other, and the constant that one symbol finds in a tree is not declared where another symbol
finds its own (`parse?_of_isParts`).
-/

namespace RouteAtlas

/-! ## The first of a name -/

section FirstAt

variable {α : Type} {key : α → String} {name : String} {xs : List α} {x : α}

/-- The element at a place is the first one of a name. -/
structure FirstAt (key : α → String) (name : String) (xs : List α) (i : Nat) (x : α) : Prop where
  here : xs[i]? = some x
  named : key x = name
  first : ∀ i' < i, ∀ y, xs[i']? = some y → key y ≠ name

theorem find?_eq_some_iff_firstAt :
    xs.find? (key · == name) = some x ↔ ∃ i, FirstAt key name xs i x := by
  rw [List.find?_eq_some_iff_getElem]
  constructor
  · rintro ⟨hname, i, hi, hx, hfirst⟩
    refine ⟨i, List.getElem?_eq_some_iff.2 ⟨hi, hx⟩, by simpa using hname, ?_⟩
    intro i' hi' y hy
    obtain ⟨_, rfl⟩ := List.getElem?_eq_some_iff.1 hy
    simpa using hfirst i' hi'
  · rintro ⟨i, hhere, hname, hfirst⟩
    obtain ⟨hi, hx⟩ := List.getElem?_eq_some_iff.1 hhere
    refine ⟨by simpa using hname, i, hi, hx, fun i' hi' => ?_⟩
    simpa using hfirst i' hi' _ (List.getElem?_eq_getElem _)

end FirstAt

namespace SyntaxTree

/-- A symbol means the constant at place `j` of the type at place `i`: they are the first ones of
their names. -/
def FindsAt (tree : SyntaxTree) (id : SymbolId) (i j : Nat) (c : Constant) : Prop :=
  ∃ t, FirstAt TypeDecl.qualifiedName id.owner tree.types i t ∧
    FirstAt Constant.name id.field t.constants j c

variable {tree : SyntaxTree} {id id' : SymbolId} {i j : Nat} {c c' : Constant}

theorem constant?_eq_some_iff : tree.constant? id = some c ↔ ∃ i j, tree.FindsAt id i j c := by
  rw [constant?, Option.bind_eq_some_iff]
  constructor
  · rintro ⟨t, ht, hc⟩
    obtain ⟨i, hi⟩ := find?_eq_some_iff_firstAt.1 ht
    obtain ⟨j, hj⟩ := find?_eq_some_iff_firstAt.1 hc
    exact ⟨i, j, t, hi, hj⟩
  · rintro ⟨i, j, t, hi, hj⟩
    exact ⟨t, find?_eq_some_iff_firstAt.2 ⟨i, hi⟩, find?_eq_some_iff_firstAt.2 ⟨j, hj⟩⟩

/-- One place is meant by one symbol. -/
theorem FindsAt.symbol_eq (h : tree.FindsAt id i j c) (h' : tree.FindsAt id' i j c') :
    id = id' := by
  obtain ⟨t, ht, hc⟩ := h
  obtain ⟨t', ht', hc'⟩ := h'
  -- both names are read off what stands at the place
  cases ht.here.symm.trans ht'.here
  cases hc.here.symm.trans hc'.here
  obtain ⟨owner, field, _⟩ := id
  obtain ⟨owner', field', _⟩ := id'
  cases ht.named.symm.trans ht'.named
  cases hc.named.symm.trans hc'.named
  rfl

end SyntaxTree

namespace SymbolId

/-! ## Written forms -/

theorem eq_append_of_cutLast? {cs before after : List Char}
    (h : Text.cutLast? isDot cs = some (before, after)) : cs = before ++ '.' :: after := by
  obtain ⟨c, hc, hcs⟩ := Text.eq_append_of_cutLast? h
  rw [hcs, isDot_iff.1 hc]

theorem cutLast?_text (id : SymbolId) :
    Text.cutLast? isDot id.text.toList = some (id.owner.toList, id.field.toList) := by
  have htext : id.text.toList = id.owner.toList ++ '.' :: id.field.toList := by simp [text]
  rw [htext]
  exact Text.cutLast?_append rfl _ id.dotFree

theorem text_injective : Function.Injective text := by
  intro id id' h
  have hcut := id.cutLast?_text.symm.trans (h ▸ id'.cutLast?_text)
  obtain ⟨howner, hfield⟩ := Prod.mk_inj.1 (Option.some.inj hcut)
  obtain ⟨owner, field, _⟩ := id
  obtain ⟨owner', field', _⟩ := id'
  cases String.toList_inj.1 howner
  cases String.toList_inj.1 hfield
  rfl

/-- Dots in the second part move the cut, and the written form stays the same. -/
theorem text_ofParts (owner field : String) :
    (ofParts owner field).text = owner ++ "." ++ field := by
  unfold ofParts
  split
  · rfl
  next before after hcut =>
    refine String.toList_inj.1 ?_
    simp [text, eq_append_of_cutLast? hcut]

/-- What is read as a symbol is its written form. -/
theorem text_of_parse? {s : String} {id : SymbolId} (h : parse? s = some id) : id.text = s := by
  unfold parse? at h
  split at h
  · cases h
  next before after hcut =>
    split at h
    · cases h
    · cases h
      refine String.toList_inj.1 ?_
      simp [text, eq_append_of_cutLast? hcut]

/-- A written form is read, unless a part of the symbol is empty. -/
theorem parse?_text_eq (id : SymbolId) :
    parse? id.text = if id.owner = "" ∨ id.field = "" then none else some id := by
  unfold parse?
  split
  next hcut => cases hcut.symm.trans id.cutLast?_text
  next before after hcut =>
    cases hcut.symm.trans id.cutLast?_text
    simp

theorem parse?_eq_some_iff {s : String} {id : SymbolId} :
    parse? s = some id ↔ id.owner ≠ "" ∧ id.field ≠ "" ∧ id.text = s := by
  constructor
  · intro h
    obtain rfl := text_of_parse? h
    rw [parse?_text_eq] at h
    split at h
    · cases h
    next hparts =>
      obtain ⟨howner, hfield⟩ := not_or.1 hparts
      exact ⟨howner, hfield, rfl⟩
  · rintro ⟨howner, hfield, rfl⟩
    rw [parse?_text_eq, if_neg (not_or.2 ⟨howner, hfield⟩)]

/-- A symbol whose written form can be read is read back. -/
theorem parse?_text {id : SymbolId} (h : (parse? id.text).isSome = true) :
    parse? id.text = some id := by
  obtain ⟨parsed, hparsed⟩ := Option.isSome_iff_exists.1 h
  rw [hparsed, text_injective (text_of_parse? hparsed)]

/-! ## Two parts -/

/-- Both texts hold something, and no dot stands in the second. -/
structure IsParts (owner field : String) : Prop where
  owner_ne : owner ≠ ""
  field_ne : field ≠ ""
  dotFree : '.' ∉ field.toList

section IsParts

variable {owner field owner' field' : String}

theorem IsParts.isDot_eq_false (h : IsParts owner field) : ∀ c ∈ field.toList, isDot c = false := by
  simp only [isDot_eq_false_iff]
  exact List.forall_mem_ne'.2 h.dotFree

theorem IsParts.owner_ofParts (h : IsParts owner field) : (ofParts owner field).owner = owner := by
  rw [ofParts_of_dotFree h.isDot_eq_false]

theorem IsParts.field_ofParts (h : IsParts owner field) : (ofParts owner field).field = field := by
  rw [ofParts_of_dotFree h.isDot_eq_false]

/-- The written form of two parts is read as the symbol made of them. -/
theorem IsParts.parse?_eq (h : IsParts owner field) :
    parse? (owner ++ "." ++ field) = some (ofParts owner field) := by
  refine parse?_eq_some_iff.2 ⟨?_, ?_, text_ofParts owner field⟩
  · rw [h.owner_ofParts]
    exact h.owner_ne
  · rw [h.field_ofParts]
    exact h.field_ne

/-- A symbol that was read has two parts. -/
theorem isParts_of_parse? {s : String} {id : SymbolId} (h : parse? s = some id) :
    IsParts id.owner id.field := by
  obtain ⟨howner, hfield, -⟩ := parse?_eq_some_iff.1 h
  exact ⟨howner, hfield, fun hdot => by cases id.dotFree _ hdot⟩

/-- Different parts make different symbols. -/
theorem IsParts.eq_of_ofParts_eq (h : IsParts owner field) (h' : IsParts owner' field')
    (heq : ofParts owner field = ofParts owner' field') : owner = owner' ∧ field = field' := by
  constructor
  · rw [← h.owner_ofParts, heq, h'.owner_ofParts]
  · rw [← h.field_ofParts, heq, h'.field_ofParts]

/-- A text is cut into two parts in one way. -/
theorem IsParts.eq_of_text_eq (h : IsParts owner field) (h' : IsParts owner' field')
    (heq : owner ++ "." ++ field = owner' ++ "." ++ field') : owner = owner' ∧ field = field' := by
  rw [← text_ofParts, ← text_ofParts] at heq
  exact h.eq_of_ofParts_eq h' (text_injective heq)

end IsParts

/-- **Symbols and their written forms.**  A text is read as a symbol just when it consists of two
parts with a dot between them, each of which holds something and the second no dot.  The parts are
then determined by the text and are those of the symbol; the text is its written form, and the
symbol made of the parts is the same one.  Conversely the written form of the symbol made of two
parts is read as that symbol.  So different parts make symbols that differ, as do their written
forms, and the constants that they mean in a tree are declared at different places. -/
theorem parse?_of_isParts :
    (∀ s, (parse? s).isSome = true ↔
      ∃ owner field, IsParts owner field ∧ s = owner ++ "." ++ field) ∧
    (∀ s owner field, IsParts owner field → s = owner ++ "." ++ field →
      (∀ owner' field', IsParts owner' field' → s = owner' ++ "." ++ field' →
        owner' = owner ∧ field' = field) ∧
      ∃ id, parse? s = some id ∧ id.owner = owner ∧ id.field = field ∧ id.text = s ∧
        ofParts id.owner id.field = id) ∧
    (∀ owner field, IsParts owner field →
      parse? (ofParts owner field).text = some (ofParts owner field)) ∧
    (∀ owner field owner' field', IsParts owner field → IsParts owner' field' →
      (owner, field) ≠ (owner', field') →
      ofParts owner field ≠ ofParts owner' field' ∧
      (ofParts owner field).text ≠ (ofParts owner' field').text ∧
      ∀ (tree : SyntaxTree) (i j : Nat) (c c' : Constant),
        tree.FindsAt (ofParts owner field) i j c → ¬ tree.FindsAt (ofParts owner' field') i j c') ∧
    ∀ (tree : SyntaxTree) (id : SymbolId) (c : Constant),
      tree.constant? id = some c ↔ ∃ i j, tree.FindsAt id i j c := by
  refine ⟨fun s => ⟨?_, ?_⟩, ?_, ?_, ?_, fun tree id c => SyntaxTree.constant?_eq_some_iff⟩
  · intro h
    obtain ⟨id, hid⟩ := Option.isSome_iff_exists.1 h
    exact ⟨id.owner, id.field, isParts_of_parse? hid, (text_of_parse? hid).symm⟩
  · rintro ⟨owner, field, h, rfl⟩
    rw [h.parse?_eq]
    rfl
  · rintro s owner field h rfl
    refine ⟨fun owner' field' h' heq => h'.eq_of_text_eq h heq.symm, ?_⟩
    exact ⟨ofParts owner field, h.parse?_eq, h.owner_ofParts, h.field_ofParts,
      text_ofParts owner field, ofParts_owner_field _⟩
  · intro owner field h
    rw [text_ofParts]
    exact h.parse?_eq
  · intro owner field owner' field' h h' hne
    have hsymbols : ofParts owner field ≠ ofParts owner' field' := fun heq =>
      hne (Prod.mk_inj.2 (h.eq_of_ofParts_eq h' heq))
    exact ⟨hsymbols, text_injective.ne hsymbols,
      fun tree i j c c' hfind hfind' => hsymbols (hfind.symbol_eq hfind')⟩

/-- Two types, one named as if it stood inside the other, each with an empty constant `BASE`. -/
def nestedNamesTree : SyntaxTree :=
  ⟨[{ types := [{ qualifiedName := ".api", constants := [{ name := "BASE" }] },
      { qualifiedName := ".api..Paths", constants := [{ name := "BASE" }] }] }]⟩

/-- The constants that `.api.BASE` and `.api..Paths.BASE` mean are alike, and they are declared at
different places. -/
theorem parse?_of_isParts_nested :
    let inner := ofParts ".api..Paths" "BASE"
    let outer := ofParts ".api" "BASE"
    IsParts ".api..Paths" "BASE" ∧ IsParts ".api" "BASE" ∧
      (parse? ".api..Paths.BASE").isSome = true ∧ parse? inner.text = some inner ∧
      inner ≠ outer ∧ nestedNamesTree.constant? inner = nestedNamesTree.constant? outer ∧
      ∃ i j c, nestedNamesTree.FindsAt inner i j c ∧ ¬ nestedNamesTree.FindsAt outer i j c := by
  intro inner outer
  have hinner : IsParts ".api..Paths" "BASE" := ⟨by decide, by decide, by decide⟩
  have houter : IsParts ".api" "BASE" := ⟨by decide, by decide, by decide⟩
  obtain ⟨hread, -, hback, hdifferent, hfinds⟩ := parse?_of_isParts
  obtain ⟨hne, -, hplaces⟩ := hdifferent _ _ _ _ hinner houter (by decide)
  have hsome : nestedNamesTree.constant? inner = some { name := "BASE" } := rfl
  obtain ⟨i, j, hfind⟩ := (hfinds _ _ _).1 hsome
  exact ⟨hinner, houter, (hread _).2 ⟨_, _, hinner, by decide⟩, hback _ _ hinner, hne,
    rfl, i, j, _, hfind, hplaces _ i j _ _ hfind⟩

end SymbolId

end RouteAtlas
