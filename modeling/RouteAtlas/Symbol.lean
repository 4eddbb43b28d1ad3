import RouteAtlas.Text.Segments

/-!
# RouteAtlas.Symbol — names of constants

A constant is named by the qualified name of the type that declares it and its own name, written
with a `.` between them.  The name is cut at its last `.`, so the second part never holds one and
the written form determines both parts.
-/

namespace RouteAtlas

/-- A point separates the parts of qualified names. -/
def isDot (c : Char) : Bool := c == '.'

theorem isDot_iff {c : Char} : isDot c = true ↔ c = '.' := beq_iff_eq

theorem isDot_eq_false_iff {c : Char} : isDot c = false ↔ c ≠ '.' := beq_eq_false_iff_ne

/-- The name of a constant: its declaring type and its own name. -/
structure SymbolId where
  owner : String
  field : String
  dotFree : ∀ c ∈ field.toList, isDot c = false
deriving DecidableEq

namespace SymbolId

/-- The written form. -/
def text (id : SymbolId) : String := id.owner ++ "." ++ id.field

/-- The symbol written `owner.field`; dots in `field` move the cut to the last of them. -/
def ofParts (owner field : String) : SymbolId :=
  match h : Text.cutLast? isDot field.toList with
  | none => ⟨owner, field, Text.cutLast?_eq_none_iff.1 h⟩
  | some (before, after) =>
    ⟨owner ++ "." ++ String.ofList before, String.ofList after, by
      simpa using Text.sep_eq_false_of_cutLast? h⟩

/-- Reads a written form; both parts must hold something. -/
def parse? (s : String) : Option SymbolId :=
  match h : Text.cutLast? isDot s.toList with
  | none => none
  | some (before, after) =>
    if before.isEmpty || after.isEmpty then none
    else some ⟨String.ofList before, String.ofList after, by
      simpa using Text.sep_eq_false_of_cutLast? h⟩

/-- What is said of a text that is no symbol. -/
def invalidMessage (s : String) : String :=
  "invalid symbol id '" ++ s ++ "': expected <qualified type>.<field>"

theorem ofParts_of_dotFree {owner field : String} (h : ∀ c ∈ field.toList, isDot c = false) :
    ofParts owner field = ⟨owner, field, h⟩ := by
  unfold ofParts
  split
  · rfl
  next before after hcut =>
    rw [Text.cutLast?_eq_none_iff.2 h] at hcut
    cases hcut

@[simp] theorem ofParts_owner_field (id : SymbolId) : ofParts id.owner id.field = id :=
  ofParts_of_dotFree id.dotFree

end SymbolId

/-- The part of a qualified name after its last dot. -/
def simpleName (s : String) : String := String.ofList (Text.afterLast isDot s.toList)

end RouteAtlas
