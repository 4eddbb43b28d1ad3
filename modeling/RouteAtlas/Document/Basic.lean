/-!
# RouteAtlas.Document.Basic — structured data and what can be wrong with it

Trees and settings are kept in files as structured data.  A document holds all that a text says, in
the order it is written, up to the place where the text stops being well-formed; so whoever reads
the document meets its faults in the order of the text.
-/

namespace RouteAtlas

/-- Structured data as it is written in a text. -/
inductive Document where
  | null
  | bool (b : Bool)
  | integer (n : Int)
  | float (x : Float)
  | text (s : String)
  /-- A scalar without quotes, which is a text or a value as its place asks for. -/
  | plain (s : String)
  /-- A list, and whether its end is written. -/
  | list (items : List Document) (closed : Bool)
  /-- A list that may stand for an object, as the values of its fields in their order. -/
  | row (items : List Document) (closed : Bool)
  /-- An object in the order it is written, with repetitions, and whether its end is written. -/
  | map (entries : List (String × Document)) (closed : Bool)
  /-- Well-formed text without a value: a number or a nesting out of range, half a character. -/
  | unreadable
  /-- The text is not well-formed from here on. -/
  | malformed

/-- What is wrong with a document. -/
inductive Fault where
  | invalidSymbol (text : String)
  | unknownKind (text : String)
  | missingField (name : String)
  | unknownField (name : String)
  | unknownVariant (name : String)
  | duplicateField (name : String)
  | typeMismatch
  /-- The text is not well-formed, or stands for no document. -/
  | illFormed
deriving DecidableEq, Repr

namespace Document

mutual

/-- The text of the document is well-formed. -/
def isWellFormed : Document → Bool
  | malformed => false
  | list items closed => closed && areWellFormed items
  | row items closed => closed && areWellFormed items
  | map entries closed => closed && entriesWellFormed entries
  | null | bool _ | integer _ | float _ | text _ | plain _ | unreadable => true

/-- The texts of all documents are well-formed. -/
def areWellFormed : List Document → Bool
  | [] => true
  | d :: ds => d.isWellFormed && areWellFormed ds

/-- The texts of the values of all entries are well-formed. -/
def entriesWellFormed : List (String × Document) → Bool
  | [] => true
  | (_, d) :: es => d.isWellFormed && entriesWellFormed es

end

/-- A list, each item in writing. -/
def ofList {α : Type} (write : α → Document) (xs : List α) : Document :=
  .list (xs.map write) true

/-- An object with the fields that are there. -/
def ofFields (fields : List (String × Option Document)) : Document :=
  .map (fields.filterMap fun (name, d) => d.map (name, ·)) true

/-- The unquoted scalars that stand for nothing. -/
def nullWords : List String := ["null", "Null", "NULL", "~"]

/-- Reads over a document. -/
def skip (d : Document) : Except Fault Unit :=
  if d.isWellFormed then .ok () else .error .illFormed

/-- Reads a text. -/
def readText : Document → Except Fault String
  | text s => .ok s
  | plain s => .ok s
  | unreadable | malformed => .error .illFormed
  | null | bool _ | integer _ | float _ | list .. | row .. | map .. => .error .typeMismatch

/-- Reads a text or nothing. -/
def readText? : Document → Except Fault (Option String)
  | null => .ok none
  | plain s => .ok (if s.isEmpty || nullWords.contains s then none else some s)
  | d => d.readText.map some

/-- Reads the items of a list. -/
def readList {α : Type} (read : Document → Except Fault α) : Document → Except Fault (List α)
  | list items closed | row items closed => do
    let xs ← items.mapM read
    if closed then .ok xs else .error .illFormed
  | plain "" => .ok []
  | unreadable | malformed => .error .illFormed
  | null | bool _ | integer _ | float _ | text _ | plain _ | map .. => .error .typeMismatch

/-- Reads the values of an object whose names are free. -/
def readEntries {α : Type} (read : Document → Except Fault α) :
    Document → Except Fault (List (String × α))
  | map entries closed => do
    let xs ← entries.mapM fun (name, d) => (read d).map (name, ·)
    if closed then .ok xs else .error .illFormed
  | plain "" => .ok []
  | unreadable | malformed => .error .illFormed
  | null | bool _ | integer _ | float _ | text _ | plain _ | list .. | row .. =>
    .error .typeMismatch

end Document

end RouteAtlas
