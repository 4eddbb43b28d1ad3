import RouteAtlas.Document.Basic

/-!
# RouteAtlas.Document.Sorted — fields in the order of their names

Some texts do not keep the order in which the fields of an object are written; `sorted` puts them
in increasing order of their names.
-/

namespace RouteAtlas.Document

/-- Puts a field in its place between sorted ones. -/
def insertSorted (e : String × Document) : List (String × Document) → List (String × Document)
  | [] => [e]
  | x :: xs => if e.1 < x.1 then e :: x :: xs else x :: insertSorted e xs

mutual

/-- The document with its fields in increasing order of their names. -/
def sorted : Document → Document
  | list items closed => list (sortedItems items) closed
  | row items closed => row (sortedItems items) closed
  | map entries closed => map (sortedEntries entries) closed
  | d => d

/-- The items with their fields in order. -/
def sortedItems : List Document → List Document
  | [] => []
  | d :: ds => sorted d :: sortedItems ds

/-- The fields in order. -/
def sortedEntries : List (String × Document) → List (String × Document)
  | [] => []
  | (name, d) :: es => insertSorted (name, sorted d) (sortedEntries es)

end

end RouteAtlas.Document
