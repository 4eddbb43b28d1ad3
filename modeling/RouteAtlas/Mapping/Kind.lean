/-!
# RouteAtlas.Mapping.Kind — annotations that declare routes

Five annotations fix the verb of their routes; the sixth is generic and names its verbs itself.
-/

namespace RouteAtlas

/-- An annotation that declares routes. -/
inductive MappingKind where
  | get
  | post
  | put
  | delete
  | patch
  /-- The generic one. -/
  | request
deriving DecidableEq, Repr

namespace MappingKind

/-- The package that the annotations belong to. -/
def package : String := "org.springframework.web.bind.annotation"

/-- All kinds, in the order they are listed. -/
def all : List MappingKind := [get, post, put, delete, patch, request]

/-- The name without the package. -/
def simpleName : MappingKind → String
  | get => "GetMapping"
  | post => "PostMapping"
  | put => "PutMapping"
  | delete => "DeleteMapping"
  | patch => "PatchMapping"
  | request => "RequestMapping"

/-- The simple name without its common ending. -/
def shortName : MappingKind → String
  | get => "Get"
  | post => "Post"
  | put => "Put"
  | delete => "Delete"
  | patch => "Patch"
  | request => "Request"

/-- The name with the package. -/
def qualifiedName (k : MappingKind) : String := package ++ "." ++ k.simpleName

/-- The verb that the annotation fixes. -/
def verb? : MappingKind → Option String
  | get => some "GET"
  | post => some "POST"
  | put => some "PUT"
  | delete => some "DELETE"
  | patch => some "PATCH"
  | request => none

/-- The kind of a qualified name. -/
def ofQualifiedName? (name : String) : Option MappingKind :=
  all.find? (·.qualifiedName == name)

/-- The texts are equal but for the case of ASCII letters. -/
def sameLetters (s t : String) : Bool := s.toList.map Char.toLower == t.toList.map Char.toLower

/-- Reads the name of a kind: the qualified name, or in any case of letters the simple name or the
short one. -/
def parse? (s : String) : Option MappingKind :=
  (ofQualifiedName? s).or
    (all.find? fun k => sameLetters k.simpleName s || sameLetters k.shortName s)

/-- What is said of a text that names no kind. -/
def unknownMessage (s : String) : String :=
  "unknown mapping annotation kind '" ++ s ++ "' (expected one of " ++
    ", ".intercalate (all.map simpleName) ++ ")"

end MappingKind

end RouteAtlas
