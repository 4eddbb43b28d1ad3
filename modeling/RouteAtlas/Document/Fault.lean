import RouteAtlas.Document.Basic
import RouteAtlas.Mapping.Kind
import RouteAtlas.Symbol

/-!
# RouteAtlas.Document.Fault — what is said of a fault

A fault is told in one phrase; where a text of the document is at fault, the phrase names it.
-/

namespace RouteAtlas.Fault

/-- A name between grave accents. -/
def marked (s : String) : String := "\x60" ++ s ++ "\x60"

/-- The phrase that tells a fault. -/
def detail : Fault → String
  | invalidSymbol text => SymbolId.invalidMessage text
  | unknownKind text => MappingKind.unknownMessage text
  | missingField name => "missing field " ++ marked name
  | unknownField name => "unknown field " ++ marked name
  | unknownVariant name => "unknown variant " ++ marked name
  | duplicateField name => "duplicate field " ++ marked name
  | typeMismatch => "type mismatch"
  | illFormed => "syntax"

end RouteAtlas.Fault
