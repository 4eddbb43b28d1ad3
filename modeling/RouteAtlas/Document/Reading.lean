import RouteAtlas.Document.Basic

/-!
# RouteAtlas.Document.Reading — what a reader returns

A reader returns the first document of a text, cut off where the text stops being well-formed, and
whether more text follows it.
-/

namespace RouteAtlas.Document

/-- The document that a text starts with, and whether anything follows it. -/
structure Reading where
  document : Document
  trailing : Bool

/-- Reads the whole text as one value; what follows the document is noticed last. -/
def Reading.read {α : Type} (r : Reading) (read : Document → Except Fault α) : Except Fault α := do
  let a ← read r.document
  if r.trailing then .error .illFormed else .ok a

/-- A list or object that is too deep inside others has no value. -/
def limited (limit depth : Nat) (d : Document) : Document :=
  if limit < depth then .unreadable else d

end RouteAtlas.Document
