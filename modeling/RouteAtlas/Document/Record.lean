import RouteAtlas.Document.Basic

/-!
# RouteAtlas.Document.Record — objects with fixed fields

The fields of an object are read independently of each other, and each fault keeps the place where
the text shows it.  Of all faults the first one in the text is reported; a field that is missing
shows at the end, in the order the fields are declared.
-/

namespace RouteAtlas

/-- A result, or a fault and its place in the text. -/
structure Verdict (α : Type) where
  result : Except (Nat × Fault) α

namespace Verdict

variable {α β : Type}

/-- A result without fault. -/
def pure (a : α) : Verdict α := ⟨.ok a⟩

/-- A fault at a place. -/
def fault (place : Nat) (f : Fault) : Verdict α := ⟨.error (place, f)⟩

/-- Both results, or the earlier one of the faults. -/
def both (v : Verdict (α → β)) (w : Verdict α) : Verdict β :=
  match v.result, w.result with
  | .ok f, .ok a => ⟨.ok (f a)⟩
  | .ok _, .error p => ⟨.error p⟩
  | .error p, .ok _ => ⟨.error p⟩
  | .error p, .error q => ⟨.error (if q.1 < p.1 then q else p)⟩

instance : Applicative Verdict where
  pure := Verdict.pure
  seq v w := v.both (w ())

end Verdict

/-- The fields of an object in the order they are written, their values read as `β`. -/
structure Record (β : Type) where
  fields : List (String × β)
  /-- What is wrong when a field is missing. -/
  missing : String → Fault := .missingField
  /-- What is wrong after the last field. -/
  ending : Option Fault := none

namespace Record

variable {α β : Type}

/-- The first value of a field and its place. -/
def find? (r : Record β) (name : String) : Option (Nat × β) :=
  (r.fields.zipIdx.find? (fun e => e.1.1 == name)).map fun e => (e.2, e.1.2)

/-- The place where a field is written for the second time. -/
def again? (r : Record β) (name : String) : Option Nat :=
  ((r.fields.zipIdx.filter (fun e => e.1.1 == name))[1]?).map (·.2)

/-- Reads a field that is written; a second writing of it is a fault. -/
def readAt (r : Record β) (name : String) (read : β → Except Fault α) (place : Nat) (b : β) :
    Verdict α :=
  match read b, r.again? name with
  | .error f, _ => .fault place f
  | .ok _, some second => .fault second (.duplicateField name)
  | .ok a, none => .pure a

/-- A field that must be written. -/
def required (r : Record β) (name : String) (read : β → Except Fault α) : Verdict α :=
  match r.find? name with
  | some (place, b) => r.readAt name read place b
  | none => .fault (r.fields.length + 1) (r.missing name)

/-- A field that may be left out. -/
def optional (r : Record β) (name : String) (default : α) (read : β → Except Fault α) :
    Verdict α :=
  match r.find? name with
  | some (place, b) => r.readAt name read place b
  | none => .pure default

/-- Everything but the fields of known names. -/
def others (r : Record β) (known : List String) (read : String → β → Except Fault Unit) :
    Verdict Unit :=
  let faults := r.fields.zipIdx.findSome? fun ((name, b), place) =>
    if known.contains name then none
    else
      match read name b with
      | .ok () => none
      | .error f => some (place, f)
  match faults, r.ending with
  | some (place, f), _ => .fault place f
  | none, some f => .fault r.fields.length f
  | none, none => .pure ()

/-- The result of all fields, or the first fault. -/
def finish (r : Record β) (known : List String) (other : String → β → Except Fault Unit)
    (v : Verdict α) : Except Fault α :=
  match ((Function.const Unit id <$> r.others known other) <*> v).result with
  | .ok a => .ok a
  | .error (_, f) => .error f

end Record

/-- The fields of a document, where `known` are those of the object in their order. -/
def Document.record (known : List String) : Document → Except Fault (Record Document)
  | map entries closed =>
    .ok { fields := entries, ending := if closed then none else some .illFormed }
  | row items closed =>
    .ok
      { fields := known.zip items
        missing := fun _ => .typeMismatch
        ending := if closed && items.length ≤ known.length then none else some .illFormed }
  | plain "" => .ok { fields := [] }
  | unreadable | malformed => .error .illFormed
  | null | bool _ | integer _ | float _ | text _ | plain _ | list .. => .error .typeMismatch

end RouteAtlas
