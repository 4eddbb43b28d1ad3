import RouteAtlas.Document.Record
import RouteAtlas.Document.Scalar
import RouteAtlas.Expr.Basic

/-!
# RouteAtlas.Format.Expr — expressions in documents

An expression is an object whose field `kind` names its form; the field may stand anywhere among
the others.  So the others are settled first: unquoted scalars get the value they look like, and
only then does the form say which fields are read.  A list stands for an expression too, with the
form as its first item and the fields after it.
-/

namespace RouteAtlas

/-- The value of a literal in a document. -/
def Literal.write : Literal → Document
  | bool b => .bool b
  | integer n => .integer n.toInt
  | float x => .float x
  | text s => .text s

namespace Expr

/-- The forms of expressions. -/
inductive Form where
  | literal
  | concat
  | polyadic
  | reference
  | array
  | other
deriving DecidableEq

namespace Form

/-- All forms, in the order of their numbers. -/
def all : List Form := [literal, concat, polyadic, reference, array, other]

/-- The name of a form. -/
def name : Form → String
  | literal => "literal"
  | concat => "concat"
  | polyadic => "polyadic"
  | reference => "reference"
  | array => "array"
  | other => "other"

/-- The fields of a form, in their order. -/
def fields : Form → List String
  | literal => ["raw", "value"]
  | concat => ["left", "right"]
  | polyadic => ["operands"]
  | reference => ["name", "target"]
  | array => ["elements"]
  | other => ["text"]

/-- The form of a name. -/
def ofName (name : String) : Except Fault Form :=
  match all.find? (·.name == name) with
  | some form => .ok form
  | none => .error (.unknownVariant name)

/-- Reads the name of a form. -/
def read (d : Document) : Except Fault Form := d.readText.bind ofName

/-- Reads a settled name of a form, or its number. -/
def readSettled : Document → Except Fault Form
  | .text s => ofName s
  | .integer (.ofNat n) =>
    match all[n]? with
    | some form => .ok form
    | none => .error .typeMismatch
  | _ => .error .typeMismatch

end Form

/-- The field that holds the form. -/
def formField : String := "kind"

/-- Scalars are settled one by one: integers beyond the words of 64 bits have no value. -/
def settleScalar : Document → Except Fault Document
  | .integer n =>
    if Int64.minValue.toInt ≤ n && n < UInt64.size then .ok (.integer n) else .error .typeMismatch
  | .unreadable | .malformed => .error .illFormed
  | d => .ok d

mutual

/-- Gives unquoted scalars the value they look like. -/
def settle : Document → Except Fault Document
  | .plain s => settleScalar (.ofPlain s)
  | .list items closed => do
    let ds ← settleAll items
    if closed then .ok (.list ds true) else .error .illFormed
  | .row items closed => do
    let ds ← settleAll items
    if closed then .ok (.row ds true) else .error .illFormed
  | .map entries closed => do
    let es ← settleEntries entries
    if closed then .ok (.map es true) else .error .illFormed
  | d => settleScalar d

/-- Settles documents in their order. -/
def settleAll : List Document → Except Fault (List Document)
  | [] => .ok []
  | d :: ds => do return (← settle d) :: (← settleAll ds)

/-- Settles the values of entries in their order. -/
def settleEntries : List (String × Document) → Except Fault (List (String × Document))
  | [] => .ok []
  | (name, d) :: es => do return (name, ← settle d) :: (← settleEntries es)

end

/-- A settled document, and what it stands for as an expression and as a list of expressions. -/
structure Node where
  document : Document
  expr : Except Fault Expr
  exprs : Except Fault (List Expr)

namespace Node

/-- The text of a field. -/
def readText (n : Node) : Except Fault String := n.document.readText

/-- The value of a literal, or nothing. -/
def readValue (n : Node) : Except Fault (Option Literal) :=
  match n.document with
  | .null => .ok none
  | .bool b => .ok (some (.bool b))
  | .integer n =>
    let fits := n ≤ Int64.maxValue.toInt
    .ok (some (if fits then .integer (Int64.ofInt n) else .float (Float.ofInt n)))
  | .float x => .ok (some (.float x))
  | .text s => .ok (some (.text s))
  | _ => .error .typeMismatch

/-- The constant that a name means, or nothing. -/
def readTarget (n : Node) : Except Fault (Option SymbolId) :=
  match n.document with
  | .null => .ok none
  | d => do
    let s ← d.readText
    match SymbolId.parse? s with
    | some id => .ok (some id)
    | none => .error (.invalidSymbol s)

end Node

/-- Reads the fields of a form. -/
def Form.readFields (r : Record Node) : Form → Verdict Expr
  | literal =>
    Expr.literal <$> r.required "raw" (·.readText) <*> r.optional "value" none (·.readValue)
  | concat => Expr.concat <$> r.required "left" (·.expr) <*> r.required "right" (·.expr)
  | polyadic => Expr.polyadic <$> r.required "operands" (·.exprs)
  | reference =>
    Expr.reference <$> r.required "name" (·.readText) <*> r.optional "target" none (·.readTarget)
  | array => Expr.array <$> r.required "elements" (·.exprs)
  | other => Expr.other <$> r.required "text" (·.readText)

/-- Reads an expression of a known form; fields of other names mean nothing. -/
def Form.readExpr (form : Form) (r : Record Node) : Except Fault Expr :=
  r.finish form.fields (fun _ _ => .ok ()) (form.readFields r)

/-- Reads the items after the form as its fields. -/
def Form.readItems (form : Form) (items : List Node) : Except Fault Expr :=
  form.readExpr
    { fields := form.fields.zip items
      missing := fun _ => .typeMismatch
      ending := if items.length ≤ form.fields.length then none else some .typeMismatch }

/-- The expression of settled fields. -/
def ofSettledFields (fields : List (String × Node)) : Except Fault Expr :=
  let forms := fields.filter (·.1 == formField)
  match forms with
  | [] => .error (.missingField formField)
  | (_, n) :: again => do
    let form ← Form.readSettled n.document
    if again.isEmpty then form.readExpr { fields := fields.filter (·.1 != formField) }
    else .error (.duplicateField formField)

/-- The expression of settled items. -/
def ofSettledItems : List Node → Except Fault Expr
  | [] => .error (.missingField formField)
  | n :: ns => do (← Form.readSettled n.document).readItems ns

mutual

/-- What a settled document stands for. -/
def node : Document → Node
  | .list items closed =>
    let ns := nodes items
    ⟨.list items closed, ofSettledItems ns, ns.mapM (·.expr)⟩
  | .row items closed =>
    let ns := nodes items
    ⟨.row items closed, ofSettledItems ns, ns.mapM (·.expr)⟩
  | .map entries closed =>
    ⟨.map entries closed, ofSettledFields (nodeEntries entries), .error .typeMismatch⟩
  | d => ⟨d, .error .typeMismatch, .error .typeMismatch⟩

/-- What settled documents stand for. -/
def nodes : List Document → List Node
  | [] => []
  | d :: ds => node d :: nodes ds

/-- What the values of settled entries stand for. -/
def nodeEntries : List (String × Document) → List (String × Node)
  | [] => []
  | (name, d) :: es => (name, node d) :: nodeEntries es

end

/-- Reads the entries of an object in their order: the form, once it is met, and the other fields
settled. -/
def readEntries (form : Option Form) :
    List (String × Document) → Except Fault (Option Form × List (String × Node))
  | [] => .ok (form, [])
  | (name, d) :: es => do
    if name = formField then
      if form.isSome then .error (.duplicateField formField)
      else readEntries (some (← Form.read d)) es
    else
      let d ← settle d
      let (form, fields) ← readEntries form es
      return (form, (name, node d) :: fields)

/-- Reads an expression whose form is the first item. -/
def readItems (closed : Bool) : List Document → Except Fault Expr
  | [] => .error (if closed then .missingField formField else .illFormed)
  | d :: ds => do
    let form ← Form.read d
    let ns ← settleAll ds
    if closed then form.readItems (nodes ns) else .error .illFormed

/-- Reads an expression. -/
def read : Document → Except Fault Expr
  | .map entries closed => do
    let (form, fields) ← readEntries none entries
    if closed then
      match form with
      | some form => form.readExpr { fields }
      | none => .error (.missingField formField)
    else .error .illFormed
  | .list items closed => readItems closed items
  | .row items closed => readItems closed items
  | .unreadable | .malformed => .error .illFormed
  | .null | .bool _ | .integer _ | .float _ | .text _ | .plain _ => .error .typeMismatch

/-- Reads an expression or nothing. -/
def read? : Document → Except Fault (Option Expr)
  | .null => .ok none
  | .plain s =>
    if s.isEmpty || Document.nullWords.contains s then .ok none else .error .typeMismatch
  | d => (read d).map some

/-- An object of a form, with the fields that are there. -/
def Form.write (form : Form) (fields : List (String × Option Document)) : Document :=
  .ofFields ((formField, some (.text form.name)) :: fields)

mutual

/-- The document of an expression. -/
def write : Expr → Document
  | literal raw value =>
    Form.literal.write [("raw", some (.text raw)), ("value", value.map Literal.write)]
  | concat left right =>
    Form.concat.write [("left", some left.write), ("right", some right.write)]
  | polyadic operands => Form.polyadic.write [("operands", some (.list (writeAll operands) true))]
  | reference name target =>
    Form.reference.write [("name", some (.text name)), ("target", target.map (.text ·.text))]
  | array elements => Form.array.write [("elements", some (.list (writeAll elements) true))]
  | other text => Form.other.write [("text", some (.text text))]

/-- The documents of expressions. -/
def writeAll : List Expr → List Document
  | [] => []
  | e :: es => e.write :: writeAll es

end

end Expr

end RouteAtlas
