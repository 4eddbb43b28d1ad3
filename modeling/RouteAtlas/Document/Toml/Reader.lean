import RouteAtlas.Document.Json.Reader
import RouteAtlas.Document.Sorted
import RouteAtlas.Document.Toml.Lexer

/-!
# RouteAtlas.Document.Toml.Reader — documents of TOML texts

Each statement of a text gives a value to a name, or names the table that the next statements
belong to.  A text with a fault anywhere has no document at all; the order of the fields is not
kept.
-/

namespace RouteAtlas.Document.Toml

/-- The tokens cut into statements: a line ends a statement where no bracket is open. -/
def statements (depth : Nat) : List Token → List (List Token)
  | [] => [[]]
  | .lineEnd :: ts => if depth = 0 then [] :: statements 0 ts else statements depth ts
  | t :: ts =>
    let depth :=
      match t with
      | .openList | .openMap => depth + 1
      | .closeList | .closeMap => depth - 1
      | _ => depth
    match statements depth ts with
    | [] => [[t]]
    | s :: rest => (t :: s) :: rest

/-- The token is the end of a line. -/
def Token.isLineEnd : Token → Bool
  | .lineEnd => true
  | _ => false

/-- The parts of a name: a quoted text, or bare words with points between them. -/
def namePath? : Token → Option (List String)
  | .text s => some [s]
  | .word cs =>
    let parts := Text.segments (· == '.') cs
    if parts.all (fun p => !p.isEmpty && p.all isNameChar) then some (parts.map String.ofList)
    else none
  | _ => none

/-- The tokens of a value, as they are in JSON: there no comma stands before a closing bracket, and
the names of fields are quoted. -/
def valueTokens : List Token → List Json.Token
  | [] => []
  | .openList :: .comma :: _ | .openMap :: .comma :: _ => [.bad]
  | .comma :: .closeList :: ts => .closeList :: valueTokens ts
  | .comma :: .closeMap :: ts => .closeMap :: valueTokens ts
  | .comma :: ts => .comma :: valueTokens ts
  | .openList :: ts => .openList :: valueTokens ts
  | .closeList :: ts => .closeList :: valueTokens ts
  | .openMap :: ts => .openMap :: valueTokens ts
  | .closeMap :: ts => .closeMap :: valueTokens ts
  | .text s :: ts => .text (some s) :: valueTokens ts
  | .block _ :: .equals :: _ => [.bad]
  | .block s :: ts => .text (some s) :: valueTokens ts
  | .word cs :: .equals :: ts =>
    (if cs.all isNameChar then .text (some (String.ofList cs)) else .bad) :: .colon ::
      valueTokens ts
  | .word cs :: ts => ((ofWord? cs).elim .bad .scalar) :: valueTokens ts
  | .equals :: ts => .colon :: valueTokens ts
  | .lineEnd :: ts => valueTokens ts
  | .bad :: ts => .bad :: valueTokens ts

/-- A value, where its tokens are well-formed. -/
def value? (ts : List Token) : Option Document :=
  let r := Json.run ⟨[], .value, none⟩ (valueTokens (ts.filter (!·.isLineEnd)))
  if r.document.isWellFormed && !r.trailing then some r.document else none

/-- What a statement does. -/
inductive Statement where
  | none
  /-- Gives a value to a name. -/
  | assign (path : List String) (d : Document)
  /-- The next names belong to a table. -/
  | table (path : List String)
  /-- The next names belong to a new table at the end of a list. -/
  | tableItem (path : List String)

/-- Reads a statement. -/
def statement? : List Token → Option Statement
  | [] => some .none
  | [.openList, t, .closeList] => (namePath? t).map .table
  | [.openList, .openList, t, .closeList, .closeList] => (namePath? t).map .tableItem
  | t :: .equals :: ts => do return .assign (← namePath? t) (← value? ts)
  | _ => Option.none

/-- The fields of an object or of the last object in a list. -/
def fieldsOf? : Document → Option (List (String × Document))
  | .map es _ => some es
  | .row ds _ =>
    match ds.getLast? with
    | some (.map es _) => some es
    | _ => none
  | _ => none

/-- The document with other fields in place of `fieldsOf?`. -/
def withFields (d : Document) (es : List (String × Document)) : Document :=
  match d with
  | .row ds closed => .row (ds.dropLast ++ [.map es true]) closed
  | _ => .map es true

/-- Changes the field at a path, making the tables on the way. -/
def update? (change : Option Document → Option Document) :
    List String → List (String × Document) → Option (List (String × Document))
  | [], _ => none
  | [name], es =>
    match es.find? (·.1 == name) with
    | none => (change none).map fun d => es ++ [(name, d)]
    | some (_, old) =>
      (change (some old)).map fun d => es.map fun e => if e.1 = name then (name, d) else e
  | name :: path, es =>
    match es.find? (·.1 == name) with
    | none => (update? change path []).map fun inner => es ++ [(name, .map inner true)]
    | some (_, old) => do
      let inner ← update? change path (← fieldsOf? old)
      return es.map fun e => if e.1 = name then (name, withFields old inner) else e

/-- The statements so far. -/
structure State where
  entries : List (String × Document) := []
  /-- The table that names belong to. -/
  current : List String := []
  /-- The names that have a value, which nothing can be added to. -/
  assigned : List (List String) := []
  /-- The tables that have been named. -/
  tables : List (List String) := []

/-- The state after a statement. -/
def State.apply? (s : State) : Statement → Option State
  | .none => some s
  | .assign path d =>
    let path := s.current ++ path
    if s.assigned.any (·.isPrefixOf path) then Option.none
    else
      (update? (fun old => if old.isSome then Option.none else some d) path s.entries).map
        fun entries => { s with entries, assigned := path :: s.assigned }
  | .table path =>
    if s.tables.contains path || s.assigned.any (·.isPrefixOf path) then Option.none
    else
      (update?
          (fun
            | Option.none => some (.map [] true)
            | some (.map es _) => some (.map es true)
            | some _ => Option.none)
          path s.entries).map
        fun entries => { s with entries, current := path, tables := path :: s.tables }
  | .tableItem path =>
    if s.tables.contains path || s.assigned.any (·.isPrefixOf path) then Option.none
    else
      (update?
          (fun
            | Option.none => some (.row [.map [] true] true)
            | some (.row ds _) => some (.row (ds ++ [.map [] true]) true)
            | some _ => Option.none)
          path s.entries).map
        fun entries =>
          { entries, current := path
            assigned := s.assigned.filter (!path.isPrefixOf ·)
            tables := s.tables.filter (!path.isPrefixOf ·) }

/-- The document of a text; a mark of the byte order at its start is no part of it. -/
def read (text : String) : Document :=
  let cs := text.toList
  let ts := tokens (if cs.head? = some '\uFEFF' then cs.tail else cs)
  match ((statements 0 ts).mapM statement?).bind (·.foldlM State.apply? {}) with
  | some s => .sorted (.map s.entries true)
  | Option.none => .malformed

end RouteAtlas.Document.Toml
