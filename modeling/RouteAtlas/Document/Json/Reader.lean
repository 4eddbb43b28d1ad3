import RouteAtlas.Document.Json.Lexer
import RouteAtlas.Document.Reading

/-!
# RouteAtlas.Document.Json.Reader — documents of JSON texts

The tokens are read one after the other with a stack of the lists and objects that are open.  Where
a token does not fit, the lists and objects stay open, and the document ends there.
-/

namespace RouteAtlas.Document.Json

/-- A list or object that is open, with what was read of it, the last first. -/
inductive Frame where
  | list (items : List Document)
  | map (entries : List (String × Document))
  /-- An object whose next value belongs to `key`. -/
  | field (entries : List (String × Document)) (key : String)

/-- What may come next. -/
inductive Expected where
  | value
  /-- A value, or the end of the list. -/
  | firstItem
  /-- A name, or the end of the object. -/
  | firstKey
  | key
  | colon
  /-- A comma, or the end of what is open. -/
  | separator

/-- A reader between two tokens. -/
structure State where
  open_ : List Frame
  expected : Expected
  /-- The document, once it is complete. -/
  done : Option Document

/-- The nesting that is no longer read. -/
def depthLimit : Nat := 127

/-- Puts a value where one is expected. -/
def put (d : Document) : List Frame → State
  | [] => ⟨[], .separator, some d⟩
  | .list items :: fs => ⟨.list (d :: items) :: fs, .separator, none⟩
  | .field entries key :: fs => ⟨.map ((key, d) :: entries) :: fs, .separator, none⟩
  | .map entries :: fs => ⟨.map entries :: fs, .separator, none⟩

/-- Puts a list or object that is complete. -/
def close (d : Document) (fs : List Frame) : State := put (limited depthLimit (fs.length + 1) d) fs

/-- Reads a token that starts a value. -/
def start (fs : List Frame) : Token → Option State
  | .openList => some ⟨.list [] :: fs, .firstItem, none⟩
  | .openMap => some ⟨.map [] :: fs, .firstKey, none⟩
  | .text (some s) => some (put (.text s) fs)
  | .text none => some (put .unreadable fs)
  | .scalar d => some (put d fs)
  | .closeList | .closeMap | .comma | .colon | .bad => none

/-- Reads a name. -/
def name : List Frame → Token → Option State
  | .map entries :: fs, .text (some key) => some ⟨.field entries key :: fs, .colon, none⟩
  | _, _ => none

/-- Reads a token, where it fits. -/
def step (s : State) (t : Token) : Option State :=
  match s.expected, s.open_, t with
  | .firstItem, .list [] :: fs, .closeList => some (close (.row [] true) fs)
  | .firstItem, fs, t => start fs t
  | .value, fs, t => start fs t
  | .firstKey, .map [] :: fs, .closeMap => some (close (.map [] true) fs)
  | .firstKey, fs, t => name fs t
  | .key, fs, t => name fs t
  | .colon, fs, .colon => some ⟨fs, .value, none⟩
  | .separator, .list items :: fs, .comma => some ⟨.list items :: fs, .value, none⟩
  | .separator, .list items :: fs, .closeList => some (close (.row items.reverse true) fs)
  | .separator, .map entries :: fs, .comma => some ⟨.map entries :: fs, .key, none⟩
  | .separator, .map entries :: fs, .closeMap => some (close (.map entries.reverse true) fs)
  | _, _, _ => none

/-- What is open becomes a document without an end; `d` is the last thing in it. -/
def Frame.cut : Frame → Option Document → Document
  | .list items, d => .row (items.reverse ++ d.toList) false
  | .map entries, _ => .map entries.reverse false
  | .field entries key, d => .map (((key, d.getD .malformed) :: entries).reverse) false

/-- The document of a reader that goes no further. -/
def State.cut (s : State) : Document :=
  match s.done with
  | some d => d
  | none =>
    let missing :=
      match s.expected with
      | .value | .firstItem => some .malformed
      | .firstKey | .key | .colon | .separator => none
    (s.open_.foldl (fun d f => some (f.cut d)) missing).getD .malformed

/-- Reads tokens as long as they fit. -/
def run (s : State) : List Token → Reading
  | [] => ⟨s.cut, false⟩
  | t :: ts =>
    if s.done.isSome then ⟨s.cut, true⟩
    else
      match step s t with
      | some s => run s ts
      | none => ⟨s.cut, false⟩

/-- The document of a text. -/
def read (text : String) : Reading := run ⟨[], .value, none⟩ (tokens text.toList)

end RouteAtlas.Document.Json
