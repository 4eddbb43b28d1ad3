import RouteAtlas.Document.Reading
import RouteAtlas.Document.Yaml.Lexer

/-!
# RouteAtlas.Document.Yaml.Reader — documents of YAML texts

The tokens are read one after the other with a stack of the lists and objects that are open.  A
value may be left out in most places, and stands for an empty scalar; a list whose marks are not
indented ends without a token.  Both are settled when the token after them is seen, before that
token is read.  A value with a name is kept from where it starts, and has no value of its own inside
of itself.
-/

namespace RouteAtlas.Document.Yaml

/-- A list or object that is open, with what was read of it, the last first. -/
inductive Frame where
  | blockList (items : List Document)
  /-- A list in an object whose marks stand below the name of the list. -/
  | looseList (items : List Document)
  | blockMap (entries : List (String × Document))
  /-- A block object whose next value is a name. -/
  | blockKey (entries : List (String × Document))
  /-- A block object whose next value belongs to `key`. -/
  | blockField (entries : List (String × Document)) (key : String)
  | flowList (items : List Document)
  | flowMap (entries : List (String × Document))
  /-- An object in brackets whose next value is a name after its mark. -/
  | flowKey (entries : List (String × Document))
  /-- An object in brackets whose next value is a name without a value. -/
  | flowLone (entries : List (String × Document))
  /-- An object in brackets whose next value belongs to `key`. -/
  | flowField (entries : List (String × Document)) (key : String)
  /-- An object of one field as an item of a list, before its name. -/
  | pairKey
  /-- An object of one field, before its value. -/
  | pairField (key : String)
  /-- A value that is kept in a place among those with names. -/
  | anchored (place : Nat)
  /-- A value with a tag. -/
  | tagged (k : TagKind)

/-- Nothing but a name or a tag is read of a value. -/
def Frame.isProperty : Frame → Bool
  | .anchored _ | .tagged _ => true
  | _ => false

/-- What may come next. -/
inductive Expected where
  /-- The value that the innermost frame waits for. -/
  | node
  /-- The mark of an item, or the end of the list. -/
  | item
  /-- The mark of an item, or what follows a list without an end. -/
  | looseItem
  /-- The mark of a name, or the end of the object. -/
  | blockName
  /-- The mark of a value, in a block. -/
  | blockValue
  /-- An item, or the end of the list. -/
  | listEntry
  | listSeparator
  /-- A field, or the end of the object. -/
  | mapEntry
  | mapSeparator
  /-- The mark of a value, in brackets. -/
  | flowValue
  /-- Nothing, because a name is not a text or the document is complete. -/
  | nothing

/-- A reader between two tokens. -/
structure State where
  frames : List Frame
  expected : Expected
  /-- The document, once it is complete. -/
  done : Option Document
  /-- The values with names so far. -/
  named : List (String × Document)

/-- The deepest nesting that is read. -/
def depthLimit : Nat := 128

/-- How many lists and objects are open. -/
def depth (fs : List Frame) : Nat := (fs.filter (!·.isProperty)).length

/-- An empty scalar, which stands for what is left out. -/
def absent : Document := .plain ""

/-- The text of a name. -/
def nameText? : Document → Option String
  | .text s | .plain s => some s
  | _ => none

/-- Puts a value where one is expected. -/
def put (named : List (String × Document)) (d : Document) : List Frame → State
  | [] => ⟨[], .nothing, some d, named⟩
  | .blockList items :: fs => ⟨.blockList (d :: items) :: fs, .item, none, named⟩
  | .looseList items :: fs => ⟨.looseList (d :: items) :: fs, .looseItem, none, named⟩
  | .blockMap entries :: fs => ⟨.blockMap entries :: fs, .nothing, none, named⟩
  | .blockKey entries :: fs =>
    match nameText? d with
    | some key => ⟨.blockField entries key :: fs, .blockValue, none, named⟩
    | none => ⟨.blockKey entries :: fs, .nothing, none, named⟩
  | .blockField entries key :: fs =>
    ⟨.blockMap ((key, d) :: entries) :: fs, .blockName, none, named⟩
  | .flowList items :: fs => ⟨.flowList (d :: items) :: fs, .listSeparator, none, named⟩
  | .flowMap entries :: fs => ⟨.flowMap entries :: fs, .nothing, none, named⟩
  | .flowKey entries :: fs =>
    match nameText? d with
    | some key => ⟨.flowField entries key :: fs, .flowValue, none, named⟩
    | none => ⟨.flowKey entries :: fs, .nothing, none, named⟩
  | .flowLone entries :: fs =>
    match nameText? d with
    | some key => ⟨.flowMap ((key, absent) :: entries) :: fs, .mapSeparator, none, named⟩
    | none => ⟨.flowKey entries :: fs, .nothing, none, named⟩
  | .flowField entries key :: fs =>
    ⟨.flowMap ((key, d) :: entries) :: fs, .mapSeparator, none, named⟩
  | .pairKey :: fs =>
    match nameText? d with
    | some key => ⟨.pairField key :: fs, .flowValue, none, named⟩
    | none => ⟨.pairKey :: fs, .nothing, none, named⟩
  | .pairField key :: fs =>
    put named (limited depthLimit (depth fs + 1) (.map [(key, d)] true)) fs
  | .anchored place :: fs => put (named.modify place fun e => (e.1, d)) d fs
  | .tagged k :: fs => put named (k.apply d) fs

/-- Puts a list or object that is complete. -/
def close (named : List (String × Document)) (d : Document) (fs : List Frame) : State :=
  put named (limited depthLimit (depth fs + 1) d) fs

/-- The token shows that the value of a frame is left out. -/
def Frame.endsAt : Frame → Token → Bool
  | .blockList _, .item | .blockList _, .blockEnd => true
  | .looseList _, .item | .looseList _, .key | .looseList _, .value => true
  | .looseList _, .blockEnd => true
  | .blockKey _, .key | .blockKey _, .value | .blockKey _, .blockEnd => true
  | .blockField .., .key | .blockField .., .value | .blockField .., .blockEnd => true
  | .flowKey _, .value | .flowKey _, .comma | .flowKey _, .closeMap => true
  | .flowField .., .comma | .flowField .., .closeMap => true
  | .pairField _, .comma | .pairField _, .closeList => true
  | _, _ => false

/-- The innermost frame holds block lists and block objects. -/
def allowsBlock (fs : List Frame) : Bool :=
  match fs.dropWhile (·.isProperty) with
  | [] | .blockList _ :: _ | .looseList _ :: _ | .blockKey _ :: _ | .blockField .. :: _ => true
  | _ => false

/-- The innermost frame holds lists whose marks are not indented. -/
def allowsLoose (fs : List Frame) : Bool :=
  match fs.dropWhile (·.isProperty) with
  | .blockKey _ :: _ | .blockField .. :: _ => true
  | _ => false

/-- The value that is read has a name. -/
def hasName (fs : List Frame) : Bool :=
  (fs.takeWhile (·.isProperty)).any fun
    | .anchored _ => true
    | _ => false

/-- The value that is read has a tag. -/
def hasTag (fs : List Frame) : Bool :=
  (fs.takeWhile (·.isProperty)).any fun
    | .tagged _ => true
    | _ => false

/-- The token goes on with a value that starts with a name or a tag. -/
def goesOn (fs : List Frame) : Token → Bool
  | .scalar _ | .openList | .openMap => true
  | .blockList | .blockMap => allowsBlock fs
  | .item => allowsLoose fs
  | .anchor _ => !hasName fs
  | .kind _ => !hasTag fs
  | _ => false

/-- Puts an empty scalar where the token shows that a value is left out. -/
def State.fill (s : State) (t : Token) : State :=
  match s.expected, s.frames with
  | .node, f :: fs =>
    if f.endsAt t || (f.isProperty && !goesOn (f :: fs) t) then put s.named absent (f :: fs) else s
  | _, _ => s

/-- Ends a list without an end where no further mark follows. -/
def State.closeLoose (s : State) (t : Token) : State :=
  match s.expected, s.frames, t with
  | .looseItem, _, .item => s
  | .looseItem, .looseList items :: fs, _ => close s.named (.list items.reverse true) fs
  | _, _, _ => s

/-- Puts an empty scalar after a name without a value. -/
def State.skipValue (s : State) (t : Token) : State :=
  match s.expected, t with
  | .blockValue, .value | .flowValue, .value => s
  | .blockValue, _ | .flowValue, _ => put s.named absent s.frames
  | _, _ => s

/-- Reads the name of a value; the tag of a value stays in front of it. -/
def anchor (named : List (String × Document)) (name : String) : List Frame → State
  | .tagged k :: fs =>
    ⟨.tagged k :: .anchored named.length :: fs, .node, none, named ++ [(name, .unreadable)]⟩
  | fs => ⟨.anchored named.length :: fs, .node, none, named ++ [(name, .unreadable)]⟩

/-- Reads a token that starts a value. -/
def start (named : List (String × Document)) (fs : List Frame) : Token → Option State
  | .scalar d => some (put named d fs)
  | .alias name => (named.reverse.find? (·.1 == name)).map fun e => put named e.2 fs
  | .anchor name => some (anchor named name fs)
  | .kind k => some ⟨.tagged k :: fs, .node, none, named⟩
  | .openList => some ⟨.flowList [] :: fs, .listEntry, none, named⟩
  | .openMap => some ⟨.flowMap [] :: fs, .mapEntry, none, named⟩
  | .blockList =>
    if allowsBlock fs then some ⟨.blockList [] :: fs, .item, none, named⟩ else none
  | .blockMap =>
    if allowsBlock fs then some ⟨.blockMap [] :: fs, .blockName, none, named⟩ else none
  | .item => if allowsLoose fs then some ⟨.looseList [] :: fs, .node, none, named⟩ else none
  | _ => none

/-- Reads a token, where it fits. -/
def State.consume (s : State) (t : Token) : Option State :=
  let waits (fs : List Frame) (expected : Expected) : Option State :=
    some { s with frames := fs, expected }
  match s.expected, s.frames, t with
  | .node, .pairKey :: fs, .value => some (put s.named absent (.pairKey :: fs))
  | .node, .pairKey :: fs, .comma => some (put s.named absent (.pairKey :: fs))
  | .node, .pairKey :: fs, .closeList => some (put s.named absent (.pairKey :: fs))
  | .node, fs, t => start s.named fs t
  | .item, fs, .item => waits fs .node
  | .item, .blockList items :: fs, .blockEnd =>
    some (close s.named (.list items.reverse true) fs)
  | .looseItem, fs, .item => waits fs .node
  | .blockName, .blockMap entries :: fs, .key => waits (.blockKey entries :: fs) .node
  | .blockName, .blockMap entries :: fs, .blockEnd =>
    some (close s.named (.map entries.reverse true) fs)
  | .blockValue, fs, .value => waits fs .node
  | .flowValue, fs, .value => waits fs .node
  | .listEntry, .flowList items :: fs, .closeList =>
    some (close s.named (.list items.reverse true) fs)
  | .listEntry, fs, .key => waits (.pairKey :: fs) .node
  | .listEntry, fs, t => start s.named fs t
  | .listSeparator, fs, .comma => waits fs .listEntry
  | .listSeparator, .flowList items :: fs, .closeList =>
    some (close s.named (.list items.reverse true) fs)
  | .mapEntry, .flowMap entries :: fs, .closeMap =>
    some (close s.named (.map entries.reverse true) fs)
  | .mapEntry, .flowMap entries :: fs, .key => waits (.flowKey entries :: fs) .node
  | .mapEntry, .flowMap entries :: fs, t => start s.named (.flowLone entries :: fs) t
  | .mapSeparator, fs, .comma => waits fs .mapEntry
  | .mapSeparator, .flowMap entries :: fs, .closeMap =>
    some (close s.named (.map entries.reverse true) fs)
  | _, _, _ => none

/-- Reads a token after settling what it shows to be left out. -/
def step (s : State) (t : Token) : Option State :=
  (((s.fill t).closeLoose t).skipValue t).consume t

/-- What is open becomes a document without an end; `d` is the last thing in it. -/
def Frame.cut : Frame → Document → Document
  | .blockList items, d | .looseList items, d | .flowList items, d =>
    .list ((d :: items).reverse) false
  | .blockMap entries, _ | .blockKey entries, _ | .flowMap entries, _ | .flowKey entries, _ |
    .flowLone entries, _ => .map entries.reverse false
  | .blockField entries key, d | .flowField entries key, d =>
    .map (((key, d) :: entries).reverse) false
  | .pairKey, _ => .map [] false
  | .pairField key, d => .map [(key, d)] false
  | .anchored _, d | .tagged _, d => d

/-- The document of a reader that goes no further. -/
def State.cut (s : State) : Document :=
  s.done.getD (s.frames.foldl (fun d f => f.cut d) .malformed)

/-- After the first document the text must end. -/
def endsText : List Token → Bool
  | .documentEnd :: ts => endsText ts
  | [.endOfText] => true
  | _ => false

/-- Reads tokens as long as they fit. -/
def run (s : State) : List Token → Reading
  | [] => ⟨s.cut, false⟩
  | t :: ts =>
    -- a document that is a name or a tag alone is complete only now
    let s := s.fill t
    if s.done.isSome then ⟨s.cut, !endsText (t :: ts)⟩
    else
      match step s t with
      | some s => run s ts
      | none => ⟨s.cut, false⟩

/-- The document that tokens stand for.  After `---` it may be left out. -/
def ofTokens : List Token → Reading
  | [.endOfText] => ⟨absent, false⟩
  | .documentStart :: .documentStart :: ts => ⟨absent, !endsText (.documentStart :: ts)⟩
  | .documentStart :: .documentEnd :: ts => ⟨absent, !endsText ts⟩
  | [.documentStart, .endOfText] => ⟨absent, false⟩
  | .documentStart :: ts => run ⟨[], .node, none, []⟩ ts
  | ts => run ⟨[], .node, none, []⟩ ts

/-- What the directives at the start of a text say of handles, and what follows; none where they
contradict each other. -/
def takeDirectives? (hasVersion : Bool) (handles : List (String × String)) :
    List Token → Option (List (String × String) × List Token)
  | .directive (.version major minor) :: ts =>
    if hasVersion || major != 1 || (minor != 1 && minor != 2) then none
    else takeDirectives? true handles ts
  | .directive (.tag handle full) :: ts =>
    if handles.any (·.1 == handle) then none
    else takeDirectives? hasVersion ((handle, full) :: handles) ts
  | ts => some (handles, ts)

/-- The token with what a tag says in place of the tag. -/
def Token.resolved (handles : List (String × String)) : Token → Token
  | .tag t => (t.full? handles).elim .bad fun full => .kind (.ofFull full)
  | t => t

/-- Nothing but the start of a document stands behind directives. -/
def startsWell : List Token → List Token → Bool
  | .directive _ :: _, .documentStart :: _ => true
  | .directive _ :: _, _ => false
  | _, _ => true

/-- The document of a text. -/
def read (text : String) : Reading :=
  let ts := tokens text.toList
  match takeDirectives? false [] ts with
  | some (handles, ts') =>
    if text.toList.all isAllowed && startsWell ts ts' then
      ofTokens (ts'.map (·.resolved handles))
    else ⟨.malformed, false⟩
  | none => ⟨.malformed, false⟩

end RouteAtlas.Document.Yaml
