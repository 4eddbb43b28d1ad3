/-!
# RouteAtlas.Document.Yaml.Cell — characters and their places

YAML gives a meaning to the column a character stands in, so each character carries its place.
-/

namespace RouteAtlas.Document.Yaml

/-- A character and its place in the text. -/
structure Cell where
  char : Char
  line : Nat
  column : Nat
  index : Nat

/-- The characters that end a line. -/
def isBreak (c : Char) : Bool :=
  c == '\n' || c == '\r' || c == '\u0085' || c == '\u2028' || c == '\u2029'

/-- The characters between the words of a line. -/
def isSpace (c : Char) : Bool := c == ' ' || c == '\t'

/-- The characters that a text may hold. -/
def isAllowed (c : Char) : Bool :=
  let n := c.toNat
  n == 0x09 || n == 0x0A || n == 0x0D || (0x20 ≤ n && n ≤ 0x7E) || n == 0x85 ||
    (0xA0 ≤ n && n ≤ 0xD7FF) || (0xE000 ≤ n && n ≤ 0xFFFD) || 0x10000 ≤ n

/-- The characters with their places; all ways to end a line but two are the same. -/
def cellsFrom (line column index : Nat) : List Char → List Cell
  | [] => []
  | '\r' :: '\n' :: cs => ⟨'\n', line, column, index⟩ :: cellsFrom (line + 1) 0 (index + 2) cs
  | c :: cs =>
    if c = '\r' || c = '\u0085' then
      ⟨'\n', line, column, index⟩ :: cellsFrom (line + 1) 0 (index + 1) cs
    else if isBreak c then ⟨c, line, column, index⟩ :: cellsFrom (line + 1) 0 (index + 1) cs
    else ⟨c, line, column, index⟩ :: cellsFrom line (column + 1) (index + 1) cs

/-- The characters of a text with their places; a mark of the byte order is not one of them. -/
def cells (cs : List Char) : List Cell :=
  cellsFrom 0 0 0 (if cs.head? = some '\uFEFF' then cs.tail else cs)

/-- The next character is a blank, a line end or the end of the text. -/
def endsWord : List Cell → Bool
  | [] => true
  | x :: _ => isSpace x.char || isBreak x.char

/-- A line that starts with three times the same mark and a blank: `---` or `...`. -/
def isMarker (mark : Char) : List Cell → Bool
  | x :: y :: z :: rest =>
    x.column == 0 && x.char == mark && y.char == mark && z.char == mark && endsWord rest
  | _ => false

/-- A line that starts or ends a document. -/
def isDocumentMarker (xs : List Cell) : Bool := isMarker '-' xs || isMarker '.' xs

/-- Blanks between words, or line ends between lines. -/
inductive Gap where
  | blanks (cs : List Char)
  /-- Line ends; the first of several adds nothing, and a single one is a blank. -/
  | breaks (first : Char) (more : List Char)
  /-- Line ends of which the first is escaped. -/
  | escaped (more : List Char)

/-- No gap. -/
def Gap.none : Gap := .blanks []

/-- There is a gap. -/
def Gap.isSome : Gap → Bool
  | blanks cs => !cs.isEmpty
  | breaks .. | escaped .. => true

/-- The gap goes over the end of a line. -/
def Gap.isBroken : Gap → Bool
  | blanks _ => false
  | breaks .. | escaped .. => true

/-- The gap with one more blank; blanks at the start of a line add nothing. -/
def Gap.addSpace (g : Gap) (c : Char) : Gap :=
  match g with
  | blanks cs => .blanks (cs ++ [c])
  | g => g

/-- The gap with one more line end. -/
def Gap.addBreak (g : Gap) (c : Char) : Gap :=
  match g with
  | blanks _ => .breaks c []
  | breaks first more => .breaks first (more ++ [c])
  | escaped more => .escaped (more ++ [c])

/-- What a gap stands for. -/
def Gap.text : Gap → List Char
  | blanks cs => cs
  | breaks first more =>
    if first = '\n' then if more.isEmpty then [' '] else more else first :: more
  | escaped more => more

end RouteAtlas.Document.Yaml
