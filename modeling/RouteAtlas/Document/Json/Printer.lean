import RouteAtlas.Document.Basic
import RouteAtlas.Expr.Literal

/-!
# RouteAtlas.Document.Json.Printer — documents written as JSON

`compact` writes a document on one line, `pretty` writes each item on a line of its own, indented
by two blanks for each level.  Both keep the order of the fields.
-/

namespace RouteAtlas.Document.Json

/-- The escapes of control characters that have a short one. -/
def shortEscape? : Char → Option Char
  | '"' => some '"'
  | '\\' => some '\\'
  | '\n' => some 'n'
  | '\t' => some 't'
  | '\r' => some 'r'
  | '\x08' => some 'b'
  | '\x0c' => some 'f'
  | _ => none

/-- A character as it is written between quotes. -/
def writtenChar (c : Char) : List Char :=
  match shortEscape? c with
  | some e => ['\\', e]
  | none =>
    if c < ' ' then
      let digits := Nat.toDigits 16 c.toNat
      ['\\', 'u'] ++ List.replicate (4 - digits.length) '0' ++ digits
    else [c]

/-- A text between quotes. -/
def writtenText (s : String) : String :=
  String.ofList ('"' :: s.toList.flatMap writtenChar ++ ['"'])

/-- A scalar in writing; numbers out of range are nothing. -/
def scalarText : Document → String
  | null => "null"
  | bool b => if b then "true" else "false"
  | integer n => toString n
  | float x => if x.isFinite then Literal.floatLayout.float x else "null"
  | text s => writtenText s
  | plain s => writtenText s
  | list .. | row .. | map .. | unreadable | malformed => "null"

mutual

/-- A document on one line. -/
def compact : Document → String
  | list items _ => "[" ++ ",".intercalate (compactItems items) ++ "]"
  | row items _ => "[" ++ ",".intercalate (compactItems items) ++ "]"
  | map entries _ => "\x7b" ++ ",".intercalate (compactEntries entries) ++ "\x7d"
  | d => scalarText d

/-- Items on one line each. -/
def compactItems : List Document → List String
  | [] => []
  | d :: ds => compact d :: compactItems ds

/-- Fields on one line each. -/
def compactEntries : List (String × Document) → List String
  | [] => []
  | (name, d) :: es => (writtenText name ++ ":" ++ compact d) :: compactEntries es

end

/-- Lines between brackets, each indented by one level more than `indent`. -/
def block (openText closeText indent : String) (lines : List String) : String :=
  if lines.isEmpty then openText ++ closeText
  else
    openText ++ "\n" ++ ",\n".intercalate (lines.map (indent ++ "  " ++ ·)) ++ "\n" ++ indent ++
      closeText

mutual

/-- A document with each item on a line of its own. -/
def prettyIn (indent : String) : Document → String
  | list items _ => block "[" "]" indent (prettyItems (indent ++ "  ") items)
  | row items _ => block "[" "]" indent (prettyItems (indent ++ "  ") items)
  | map entries _ => block "\x7b" "\x7d" indent (prettyEntries (indent ++ "  ") entries)
  | d => scalarText d

/-- Items in writing. -/
def prettyItems (indent : String) : List Document → List String
  | [] => []
  | d :: ds => prettyIn indent d :: prettyItems indent ds

/-- Fields in writing. -/
def prettyEntries (indent : String) : List (String × Document) → List String
  | [] => []
  | (name, d) :: es => (writtenText name ++ ": " ++ prettyIn indent d) :: prettyEntries indent es

end

/-- A document with each item on a line of its own. -/
def pretty (d : Document) : String := prettyIn "" d

end RouteAtlas.Document.Json
