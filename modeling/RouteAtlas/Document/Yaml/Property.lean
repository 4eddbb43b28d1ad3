import RouteAtlas.Decimal.Numeral
import RouteAtlas.Document.Scalar
import RouteAtlas.Document.Yaml.Block

/-!
# RouteAtlas.Document.Yaml.Property — what is said of a value

Before a value may stand a name, under which it can be put in other places too, and a tag, which
says what the value is.  Directives at the start of a text say what the tags in it are short for.
-/

namespace RouteAtlas.Document.Yaml

/-! ### Names -/

/-- The characters of names. -/
def isNameChar (c : Char) : Bool := c.isAlphanum || c == '-' || c == '_'

/-- The characters that may follow the name of a value. -/
def endsName (rest : List Cell) : Bool :=
  endsWord rest || rest.head?.any fun x => "?:,]\x7d%@\x60".toList.contains x.char

/-- The text up to the first character of another kind, and what follows it. -/
def textWhile (p : Char → Bool) (xs : List Cell) : String × List Cell :=
  (String.ofList ((xs.takeWhile (p ·.char)).map (·.char)), xs.dropWhile (p ·.char))

/-- The name of a value behind its mark, and what follows. -/
def name? (xs : List Cell) : Option (String × List Cell) :=
  let (name, rest) := textWhile isNameChar xs
  if name.isEmpty || !endsName rest then none else some (name, rest)

/-! ### Tags -/

/-- A tag as it is written. -/
structure Tag where
  /-- What the tag starts with, where that is short for something. -/
  handle : String
  rest : String

/-- The characters of tags. -/
def isTagChar (c : Char) : Bool := isNameChar c || ";/?:@&=+$.!~*'()%".toList.contains c

/-- The characters of tags that are written in full. -/
def isFullTagChar (c : Char) : Bool := isTagChar c || c == ',' || c == '[' || c == ']'

/-- A tag behind its `!`, and what follows. -/
def tagBehind? (xs : List Cell) : Option (Tag × List Cell) :=
  if xs.head?.any (·.char == '<') then
    let (rest, after) := textWhile isFullTagChar xs.tail
    if rest.isEmpty || !after.head?.any (·.char == '>') then none
    else some (⟨"", rest⟩, after.tail)
  else
    let (name, after) := textWhile isNameChar xs
    if after.head?.any (·.char == '!') then
      let (rest, after) := textWhile isTagChar after.tail
      if rest.isEmpty then none else some (⟨"!" ++ name ++ "!", rest⟩, after)
    else
      let (rest, after) := textWhile isTagChar xs
      -- a mark alone is a tag in full
      if rest.isEmpty then some (⟨"", "!"⟩, after) else some (⟨"!", rest⟩, after)

/-- A tag behind its mark, and what may follow it. -/
def tag? (inFlow : Bool) (xs : List Cell) : Option (Tag × List Cell) :=
  (tagBehind? xs).filter fun (_, after) =>
    endsWord after || (inFlow && after.head?.any (·.char == ','))

/-- What the handles are short for that stand in no directive. -/
def standardHandles : List (String × String) := [("!", "!"), ("!!", "tag:yaml.org,2002:")]

/-- The tag in full. -/
def Tag.full? (handles : List (String × String)) (t : Tag) : Option String :=
  if t.handle.isEmpty then some t.rest
  else ((handles ++ standardHandles).find? (·.1 == t.handle)).map (·.2 ++ t.rest)

/-- What a tag says that a scalar is. -/
inductive TagKind where
  | bool
  | integer
  | float
  | null
  /-- What the scalar is without a tag. -/
  | any
  | text

/-- What a tag in full says. -/
def TagKind.ofFull (full : String) : TagKind :=
  if full = "!" then any
  else if full = "tag:yaml.org,2002:bool" then bool
  else if full = "tag:yaml.org,2002:int" then integer
  else if full = "tag:yaml.org,2002:float" then float
  else if full = "tag:yaml.org,2002:null" then null
  else text

/-- The value that a tag makes of a scalar; lists and objects are not changed. -/
def TagKind.apply (k : TagKind) (d : Document) : Document :=
  let value (s : String) : Document :=
    match k, ofPlain s with
    | any, _ => d
    | text, _ => .text s
    | bool, .bool _ | integer, .integer _ | float, .float _ => .plain s
    | float, .integer _ => (float? s).elim .unreadable .float
    | null, .null => if s.isEmpty then .unreadable else .plain s
    | _, _ => .unreadable
  match d with
  | .plain s | .text s => value s
  | d => d

/-! ### Directives -/

/-- What a directive says. -/
inductive Directive where
  | version (major minor : Nat)
  /-- Tags that start with `handle` are short for tags that start with `full`. -/
  | tag (handle full : String)

/-- The version in a directive, and what follows. -/
def versionDirective? (xs : List Cell) : Option (Directive × List Cell) :=
  let (major, after) := textWhile Char.isDigit xs
  let (minor, rest) := textWhile Char.isDigit after.tail
  let number (ds : String) := Decimal.natOfDigits 10 ds.toList
  if major.isEmpty || minor.isEmpty || !after.head?.any (·.char == '.') then none
  else some (.version (number major) (number minor), rest)

/-- A handle behind its first `!`, and what follows. -/
def handleBehind? (xs : List Cell) : Option (String × List Cell) :=
  let (name, after) := textWhile isNameChar xs
  if after.head?.any (·.char == '!') then some ("!" ++ name ++ "!", after.tail)
  else if name.isEmpty then some ("!", after)
  else none

/-- The handle in a directive and what it is short for, and what follows. -/
def tagDirective? (xs : List Cell) : Option (Directive × List Cell) := do
  let (handle, after) ← handleBehind? xs.tail
  let (full, rest) := textWhile isFullTagChar (after.dropWhile (isSpace ·.char))
  if xs.head?.any (·.char == '!') && after.head?.any (isSpace ·.char) && !full.isEmpty &&
      endsWord rest then
    some (.tag handle full, rest)
  else none

/-- The directive of a name, and what follows. -/
def directiveOf? (name : String) (xs : List Cell) : Option (Directive × List Cell) :=
  if name = "YAML" then versionDirective? xs
  else if name = "TAG" then tagDirective? xs
  else none

/-- A directive behind its mark, and what follows its line. -/
def directive? (xs : List Cell) : Option (Directive × List Cell) := do
  let (name, after) := textWhile isNameChar xs
  let (d, rest) ← directiveOf? name (after.dropWhile (isSpace ·.char))
  let rest ← endLine? rest
  if endsWord after then some (d, rest) else none

/-! ### What follows is no longer than the text -/

theorem length_textWhile_le (p : Char → Bool) (xs : List Cell) :
    (textWhile p xs).2.length ≤ xs.length := (List.dropWhile_suffix _).length_le

theorem length_le_of_name? {xs rest : List Cell} {name : String}
    (h : name? xs = some (name, rest)) : rest.length ≤ xs.length := by
  simp only [name?] at h
  split at h
  · cases h
  · cases h
    exact length_textWhile_le isNameChar xs

theorem length_textWhile_tail_le (p : Char → Bool) (xs : List Cell) :
    (textWhile p xs.tail).2.length ≤ xs.length :=
  Nat.le_trans (length_textWhile_le p xs.tail) (by simp)

theorem length_le_of_tag? {inFlow : Bool} {xs rest : List Cell} {t : Tag}
    (h : tag? inFlow xs = some (t, rest)) : rest.length ≤ xs.length := by
  have hbehind : tagBehind? xs = some (t, rest) := Option.filter_eq_some_iff.1 h |>.1
  have hname := length_textWhile_le isNameChar xs
  simp only [tagBehind?] at hbehind
  split at hbehind
  · split at hbehind
    · cases hbehind
    · cases hbehind
      have := length_textWhile_tail_le isFullTagChar xs
      simp only [List.length_tail]
      omega
  · split at hbehind
    · split at hbehind
      · cases hbehind
      · cases hbehind
        exact Nat.le_trans (length_textWhile_tail_le isTagChar _) hname
    · split at hbehind <;>
        · cases hbehind
          exact length_textWhile_le isTagChar xs

theorem length_le_of_versionDirective? {xs rest : List Cell} {d : Directive}
    (h : versionDirective? xs = some (d, rest)) : rest.length ≤ xs.length := by
  simp only [versionDirective?] at h
  split at h
  · cases h
  · cases h
    exact Nat.le_trans (length_textWhile_tail_le Char.isDigit _)
      (length_textWhile_le Char.isDigit xs)

theorem length_le_of_handleBehind? {xs rest : List Cell} {handle : String}
    (h : handleBehind? xs = some (handle, rest)) : rest.length ≤ xs.length := by
  have hname := length_textWhile_le isNameChar xs
  simp only [handleBehind?] at h
  split at h
  · cases h
    simp only [List.length_tail]
    omega
  · split at h
    · cases h
      exact hname
    · cases h

theorem length_le_of_tagDirective? {xs rest : List Cell} {d : Directive}
    (h : tagDirective? xs = some (d, rest)) : rest.length ≤ xs.length := by
  simp only [tagDirective?, Option.bind_eq_bind, Option.bind_eq_some_iff] at h
  obtain ⟨⟨handle, after⟩, hhandle, h⟩ := h
  have hafter : after.length ≤ xs.length :=
    Nat.le_trans (length_le_of_handleBehind? hhandle) (by simp)
  have hblanks := (List.dropWhile_suffix (isSpace ·.char) (l := after)).length_le
  split at h
  · cases h
    exact Nat.le_trans (length_textWhile_le isFullTagChar _) (Nat.le_trans hblanks hafter)
  · cases h

theorem length_le_of_directiveOf? {name : String} {xs rest : List Cell} {d : Directive}
    (h : directiveOf? name xs = some (d, rest)) : rest.length ≤ xs.length := by
  unfold directiveOf? at h
  split at h
  · exact length_le_of_versionDirective? h
  · split at h
    · exact length_le_of_tagDirective? h
    · cases h

theorem length_le_of_directive? {xs rest : List Cell} {d : Directive}
    (h : directive? xs = some (d, rest)) : rest.length ≤ xs.length := by
  have hvalue := Nat.le_trans (List.dropWhile_suffix (isSpace ·.char)).length_le
    (length_textWhile_le isNameChar xs)
  simp only [directive?, Option.bind_eq_bind, Option.bind_eq_some_iff] at h
  obtain ⟨⟨d', rest'⟩, hread, rest'', hend, h⟩ := h
  have hread := Nat.le_trans (length_le_of_directiveOf? hread) hvalue
  split at h
  · cases h
    exact Nat.le_trans (length_le_of_endLine? hend) hread
  · cases h

end RouteAtlas.Document.Yaml
