import RouteAtlas.Decimal.Numeral
import RouteAtlas.Document.Basic
import RouteAtlas.Document.Json.Lexer
import RouteAtlas.Text.Segments

/-!
# RouteAtlas.Document.Toml.Lexer — tokens of TOML

A text is cut into marks, quoted texts, words and line ends.  Whether a word is a name or a value
depends on its place, so a word is kept as it is written.
-/

namespace RouteAtlas.Document.Toml

/-- A token of TOML. -/
inductive Token where
  | openList
  | closeList
  | openMap
  | closeMap
  | comma
  | equals
  | text (s : String)
  /-- A text that may go over several lines, which is no name. -/
  | block (s : String)
  | word (cs : List Char)
  | lineEnd
  | bad

/-- The characters of names without quotes. -/
def isNameChar (c : Char) : Bool := c.isAlphanum || c == '-' || c == '_'

/-- The characters of names, numbers and dates. -/
def isWordChar (c : Char) : Bool := isNameChar c || c == '+' || c == '.' || c == ':'

/-- The characters that stand in no text and no comment. -/
def isControl (c : Char) : Bool := (c < ' ' && c != '\t') || c == '\x7f'

/-- The character of a code point in hexadecimal. -/
def charOfHex? (cs : List Char) : Option Char :=
  let n := Decimal.natOfDigits 16 cs
  if cs.all Json.isHex && n < 0x110000 && !(0xD800 ≤ n && n < 0xE000) then some (Char.ofNat n)
  else none

/-- A character that is written after a backslash. -/
def escape? : Char → Option Char
  | 'b' => some '\x08'
  | 't' => some '\t'
  | 'n' => some '\n'
  | 'f' => some '\x0c'
  | 'r' => some '\r'
  | 'e' => some '\x1b'
  | '"' => some '"'
  | '\\' => some '\\'
  | _ => none

/-- The character that is written behind a backslash, and what follows. -/
def escapeAt? : List Char → Option (Char × List Char)
  | 'x' :: a :: b :: cs => (charOfHex? [a, b]).map (·, cs)
  | 'u' :: a :: b :: c :: d :: cs => (charOfHex? [a, b, c, d]).map (·, cs)
  | 'U' :: a :: b :: c :: d :: e :: f :: g :: h :: cs =>
    (charOfHex? [a, b, c, d, e, f, g, h]).map (·, cs)
  | e :: cs => (escape? e).map (·, cs)
  | [] => none

theorem length_lt_of_escapeAt? {cs rest : List Char} {c : Char}
    (h : escapeAt? cs = some (c, rest)) : rest.length < cs.length := by
  unfold escapeAt? at h
  split at h
  iterate 4
    · obtain ⟨e, -, heq⟩ := Option.map_eq_some_iff.1 h
      cases heq
      simp only [List.length_cons]
      omega
  · cases h

/-- A text in double quotes up to its closing quote, and what follows. -/
def basicFrom (cs : List Char) : Option (List Char × List Char) :=
  match cs with
  | [] => none
  | c :: cs =>
    if c = '"' then some ([], cs)
    else if c = '\\' then
      match _h : escapeAt? cs with
      | none => none
      | some (e, rest) => (basicFrom rest).map fun (s, rest) => (e :: s, rest)
    else if isControl c then none
    else (basicFrom cs).map fun (s, rest) => (c :: s, rest)
termination_by cs.length
decreasing_by
  · exact Nat.lt_succ_of_lt (length_lt_of_escapeAt? ‹_›)
  · simp

/-- A text in single quotes up to its closing quote, and what follows. -/
def literalFrom : List Char → Option (List Char × List Char)
  | [] => none
  | c :: cs =>
    if c = '\'' then some ([], cs)
    else if isControl c then none
    else (literalFrom cs).map fun (s, rest) => (c :: s, rest)

/-! ### Texts over several lines -/

/-- Three quotes that end a text, with up to two more before them that belong to it, and what
follows. -/
def closingQuotes? (quote : Char) : List Char → Option (List Char × List Char)
  | a :: b :: c :: cs =>
    if a == quote && b == quote && c == quote then
      let more := (cs.take 2).takeWhile (· == quote)
      some (more, cs.drop more.length)
    else none
  | _ => none

theorem length_lt_of_closingQuotes? {quote : Char} {cs more rest : List Char}
    (h : closingQuotes? quote cs = some (more, rest)) : rest.length < cs.length := by
  unfold closingQuotes? at h
  split at h
  · split at h
    · cases h
      simp only [List.length_drop, List.length_cons]
      omega
    · cases h
  · cases h

/-- The characters between the words of a line. -/
def isBlank (c : Char) : Bool := c == ' ' || c == '\t'

/-- A backslash at the end of a line takes away all blanks and line ends up to the next character;
none where it does not stand there. -/
def joinLine? (cs : List Char) : Option (List Char) :=
  match cs.dropWhile isBlank with
  | '\n' :: cs | '\r' :: '\n' :: cs =>
    some (cs.dropWhile fun c => isBlank c || c == '\n' || c == '\r')
  | _ => none

theorem length_lt_of_joinLine? {cs rest : List Char} (h : joinLine? cs = some rest) :
    rest.length < cs.length := by
  have hblanks := (List.dropWhile_suffix isBlank (l := cs)).length_le
  unfold joinLine? at h
  split at h
  iterate 2
    next after heq =>
      cases h
      rw [heq] at hblanks
      refine Nat.lt_of_le_of_lt (List.dropWhile_suffix _).length_le (Nat.lt_of_lt_of_le ?_ hblanks)
      simp only [List.length_cons]
      omega
  · cases h

/-- The character stands in a text over several lines before what follows. -/
def standsInLines (c : Char) (rest : List Char) : Bool :=
  !isControl c || c == '\n' || (c == '\r' && rest.head? == some '\n')

/-- A text in three double quotes up to its closing quotes, and what follows. -/
def basicLinesFrom (cs : List Char) : Option (List Char × List Char) :=
  match cs with
  | [] => none
  | c :: cs =>
    match closingQuotes? '"' (c :: cs) with
    | some closed => some closed
    | none =>
      if c = '\\' then
        match _h : joinLine? cs with
        | some rest => basicLinesFrom rest
        | none =>
          match _h : escapeAt? cs with
          | none => none
          | some (e, rest) => (basicLinesFrom rest).map fun (s, rest) => (e :: s, rest)
      else if standsInLines c cs then (basicLinesFrom cs).map fun (s, rest) => (c :: s, rest)
      else none
termination_by cs.length
decreasing_by
  · exact Nat.lt_succ_of_lt (length_lt_of_joinLine? ‹_›)
  · exact Nat.lt_succ_of_lt (length_lt_of_escapeAt? ‹_›)
  · simp

/-- A text in three single quotes up to its closing quotes, and what follows. -/
def literalLinesFrom : List Char → Option (List Char × List Char)
  | [] => none
  | c :: cs =>
    match closingQuotes? '\'' (c :: cs) with
    | some closed => some closed
    | none =>
      if standsInLines c cs then (literalLinesFrom cs).map fun (s, rest) => (c :: s, rest)
      else none

/-- What follows a line end at the start of a text over several lines. -/
def afterBreak : List Char → List Char
  | '\n' :: cs | '\r' :: '\n' :: cs => cs
  | cs => cs

/-! ### Tokens -/

/-- A comment up to the end of its line, and what follows; none with a character in it that stands
in no comment. -/
def commentRest? : List Char → Option (List Char)
  | [] => some []
  | '\n' :: cs => some ('\n' :: cs)
  | '\r' :: '\n' :: cs => some ('\n' :: cs)
  | c :: cs => if isControl c then none else commentRest? cs

/-- The first token of a text, and what follows; none where the text holds no token. -/
def token? : List Char → Option (Token × List Char)
  | [] => none
  | '\n' :: cs => some (.lineEnd, cs)
  | '\r' :: '\n' :: cs => some (.lineEnd, cs)
  | '[' :: cs => some (.openList, cs)
  | ']' :: cs => some (.closeList, cs)
  | '{' :: cs => some (.openMap, cs)
  | '}' :: cs => some (.closeMap, cs)
  | ',' :: cs => some (.comma, cs)
  | '=' :: cs => some (.equals, cs)
  | '"' :: '"' :: '"' :: cs =>
    (basicLinesFrom (afterBreak cs)).map fun (s, rest) => (.block (String.ofList s), rest)
  | '\'' :: '\'' :: '\'' :: cs =>
    (literalLinesFrom (afterBreak cs)).map fun (s, rest) => (.block (String.ofList s), rest)
  | '"' :: cs => (basicFrom cs).map fun (s, rest) => (.text (String.ofList s), rest)
  | '\'' :: cs => (literalFrom cs).map fun (s, rest) => (.text (String.ofList s), rest)
  | c :: cs =>
    if isWordChar c then some (.word (c :: cs.takeWhile isWordChar), cs.dropWhile isWordChar)
    else none

/-! ### Every token takes up a character -/

theorem length_lt_of_basicFrom {cs text rest : List Char}
    (h : basicFrom cs = some (text, rest)) : rest.length < cs.length := by
  fun_induction basicFrom cs generalizing text rest with
  | case1 | case3 | case5 => cases h
  | case2 => cases h; simp
  | case4 _ _ _ hescape _ ih =>
    obtain ⟨⟨t, r⟩, hr, heq⟩ := Option.map_eq_some_iff.1 h
    cases heq
    exact Nat.lt_succ_of_lt (Nat.lt_trans (ih hr) (length_lt_of_escapeAt? hescape))
  | case6 c cs _ _ _ ih =>
    obtain ⟨⟨t, r⟩, hr, heq⟩ := Option.map_eq_some_iff.1 h
    cases heq
    exact Nat.lt_succ_of_lt (ih hr)

theorem length_lt_of_literalFrom {cs text rest : List Char}
    (h : literalFrom cs = some (text, rest)) : rest.length < cs.length := by
  fun_induction literalFrom cs generalizing text rest with
  | case1 => simp at h
  | case2 => cases h; simp
  | case3 => simp at h
  | case4 c cs _ _ ih =>
    obtain ⟨⟨t, r⟩, hr, heq⟩ := Option.map_eq_some_iff.1 h
    cases heq
    exact Nat.lt_succ_of_lt (ih hr)

theorem length_lt_of_basicLinesFrom {cs text rest : List Char}
    (h : basicLinesFrom cs = some (text, rest)) : rest.length < cs.length := by
  fun_induction basicLinesFrom cs generalizing text rest with
  | case1 | case4 | case7 => cases h
  | case2 c cs closed hclosed =>
    cases h
    exact length_lt_of_closingQuotes? hclosed
  | case3 _ _ hjoin _ ih =>
    exact Nat.lt_succ_of_lt (Nat.lt_trans (ih h) (length_lt_of_joinLine? hjoin))
  | case5 _ _ _ _ hescape _ ih =>
    obtain ⟨⟨t, r⟩, hr, heq⟩ := Option.map_eq_some_iff.1 h
    cases heq
    exact Nat.lt_succ_of_lt (Nat.lt_trans (ih hr) (length_lt_of_escapeAt? hescape))
  | case6 c cs _ _ _ ih =>
    obtain ⟨⟨t, r⟩, hr, heq⟩ := Option.map_eq_some_iff.1 h
    cases heq
    exact Nat.lt_succ_of_lt (ih hr)

theorem length_lt_of_literalLinesFrom {cs text rest : List Char}
    (h : literalLinesFrom cs = some (text, rest)) : rest.length < cs.length := by
  fun_induction literalLinesFrom cs generalizing text rest with
  | case1 | case4 => cases h
  | case2 c cs closed hclosed =>
    cases h
    exact length_lt_of_closingQuotes? hclosed
  | case3 c cs _ _ ih =>
    obtain ⟨⟨t, r⟩, hr, heq⟩ := Option.map_eq_some_iff.1 h
    cases heq
    exact Nat.lt_succ_of_lt (ih hr)

theorem length_afterBreak_le (cs : List Char) : (afterBreak cs).length ≤ cs.length := by
  unfold afterBreak
  split
  · exact Nat.le_succ _
  · exact Nat.le_add_right _ 2
  · exact Nat.le_refl _

theorem length_le_of_commentRest? {cs rest : List Char} (h : commentRest? cs = some rest) :
    rest.length ≤ cs.length := by
  fun_induction commentRest? cs generalizing rest with
  | case1 => cases h; simp
  | case2 => cases h; simp
  | case3 => cases h; simp
  | case4 => simp at h
  | case5 c cs _ _ _ ih => exact Nat.le_succ_of_le (ih h)

theorem length_lt_of_token? {cs rest : List Char} {t : Token}
    (h : token? cs = some (t, rest)) : rest.length < cs.length := by
  unfold token? at h
  split at h
  · simp at h
  iterate 8
    · cases h
      simp only [List.length_cons]
      omega
  · obtain ⟨⟨text, r⟩, hr, heq⟩ := Option.map_eq_some_iff.1 h
    cases heq
    have := Nat.lt_of_lt_of_le (length_lt_of_basicLinesFrom hr) (length_afterBreak_le _)
    simp only [List.length_cons]
    omega
  · obtain ⟨⟨text, r⟩, hr, heq⟩ := Option.map_eq_some_iff.1 h
    cases heq
    have := Nat.lt_of_lt_of_le (length_lt_of_literalLinesFrom hr) (length_afterBreak_le _)
    simp only [List.length_cons]
    omega
  · obtain ⟨⟨text, r⟩, hr, heq⟩ := Option.map_eq_some_iff.1 h
    cases heq
    exact Nat.lt_succ_of_lt (length_lt_of_basicFrom hr)
  · obtain ⟨⟨text, r⟩, hr, heq⟩ := Option.map_eq_some_iff.1 h
    cases heq
    exact Nat.lt_succ_of_lt (length_lt_of_literalFrom hr)
  · split at h
    · cases h
      exact Nat.lt_succ_of_le (List.dropWhile_suffix isWordChar).length_le
    · simp at h

/-- The tokens of a text. -/
def tokens (cs : List Char) : List Token :=
  match cs with
  | [] => []
  | c :: cs =>
    if isBlank c then tokens cs
    else if c = '#' then
      match _h : commentRest? cs with
      | none => [.bad]
      | some rest => tokens rest
    else
      match _h : token? (c :: cs) with
      | none => [.bad]
      | some (t, rest) => t :: tokens rest
termination_by cs.length
decreasing_by
  · simp
  · exact Nat.lt_succ_of_le (length_le_of_commentRest? ‹_›)
  · exact length_lt_of_token? ‹_›

/-- Digits with single underscores between them. -/
def digits? (isDigit : Char → Bool) (cs : List Char) : Option (List Char) :=
  let groups := Text.segments (· == '_') cs
  if groups.all (fun ds => !ds.isEmpty && ds.all isDigit) then some groups.flatten else none

/-- A decimal number without point: no zero stands before other digits. -/
def whole? (cs : List Char) : Option (List Char) :=
  (digits? Char.isDigit cs).filter fun ds =>
    match ds with
    | '0' :: _ :: _ => false
    | _ => true

/-- The number after a sign or none, and whether it is negative. -/
def signed : List Char → Bool × List Char
  | '-' :: cs => (true, cs)
  | '+' :: cs => (false, cs)
  | cs => (false, cs)

/-- An integer in base 2, 8, 10 or 16; only those in base 10 have a sign. -/
def integer? (cs : List Char) : Option Int :=
  match cs with
  | '0' :: 'x' :: ds => (digits? Json.isHex ds).map fun ds => (Decimal.natOfDigits 16 ds : Int)
  | '0' :: 'o' :: ds =>
    (digits? (fun c => '0' ≤ c && c ≤ '7') ds).map fun ds => (Decimal.natOfDigits 8 ds : Int)
  | '0' :: 'b' :: ds =>
    (digits? (fun c => c == '0' || c == '1') ds).map fun ds => (Decimal.natOfDigits 2 ds : Int)
  | cs =>
    let (negative, ds) := signed cs
    (whole? ds).map fun ds =>
      if negative then -(Decimal.natOfDigits 10 ds : Int) else Decimal.natOfDigits 10 ds

/-- A power of ten: a sign or none, and digits. -/
def exponent? (cs : List Char) : Option Int :=
  let (negative, ds) := signed cs
  (digits? Char.isDigit ds).map fun ds =>
    if negative then -(Decimal.natOfDigits 10 ds : Int) else Decimal.natOfDigits 10 ds

/-- A decimal number with a point or a power of ten. -/
def numeral? (cs : List Char) : Option Decimal.Numeral := do
  let (negative, cs) := signed cs
  let (mantissa, power) := cs.span fun c => c != 'e' && c != 'E'
  let (whole, point) := mantissa.span (· != '.')
  let whole ← whole? whole
  let fraction ← if point.isEmpty then some [] else digits? Char.isDigit point.tail
  let exponent ← if power.isEmpty then some 0 else exponent? power.tail
  if point.isEmpty && power.isEmpty then none else some ⟨negative, whole, fraction, exponent, true⟩

/-- A special double. -/
def special? (cs : List Char) : Option Float :=
  match signed cs with
  | (negative, ['i', 'n', 'f']) => some (if negative then -1 / 0 else 1 / 0)
  | (_, ['n', 'a', 'n']) => some (0 / 0)
  | _ => none

/-- The value of a word. -/
def ofWord? (cs : List Char) : Option Document :=
  if cs = "true".toList then some (.bool true)
  else if cs = "false".toList then some (.bool false)
  else
    ((integer? cs).map .integer).or
      (((numeral? cs).map fun n => .float n.nearest).or ((special? cs).map .float))

end RouteAtlas.Document.Toml
