import RouteAtlas.Decimal.Numeral
import RouteAtlas.Document.Basic

/-!
# RouteAtlas.Document.Json.Lexer — tokens of JSON

A text is cut into brackets, separators and scalars.  The tokens end with `bad` where the text
holds none.
-/

namespace RouteAtlas.Document.Json

/-- A token of JSON. -/
inductive Token where
  | openList
  | closeList
  | openMap
  | closeMap
  | comma
  | colon
  /-- A quoted text; none when its escapes make up half a character. -/
  | text (s : Option String)
  | scalar (d : Document)
  | bad

/-- The characters between tokens. -/
def isSpace (c : Char) : Bool := c == ' ' || c == '\t' || c == '\n' || c == '\r'

/-- A character, or a UTF-16 unit given by its number. -/
inductive Unit16 where
  | char (c : Char)
  | unit (n : Nat)

/-- A character that is written after a backslash. -/
def escape? : Char → Option Char
  | '"' => some '"'
  | '\\' => some '\\'
  | '/' => some '/'
  | 'b' => some '\x08'
  | 'f' => some '\x0c'
  | 'n' => some '\n'
  | 'r' => some '\r'
  | 't' => some '\t'
  | _ => none

/-- A hexadecimal digit. -/
def isHex (c : Char) : Bool :=
  c.isDigit || ('a' ≤ c && c ≤ 'f') || ('A' ≤ c && c ≤ 'F')

/-- The units of a quoted text up to its closing quote, and what follows. -/
def quotedUnits : List Char → Option (List Unit16 × List Char)
  | [] => none
  | '"' :: cs => some ([], cs)
  | '\\' :: 'u' :: a :: b :: c :: d :: cs =>
    if [a, b, c, d].all isHex then
      (quotedUnits cs).map fun (us, rest) =>
        (.unit (Decimal.natOfDigits 16 [a, b, c, d]) :: us, rest)
    else none
  | '\\' :: e :: cs =>
    match escape? e with
    | some c => (quotedUnits cs).map fun (us, rest) => (.char c :: us, rest)
    | none => none
  | c :: cs =>
    if c < ' ' || c = '\\' then none
    else (quotedUnits cs).map fun (us, rest) => (.char c :: us, rest)

/-- The first half of a character beyond the first 65536. -/
def isHigh (n : Nat) : Bool := 0xD800 ≤ n && n < 0xDC00

/-- The second half of a character beyond the first 65536. -/
def isLow (n : Nat) : Bool := 0xDC00 ≤ n && n < 0xE000

/-- The characters of units; none when half a character is left over. -/
def charsOfUnits : List Unit16 → Option (List Char)
  | [] => some []
  | .char c :: us => (charsOfUnits us).map (c :: ·)
  | .unit h :: .unit l :: us =>
    if isHigh h then
      if isLow l then
        (charsOfUnits us).map (Char.ofNat (0x10000 + (h - 0xD800) * 0x400 + (l - 0xDC00)) :: ·)
      else none
    else if isLow h then none
    else (charsOfUnits (.unit l :: us)).map (Char.ofNat h :: ·)
  | .unit n :: us => if isHigh n || isLow n then none else (charsOfUnits us).map (Char.ofNat n :: ·)

/-- The digits of a whole number: no zero stands before other digits. -/
def wholeDigits? (cs : List Char) : Option (List Char × List Char) :=
  match Decimal.takeDigits cs with
  | ([], _) => none
  | ('0' :: _ :: _, _) => none
  | (ds, rest) => some (ds, rest)

/-- The digits after a point, where there is one. -/
def fractionDigits? (cs : List Char) : Option (List Char × List Char) :=
  match cs with
  | '.' :: cs =>
    match Decimal.takeDigits cs with
    | ([], _) => none
    | (d :: ds, rest) => some (d :: ds, rest)
  | cs => some ([], cs)

/-- A power of ten after its mark, where there is one. -/
def exponentPart? (cs : List Char) : Option (Option Int × List Char) :=
  match cs with
  | c :: rest =>
    if c = 'e' || c = 'E' then (Decimal.exponent? rest).map fun (e, rest) => (some e, rest)
    else some (none, cs)
  | [] => some (none, [])

/-- A number without sign, and what follows. -/
def unsigned? (negative : Bool) (cs : List Char) : Option (Decimal.Numeral × List Char) := do
  let (whole, cs) ← wholeDigits? cs
  let (fraction, cs) ← fractionDigits? cs
  let (exponent, cs) ← exponentPart? cs
  return (⟨negative, whole, fraction, exponent.getD 0, !fraction.isEmpty || exponent.isSome⟩, cs)

/-- A number and what follows. -/
def numeral? : List Char → Option (Decimal.Numeral × List Char)
  | '-' :: cs => unsigned? true cs
  | cs => unsigned? false cs

/-- A number is an integer when it is written as one and fits 64 bits; negative zero and all other
numbers are doubles. -/
def ofNumeral (n : Decimal.Numeral) : Document :=
  let isInteger := !n.isFractional &&
    (if n.negative then n.natural != 0 && Int64.minValue.toInt ≤ -(n.natural : Int)
      else n.natural < UInt64.size)
  if isInteger then .integer (if n.negative then -(n.natural : Int) else n.natural)
  else
    match n.byWord? with
    | some x => .float x
    | none => .unreadable

/-- The words that are values. -/
def words : List (List Char × Document) :=
  [("true".toList, .bool true), ("false".toList, .bool false), ("null".toList, .null)]

/-- A word that is a value, and what follows. -/
def word? (cs : List Char) : Option (Document × List Char) :=
  (words.find? fun w => w.1.isPrefixOf cs).map fun w => (w.2, cs.drop w.1.length)

/-- The first token of a text, and what follows. -/
def token? : List Char → Option (Token × List Char)
  | [] => none
  | '[' :: cs => some (.openList, cs)
  | ']' :: cs => some (.closeList, cs)
  | '{' :: cs => some (.openMap, cs)
  | '}' :: cs => some (.closeMap, cs)
  | ',' :: cs => some (.comma, cs)
  | ':' :: cs => some (.colon, cs)
  | '"' :: cs =>
    (quotedUnits cs).map fun (us, rest) => (.text ((charsOfUnits us).map String.ofList), rest)
  | c :: cs =>
    if c = '-' || c.isDigit then
      (numeral? (c :: cs)).map fun (n, rest) => (.scalar (ofNumeral n), rest)
    else (word? (c :: cs)).map fun (d, rest) => (.scalar d, rest)

/-! ### Every token takes up a character -/

theorem length_lt_of_quotedUnits {cs rest : List Char} {us : List Unit16}
    (h : quotedUnits cs = some (us, rest)) : rest.length < cs.length := by
  fun_induction quotedUnits cs generalizing us rest with
  | case1 => simp at h
  | case2 cs => cases h; simp
  | case3 a b c d cs _ ih =>
    obtain ⟨⟨us, r⟩, hr, heq⟩ := Option.map_eq_some_iff.1 h
    cases heq
    have := ih hr
    simp only [List.length_cons]
    omega
  | case4 => simp at h
  | case5 e cs _ c _ ih =>
    obtain ⟨⟨us, r⟩, hr, heq⟩ := Option.map_eq_some_iff.1 h
    cases heq
    have := ih hr
    simp only [List.length_cons]
    omega
  | case6 => simp at h
  | case7 => simp at h
  | case8 c cs _ _ _ _ ih =>
    obtain ⟨⟨us, r⟩, hr, heq⟩ := Option.map_eq_some_iff.1 h
    cases heq
    simpa using Nat.lt_succ_of_lt (ih hr)

theorem length_lt_of_wholeDigits? {cs ds rest : List Char}
    (h : wholeDigits? cs = some (ds, rest)) : rest.length < cs.length := by
  unfold wholeDigits? at h
  split at h
  · simp at h
  · simp at h
  · rename_i ds' r hne _ heq
    cases h
    exact Decimal.length_lt_of_takeDigits heq hne

theorem length_le_of_fractionDigits? {cs ds rest : List Char}
    (h : fractionDigits? cs = some (ds, rest)) : rest.length ≤ cs.length := by
  unfold fractionDigits? at h
  split at h
  · split at h
    · simp at h
    · rename_i heq
      cases h
      exact Nat.le_succ_of_le (Nat.le_of_lt (Decimal.length_lt_of_takeDigits heq (by simp)))
  · cases h; exact Nat.le_refl _

theorem length_le_of_exponentPart? {cs rest : List Char} {e : Option Int}
    (h : exponentPart? cs = some (e, rest)) : rest.length ≤ cs.length := by
  unfold exponentPart? at h
  split at h
  · split at h
    · obtain ⟨⟨n, r⟩, hr, heq⟩ := Option.map_eq_some_iff.1 h
      cases heq
      have := Decimal.length_lt_of_exponent? hr
      simp only [List.length_cons]
      omega
    · cases h; exact Nat.le_refl _
  · cases h; exact Nat.le_refl _

theorem length_lt_of_unsigned? {negative : Bool} {cs rest : List Char} {n : Decimal.Numeral}
    (h : unsigned? negative cs = some (n, rest)) : rest.length < cs.length := by
  simp only [unsigned?, Option.bind_eq_bind, Option.bind_eq_some_iff] at h
  obtain ⟨⟨whole, cs₁⟩, h₁, ⟨fraction, cs₂⟩, h₂, ⟨exponent, cs₃⟩, h₃, heq⟩ := h
  cases heq
  exact Nat.lt_of_le_of_lt (length_le_of_exponentPart? h₃)
    (Nat.lt_of_le_of_lt (length_le_of_fractionDigits? h₂) (length_lt_of_wholeDigits? h₁))

theorem length_lt_of_numeral? {cs rest : List Char} {n : Decimal.Numeral}
    (h : numeral? cs = some (n, rest)) : rest.length < cs.length := by
  unfold numeral? at h
  split at h
  · exact Nat.lt_succ_of_lt (length_lt_of_unsigned? h)
  · exact length_lt_of_unsigned? h

theorem length_lt_of_word? {cs rest : List Char} {d : Document}
    (h : word? cs = some (d, rest)) : rest.length < cs.length := by
  obtain ⟨w, hw, heq⟩ := Option.map_eq_some_iff.1 h
  cases heq
  have hpos : 0 < w.1.length :=
    (by decide : ∀ w ∈ words.map (·.1.length), 0 < w) _
      (List.mem_map_of_mem (List.mem_of_find?_eq_some hw))
  have hprefix : List.isPrefixOf w.1 cs := by simpa using List.find?_some hw
  have hle := (List.isPrefixOf_iff_prefix.1 hprefix).length_le
  rw [List.length_drop]
  omega

theorem length_lt_of_token? {cs rest : List Char} {t : Token}
    (h : token? cs = some (t, rest)) : rest.length < cs.length := by
  unfold token? at h
  split at h
  · simp at h
  iterate 6
    · cases h
      simp only [List.length_cons]
      omega
  · obtain ⟨⟨us, r⟩, hr, heq⟩ := Option.map_eq_some_iff.1 h
    cases heq
    exact Nat.lt_succ_of_lt (length_lt_of_quotedUnits hr)
  · split at h
    · obtain ⟨⟨n, r⟩, hr, heq⟩ := Option.map_eq_some_iff.1 h
      cases heq
      exact length_lt_of_numeral? hr
    · obtain ⟨⟨d, r⟩, hr, heq⟩ := Option.map_eq_some_iff.1 h
      cases heq
      exact length_lt_of_word? hr

/-- The tokens of a text. -/
def tokens (cs : List Char) : List Token :=
  match cs with
  | [] => []
  | c :: cs =>
    if isSpace c then tokens cs
    else
      match _h : token? (c :: cs) with
      | none => [.bad]
      | some (t, rest) => t :: tokens rest
termination_by cs.length
decreasing_by
  · simp
  · exact length_lt_of_token? ‹_›

end RouteAtlas.Document.Json
