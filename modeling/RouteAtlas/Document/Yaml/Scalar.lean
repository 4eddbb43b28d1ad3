import RouteAtlas.Decimal.Numeral
import RouteAtlas.Document.Json.Lexer
import RouteAtlas.Document.Yaml.Cell

/-!
# RouteAtlas.Document.Yaml.Scalar — scalars of YAML

A scalar may go over several lines.  The gaps in it are kept while it may still go on, and count
only when more of it follows.
-/

namespace RouteAtlas.Document.Yaml

/-- The characters that structure lists and objects on one line. -/
def isFlowMark (c : Char) : Bool := c == ',' || c == '[' || c == ']' || c == '{' || c == '}'

/-- An unquoted scalar: its text, what follows, and whether it ends at the end of a line; none
where it is not well-formed.  `indent` is the least column of its further lines. -/
def plainFrom (inFlow : Bool) (indent : Nat) (gap : Gap) :
    List Cell → Option (List Char × List Cell × Bool)
  | [] => some ([], [], gap.isBroken)
  | x :: rest =>
    if isSpace x.char then
      if gap.isBroken && x.char == '\t' && x.column < indent then none
      else plainFrom inFlow indent (gap.addSpace x.char) rest
    else if isBreak x.char then plainFrom inFlow indent (gap.addBreak x.char) rest
    else
      let outside := gap.isBroken && !inFlow && x.column < indent
      let comment := gap.isSome && x.char == '#'
      let value := x.char == ':' && endsWord rest
      if outside || comment || value || isDocumentMarker (x :: rest) ||
          (inFlow && isFlowMark x.char) then
        some ([], x :: rest, gap.isBroken)
      else if inFlow && x.char == ':' &&
          rest.head?.any (fun y => isFlowMark y.char || y.char == '?') then
        none
      else
        (plainFrom inFlow indent .none rest).map fun (cs, rest, broken) =>
          (gap.text ++ x.char :: cs, rest, broken)

/-- A text in single quotes up to its closing quote, and what follows. -/
def singleFrom (gap : Gap) : List Cell → Option (List Char × List Cell)
  | [] => none
  | x :: rest =>
    if isSpace x.char then singleFrom (gap.addSpace x.char) rest
    else if isBreak x.char then singleFrom (gap.addBreak x.char) rest
    else if isDocumentMarker (x :: rest) then none
    else if x.char == '\'' then
      match rest with
      | y :: rest' =>
        if y.char == '\'' then
          (singleFrom .none rest').map fun (cs, rest) => (gap.text ++ '\'' :: cs, rest)
        else some (gap.text, rest)
      | [] => some (gap.text, [])
    else (singleFrom .none rest).map fun (cs, rest) => (gap.text ++ x.char :: cs, rest)

/-- A character that is written after a backslash. -/
def escape? : Char → Option Char
  | '0' => some '\x00'
  | 'a' => some '\x07'
  | 'b' => some '\x08'
  | 't' => some '\t'
  | '\t' => some '\t'
  | 'n' => some '\n'
  | 'v' => some '\x0b'
  | 'f' => some '\x0c'
  | 'r' => some '\r'
  | 'e' => some '\x1b'
  | ' ' => some ' '
  | '"' => some '"'
  | '/' => some '/'
  | '\\' => some '\\'
  | 'N' => some '\u0085'
  | '_' => some '\u00a0'
  | 'L' => some '\u2028'
  | 'P' => some '\u2029'
  | _ => none

/-- How many digits follow a mark for a code point in hexadecimal. -/
def hexWidth? : Char → Option Nat
  | 'x' => some 2
  | 'u' => some 4
  | 'U' => some 8
  | _ => none

/-- The character of a code point in hexadecimal, with as many digits as `width`. -/
def charOfHex? (width : Nat) (cs : List Char) : Option Char :=
  let n := Decimal.natOfDigits 16 cs
  let isCharacter := n < 0x110000 && !(0xD800 ≤ n && n < 0xE000)
  if cs.length == width && cs.all Json.isHex && isCharacter then some (Char.ofNat n) else none

/-- The character that is written after a backslash, and what follows it. -/
def escapeAt? : List Cell → Option (Char × List Cell)
  | [] => none
  | e :: rest =>
    match escape? e.char with
    | some c => some (c, rest)
    | none => do
      let width ← hexWidth? e.char
      let c ← charOfHex? width ((rest.take width).map (·.char))
      return (c, rest.drop width)

theorem length_lt_of_escapeAt? {xs rest : List Cell} {c : Char}
    (h : escapeAt? xs = some (c, rest)) : rest.length < xs.length := by
  unfold escapeAt? at h
  split at h
  · simp at h
  split at h
  · cases h; simp
  · simp only [Option.bind_eq_bind, Option.bind_eq_some_iff] at h
    obtain ⟨width, -, c', -, heq⟩ := h
    cases heq
    simp only [List.length_drop, List.length_cons]
    omega

/-- A text in double quotes up to its closing quote, and what follows. -/
def doubleFrom (gap : Gap) (xs : List Cell) : Option (List Char × List Cell) :=
  match xs with
  | [] => none
  | x :: rest =>
    if isSpace x.char then doubleFrom (gap.addSpace x.char) rest
    else if isBreak x.char then doubleFrom (gap.addBreak x.char) rest
    else if isDocumentMarker (x :: rest) then none
    else if x.char == '"' then some (gap.text, rest)
    else if x.char == '\\' then
      if rest.head?.any (isBreak ·.char) then
        (doubleFrom (.escaped []) rest.tail).map fun (cs, rest) => (gap.text ++ cs, rest)
      else
        match _h : escapeAt? rest with
        | none => none
        | some (c, rest) =>
          (doubleFrom .none rest).map fun (cs, rest) => (gap.text ++ c :: cs, rest)
    else (doubleFrom .none rest).map fun (cs, rest) => (gap.text ++ x.char :: cs, rest)
termination_by xs.length
decreasing_by
  · simp
  · simp
  · simp only [List.length_tail, List.length_cons]; omega
  · exact Nat.lt_succ_of_lt (length_lt_of_escapeAt? ‹_›)
  · simp

/-! ### What follows a scalar is no longer than the text -/

theorem length_le_of_plainFrom {inFlow : Bool} {indent : Nat} {gap : Gap} {xs rest : List Cell}
    {cs : List Char} {broken : Bool}
    (h : plainFrom inFlow indent gap xs = some (cs, rest, broken)) : rest.length ≤ xs.length := by
  fun_induction plainFrom inFlow indent gap xs generalizing cs rest broken with
  | case1 => cases h; simp
  | case2 => simp at h
  | case3 gap x xs _ _ ih => exact Nat.le_succ_of_le (ih h)
  | case4 gap x xs _ _ ih => exact Nat.le_succ_of_le (ih h)
  | case5 => cases h; exact Nat.le_refl _
  | case6 => simp at h
  | case7 =>
    rename_i ih
    obtain ⟨⟨t, r, b⟩, hr, heq⟩ := Option.map_eq_some_iff.1 h
    cases heq
    exact Nat.le_succ_of_le (ih hr)

theorem length_le_of_singleFrom {gap : Gap} {xs rest : List Cell} {cs : List Char}
    (h : singleFrom gap xs = some (cs, rest)) : rest.length ≤ xs.length := by
  fun_induction singleFrom gap xs generalizing cs rest with
  | case1 | case4 => simp at h
  | case2 _ _ _ _ ih | case3 _ _ _ _ _ ih => exact Nat.le_succ_of_le (ih h)
  | case5 | case8 =>
    rename_i ih
    obtain ⟨⟨t, r⟩, hr, heq⟩ := Option.map_eq_some_iff.1 h
    cases heq
    have := ih hr
    simp only [List.length_cons]
    omega
  | case6 | case7 => cases h; simp

theorem length_le_of_doubleFrom {gap : Gap} {xs rest : List Cell} {cs : List Char}
    (h : doubleFrom gap xs = some (cs, rest)) : rest.length ≤ xs.length := by
  fun_induction doubleFrom gap xs generalizing cs rest with
  | case1 => simp at h
  | case2 _ _ _ _ ih | case3 _ _ _ _ _ ih => exact Nat.le_succ_of_le (ih h)
  | case4 | case7 => simp at h
  | case5 => cases h; simp
  | case6 | case9 =>
    rename_i ih
    obtain ⟨⟨t, r⟩, hr, heq⟩ := Option.map_eq_some_iff.1 h
    cases heq
    have := ih hr
    simp only [List.length_tail, List.length_cons] at *
    omega
  | case8 =>
    rename_i hescape ih
    obtain ⟨⟨t, r⟩, hr, heq⟩ := Option.map_eq_some_iff.1 h
    cases heq
    have := ih hr
    have := length_lt_of_escapeAt? hescape
    simp only [List.length_cons]
    omega

end RouteAtlas.Document.Yaml
