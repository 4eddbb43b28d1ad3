import RouteAtlas.Document.Yaml.Property
import RouteAtlas.Document.Yaml.Scalar

/-!
# RouteAtlas.Document.Yaml.Lexer — tokens of YAML

The lines of a text are cut into scalars and marks.  Lists and objects that are written by
indentation start and end with tokens of their own, so a reader need not know the columns.

Whether a scalar is a name in an object shows only at the colon after it.  Until then it is a
candidate, and nothing from the first candidate on is certain: a fault in the text takes all of it
away.
-/

namespace RouteAtlas.Document.Yaml

/-- A token of YAML. -/
inductive Token where
  /-- `---`. -/
  | documentStart
  /-- `...`. -/
  | documentEnd
  /-- The items of a list follow, each with a mark. -/
  | blockList
  /-- The fields of an object follow, each with a name. -/
  | blockMap
  | blockEnd
  | openList
  | closeList
  | openMap
  | closeMap
  | comma
  /-- The mark of an item. -/
  | item
  /-- A name follows. -/
  | key
  /-- A value follows. -/
  | value
  | scalar (d : Document)
  /-- The value that follows has a name. -/
  | anchor (name : String)
  /-- The value that has a name. -/
  | alias (name : String)
  | tag (t : Tag)
  /-- What the tag says that stands here. -/
  | kind (k : TagKind)
  | directive (d : Directive)
  | endOfText
  | bad

/-- Something that is a name if a colon follows. -/
structure Candidate where
  /-- How many tokens stand before it. -/
  position : Nat
  /-- Nothing but a name may stand there. -/
  required : Bool
  start : Cell

namespace Candidate

/-- A name and its colon stand on one line, not too far from each other. -/
def reaches (c : Candidate) (x : Cell) : Bool :=
  c.start.line == x.line && x.index ≤ c.start.index + 1024

/-- The candidate when `x` is reached: still possible, no longer, or missing its colon. -/
def at? (c : Candidate) (x : Cell) : Option (Option Candidate) :=
  if c.reaches x then some (some c) else if c.required then none else some none

end Candidate

/-- A text that is read up to some place. -/
structure Lexer where
  /-- The least column of what belongs to each open block, the innermost first. -/
  margins : List Nat := []
  /-- A name may start here. -/
  nameAllowed : Bool := true
  candidate : Option Candidate := none
  /-- The candidates outside of the brackets that are open, the innermost first. -/
  outer : List (Option Candidate) := []
  /-- The tokens so far, the last first. -/
  tokens : List Token := []
  count : Nat := 0
  /-- How many of the tokens no later fault takes away. -/
  certain : Nat := 0

namespace Lexer

/-- Brackets are open. -/
def inFlow (s : Lexer) : Bool := !s.outer.isEmpty

/-- The least column of what belongs to the innermost block. -/
def margin (s : Lexer) : Nat := s.margins.headD 0

/-- Adds a token. -/
def push (s : Lexer) (t : Token) : Lexer := { s with tokens := t :: s.tokens, count := s.count + 1 }

/-- Adds a token before those that follow the first `position` ones. -/
def insertAt (s : Lexer) (position : Nat) (t : Token) : Lexer :=
  let later := s.count - position
  { s with tokens := s.tokens.take later ++ t :: s.tokens.drop later, count := s.count + 1 }

/-- Starts a block at a column that is not inside a block yet. -/
def openBlock (s : Lexer) (column position : Nat) (t : Token) : Lexer :=
  if s.inFlow || column < s.margin then s
  else { s.insertAt position t with margins := (column + 1) :: s.margins }

/-- Ends the blocks that need more than `limit`. -/
def closeBlocks (s : Lexer) (limit : Nat) : Lexer :=
  if s.inFlow then s
  else
    let closed := s.margins.takeWhile (limit < ·)
    { s with
      margins := s.margins.drop closed.length
      tokens := List.replicate closed.length .blockEnd ++ s.tokens
      count := s.count + closed.length }

/-- Gives up the candidate; none when a name had to stand there. -/
def dropCandidate? (s : Lexer) : Option Lexer :=
  if s.candidate.any (·.required) then none else some { s with candidate := none }

/-- Makes `x` a candidate where a name may start. -/
def addCandidate? (s : Lexer) (x : Cell) : Option Lexer :=
  if s.nameAllowed then
    s.dropCandidate?.map fun s =>
      { s with candidate := some ⟨s.count, !s.inFlow && s.margin == x.column + 1, x⟩ }
  else some s

/-- Gives up the candidates that are too far from `x`. -/
def dropFar? (s : Lexer) (x : Cell) : Option Lexer := do
  let candidate ← s.candidate.elim (some none) (·.at? x)
  let outer ← s.outer.mapM fun c => c.elim (some none) (·.at? x)
  return { s with candidate, outer }

/-- `---` and `...`. -/
def marker? (s : Lexer) (t : Token) : Option Lexer :=
  ((s.closeBlocks 0).dropCandidate?).map fun s => { s.push t with nameAllowed := false }

/-- An opening bracket. -/
def openBracket? (s : Lexer) (x : Cell) (t : Token) : Option Lexer :=
  (s.addCandidate? x).map fun s =>
    { s.push t with nameAllowed := true, candidate := none, outer := s.candidate :: s.outer }

/-- A closing bracket. -/
def closeBracket? (s : Lexer) (t : Token) : Option Lexer :=
  s.dropCandidate?.map fun s =>
    { s.push t with nameAllowed := false, candidate := s.outer.head?.join, outer := s.outer.tail }

/-- A comma. -/
def comma? (s : Lexer) : Option Lexer :=
  s.dropCandidate?.map fun s => { s.push .comma with nameAllowed := true }

/-- The mark of an item. -/
def item? (s : Lexer) (x : Cell) : Option Lexer :=
  if !s.inFlow && !s.nameAllowed then none
  else
    ((s.openBlock x.column s.count .blockList).dropCandidate?).map fun s =>
      { s.push .item with nameAllowed := true }

/-- The mark of a name. -/
def key? (s : Lexer) (x : Cell) : Option Lexer :=
  if !s.inFlow && !s.nameAllowed then none
  else
    ((s.openBlock x.column s.count .blockMap).dropCandidate?).map fun s =>
      { s.push .key with nameAllowed := !s.inFlow }

/-- The colon before a value: the candidate is a name. -/
def value? (s : Lexer) (x : Cell) : Option Lexer :=
  match s.candidate with
  | some c =>
    let s := (s.insertAt c.position .key).openBlock c.start.column c.position .blockMap
    some { s.push .value with candidate := none, nameAllowed := false }
  | none =>
    if !s.inFlow && !s.nameAllowed then none
    else
      let s := s.openBlock x.column s.count .blockMap
      some { s.push .value with nameAllowed := !s.inFlow }

/-- A token that starts with `x`, of what was read behind that. -/
def marked? {α : Type} (s : Lexer) (x : Cell) (token : α → Token)
    (behind : Option (α × List Cell)) : Option (Lexer × List Cell) := do
  let s ← s.addCandidate? x
  let (a, rest) ← behind
  return ({ s.push (token a) with nameAllowed := false }, rest)

/-- A quoted text. -/
def quoted? (s : Lexer) (x : Cell) (text : Option (List Char × List Cell)) :
    Option (Lexer × List Cell) :=
  s.marked? x (fun cs => .scalar (.text (String.ofList cs))) text

/-- A scalar without quotes that starts with `x`. -/
def plain? (s : Lexer) (x : Cell) (rest : List Cell) : Option (Lexer × List Cell) := do
  let s ← s.addCandidate? x
  let (cs, rest, broken) ← plainFrom s.inFlow s.margin .none rest
  let text := String.ofList (x.char :: cs)
  return ({ s.push (.scalar (.plain text)) with nameAllowed := broken }, rest)

/-- A text in lines of its own, behind its mark. -/
def block? (s : Lexer) (folded : Bool) (rest : List Cell) : Option (Lexer × List Cell) := do
  let s ← s.dropCandidate?
  let (cs, rest) ← blockText? folded s.margin rest
  return ({ s.push (.scalar (.text (String.ofList cs))) with nameAllowed := true }, rest)

/-- A directive, behind its mark. -/
def directiveLine? (s : Lexer) (rest : List Cell) : Option (Lexer × List Cell) := do
  let s ← (s.closeBlocks 0).dropCandidate?
  let (d, rest) ← directive? rest
  return ({ s.push (.directive d) with nameAllowed := false }, rest)

/-- The characters with which no scalar starts. -/
def isReserved (c : Char) : Bool := isSpace c || "|>%@\x60".toList.contains c

/-- The token that starts with `x`, and what follows it. -/
def token? (s : Lexer) (x : Cell) (rest : List Cell) : Option (Lexer × List Cell) :=
  if x.column == 0 && x.char == '%' then s.directiveLine? rest
  else if isMarker '-' (x :: rest) then (s.marker? .documentStart).map (·, rest.drop 2)
  else if isMarker '.' (x :: rest) then (s.marker? .documentEnd).map (·, rest.drop 2)
  else
    match x.char with
    | '[' => (s.openBracket? x .openList).map (·, rest)
    | ']' => (s.closeBracket? .closeList).map (·, rest)
    | '{' => (s.openBracket? x .openMap).map (·, rest)
    | '}' => (s.closeBracket? .closeMap).map (·, rest)
    | ',' => s.comma?.map (·, rest)
    | '*' => s.marked? x .alias (name? rest)
    | '&' => s.marked? x .anchor (name? rest)
    | '!' => s.marked? x .tag (tag? s.inFlow rest)
    | '\'' => s.quoted? x (singleFrom .none rest)
    | '"' => s.quoted? x (doubleFrom .none rest)
    | '-' => if endsWord rest then (s.item? x).map (·, rest) else s.plain? x rest
    | '?' => if s.inFlow || endsWord rest then (s.key? x).map (·, rest) else s.plain? x rest
    | ':' => if s.inFlow || endsWord rest then (s.value? x).map (·, rest) else s.plain? x rest
    | c =>
      if (c == '|' || c == '>') && !s.inFlow then s.block? (c == '>') rest
      else if isReserved c then none
      else s.plain? x rest

/-- The next token at `x`, after the ends of the blocks that do not reach `x`. -/
def next? (s : Lexer) (x : Cell) (rest : List Cell) : Option (Lexer × List Cell) := do
  let s ← s.dropFar? x
  (s.closeBlocks (x.column + 1)).token? x rest

/-- A candidate is still possible where `rest` starts, or a name is missing. -/
def isOpen (c : Candidate) (rest : List Cell) : Bool := c.required || rest.head?.all c.reaches

/-- The lexer after a token, with the tokens before the first candidate certain. -/
def settled (s : Lexer) (rest : List Cell) : Lexer :=
  let candidates := (s.candidate :: s.outer).filterMap fun c => c.filter (isOpen · rest)
  { s with certain := candidates.foldl (fun n c => min n c.position) s.count }

/-- The tokens of a text with a fault in it. -/
def broken (s : Lexer) : List Token :=
  (.bad :: s.tokens.drop (s.count - s.certain)).reverse

/-- The tokens of a text that ends. -/
def finished (s : Lexer) : List Token :=
  if (s.candidate :: s.outer).any (·.any (·.required)) then s.broken
  else ((s.closeBlocks 0).push .endOfText).tokens.reverse

/-- The blanks that may stand before a token; in a block none but spaces stand before a name. -/
def isGap (s : Lexer) (c : Char) : Bool := c == ' ' || (c == '\t' && (s.inFlow || !s.nameAllowed))

/-! ### Every token takes up a character -/

theorem length_le_of_marked? {α : Type} {s s' : Lexer} {x : Cell} {token : α → Token}
    {behind : Option (α × List Cell)} {xs rest : List Cell}
    (hbehind : ∀ a r, behind = some (a, r) → r.length ≤ xs.length)
    (h : s.marked? x token behind = some (s', rest)) : rest.length ≤ xs.length := by
  simp only [marked?, Option.bind_eq_bind, Option.bind_eq_some_iff] at h
  obtain ⟨s₁, -, ⟨a, r⟩, hr, heq⟩ := h
  cases heq
  exact hbehind a r hr

theorem length_le_of_plain? {s s' : Lexer} {x : Cell} {xs rest : List Cell}
    (h : s.plain? x xs = some (s', rest)) : rest.length ≤ xs.length := by
  simp only [plain?, Option.bind_eq_bind, Option.bind_eq_some_iff] at h
  obtain ⟨s₁, -, ⟨cs, r, broken⟩, hr, heq⟩ := h
  cases heq
  exact length_le_of_plainFrom hr

theorem length_le_of_block? {s s' : Lexer} {folded : Bool} {xs rest : List Cell}
    (h : s.block? folded xs = some (s', rest)) : rest.length ≤ xs.length := by
  simp only [block?, Option.bind_eq_bind, Option.bind_eq_some_iff] at h
  obtain ⟨s₁, -, ⟨cs, r⟩, hr, heq⟩ := h
  cases heq
  exact length_le_of_blockText? hr

theorem length_le_of_directiveLine? {s s' : Lexer} {xs rest : List Cell}
    (h : s.directiveLine? xs = some (s', rest)) : rest.length ≤ xs.length := by
  simp only [directiveLine?, Option.bind_eq_bind, Option.bind_eq_some_iff] at h
  obtain ⟨s₁, -, ⟨d, r⟩, hr, heq⟩ := h
  cases heq
  exact length_le_of_directive? hr

theorem length_le_of_map {s' : Lexer} {o : Option Lexer} {xs ys rest : List Cell}
    (hle : ys.length ≤ xs.length) (h : o.map (·, ys) = some (s', rest)) :
    rest.length ≤ xs.length := by
  obtain ⟨s₁, -, heq⟩ := Option.map_eq_some_iff.1 h
  cases heq
  exact hle

theorem length_le_of_token? {s s' : Lexer} {x : Cell} {xs rest : List Cell}
    (h : s.token? x xs = some (s', rest)) : rest.length ≤ xs.length := by
  unfold token? at h
  split at h
  · exact length_le_of_directiveLine? h
  split at h
  · exact length_le_of_map (by simp) h
  split at h
  · exact length_le_of_map (by simp) h
  split at h
  iterate 5
    · exact length_le_of_map (Nat.le_refl _) h
  iterate 2
    · exact length_le_of_marked? (fun _ _ => length_le_of_name?) h
  · exact length_le_of_marked? (fun _ _ => length_le_of_tag?) h
  · exact length_le_of_marked? (fun _ _ => length_le_of_singleFrom) h
  · exact length_le_of_marked? (fun _ _ => length_le_of_doubleFrom) h
  iterate 3
    · split at h
      · exact length_le_of_map (Nat.le_refl _) h
      · exact length_le_of_plain? h
  · split at h
    · exact length_le_of_block? h
    · split at h
      · cases h
      · exact length_le_of_plain? h

theorem length_le_of_next? {s s' : Lexer} {x : Cell} {xs rest : List Cell}
    (h : s.next? x xs = some (s', rest)) : rest.length ≤ xs.length := by
  simp only [next?, Option.bind_eq_bind, Option.bind_eq_some_iff] at h
  obtain ⟨s₁, -, h⟩ := h
  exact length_le_of_token? h

/-- The tokens of the whole text, of which `s` has read all but `xs`. -/
def run (s : Lexer) (xs : List Cell) : List Token :=
  match xs with
  | [] => s.finished
  | x :: rest =>
    if s.isGap x.char then s.run rest
    else if x.char == '#' then s.run (rest.dropWhile (!isBreak ·.char))
    else if isBreak x.char then { s with nameAllowed := s.nameAllowed || !s.inFlow }.run rest
    else
      match _h : s.next? x rest with
      | none => s.broken
      | some (s', rest') => (s'.settled rest').run rest'
termination_by xs.length
decreasing_by
  · simp
  · have := (List.dropWhile_suffix (!isBreak ·.char) (l := rest)).length_le
    simp only [List.length_cons]
    omega
  · simp
  · exact Nat.lt_succ_of_le (length_le_of_next? ‹_›)

end Lexer

/-- The tokens of a text. -/
def tokens (cs : List Char) : List Token := ({} : Lexer).run (cells cs)

end RouteAtlas.Document.Yaml
