import RouteAtlas.Binding

/-!
# RouteAtlas.Path — route paths and their variables

A path may hold groups in braces.  A group declares the variable that is named before its first
colon, where nothing but a name stands there; after the colon it may hold anything, balanced braces
included.  A class path and a method path are joined with one slash between them.
-/

namespace RouteAtlas

/-- A variable of a path and the type bound to it. -/
structure PathVariable where
  name : String
  typeName : Option String := none
deriving DecidableEq

/-- A path and the variables that it declares. -/
structure PathFragment where
  text : String
  vars : List PathVariable
deriving DecidableEq

namespace Path

/-- What stands before the brace that closes a group, and what follows it.  `depth` counts the
groups open inside the group; nothing when the group is never closed. -/
def closeGroup? : Nat → List Char → Option (List Char × List Char)
  | _, [] => none
  | depth, c :: cs =>
    if c = '{' then (closeGroup? (depth + 1) cs).map fun (inner, rest) => (c :: inner, rest)
    else if c = '}' then
      match depth with
      | 0 => some ([], cs)
      | depth + 1 => (closeGroup? depth cs).map fun (inner, rest) => (c :: inner, rest)
    else (closeGroup? depth cs).map fun (inner, rest) => (c :: inner, rest)

theorem length_lt_of_closeGroup? {depth : Nat} {cs inner rest : List Char}
    (h : closeGroup? depth cs = some (inner, rest)) : rest.length < cs.length := by
  fun_induction closeGroup? depth cs generalizing inner rest with
  | case1 => simp at h
  | case2 depth cs ih =>
    obtain ⟨⟨i, r⟩, hi, heq⟩ := Option.map_eq_some_iff.1 h
    cases heq
    simpa using Nat.lt_succ_of_lt (ih hi)
  | case3 cs => cases h; simp
  | case4 cs depth _ ih =>
    obtain ⟨⟨i, r⟩, hi, heq⟩ := Option.map_eq_some_iff.1 h
    cases heq
    simpa using Nat.lt_succ_of_lt (ih hi)
  | case5 depth c cs _ _ ih =>
    obtain ⟨⟨i, r⟩, hi, heq⟩ := Option.map_eq_some_iff.1 h
    cases heq
    simpa using Nat.lt_succ_of_lt (ih hi)

/-- What stands inside the groups of a path.  A closing brace outside of them means nothing, and
a group that is never closed takes the rest of the path with it. -/
def groups : List Char → List (List Char)
  | [] => []
  | c :: cs =>
    if c = '{' then
      match _h : closeGroup? 0 cs with
      | none => []
      | some (inner, rest) => inner :: groups rest
    else groups cs
termination_by cs => cs.length
decreasing_by
  · exact Nat.lt_succ_of_lt (length_lt_of_closeGroup? ‹_›)
  · simp

/-- A character that no variable's name holds. -/
def isStructural (c : Char) : Bool := c == '{' || c == '}' || c == '/'

/-- The name of the variable that a group declares. -/
def variableName? (group : List Char) : Option String :=
  let head := group.takeWhile (· != ':')
  let name := Text.trim head
  if head.any isStructural || name.isEmpty then none else some (String.ofList name)

/-- The names of the variables of a path, each once, in the order of first appearance. -/
def variableNames (cs : List Char) : List String :=
  ((groups cs).filterMap variableName?).eraseDups

/-- The path without the slashes at its start. -/
def trimSlashesStart (cs : List Char) : List Char := cs.dropWhile (· == '/')

/-- The path without the slashes at its end. -/
def trimSlashesEnd (cs : List Char) : List Char := (cs.reverse.dropWhile (· == '/')).reverse

/-- A path that starts with a slash. -/
def withLeadingSlash (cs : List Char) : List Char :=
  if cs.head? = some '/' then cs else '/' :: cs

/-- A class path and a method path, joined.  Empty paths add nothing. -/
def joinText (cls method : List Char) : List Char :=
  let before := trimSlashesEnd cls
  let after := trimSlashesStart method
  match cls.isEmpty, method.isEmpty with
  | true, true => []
  | true, false => '/' :: after
  | false, true => if before.isEmpty then ['/'] else withLeadingSlash before
  | false, false => (if before.isEmpty then [] else withLeadingSlash before) ++ '/' :: after

/-- The variables with `v` in place of the one of the same name, or after the others. -/
def putVariable (vs : List PathVariable) (v : PathVariable) : List PathVariable :=
  if vs.any (·.name == v.name) then vs.map fun w => if w.name = v.name then v else w
  else vs ++ [v]

/-- Gives a variable the type that is bound to it. -/
def typed (b : Binding) (v : PathVariable) : PathVariable :=
  match b.get? v.name with
  | some typeName => { v with typeName := some typeName }
  | none => v

end Path

namespace PathFragment

/-- The path of a text, with its variables untyped. -/
def ofText (text : String) : PathFragment :=
  ⟨text, (Path.variableNames text.toList).map fun name => { name }⟩

/-- The empty path. -/
def empty : PathFragment := ⟨"", []⟩

/-- Nothing is written in the path. -/
def isEmpty (p : PathFragment) : Bool := p.text.isEmpty

/-- The type of the first variable of a name. -/
def typeOf? (p : PathFragment) (name : String) : Option String :=
  (p.vars.find? (·.name == name)).bind (·.typeName)

/-- Gives every variable the type that is bound to it; the others keep theirs. -/
def withTypes (p : PathFragment) (b : Binding) : PathFragment :=
  { p with vars := p.vars.map (Path.typed b) }

/-- A class path and a method path, joined.  A variable of both is the one of the method. -/
def join (cls method : PathFragment) : PathFragment :=
  ⟨String.ofList (Path.joinText cls.text.toList method.text.toList),
    method.vars.foldl Path.putVariable cls.vars⟩

end PathFragment

end RouteAtlas
