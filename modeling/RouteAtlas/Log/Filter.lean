import RouteAtlas.Decimal.Numeral
import RouteAtlas.Log.Event
import RouteAtlas.Text.Blank
import RouteAtlas.Text.Segments

/-!
# RouteAtlas.Log.Filter — which events are logged

A filter is a list of directives.  Each one sets the least important level that is logged for the
targets that start with its own; of several that apply to a target, the longest decides.  An event
to which none applies is not logged.
-/

namespace RouteAtlas.Log

/-- The least important level that is logged for some targets. -/
structure Directive where
  /-- Empty for all targets. -/
  target : String
  /-- Nothing is logged where there is none. -/
  level : Option Level
deriving DecidableEq

/-- A limit in writing: the word or the number of a level, or none at all. -/
def limit? (s : String) : Option (Option Level) :=
  match Level.ofWord? s with
  | some l => some (some l)
  | none =>
    if s.toList.map Char.toLower == "off".toList then some none
    else
      let digits :=
        match s.toList with
        | '+' :: ds => ds
        | ds => ds
      if digits.isEmpty || !digits.all Char.isDigit then none
      else
        match Decimal.natOfDigits 10 digits with
        | 0 => some none
        | n => (Level.all[n - 1]?).map some

namespace Directive

/-- A character that a directive may start with. -/
def isStart (c : Char) : Bool :=
  c.isAlphanum || c == '-' || c == ':' || c == '_' || 0x80 ≤ c.toNat

/-- Reads a directive: a limit for all targets, or a target with its limit after an equals sign.  A
target alone has no limit. -/
def parse? (s : String) : Option Directive :=
  let cs := s.toList
  if !cs.head?.any isStart || cs.contains '[' then none
  else
    match cs.span (· != '=') with
    | (_, []) =>
      match limit? s with
      | some level => some ⟨"", level⟩
      | none => some ⟨s, some .trace⟩
    | (target, [_]) => some ⟨String.ofList target, some .trace⟩
    | (target, _ :: level) => (limit? (String.ofList level)).map (⟨String.ofList target, ·⟩)

/-- The directive applies to a target. -/
def applies (d : Directive) (target : String) : Bool := d.target.toList.isPrefixOf target.toList

/-- The directive lets a level through. -/
def admits (d : Directive) (level : Level) : Bool := d.level.any fun l => level.rank ≤ l.rank

end Directive

/-- Directives, no two of them for the same target. -/
structure Filter where
  directives : List Directive

namespace Filter

/-- The filter with one more directive, in place of the one of the same target. -/
def add (f : Filter) (d : Directive) : Filter :=
  ⟨d :: f.directives.filter (·.target != d.target)⟩

/-- The filter of one limit for all targets. -/
def ofLevel (level : Level) : Filter := ⟨[⟨"", some level⟩]⟩

/-- Reads directives with commas between them; where there is none, only errors are logged. -/
def parse? (s : String) : Option Filter := do
  let words := (Text.segments (· == ',') s.toList).filter (!·.isEmpty)
  let directives ← words.mapM fun w => Directive.parse? (String.ofList w)
  return if directives.isEmpty then ofLevel .error else directives.foldl add ⟨[]⟩

/-- The directive that decides about a target. -/
def deciding? (f : Filter) (target : String) : Option Directive :=
  (f.directives.filter (·.applies target)).foldl
    (fun best d =>
      match best with
      | some b => if b.target.length < d.target.length then some d else some b
      | none => some d)
    none

/-- The event is logged. -/
def enables (f : Filter) (e : Event) : Bool := (f.deciding? e.area.target).any (·.admits e.level)

end Filter

end RouteAtlas.Log
