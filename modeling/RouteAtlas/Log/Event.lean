import RouteAtlas.Document.Json.Printer
import RouteAtlas.Document.Sorted
import RouteAtlas.Text.Quoted

/-!
# RouteAtlas.Log.Event — log events and their lines

An event has a level, the area of the work it is about, a message and named values.
-/

namespace RouteAtlas.Log

/-- How much an event matters, the most important first. -/
inductive Level where
  | error
  | warn
  | info
  | debug
  | trace
deriving DecidableEq, Repr

namespace Level

/-- All levels. -/
def all : List Level := [error, warn, info, debug, trace]

/-- The name of a level. -/
def name : Level → String
  | error => "ERROR"
  | warn => "WARN"
  | info => "INFO"
  | debug => "DEBUG"
  | trace => "TRACE"

/-- The place of a level among all of them, from one on. -/
def rank : Level → Nat
  | error => 1
  | warn => 2
  | info => 3
  | debug => 4
  | trace => 5

/-- The level of a word in any case of letters. -/
def ofWord? (s : String) : Option Level :=
  all.find? fun l => l.name.toList == s.toList.map Char.toUpper

end Level

/-- The part of the work that an event is about. -/
inductive Area where
  | loading
  | folding
  | binding
  | assembly
  | scan
deriving DecidableEq, Repr

/-- The name of an area on a log line and in a filter. -/
def Area.target : Area → String
  | loading => "routelens::syntax::load"
  | folding => "routelens::resolve::expression"
  | binding => "routelens::binder"
  | assembly => "routelens::assembler::core"
  | scan => "routelens::contributor"

/-- A value in an event. -/
inductive Value where
  /-- A text that is quoted on a line for people. -/
  | quoted (s : String)
  /-- A text that is written as it is. -/
  | shown (s : String)
  | count (n : Nat)

/-- An event. -/
structure Event where
  level : Level
  area : Area
  message : String
  fields : List (String × Value)

/-- A value on a line for people. -/
def Value.pretty : Value → String
  | quoted s => Text.quoted s
  | shown s => s
  | count n => toString n

/-- A value in a document. -/
def Value.toDocument : Value → Document
  | quoted s | shown s => .text s
  | count n => .integer n

/-- How log lines are written. -/
inductive Format where
  | pretty
  | json
deriving DecidableEq

namespace Event

/-- The event on a line for people. -/
def pretty (e : Event) : String :=
  " ".intercalate
    (e.level.name :: e.message :: e.fields.map fun (name, v) => name ++ "=" ++ v.pretty)

/-- The event as a document. -/
def toDocument (e : Event) : Document :=
  .map
    [("level", .text e.level.name),
      ("fields",
        .map (("message", .text e.message) :: e.fields.map fun (name, v) => (name, v.toDocument))
          true),
      ("target", .text e.area.target)]
    true

/-- The event on a line. -/
def line (format : Format) (e : Event) : String :=
  match format with
  | .pretty => e.pretty
  | .json => Document.Json.compact e.toDocument.sorted

end Event

end RouteAtlas.Log
