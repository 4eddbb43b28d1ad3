import RouteAtlas.Symbol
import RouteAtlas.Text.Blank

/-!
# RouteAtlas.Mapping.Verb — names of request methods

A request method may be written with a qualification and in any case of letters.  It is recognised
when its last part is a token, and stands for that part in capitals.
-/

namespace RouteAtlas.Verb

/-- A character of which tokens are made. -/
def isTokenChar (c : Char) : Bool := c.isAlphanum || "!#$%&'*+-^_`|~".toList.contains c

/-- The verb that a text names. -/
def parse? (s : String) : Option String :=
  let part := Text.trim (Text.afterLast isDot s.toList)
  if part.isEmpty || !part.all isTokenChar then none
  else some (String.ofList (part.map Char.toUpper))

end RouteAtlas.Verb
