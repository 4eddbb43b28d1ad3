import RouteAtlas.Command

/-!
# RouteAtlas.Main — the command line

Looks up what an answer depends on and gives the answer.
-/

namespace RouteAtlas.Main

/-- The text in a file; none where it cannot be read or is no text. -/
def readText? (file : String) : IO (Option String) := do
  try
    return String.fromUTF8? (← IO.FS.readBinFile file)
  catch _ => return none

/-- Names paired with what is found for them. -/
def lookUp (find : String → IO (Option String)) (names : List String) :
    IO (String → Option String) := do
  let found ← names.mapM fun name => do return (name, ← find name)
  return fun name => (found.lookup name).join

end RouteAtlas.Main

/-- Answers the arguments. -/
def main (args : List String) : IO UInt32 := do
  let env ← RouteAtlas.Main.lookUp (fun name => IO.getEnv name) RouteAtlas.Command.environment
  let content ← RouteAtlas.Main.lookUp RouteAtlas.Main.readText? (RouteAtlas.Command.files args)
  let answer := RouteAtlas.Command.run .standard ⟨env, content⟩ args
  IO.print answer.output
  for note in answer.notes do
    IO.eprintln note
  return answer.code.toUInt32
