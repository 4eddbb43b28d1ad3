import RouteAtlas.Document.Fault
import RouteAtlas.Document.Json.Reader
import RouteAtlas.Document.Toml.Reader
import RouteAtlas.Document.Yaml.Reader
import RouteAtlas.Format.Config
import RouteAtlas.Format.Tree

/-!
# RouteAtlas.Load — trees and settings read from files

The ending of a file's name says how its text is written.  A file that is missing, or that holds no
text, has no content.  How texts are read is left open (`Readers`): loading works for all ways of
reading them.
-/

namespace RouteAtlas

/-- How the text of a file is written. -/
inductive Medium where
  | yaml
  | toml
  | json
deriving DecidableEq

namespace Medium

/-- The name of a medium. -/
def name : Medium → String
  | yaml => "YAML"
  | toml => "TOML"
  | json => "JSON"

/-- The part of a file's name after its last dot; a name with nothing before that dot has none. -/
def extension? (file : String) : Option String :=
  match Text.cutLast? isDot (Text.afterLast (· == '/') file.toList) with
  | some (_ :: _, after) => some (String.ofList after)
  | some ([], _) | none => none

/-- The medium of a tree. -/
def ofTreeFile (file : String) : Medium :=
  match extension? file with
  | some "yaml" | some "yml" => yaml
  | _ => json

/-- The medium of settings. -/
def ofConfigFile (file : String) : Medium :=
  match extension? file with
  | some "yaml" | some "yml" => yaml
  | some "toml" => toml
  | _ => json

end Medium

/-- Why a file could not be loaded. -/
inductive LoadError where
  /-- The file of a tree has no content. -/
  | noTree (file : String)
  | badTree (medium : Medium) (fault : Fault)
  /-- The file of settings has no content. -/
  | noConfig (file : String)
  | badConfig (medium : Medium) (file : String) (fault : Fault)
deriving DecidableEq

namespace LoadError

/-- What is said of the file. -/
def message : LoadError → String
  | noTree file => "failed to read syntax tree " ++ file
  | badTree medium _ => "failed to parse syntax tree " ++ medium.name
  | noConfig file => "failed to read config " ++ file
  | badConfig medium file _ => "invalid " ++ medium.name ++ " config " ++ file

/-- What is wrong with the content. -/
def fault? : LoadError → Option Fault
  | noTree _ | noConfig _ => none
  | badTree _ fault | badConfig _ _ fault => some fault

end LoadError

/-- How texts are read as trees and as settings. -/
structure Readers where
  tree : Medium → String → Except Fault SyntaxTree
  config : Medium → String → Except Fault ScanConfig

namespace Readers

/-- Trees and settings are read of the documents that texts stand for. -/
def ofDocuments (read : Medium → String → Document.Reading) : Readers where
  tree medium text := (read medium text).read SyntaxTree.ofDocument
  config medium text := (read medium text).read ScanConfig.ofDocument

/-- The readers of this library. -/
def standard : Readers :=
  ofDocuments fun
    | .yaml => Document.Yaml.read
    | .toml => fun text => ⟨Document.Toml.read text, false⟩
    | .json => Document.Json.read

end Readers

/-- The tree in a file. -/
def SyntaxTree.load (readers : Readers) (file : String) (content : Option String) :
    Except LoadError SyntaxTree :=
  match content with
  | none => .error (.noTree file)
  | some text =>
    let medium := Medium.ofTreeFile file
    match readers.tree medium text with
    | .ok tree => .ok tree
    | .error fault => .error (.badTree medium fault)

/-- The settings in a file. -/
def ScanConfig.load (readers : Readers) (file : String) (content : Option String) :
    Except LoadError ScanConfig :=
  match content with
  | none => .error (.noConfig file)
  | some text =>
    let medium := Medium.ofConfigFile file
    match readers.config medium text with
    | .ok config => .ok config
    | .error fault => .error (.badConfig medium file fault)

end RouteAtlas
