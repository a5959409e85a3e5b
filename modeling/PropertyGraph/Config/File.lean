import PropertyGraph.Config.Codec
import PropertyGraph.Toml.Source
import PropertyGraph.Yaml.Source

/-!
# Configuration files

A configuration can be kept in a TOML, a JSON or a YAML file; the extension of the file's name
tells which.
-/

namespace PropertyGraph.Config

/-- The formats of configuration files. -/
inductive Format
  | toml
  | json
  | yaml
  deriving DecidableEq, Repr

/-- The extension of a file name: what follows its last point, unless that is the first
character of the name. -/
def extension? (name : String) : Option String :=
  let cs := (name.toList.reverse.takeWhile (· != '/')).reverse
  match cs.reverse.dropWhile (· != '.') with
  | '.' :: _ :: _ => some (String.ofList (cs.reverse.takeWhile (· != '.')).reverse)
  | _ => none

/-- The format of a file. -/
def Format.ofName? (name : String) : Option Format :=
  match extension? name with
  | some "toml" => some .toml
  | some "json" => some .json
  | some "yaml" | some "yml" => some .yaml
  | _ => none

/-- Reads a configuration in a format. -/
def Format.read? (f : Format) (content : String) : Option Config :=
  match f with
  | .toml => (Toml.parse? content).bind (Config.read? Toml.Value.source)
  | .json => Json.decode? (Config.read? Nested.source.toSource) content
  | .yaml => (Yaml.view? content).bind (Config.read? Yaml.View.source)

/-- A file does not hold a configuration in its format. -/
def unreadable : GraphError := .configuration "the file does not hold a configuration"

/-- Reads the configuration file of a name.  A file that is not there has no content. -/
def ofFile (name : String) (content : Option String) : Except GraphError Config :=
  match content with
  | none => .error (.io ("no such file: " ++ name))
  | some content =>
    match Format.ofName? name with
    | none =>
      .error (.configuration "Unsupported config file format. Use .toml, .json, or .yaml")
    | some f =>
      match f.read? content with
      | some c => .ok c
      | none => .error unreadable

end PropertyGraph.Config
