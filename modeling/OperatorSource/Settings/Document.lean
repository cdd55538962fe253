import OperatorSource.Files.Fault
import OperatorSource.Settings.Basic
import OperatorSource.Yaml.Decoding
import OperatorSource.Yaml.Writing

/-!
# Settings documents

Settings are read from a YAML record in which every field may be left out, and are written as one
with all four fields. A field that is left out has its default value.
-/

namespace OperatorSource

open Yaml (Fault Tree)

inductive SettingsError where
  | unreadable (path : String) (fault : FileFault)
  | unparsable (failure : Yaml.Failure)

namespace SettingsError

/-- The message for settings that cannot be loaded, if anything is said about them. -/
def message? : SettingsError → Option String
  | .unreadable path fault =>
    some ("configuration error: cannot read config '" ++ path ++ "': " ++ fault.message)
  | .unparsable failure => failure.message?.map ("configuration error: YAML parse error: " ++ ·)

def message (error : SettingsError) : String :=
  error.message?.getD "configuration error: YAML parse error: malformed document"

end SettingsError

namespace Settings

def record : Tree.Record Settings where
  expected := "struct GeneratorConfig"
  fields := ["framework_headers", "namespace", "strict_shape_rules", "placeholder"]
  read field tree settings :=
    match field with
    | "framework_headers" => do
      return { settings with frameworkHeaders := ← tree.readList Tree.readText }
    | "namespace" => do return { settings with namespaceName := ← tree.readText }
    | "strict_shape_rules" => do return { settings with strictShapeRules := ← tree.readBoolean }
    | _ => do return { settings with placeholder := ← tree.readText }

def ofTree (tree : Tree) : Except Fault Settings := tree.readRecord record {} .ok

def ofYaml (text : String) : Except SettingsError Settings :=
  match Tree.ofText text with
  | .error failure => .error (.unparsable failure)
  | .ok tree => (ofTree tree).mapError (fun fault => .unparsable (.fault fault))

/-- The settings of a file; `read` gives the content of a file. -/
def load (read : String → Except FileFault String) (path : String) :
    Except SettingsError Settings :=
  match read path with
  | .error fault => .error (.unreadable path fault)
  | .ok content => ofYaml content

def toYaml (settings : Settings) : String :=
  Yaml.Writing.listEntry "framework_headers" settings.frameworkHeaders ++
    Yaml.Writing.textEntry "namespace" settings.namespaceName ++
    Yaml.Writing.booleanEntry "strict_shape_rules" settings.strictShapeRules ++
    Yaml.Writing.textEntry "placeholder" settings.placeholder

end Settings

end OperatorSource
