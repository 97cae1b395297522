/-
# The usual packages

YAML and TOML are read as in `Document.Yaml` and `Document.Toml`.
-/

import CommandGrammar.Console.Usual
import CommandGrammar.Document.Toml
import CommandGrammar.Document.Yaml
import CommandGrammar.Field.Usual
import CommandGrammar.Host.Usual
import CommandGrammar.Packages

namespace CommandGrammar

/-- The usual readers of documents. -/
def Documents.usual : Documents where
  yaml := Document.Yaml.read
  toml := Document.Toml.read
  yaml_empty := by rfl
  toml_empty := by rfl

/-- The usual packages. -/
def Packages.usual : Packages := ⟨.usual, .usual, .usual, .usual⟩

end CommandGrammar
