/-
# Packages

What a program is built on: the host that its grammars run on, the console that it prints on, the
readers of documents, and the way the fields of a record are taken.  Each is known by what a program
may rely on, and `Packages.usual` is one choice.
-/

import CommandGrammar.Console
import CommandGrammar.Document.Fault
import CommandGrammar.Field
import CommandGrammar.Host

namespace CommandGrammar

/-- The readers of documents, by format. -/
structure Documents where
  yaml : String → Except Document.Fault Datum
  toml : String → Except Document.Fault Datum
  /-- A text without anything in it has no data. -/
  yaml_empty : yaml "" = .ok .nothing
  /-- It has no fields, either. -/
  toml_empty : toml "" = .ok (.mapping [])

/-- What a program is built on. -/
structure Packages where
  host : Host
  console : Console
  documents : Documents
  coercion : Coercion

end CommandGrammar
