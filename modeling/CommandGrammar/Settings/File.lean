/-
# Files with settings

Settings are read from the document of a file: its fields, or those of its field `parlance` where
that is a mapping.  The suffix of the file tells the format.

| suffix | format |
| --- | --- |
| `.yaml`, `.yml` | YAML |
| `.toml` | TOML |
| any other | refused |

The file that is read when none is named is the one that the environment names, else the first of
`parlance.yaml`, `parlance.yml`, `parlance.toml` in the directory.
-/

import CommandGrammar.Files
import CommandGrammar.Packages
import CommandGrammar.Settings

namespace CommandGrammar

open Text

/-- The formats of documents. -/
inductive DocumentFormat
  | yaml
  | toml
  deriving DecidableEq, Repr

namespace DocumentFormat

/-- The format that a suffix tells. -/
def ofSuffix? (suffix : String) : Option DocumentFormat :=
  if suffix = ".yaml" ∨ suffix = ".yml" then some yaml
  else if suffix = ".toml" then some toml
  else none

/-- The line ends of a text, all written as line feeds. -/
def unified : List Char → List Char
  | [] => []
  | '\r' :: '\n' :: rest => '\n' :: unified rest
  | '\r' :: rest => '\n' :: unified rest
  | c :: rest => c :: unified rest

/-- The datum that a text of a format writes. -/
def read (d : Documents) (f : DocumentFormat) (text : String) : Except Document.Fault Datum :=
  let text := String.ofList (unified text.toList)
  match f with
  | yaml => d.yaml text
  | toml => d.toml text

/-- **Line ends do not count twice.** -/
theorem unified_length_le (cs : List Char) : (unified cs).length ≤ cs.length := by
  fun_induction unified cs with
  | case1 => simp
  | case2 rest ih => simp only [List.length_cons]; omega
  | case3 rest _ ih => simp only [List.length_cons]; omega
  | case4 c rest _ _ ih => simp only [List.length_cons]; omega

end DocumentFormat

/-- Why a file gives no settings. -/
inductive SettingsProblem
  /-- There is no such file. -/
  | missing (path : String)
  /-- The suffix tells no format. -/
  | unsupported (suffix : String)
  /-- The text is no document of its format. -/
  | unreadable (format : DocumentFormat) (fault : Document.Fault)
  /-- The document is no mapping. -/
  | notAMapping
  /-- A field has no name. -/
  | unnamedField
  /-- Fields are refused. -/
  | refused (problems : List FieldProblem)
  deriving Repr

namespace SettingsProblem

/-- The wording of a problem; a text that cannot be read at all has none. -/
def message? (k : Coercion) : SettingsProblem → Option String
  | missing path => some s!"No such config file: {path}"
  | unsupported suffix => some s!"Unsupported config format: {suffix}"
  | unreadable _ (.impossible why) => some why
  | unreadable _ .malformed => none
  | notAMapping => some
      ("Configuration file must contain a mapping of settings.\nExample:\nanchor_flags: true\n" ++
        "unknown_long_flag_behavior: positional")
  | unnamedField => some "keywords must be strings"
  | refused ps => some (k.report Settings.recordName ps)

end SettingsProblem

namespace Settings

/-- The field whose fields are taken instead, where it is a mapping. -/
def innerField : String := "parlance"

/-- The entries of a document that are fields of settings. -/
def entriesOf : Datum → Except SettingsProblem (List (Datum × Datum))
  | .nothing => .ok []
  | .mapping es =>
    match Datum.field? innerField es with
    | some (.mapping inner) => .ok inner
    | _ => .ok es
  | _ => .error .notAMapping

/-- A field by its name. -/
def namedField : Datum × Datum → Except SettingsProblem (String × Datum)
  | (.text name, d) => .ok (name, d)
  | _ => .error .unnamedField

/-- The settings that a document gives. -/
def ofDocument (k : Coercion) (d : Datum) : Except SettingsProblem Settings := do
  let given ← (← entriesOf d).mapM namedField
  (ofFields k given).mapError .refused

/-- The settings that the file of a path gives. -/
def load (ps : Packages) (fs : Files) (path : String) : Except SettingsProblem Settings :=
  match fs.text? path, DocumentFormat.ofSuffix? (Path.suffix path) with
  | none, _ => .error (.missing path)
  | some _, none => .error (.unsupported (Path.suffix path))
  | some text, some format => do
    ofDocument ps.coercion (← (format.read ps.documents text).mapError (.unreadable format))

/-- **A file without anything in it gives the default settings.** -/
theorem load_of_empty {ps : Packages} {fs : Files} {path : String} {format : DocumentFormat}
    (htext : fs.text? path = some "")
    (hformat : DocumentFormat.ofSuffix? (Path.suffix path) = some format) :
    load ps fs path = .ok {} := by
  unfold load
  rw [htext, hformat]
  cases format with
  | yaml =>
    show (ps.documents.yaml "").mapError _ >>= _ = _
    rw [ps.documents.yaml_empty]
    rfl
  | toml =>
    show (ps.documents.toml "").mapError _ >>= _ = _
    rw [ps.documents.toml_empty]
    rfl

/-- The variable of the environment that names a file with settings. -/
def fileVariable : String := "PARLANCE_CONFIG"

/-- The names that files with settings usually have, in order. -/
def usualNames : List String := ["parlance.yaml", "parlance.yml", "parlance.toml"]

/-- The file with settings that the environment names, or else a directory has. -/
def find? (fs : Files) (named : Option String) (directory : Option String) : Option String :=
  match nonEmpty named with
  | some path => some (Path.normal path)
  | none =>
    (usualNames.map fun n => Path.inDirectory (directory.getD ".") n).find? fun p => fs.has p

end Settings
end CommandGrammar
