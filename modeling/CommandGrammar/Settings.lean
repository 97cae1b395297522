/-
# Settings

The defaults that definitions start from, and how a shell keeps its log.  Settings are read from the
fields of a document; every field that is refused is reported, in the order of the fields here, and
then the fields that are unknown, in their own order.
-/

import CommandGrammar.Field
import CommandGrammar.Policy

namespace CommandGrammar

/-- The ways to write a log. -/
inductive LogMode
  /-- For a person at a terminal. -/
  | terminal
  /-- One record in a line, for a machine. -/
  | records
  deriving DecidableEq, Repr

/-- The name of a way to write a log. -/
def LogMode.name : LogMode → String
  | terminal => "cli"
  | records => "json"

/-- The way to write a log that a word names. -/
def LogMode.ofName? (s : String) : Option LogMode :=
  [LogMode.terminal, .records].find? fun m => m.name == s

/-- **A mode is read back from its name.** -/
theorem LogMode.ofName?_name (m : LogMode) : ofName? m.name = some m := by cases m <;> decide

/-- The defaults of definitions, and how a log is kept. -/
structure Settings where
  splitting : Splitting := .quoted
  anchorFlags : Bool := false
  unknownShort : UnknownFlagPolicy := .refuse
  unknownLong : UnknownFlagPolicy := .refuse
  onChildFailure : ChildFailurePolicy := .rethrow
  guardsChildren : Bool := true
  logMode : Option LogMode := none
  /-- The file that the log goes to, if it goes to one. -/
  logFile : Option String := some "parlance.log"
  deriving DecidableEq, Repr

namespace Settings

/-- The name by which settings are called. -/
def recordName : String := "ParlanceSettings"

variable (k : Coercion)

/-- The way to write a log that a datum names, if it names one. -/
def logMode? (d : Datum) : Except FieldFault (Option LogMode) := do
  match ← k.optionalText? d with
  | none => return none
  | some s =>
    match LogMode.ofName? s with
    | some m => return some m
    | none => .error (.broken s!"log_mode must be 'cli' or 'json', got '{s}'")

/-- A field: its name, and the settings with what a datum gives for it. -/
structure Field where
  name : String
  put : Datum → Settings → Except FieldFault Settings

/-- The field that a reader of data and a setter make. -/
def Field.of {α : Type} (name : String) (read : Datum → Except FieldFault α)
    (set : Settings → α → Settings) : Field :=
  ⟨name, fun d s => (read d).map (set s)⟩

/-- The fields, in order. -/
def fields : List Field := [
  .of "input_tokenizer" (k.keyword? Splitting.keywords) fun s v => { s with splitting := v },
  .of "anchor_flags" k.truth? fun s v => { s with anchorFlags := v },
  .of "unknown_short_flag_behavior" (k.keyword? UnknownFlagPolicy.keywords) fun s v =>
    { s with unknownShort := v },
  .of "unknown_long_flag_behavior" (k.keyword? UnknownFlagPolicy.keywords) fun s v =>
    { s with unknownLong := v },
  .of "child_exception_behavior" (k.keyword? ChildFailurePolicy.keywords) fun s v =>
    { s with onChildFailure := v },
  .of "require_permission_for_children" k.truth? fun s v => { s with guardsChildren := v },
  .of "log_mode" (logMode? k) fun s v => { s with logMode := v },
  .of "log_filename" k.optionalText? fun s v => { s with logFile := v }]

/-- The settings after one field, with the problems so far. -/
def readField (given : List (String × Datum)) (read : Settings × List FieldProblem) (f : Field) :
    Settings × List FieldProblem :=
  match given.lookup f.name with
  | none => read
  | some d =>
    match f.put d read.1 with
    | .ok s => (s, read.2)
    | .error fault => (read.1, read.2 ++ [⟨f.name, fault, d⟩])

/-- The problems with fields that settings do not have. -/
def unexpected (given : List (String × Datum)) : List FieldProblem :=
  (given.filter fun g => !(fields k).any fun f => f.name == g.1).map fun g => ⟨g.1, .unexpected, g.2⟩

/-- The settings that fields give. -/
def ofFields (given : List (String × Datum)) : Except (List FieldProblem) Settings :=
  let (settings, faulty) := (fields k).foldl (readField given) ({}, [])
  match faulty ++ unexpected k given with
  | [] => .ok settings
  | problems => .error problems

/-- **No fields give the default settings.** -/
theorem ofFields_nil : ofFields k [] = .ok {} := rfl

/-- The settings as fields. -/
def toFields (s : Settings) : List (String × Datum) := [
  ("input_tokenizer", .text (Splitting.keywords.name s.splitting)),
  ("anchor_flags", .truth s.anchorFlags),
  ("unknown_short_flag_behavior", .text (UnknownFlagPolicy.keywords.name s.unknownShort)),
  ("unknown_long_flag_behavior", .text (UnknownFlagPolicy.keywords.name s.unknownLong)),
  ("child_exception_behavior", .text (ChildFailurePolicy.keywords.name s.onChildFailure)),
  ("require_permission_for_children", .truth s.guardsChildren),
  ("log_mode", (s.logMode.map fun m => Datum.text m.name).getD .nothing),
  ("log_filename", (s.logFile.map Datum.text).getD .nothing)]

/-- **Settings are read back from their own fields**, however data are coerced. -/
theorem ofFields_toFields (s : Settings) : ofFields k s.toFields = .ok s := by
  have hmode : logMode? k ((s.logMode.map fun m => Datum.text m.name).getD .nothing) =
      .ok s.logMode := by
    cases s.logMode with
    | none => rfl
    | some m =>
      unfold logMode? Coercion.optionalText?
      simp [k.text?_text, LogMode.ofName?_name, Except.map, bind, Except.bind, pure, Except.pure]
  have hfile : k.optionalText? ((s.logFile.map Datum.text).getD .nothing) = .ok s.logFile := by
    cases s.logFile with
    | none => rfl
    | some path => simp [Coercion.optionalText?, k.text?_text, Except.map]
  simp [ofFields, fields, Field.of, readField, unexpected, toFields, List.lookup_cons, hmode,
    hfile, k.truth?_truth, k.keyword?_text (Splitting.read?_name _),
    k.keyword?_text (UnknownFlagPolicy.read?_name _),
    k.keyword?_text (ChildFailurePolicy.read?_name _), Except.map]

end Settings
end CommandGrammar
