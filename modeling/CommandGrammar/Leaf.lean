/-
# Leaves of a grammar

A leaf turns tokens into values.  Most leaves read one token; the two `rest` leaves read everything
that is left, a literal reads its own words, and `nothing` reads none.

A choice takes its candidates from a supply, a function of the word that asks, and its values from a
function on candidates that may refuse one with a reason.  A selector hands tokens that begin with
its sigil to a resolver and treats all others as a choice; what the resolver gives has to be of the
type that the selector asks for.
-/

import CommandGrammar.Progress
import CommandGrammar.Definition

namespace CommandGrammar

/-- What kind of supply a choice has; it decides how the choice is shown. -/
inductive ChoiceForm
  /-- Any supply. -/
  | supplied
  /-- A fixed list of names. -/
  | listed (names : List String)
  /-- The members of an enumeration. -/
  | enumerated (family : String)
  deriving DecidableEq, Repr

/-- Why a candidate has no value. -/
inductive NoValue
  /-- It is refused. -/
  | refused (reason : String)
  /-- Names cannot be looked up in what holds the values. -/
  | misused
  deriving DecidableEq, Repr

/-- A choice among named candidates. -/
structure Choice where
  /-- The candidates for a word. -/
  supply : String → List String
  /-- The value of a candidate, or why it has none. -/
  value : String → Except NoValue Value
  /-- Whether a few candidates are listed in the usage. -/
  showUsage : Bool
  form : ChoiceForm
  /-- Whether the words that the supply is asked for are reported. -/
  reported : Bool

/-- An enumeration, as a choice sees it. -/
structure Enumeration where
  /-- The name of the enumeration. -/
  family : String
  members : List Member
  /-- Whether the members are data with items of their own, such as texts: then indexing the
  enumeration asks for an item of such a datum, and no name of a member leads to it. -/
  ownItems : Bool

/-- A type that entities may be of. -/
structure EntityType where
  name : String
  /-- Whether an entity is of the type. -/
  has : Entity → Bool

/-- A choice that also takes selectors. -/
structure Selector where
  /-- What tokens without the sigil mean. -/
  choice : Choice
  /-- The entities that a selector means for a source, or why it is refused. -/
  resolve : String → Source → Except String (List Entity)
  /-- The type that every entity must be of. -/
  type : EntityType
  /-- How selectors begin. -/
  sigil : String

/-- What turns tokens into values. -/
inductive Leaf
  | text
  | integer
  | real
  | truth
  /-- Reads nothing and makes no value. -/
  | nothing
  /-- All tokens left, joined by blanks. -/
  | restJoined
  /-- The line from the cursor on, as it was typed. -/
  | restRaw
  | duration
  | moment
  /-- Fixed words, and the value they mean. -/
  | literal (value : Value) (words : List String)
  | choice (c : Choice)
  | selector (s : Selector)

namespace Choice

/-- The value of a name in a list of names with values: the last one given. -/
def lookupLast (items : List (String × Value)) (name : String) : Option Value :=
  items.reverse.lookup name

/-- A choice among a fixed list of names with values; of a name given twice the last value
counts. -/
def ofList (items : List (String × Value)) (showUsage : Bool) : Choice where
  supply := fun _ => Text.distinct (items.map Prod.fst)
  value := fun name =>
    match lookupLast items name with
    | some v => .ok v
    | none => .error (.refused (Text.quoted name))
  showUsage := showUsage
  form := .listed (Text.distinct (items.map Prod.fst))
  reported := false

/-- A choice among the members of an enumeration. -/
def ofMembers (e : Enumeration) : Choice where
  supply := fun _ => e.members.map Member.name
  value := fun name =>
    if e.ownItems then .error .misused
    else
      match e.members.find? (·.name == name) with
      | some m => .ok (.member m)
      | none => .error (.refused (Text.quoted name))
  showUsage := true
  form := .enumerated e.family
  reported := false

/-- A choice among the keys of a table, the values looked up in it. -/
def ofTable (entries : List (String × Value)) (showUsage : Bool) : Choice where
  supply := fun _ => entries.map Prod.fst
  value := fun name => .ok ((entries.lookup name).getD .nothing)
  showUsage := showUsage
  form := .supplied
  reported := false

end Choice

namespace Leaf

/-- A literal has at least one word. -/
def literal? (value : Value) (words : List String) : Except DefinitionError Leaf :=
  if words.isEmpty then .error .emptyLiteral else .ok (.literal value words)

/-- Whether a leaf reads no token at all. -/
def readsNothing : Leaf → Bool
  | nothing => true
  | _ => false

/-- A leaf as it is shown in the description of a parameter. -/
def describe : Leaf → String
  | text => "StringValue()"
  | integer => "IntegerValue()"
  | real => "DoubleValue()"
  | truth => "BooleanValue()"
  | nothing => "NoneValue()"
  | restJoined => "RemainingJoinedStrings()"
  | restRaw => "RemainingRawJoinedStrings()"
  | duration => "DurationValue()"
  | moment => "DateTimeValue()"
  | literal v words =>
    let shown := v.describe
    let list := Text.joined ", " words
    s!"LiteralValue({shown}, {list})"
  | choice c =>
    match c.form with
    | .supplied => "PatternMatchingValueParameter()"
    | .listed names =>
      let list := Text.joined ", " (names.map Text.quoted)
      s!"ChoicesValue([{list}])"
    | .enumerated family => s!"EnumValue({family})"
  | selector s => s!"SelectorValueParameter({s.type.name})"

end Leaf
end CommandGrammar
