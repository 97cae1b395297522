/-
# Nodes

What a document is made of before its scalars are typed: scalars, sequences and mappings, each of
which may have a tag that names its type.
-/

namespace CommandGrammar
namespace Document
namespace Yaml

/-- The type that a node is given. -/
inductive Tag
  /-- A type that every document has. -/
  | core (name : String)
  /-- Any other type. -/
  | own (name : String)
  deriving DecidableEq, Repr

/-- A node of a document. -/
inductive Node
  /-- A text; a plain one, without quotes, may stand for other data. -/
  | scalar (tag : Option Tag) (plain : Bool) (text : String)
  | sequence (tag : Option Tag) (items : List Node)
  /-- Keys with what stands under them, in order. -/
  | mapping (tag : Option Tag) (entries : List (Node × Node))
  deriving Repr, Inhabited

namespace Node

/-- The node that stands where nothing is written. -/
def empty : Node := .scalar none true ""

/-- The node with a tag, if there is one. -/
def tagged : Option Tag → Node → Node
  | none, n => n
  | t, scalar _ _ s => scalar t false s
  | t, sequence _ ns => sequence t ns
  | t, mapping _ es => mapping t es

/-- **A node without a tag of its own takes none.** -/
theorem tagged_none (n : Node) : tagged none n = n := rfl

end Node
end Yaml
end Document
end CommandGrammar
