/-
# Documents in YAML

The data of a document.  Plain scalars are typed by what they look like, other nodes by their
tags.  In a mapping the last entry of a key counts, at the place of the first one.  Entries under
the key `<<` are taken over from the mappings named there, before the others.

| tag | datum |
| --- | --- |
| none | by its form |
| `str` | text |
| `null`, `bool`, `int`, `float`, `timestamp` | as the plain scalar, which has to be of that type |
| `seq`, `map` | list, mapping |
| any other | refused |
-/

import CommandGrammar.Document.Yaml.Reader
import CommandGrammar.Document.Yaml.Scalar

namespace CommandGrammar
namespace Document
namespace Yaml

/-- Whether a datum is of the type that a tag names. -/
def hasType (name : String) : Datum → Bool
  | .nothing => name == "null"
  | .truth _ => name == "bool"
  | .integer _ => name == "int" || name == "float"
  | .real _ => name == "float"
  | .other _ _ => name == "timestamp"
  | _ => false

/-- The datum of a scalar. -/
def scalarDatum (tag : Option Tag) (plain : Bool) (s : String) : Except Fault Datum :=
  match tag with
  | none => if plain then Scalar.read s else .ok (.text s)
  | some (.core "str") => .ok (.text s)
  | some (.core "null") => .ok .nothing
  | some (.core name) => do
    let d ← Scalar.read s
    if hasType name d then return d else .error .malformed
  | some (.own _) => .error .malformed

/-- Whether a node is the key under which entries are taken over. -/
def isMergeKey : Node → Bool
  | .scalar none true s => s == "<<"
  | .scalar (some (.core name)) _ _ => name == "merge"
  | _ => false

/-- Whether a datum can be a key. -/
def canBeKey : Datum → Bool
  | .list _ => false
  | .mapping _ => false
  | _ => true

/-- The key that stands for itself. -/
def keyNode : Node → Node
  | .scalar none true "=" => .scalar none false "="
  | n => n

/-- The entries that are taken over from what stands under a merge key. -/
def takenOver (own : Node → Except Fault (List (Node × Node))) :
    Node → Except Fault (List (Node × Node))
  | .mapping t es => own (.mapping t es)
  | .sequence _ ns => do
    let all ← ns.mapM fun
      | .mapping t es => own (.mapping t es)
      | _ => .error .malformed
    return all.reverse.flatten
  | _ => .error .malformed

/-- The entries of a mapping with those that are taken over, nested less deeply than the number. -/
def entriesOf : Nat → Node → Except Fault (List (Node × Node))
  | 0, _ => .error .malformed
  | n + 1, .mapping _ es => do
    let merged ← (es.filter fun e => isMergeKey e.1).mapM fun e => takenOver (entriesOf n) e.2
    return merged.flatten ++ es.filter fun e => !isMergeKey e.1
  | _, _ => .ok []

/-- The datum of a node, nested less deeply than the number. -/
def datumOf : Nat → Node → Except Fault Datum
  | 0, _ => .error .malformed
  | _ + 1, .scalar tag plain s => scalarDatum tag plain s
  | n + 1, .sequence tag ns => do
    if tag.any (· != .core "seq") then .error .malformed
    else return .list (← ns.mapM (datumOf n))
  | n + 1, .mapping tag es => do
    if tag.any (· != .core "map") then .error .malformed
    else
      let all ← entriesOf n (.mapping tag es)
      let entries ← all.foldlM (fun (read : List (Datum × Datum)) e => do
        let key ← datumOf n (keyNode e.1)
        if canBeKey key then return Datum.assign key (← datumOf n e.2) read
        else .error .malformed) []
      return .mapping entries

/-- The datum of the only document of a text; nothing, if it has none. -/
def read (text : String) : Except Fault Datum :=
  match nodeOf? text.toList with
  | none => .error .malformed
  | some none => .ok .nothing
  | some (some node) => datumOf (text.length + 2) node

/-- **A text between quotes stays a text.** -/
theorem scalarDatum_quoted (s : String) : scalarDatum none false s = .ok (.text s) := rfl

end Yaml
end Document
end CommandGrammar
