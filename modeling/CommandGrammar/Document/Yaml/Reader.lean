/-
# Reading nodes

The nodes of a document from its text.  What belongs together is told by columns: the entries of a
block stand in one column, and what belongs to an entry stands further to the right.  Between
brackets and braces columns do not matter.

| a node begins with | it is |
| --- | --- |
| `-` and a gap | a sequence, an entry in each line of that column |
| `?` and a gap, or a short node with `:` and a gap after it in the same line | a mapping |
| `[` or a brace | a sequence or a mapping between marks |
| a quote, a bar, a greater-than sign | a scalar between quotes or on lines of its own |
| `&` or `!` | a name or a type for the node that follows |
| `*` | the node of that name |
| anything else | a plain scalar |

A sequence may stand in the column of the key that it belongs to.  Every function that reads a
node is given a bound on how deeply it may recur, and one bound suffices for all nodes of a text.
-/

import CommandGrammar.Document.Yaml.Block
import CommandGrammar.Document.Yaml.Node

namespace CommandGrammar
namespace Document
namespace Yaml

/-- Where a reader stands in a text, and the named nodes so far. -/
structure Place where
  rest : List Char
  column : Nat := 0
  line : Nat := 0
  named : List (String × Node) := []

namespace Place

/-- The place after one character. -/
def past (p : Place) (c : Char) : Place :=
  if isBreak c then { p with column := 0, line := p.line + 1 }
  else { p with column := p.column + 1 }

/-- The place after some characters. -/
def move (p : Place) (n : Nat) : Place :=
  { (p.rest.take n).foldl past p with rest := p.rest.drop n }

/-- Whether the text is at its end. -/
def atEnd (p : Place) : Bool := p.rest.isEmpty

/-- Whether the document ends: the text is at its end, or at a mark between documents. -/
def atClose (p : Place) : Bool := p.atEnd || p.column == 0 && startsMark p.rest

/-- Whether a character comes next, and a gap after it. -/
def atSign (p : Place) (c : Char) : Bool :=
  match p.rest with
  | d :: rest => d == c && atGap rest
  | [] => false

/-- The next character. -/
def next? (p : Place) : Option Char := p.rest.head?

end Place

/-- How long the text before the colon of a key may be. -/
def keyReach : Nat := 1024

/-- A reader of some part of a document. -/
abbrev Reading := StateT Place Option

namespace Reading

/-- Goes on by some characters. -/
def skip (n : Nat) : Reading Unit := modify fun p => p.move n

/-- How long the run of blanks, breaks and comments is that a text begins with. -/
def gapLength (inComment : Bool) : List Char → Nat
  | [] => 0
  | c :: rest =>
    if isBreak c then gapLength false rest + 1
    else if inComment || c == ' ' then gapLength inComment rest + 1
    else if c == '#' then gapLength true rest + 1
    else 0

/-- Goes on to what is not blank and no comment; whether that is in another line. -/
def gap : Reading Bool := do
  let before := (← get).line
  skip (gapLength false (← get).rest)
  return (← get).line != before

/-- Goes on past the spaces of a line. -/
def spaces : Reading Unit := do
  skip ((← get).rest.takeWhile (· == ' ')).length

/-- Goes on past a text that what follows is the rest of. -/
def upTo (rest : List Char) : Reading Unit := do
  skip ((← get).rest.length - rest.length)

/-- Fails unless a condition holds. -/
def need (b : Bool) : Reading Unit := if b then pure () else failure

/-! ## Plain scalars -/

/-- The characters that no plain scalar begins with. -/
def indicators : List Char :=
  ['-', '?', ':', ',', '[', ']', '\x7b', '\x7d', '#', '&', '*', '!', '|', '>', '\x27', '\x22',
    '%', '@', '\x60']

/-- Whether a plain scalar can begin so; `flow` between brackets or braces. -/
def plainStarts (flow : Bool) : List Char → Bool
  | [] => false
  | c :: rest =>
    !atGap (c :: rest) && !indicators.contains c ||
      !atGap rest && (c == '-' || !flow && (c == '?' || c == ':'))

/-- The characters that end a plain scalar between brackets or braces. -/
def flowEnds : List Char := [',', '?', '[', ']', '\x7b', '\x7d']

/-- The characters that end a plain scalar there when they follow a colon. -/
def flowMarks : List Char := [',', '[', ']', '\x7b', '\x7d']

/-- The length of the word that a text begins with. -/
def wordLength (flow : Bool) : List Char → Nat
  | [] => 0
  | c :: rest =>
    let isKeyEnd := c == ':' && (atGap rest || flow && rest.head?.any flowMarks.contains)
    if atGap (c :: rest) || isKeyEnd || flow && flowEnds.contains c then 0
    else wordLength flow rest + 1

/-- The words of a plain scalar; in a block, further lines stand to the right of `parent`. -/
def plainWords (flow : Bool) (parent : Int) : Nat → Reading (List Char)
  | 0 => failure
  | n + 1 => do
    let p ← get
    let word := p.rest.take (wordLength flow p.rest)
    skip word.length
    let rest := (← get).rest
    let run := rest.takeWhile fun c => c == ' ' || isBreak c
    skip run.length
    let q ← get
    let ends := word.isEmpty || run.isEmpty || q.next? == some '#' || q.atClose ||
      !flow && q.column ≤ parent
    if ends then return word
    let more ← plainWords flow parent n
    return if more.isEmpty then word else word ++ foldRun run ++ more

/-- A plain scalar. -/
def plain (flow : Bool) (parent : Int) : Reading Node := do
  need (plainStarts flow (← get).rest)
  let words ← plainWords flow parent ((← get).rest.length + 1)
  return .scalar none true (String.ofList words)

/-! ## Other scalars, names, tags -/

/-- A scalar between quotes. -/
def quotedScalar (pieces : List Char → Option (List Piece × List Char)) : Reading Node := do
  let (ps, rest) ← pieces ((← get).rest.drop 1)
  upTo rest
  return .scalar none false (ofPieces ps)

/-- A scalar on lines of its own. -/
def block (folded : Bool) (parent : Int) : Reading Node := do
  let text := (← get).rest.drop 1
  let line := text.takeWhile fun c => !isBreak c
  let header ← BlockHeader.ofLine? folded line
  let (scalar, rest) := blockScalar header parent (text.drop (line.length + 1))
  upTo rest
  return .scalar none false scalar

/-- Whether a character may stand in the name of a node. -/
def isNameChar (c : Char) : Bool := c.isAlphanum || c == '-' || c == '_'

/-- Whether what follows may follow a name. -/
def endsName (cs : List Char) : Bool :=
  atGap cs || cs.head?.any ['?', ':', ',', ']', '\x7d', '%', '@', '\x60'].contains

/-- A name after its mark. -/
def name : Reading String := do
  let name := ((← get).rest.drop 1).takeWhile isNameChar
  skip (name.length + 1)
  need (!name.isEmpty && endsName (← get).rest)
  return String.ofList name

/-- Whether a character may stand in a tag. -/
def isTagChar (c : Char) : Bool := c.isAlphanum || "-;/?:@&=+$,_.!~*'()[]%".toList.contains c

/-- Where the types that every document has are defined. -/
def coreSpace : List Char := "tag:yaml.org,2002:".toList

/-- The type that a tag names in full. -/
def tagOf (name : List Char) : Tag :=
  if coreSpace.isPrefixOf name then .core (String.ofList (name.drop coreSpace.length))
  else .own (String.ofList name)

/-- The tag that a text after the mark writes; the mark alone is none. -/
def tagOfText? (cs : List Char) : Option (Option Tag) :=
  match cs with
  | [] => some none
  | '!' :: name =>
    if name.isEmpty || !name.all isTagChar then none
    else some (some (tagOf (coreSpace ++ name)))
  | '<' :: rest =>
    let name := rest.dropLast
    if rest.getLast? == some '>' && !name.isEmpty && name.all isTagChar then
      some (some (tagOf name))
    else none
  | name =>
    if name.all isTagChar && !name.contains '!' then some (some (.own (String.ofList name)))
    else none

/-- A tag. -/
def tag : Reading (Option Tag) := do
  let text := ((← get).rest.drop 1).takeWhile fun c => !(c == ' ' || isBreak c)
  skip (text.length + 1)
  tagOfText? text

/-- What is said of a node before it. -/
structure Properties where
  name : Option String := none
  tag : Option Tag := none
  /-- Whether anything is said. -/
  some : Bool := false

/-- What is said in two places; no two names and no two types may be given. -/
def Properties.and? (ps qs : Properties) : Option Properties :=
  if ps.name.isSome && qs.name.isSome || ps.tag.isSome && qs.tag.isSome then none
  else .some ⟨ps.name <|> qs.name, ps.tag <|> qs.tag, ps.some || qs.some⟩

/-- What is said of the node that follows: a name, a type, or both. -/
def properties : Reading Properties := do
  let named ← nameHere
  if named.isSome then
    let _ ← spaces
  let typed ← tagHere
  if named.isNone && typed.isSome then
    let _ ← spaces
    return ⟨← nameHere, typed.join, true⟩
  return ⟨named, typed.join, named.isSome || typed.isSome⟩
where
  /-- A name, if one comes next. -/
  nameHere : Reading (Option String) := do
    if (← get).next? == some '&' then return .some (← name) else return none
  /-- A tag, if one comes next. -/
  tagHere : Reading (Option (Option Tag)) := do
    if (← get).next? == some '!' then return .some (← tag) else return none

/-- Gives a node a name; the name must be new. -/
def declare (ps : Properties) : Reading Unit :=
  match ps.name with
  | none => pure ()
  | some name => do
    need (((← get).named.lookup name).isNone)
    modify fun p => { p with named := (name, .sequence none []) :: p.named }

/-- The node with what was said of it. -/
def finish (ps : Properties) (node : Node) : Reading Node := do
  let node := node.tagged ps.tag
  if let some name := ps.name then
    modify fun p => { p with named := (name, node) :: p.named }
  return node

/-- The node of a name. -/
def alias_ : Reading Node := do
  let name ← name
  (← get).named.lookup name

/-- Whether the colon of a key comes next: in the line where the key began, and not far from it. -/
def endsKey (start p : Place) : Bool :=
  p.line == start.line && p.column - start.column ≤ keyReach && p.next? == some ':'

/-! ## Nodes between brackets and braces -/

mutual

/-- A node between brackets or braces. -/
def flowNode : Nat → Reading Node
  | 0 => failure
  | n + 1 => do
    let _ ← gap
    need !(← get).atClose
    if (← get).next? == some '*' then alias_
    else
      let ps ← properties
      let _ ← gap
      declare ps
      let p ← get
      need !p.atClose
      let ends := p.next?.any [',', ']', '\x7d', ':'].contains
      finish ps (← if ps.some && ends then pure .empty else flowContent n)

/-- What a node between brackets or braces consists of. -/
def flowContent : Nat → Reading Node
  | 0 => failure
  | n + 1 => do
    match (← get).next? with
    | some '[' => do
      skip 1
      return .sequence none (← flowItems n)
    | some '\x7b' => do
      skip 1
      return .mapping none (← flowEntries n)
    | some '\x27' => quotedScalar singleQuoted
    | some '\x22' => quotedScalar doubleQuoted
    | _ => plain true (-1)

/-- A node, or the empty one where a mark comes next. -/
def flowNodeOrNone : Nat → Reading Node
  | 0 => failure
  | n + 1 => do
    let _ ← gap
    if (← get).next?.any [',', ']', '\x7d', ':'].contains then return .empty
    else flowNode n

/-- A key with what stands under it, or a node alone. -/
def flowEntry : Nat → Reading (Node × Option Node)
  | 0 => failure
  | n + 1 => do
    let start ← get
    if start.next? == some '?' then
      skip 1
      let key ← flowNodeOrNone n
      let _ ← gap
      if (← get).next? == some ':' then
        skip 1
        return (key, some (← flowNodeOrNone n))
      else return (key, some .empty)
    else
      let key ← flowNode n
      let _ ← gap
      if endsKey start (← get) then
        skip 1
        return (key, some (← flowNodeOrNone n))
      else return (key, none)

/-- The items up to the closing bracket. -/
def flowItems : Nat → Reading (List Node)
  | 0 => failure
  | n + 1 => do
    let _ ← gap
    if (← get).next? == some ']' then
      skip 1
      return []
    let (node, under) ← flowEntry n
    let item := match under with
      | none => node
      | some value => .mapping none [(node, value)]
    let _ ← gap
    match (← get).next? with
    | some ',' => do
      skip 1
      return item :: (← flowItems n)
    | some ']' => do
      skip 1
      return [item]
    | _ => failure

/-- The entries up to the closing brace. -/
def flowEntries : Nat → Reading (List (Node × Node))
  | 0 => failure
  | n + 1 => do
    let _ ← gap
    if (← get).next? == some '\x7d' then
      skip 1
      return []
    let (key, under) ← flowEntry n
    let entry := (key, under.getD .empty)
    let _ ← gap
    match (← get).next? with
    | some ',' => do
      skip 1
      return entry :: (← flowEntries n)
    | some '\x7d' => do
      skip 1
      return [entry]
    | _ => failure

end

/-! ## Nodes of a block -/

/-- What a node consists of that is no block; `parent` is the column that its lines stand right
of. -/
def inline (n : Nat) (parent : Int) (ps : Properties) : Reading Node := do
  let p ← get
  if ps.some && (p.atClose || p.atSign ':') then return .empty
  match p.next? with
  | some '*' => if ps.some then failure else alias_
  | some '|' => block false parent
  | some '>' => block true parent
  | some c =>
    if ['[', '\x7b', '\x27', '\x22'].contains c then flowContent n
    else plain false parent
  | none => failure

/-- A node that a colon follows in the same line. -/
def shortKey (n : Nat) (parent : Int) : Reading Node := do
  let start ← get
  let ps ← properties
  let _ ← spaces
  declare ps
  let key ← finish ps (← inline n parent ps)
  spaces
  need (endsKey start (← get) && (← get).atSign ':')
  return key

mutual

/-- A node that belongs to what stands in the column `parent`, of which something may be said in
lines before.  In a line that is already begun, no block may begin unless the place is `fresh`;
`dashes` allows a sequence in the same column. -/
def blockNode (parent : Int) (fresh dashes : Bool) (said : Properties) : Nat → Reading Node
  | 0 => failure
  | n + 1 => do
    let fresh := (← gap) || fresh
    let start ← get
    if start.atClose then return .empty
    else if start.column ≤ parent then
      if dashes && start.column == parent && start.atSign '-' then
        return .sequence none (← entries start.column true n)
      else if start.column == parent && start.next?.any ['|', '>'].contains then inline n parent {}
      else return .empty
    else if start.atSign '-' then
      need fresh
      return .sequence none (← entries start.column false n)
    else if start.atSign '?' then
      need fresh
      return .mapping none (← pairs start.column n)
    else
      let ps ← properties
      let moved ← gap
      declare ps
      if ps.some && moved then
        finish ps (← blockNode parent true dashes (← said.and? ps) n)
      else
        let isAlias := (← get).next? == some '*'
        let node ← finish ps (← inline n parent ps)
        spaces
        let p ← get
        if endsKey start p && p.atSign ':' then
          need fresh
          return .mapping none (← pairsFrom start.column node n)
        else
          need ((said.and? ps).isSome && !(said.some && isAlias))
          return node
termination_by structural n => n

/-- The entries of a sequence in a column, from the dash of one on. -/
def entries (column : Nat) (inKeyColumn : Bool) : Nat → Reading (List Node)
  | 0 => failure
  | n + 1 => do
    skip 1
    let item ← blockNode column true false {} n
    let _ ← gap
    let p ← get
    if p.atClose || p.column < column then return [item]
    else if p.column == column && p.atSign '-' then return item :: (← entries column inKeyColumn n)
    else
      need (p.column == column && inKeyColumn)
      return [item]
termination_by structural n => n

/-- The entries of a mapping in a column, from the beginning of a key on. -/
def pairs (column : Nat) : Nat → Reading (List (Node × Node))
  | 0 => failure
  | n + 1 => do
    if (← get).atSign '?' then
      skip 1
      let key ← blockNode column true true {} n
      let _ ← gap
      let p ← get
      if !p.atClose && p.column == column && p.atSign ':' then
        skip 1
        morePairs column (key, ← blockNode column true true {} n) n
      else morePairs column (key, .empty) n
    else
      let key ← shortKey n column
      pairsFrom column key n
termination_by structural n => n

/-- The entries of a mapping in a column, from the colon after a key on. -/
def pairsFrom (column : Nat) (key : Node) : Nat → Reading (List (Node × Node))
  | 0 => failure
  | n + 1 => do
    skip 1
    morePairs column (key, ← blockNode column false true {} n) n
termination_by structural n => n

/-- An entry and the ones after it. -/
def morePairs (column : Nat) (entry : Node × Node) : Nat → Reading (List (Node × Node))
  | 0 => failure
  | n + 1 => do
    let _ ← gap
    let p ← get
    if p.atClose || p.column < column then return [entry]
    else
      need (p.column == column)
      return entry :: (← pairs column n)
termination_by structural n => n

end

/-! ## Documents -/

/-- Goes on past the marks at the end of a document. -/
def closings : Nat → Reading Unit
  | 0 => pure ()
  | n + 1 => do
    let _ ← gap
    if (← get).atClose && (← get).next? == some '.' then
      skip 3
      closings n

/-- Whether a directive can be followed: a version other than the first is refused. -/
def isGoodDirective (line : List Char) : Bool :=
  match Text.words (String.ofList (line.takeWhile (· != '#'))) with
  | ["%YAML", version] =>
    match Text.cutAt (· == '.') version.toList with
    | [['1'], minor] => !minor.isEmpty && minor.all Char.isDigit
    | _ => false
  | "%YAML" :: _ => false
  | _ => true

/-- Goes on past the directives before a document; whether there are any. -/
def directives : Nat → Reading Bool
  | 0 => failure
  | n + 1 => do
    let _ ← gap
    let p ← get
    if p.column == 0 && p.next? == some '%' then
      let line := p.rest.takeWhile fun c => !isBreak c
      need (isGoodDirective line)
      skip line.length
      let _ ← directives n
      return true
    else return false

/-- The only document of a text, if it has one. -/
def document : Reading (Option Node) := do
  let n := 8 * (← get).rest.length + 16
  let directed ← directives n
  if (← get).atEnd && !directed then return none
  let marked := (← get).atClose && (← get).next? == some '-'
  need (marked || !directed && !(← get).atClose)
  if marked then skip 3
  let node ← blockNode (-1) (!marked) false {} n
  closings n
  need (← get).atEnd
  return some node

end Reading

/-- Whether a character may stand in a document at all. -/
def isAllowed (c : Char) : Bool :=
  let n := c.toNat
  n == 0x9 || n == 0xA || (0x20 ≤ n && n ≤ 0x7E) || n == 0x85 || (0xA0 ≤ n && n ≤ 0xFFFD) ||
    0x10000 ≤ n

/-- The only document of a text, if it has one; none for a text that breaks the rules. -/
def nodeOf? (cs : List Char) : Option (Option Node) :=
  let cs := if cs.head? == some '\ufeff' then cs.drop 1 else cs
  if cs.all isAllowed then (Reading.document.run { rest := cs }).map Prod.fst else none

/-- **An empty text has no document.** -/
theorem nodeOf?_nil : nodeOf? [] = some none := by rfl

end Yaml
end Document
end CommandGrammar
