/-
# Reading a pattern

The written form of regular expressions.  Reading ends in a tree, in `malformed` (the text is not a
pattern), or in a fault that is not about the form (`TokenFault`): then there is no telling whether
the text is a pattern.

Case is ignored and all scripts have letters, unless a group `(?flags:…)` says otherwise; flags for
the whole pattern may stand at the very start only, where the anchor stands, so there are none.

| written | reading |
| --- | --- |
| `x*` `x+` `x?` `x{m,n}` | loops; `?` after them makes them lazy, `+` possessive |
| `{` that opens no count | the brace itself |
| `[…]` | a set; `]` as the first item and `-` at an end stand for themselves |
| `\N{…}` | the character of that name |
| `(…)` `(?:…)` `(?P<n>…)` `(?>…)` | groups |
| `(?=…)` `(?!…)` `(?<=…)` `(?<!…)` | what stands around |
| `(?(n)…|…)` `(?P=n)` `\n` | references to groups |
| `(?#…)` | a comment |
-/

import CommandGrammar.Host
import CommandGrammar.Number.Numeral
import CommandGrammar.Pattern.Syntax
import CommandGrammar.Text.Identifier

namespace CommandGrammar
namespace Pattern

open Text

/-- Why a token cannot be made into a pattern at all. -/
inductive TokenFault
  /-- A repeat count is beyond the limit. -/
  | countTooLarge
  /-- A number has more digits than an integer may have. -/
  | numberTooLong (digits : Nat)
  /-- A code point is beyond the integers of the machine. -/
  | codeTooLarge
  /-- Groups are nested deeper than the stack. -/
  | nestedTooDeeply
  deriving DecidableEq, Repr

/-- Why a text has no reading as a pattern. -/
inductive ReadFault
  /-- The text is not a pattern. -/
  | malformed
  /-- There is no telling. -/
  | unjudged (f : TokenFault)
  deriving DecidableEq, Repr

/-- The switches of a part of a pattern. -/
structure Switches where
  ignoreCase : Bool := true
  ascii : Bool := false
  lines : Bool := false
  newlines : Bool := false
  verbose : Bool := false
  deriving Repr

/-- How letters are compared under the switches. -/
def Switches.folding (f : Switches) : Folding :=
  if !f.ignoreCase then .exact else if f.ascii then .ascii else .full

/-- The least and greatest number of characters that a pattern matches. -/
abbrev Width := Nat × Nat

/-- The bound on widths. -/
def maxWidth : Nat := Nat.pow 2 64

/-- The least repeat count that is refused, and the greatest width of a look behind. -/
def maxCount : Nat := 4294967295

/-- What is known of the groups while a pattern is read. -/
structure Groups where
  /-- How many groups are opened, the whole pattern included. -/
  count : Nat := 1
  /-- The closed groups with their widths. -/
  closed : List (Nat × Width) := []
  /-- The names of groups. -/
  names : List (String × Nat) := []
  /-- How many groups were open when the outermost look behind began. -/
  behindFrom : Option Nat := none
  /-- The groups that conditions ask about. -/
  asked : List Nat := []
  /-- Whether a look behind has no fixed width, or too great a one. -/
  loose : Bool := false

/-- What a reading step gives: what it has read, the pieces left, and what is known of the
groups. -/
abbrev Taken (α : Type) := α × List Piece × Groups

/-- Whether a reference to a group is allowed here. -/
def Groups.mayRefer (g : Groups) (n : Nat) : Bool :=
  match g.behindFrom with
  | none => true
  | some b => (g.closed.lookup n).isSome && n < b

/-- The width of a pattern. -/
def Node.width (g : Groups) : Node → Width
  | .empty | .anchor _ | .ahead _ _ | .behind _ _ _ => (0, 0)
  | .unit _ => (1, 1)
  | .seq x y =>
    let (a, b) := x.width g
    let (c, d) := y.width g
    (min (a + c) maxWidth, min (b + d) maxWidth)
  | .alt x y =>
    let (a, b) := x.width g
    let (c, d) := y.width g
    (min a c, max b d)
  | .group x | .capture _ x | .atomic x => x.width g
  | .loop _ low high x =>
    let (a, b) := x.width g
    let most :=
      match high with
      | some h => b * h
      | none => if b = 0 then 0 else maxWidth
    (min (a * low) maxWidth, min most maxWidth)
  | .reference n _ => (g.closed.lookup n).getD (0, 0)
  | .conditional _ x y =>
    let (a, b) := x.width g
    let (c, d) := y.width g
    (min a c, max b d)

/-- A literal character. -/
def literal (f : Switches) (n : Nat) : Node := .unit (.oneOf false [.code n] f.folding)

/-- The value of a hexadecimal digit. -/
def hexValue? (c : Char) : Option Nat :=
  if '0' ≤ c ∧ c ≤ '9' then some (c.toNat - 48)
  else if 'a' ≤ c ∧ c ≤ 'f' then some (c.toNat - 87)
  else if 'A' ≤ c ∧ c ≤ 'F' then some (c.toNat - 55)
  else none

/-- Whether a character is an ASCII digit. -/
def isAsciiDigit (c : Char) : Bool := '0' ≤ c && c ≤ '9'

/-- Whether a character is an octal digit. -/
def isOctalDigit (c : Char) : Bool := '0' ≤ c && c ≤ '7'

/-- Whether a character is an ASCII letter. -/
def isAsciiLetter (c : Char) : Bool := ('a' ≤ c && c ≤ 'z') || ('A' ≤ c && c ≤ 'Z')

/-- Exactly `n` hexadecimal digits. -/
def hexDigits : Nat → Nat → List Piece → Except ReadFault (Nat × List Piece)
  | 0, value, rest => .ok (value, rest)
  | n + 1, value, .plain c :: rest =>
    match hexValue? c with
    | some d => hexDigits n (16 * value + d) rest
    | none => .error .malformed
  | _ + 1, _, _ => .error .malformed

/-- At most `n` octal digits. -/
def octalDigits : Nat → Nat → List Piece → Nat × List Piece
  | n + 1, value, .plain c :: rest =>
    if isOctalDigit c then octalDigits n (8 * value + (c.toNat - 48)) rest
    else (value, .plain c :: rest)
  | _, value, rest => (value, rest)

/-- The characters that a letter after a backslash stands for. -/
def namedEscape? : Char → Option Nat
  | 'a' => some 7
  | 'f' => some 12
  | 'n' => some 10
  | 'r' => some 13
  | 't' => some 9
  | 'v' => some 11
  | '\\' => some 0x5C
  | _ => none

/-- The classes that a letter after a backslash stands for, and whether it stands for the rest. -/
def categoryEscape? : Char → Option (Category × Bool)
  | 'd' => some (.digit, false)
  | 'D' => some (.digit, true)
  | 's' => some (.blank, false)
  | 'S' => some (.blank, true)
  | 'w' => some (.word, false)
  | 'W' => some (.word, true)
  | _ => none

/-- The bound on code points. -/
def codeBound : Nat := 0x110000

/-- The bound on the integers of the machine, which no code point that is looked up may reach. -/
def machineBound : Nat := Nat.pow 2 31

/-- The code point that eight hexadecimal digits write. -/
def longCode (rest : List Piece) : Except ReadFault (Nat × List Piece) := do
  let (n, more) ← hexDigits 8 0 rest
  if n < codeBound then return (n, more)
  else if n < machineBound then throw .malformed
  else throw (.unjudged .codeTooLarge)

/-- The pieces up to a closing character, as a text. -/
def nameUntil (closing : Char) : List Piece → Except ReadFault (String × List Piece)
  | .plain c :: rest =>
    if c = closing then .ok ("", rest)
    else (nameUntil closing rest).map fun r => (String.ofList [c] ++ r.1, r.2)
  | .escape c :: rest =>
    (nameUntil closing rest).map fun r => (String.ofList ['\\', c] ++ r.1, r.2)
  | _ => .error .malformed

variable (h : Host)

/-- The code point of the character whose name stands in braces. -/
def namedCode : List Piece → Except ReadFault (Nat × List Piece)
  | .plain '\x7b' :: rest => do
    let (name, more) ← nameUntil '\x7d' rest
    match if name.isEmpty then none else h.named? name with
    | some c => return (c.toNat, more)
    | none => throw .malformed
  | _ => .error .malformed

/-- The code point of an escape that is no class, no anchor and no reference. -/
def plainEscape (c : Char) (rest : List Piece) : Except ReadFault (Nat × List Piece) :=
  if c = 'x' then hexDigits 2 0 rest
  else if c = 'u' then hexDigits 4 0 rest
  else if c = 'U' then longCode rest
  else if c = 'N' then namedCode h rest
  else if isAsciiLetter c then .error .malformed
  else .ok (c.toNat, rest)

/-- An escape in a set. -/
def setEscape (f : Switches) (c : Char) (rest : List Piece) :
    Except ReadFault (SetItem × List Piece) :=
  match namedEscape? c, categoryEscape? c with
  | some n, _ => .ok (.code n, rest)
  | none, some (category, negated) => .ok (.category category negated f.ascii, rest)
  | none, none =>
    if c = 'b' then .ok (.code 8, rest)
    else if isOctalDigit c then
      let (n, more) := octalDigits 2 (c.toNat - 48) rest
      if n > 0o377 then .error .malformed else .ok (.code n, more)
    else if isAsciiDigit c then .error .malformed
    else (plainEscape h c rest).map fun r => (.code r.1, r.2)

/-- The anchor that a letter after a backslash stands for. -/
def anchorEscape? (f : Switches) : Char → Option Anchor
  | 'A' => some (.start false)
  | 'Z' => some .textEnd
  | 'b' => some (.boundary false f.ascii)
  | 'B' => some (.boundary true f.ascii)
  | _ => none

/-- A reference to a group. -/
def referTo (f : Switches) (g : Groups) (n : Nat) (rest : List Piece) :
    Except ReadFault (Taken Node) :=
  if n < g.count ∧ (g.closed.lookup n).isSome ∧ g.mayRefer n then
    .ok (.reference n f.folding, rest, g)
  else .error .malformed

/-- An escape that begins with a digit: a code point in octal, or a reference. -/
def digitEscape (f : Switches) (g : Groups) (c : Char) (rest : List Piece) :
    Except ReadFault (Taken Node) :=
  let first := c.toNat - 48
  match rest with
  | .plain d :: more =>
    if isAsciiDigit d then
      let second := d.toNat - 48
      match more with
      | .plain e :: last =>
        if isOctalDigit c ∧ isOctalDigit d ∧ isOctalDigit e then
          let n := 64 * first + 8 * second + (e.toNat - 48)
          if n > 0o377 then .error .malformed else .ok (literal f n, last, g)
        else referTo f g (10 * first + second) more
      | _ => referTo f g (10 * first + second) more
    else referTo f g first rest
  | _ => referTo f g first rest

/-- An escape outside sets. -/
def escape (f : Switches) (g : Groups) (c : Char) (rest : List Piece) :
    Except ReadFault (Taken Node) :=
  match anchorEscape? f c, categoryEscape? c, namedEscape? c with
  | some a, _, _ => .ok (.anchor a, rest, g)
  | none, some (category, negated), _ =>
    .ok (.unit (.oneOf false [.category category negated f.ascii] f.folding), rest, g)
  | none, none, some n => .ok (literal f n, rest, g)
  | none, none, none =>
    if c = '0' then
      let (n, more) := octalDigits 2 0 rest
      .ok (literal f n, more, g)
    else if isAsciiDigit c then digitEscape f g c rest
    else (plainEscape h c rest).map fun r => (literal f r.1, r.2, g)

/-- One end of a possible range. -/
def setCode (f : Switches) : Piece → List Piece → Except ReadFault (SetItem × List Piece)
  | .escape c, rest => setEscape h f c rest
  | .plain c, rest => .ok (.code c.toNat, rest)
  | _, _ => .error .malformed

/-- The items of a set up to its closing bracket; `items` are those already read, reversed. -/
def setItems (f : Switches) : Nat → List SetItem → List Piece →
    Except ReadFault (List SetItem × List Piece)
  | 0, _, _ => .error .malformed
  | _ + 1, _, [] => .error .malformed
  | fuel + 1, items, p :: rest => do
    if p = .plain ']' ∧ !items.isEmpty then return (items.reverse, rest)
    let (low, rest) ← setCode h f p rest
    match rest with
    | .plain '-' :: .plain ']' :: more => return ((.code 0x2D :: low :: items).reverse, more)
    | .plain '-' :: q :: more =>
      let (high, more) ← setCode h f q more
      match low, high with
      | .code a, .code b =>
        if b < a then throw .malformed else setItems f fuel (.range a b :: items) more
      | _, _ => throw .malformed
    | [.plain '-'] => throw .malformed
    | _ => setItems f fuel (low :: items) rest

/-- A set after its opening bracket. -/
def bracketSet (f : Switches) (g : Groups) (rest : List Piece) : Except ReadFault (Taken Node) := do
  let (negated, rest) :=
    match rest with
    | .plain '^' :: more => (true, more)
    | _ => (false, rest)
  let (items, rest) ← setItems h f (rest.length + 1) [] rest
  return (.unit (.oneOf negated items f.folding), rest, g)

/-- The ASCII digits that pieces begin with. -/
def leadingDigits : List Piece → List Nat × List Piece
  | .plain c :: rest =>
    if isAsciiDigit c then ((c.toNat - 48) :: (leadingDigits rest).1, (leadingDigits rest).2)
    else ([], .plain c :: rest)
  | rest => ([], rest)

/-- A repeat count from its digits. -/
def countOf (ds : List Nat) : Except ReadFault (Option Nat) :=
  if ds.isEmpty then .ok none
  else if ds.length > Numeral.maxDigits then .error (.unjudged (.numberTooLong ds.length))
  else if Numeral.ofDigits ds ≥ maxCount then .error (.unjudged .countTooLarge)
  else .ok (some (Numeral.ofDigits ds))

/-- The counts after an opening brace, if they are counts: the least and the greatest. -/
def braceCounts (rest : List Piece) :
    Except ReadFault (Option (Nat × Option Nat × List Piece)) :=
  if rest.head? = some (.plain '}') then .ok none
  else
    let (low, more) := leadingDigits rest
    let (high, more) :=
      match more with
      | .plain ',' :: after => leadingDigits after
      | _ => (low, more)
    match more with
    | .plain '}' :: after => do
      let least := (← countOf low).getD 0
      let most ← countOf high
      match most with
      | some m => if m < least then throw .malformed else return some (least, some m, after)
      | none => return some (least, none, after)
    | _ => .ok none

/-- A loop over the last item read; `items` are the items read so far, reversed. -/
def loopOver (low : Nat) (high : Option Nat) (items : List Node) (rest : List Piece) :
    Except ReadFault (List Node × List Piece) :=
  match items with
  | [] | .anchor _ :: _ | .loop _ _ _ _ :: _ => .error .malformed
  | x :: before =>
    match rest with
    | .plain '?' :: more => .ok (.loop .lazy low high x :: before, more)
    | .plain '+' :: more => .ok (.loop .possessive low high x :: before, more)
    | _ => .ok (.loop .greedy low high x :: before, rest)

/-- What follows a comment. -/
def afterComment : List Piece → Except ReadFault (List Piece)
  | [] => .error .malformed
  | .plain ')' :: rest => .ok rest
  | _ :: rest => afterComment rest

/-- What follows a line comment. -/
def afterLine : List Piece → List Piece
  | [] => []
  | .plain '\n' :: rest => rest
  | .stuck :: rest => .stuck :: rest
  | _ :: rest => afterLine rest

/-- One switch letter turned on or off; `none` for a letter that is no switch or may not be set. -/
def Switches.set? (f : Switches) (on : Bool) : Char → Option Switches
  | 'i' => some { f with ignoreCase := on }
  | 'm' => some { f with lines := on }
  | 's' => some { f with newlines := on }
  | 'x' => some { f with verbose := on }
  | 'a' => if on then some { f with ascii := true } else none
  | 'u' => if on then some { f with ascii := false } else none
  | _ => none

/-- The switches that letters up to `:` turn off. -/
def switchesOff (on : List Char) (f : Switches) : List Piece →
    Except ReadFault (Switches × List Piece)
  | .plain ':' :: rest => .ok (f, rest)
  | .plain c :: rest =>
    match f.set? false c with
    | some f' => if on.contains c then .error .malformed else switchesOff on f' rest
    | none => .error .malformed
  | _ => .error .malformed

/-- The switches of a group up to its `:`; `on` are the letters turned on so far. -/
def switchesOn (on : List Char) (f : Switches) : List Piece →
    Except ReadFault (Switches × List Piece)
  | .plain ':' :: rest => if on.isEmpty then .error .malformed else .ok (f, rest)
  | .plain '-' :: rest =>
    if rest.head? = some (.plain ':') then .error .malformed else switchesOff on f rest
  | .plain c :: rest =>
    let clash := (c == 'a' && on.contains 'u') || (c == 'u' && on.contains 'a')
    match f.set? true c with
    | some f' => if clash then .error .malformed else switchesOn (c :: on) f' rest
    | none => .error .malformed
  | _ => .error .malformed

/-- The group number that a condition asks about. -/
def conditionGroup (g : Groups) (name : String) : Except ReadFault (Nat × Groups) :=
  if isIdentifier name then
    match g.names.lookup name with
    | some n => .ok (n, g)
    | none => .error .malformed
  else
    match Numeral.readInteger name with
    | .ok n =>
      if 0 < n ∧ n < 1073741823 then .ok (n.toNat, { g with asked := n.toNat :: g.asked })
      else .error .malformed
    | .error _ => .error .malformed

/-- Items in a row, given reversed. -/
def rowOf (items : List Node) : Node :=
  items.foldl (fun row x => match row with
    | .empty => x
    | row => .seq x row) .empty

/-- What follows the closing parenthesis. -/
def closing : List Piece → Except ReadFault (List Piece)
  | .plain ')' :: rest => .ok rest
  | _ => .error .malformed

/-- What a group's opening says about it. -/
inductive Opening
  /-- A remembered group. -/
  | capture
  | plain (f : Switches)
  | atomic
  | look (ahead positive : Bool)
  | conditional (n : Nat)
  /-- The construct is complete: nothing, or a reference. -/
  | done (x : Option Node)

/-- The opening of a group, after its parenthesis. -/
def opening (f : Switches) (g : Groups) : List Piece → Except ReadFault (Taken Opening)
  | .plain '?' :: rest =>
    match rest with
    | .plain 'P' :: .plain '<' :: more => do
      let (name, more) ← nameUntil '>' more
      if !isIdentifier name ∨ (g.names.lookup name).isSome then throw .malformed
      return (.capture, more, { g with names := (name, g.count) :: g.names })
    | .plain 'P' :: .plain '=' :: more => do
      let (name, more) ← nameUntil ')' more
      match g.names.lookup name with
      | some n =>
        let (x, more, g) ← referTo f g n more
        return (.done (some x), more, g)
      | none => throw .malformed
    | .plain ':' :: more => .ok (.plain f, more, g)
    | .plain '#' :: more => do
      let more ← afterComment more
      return (.done none, more, g)
    | .plain '=' :: more => .ok (.look true true, more, g)
    | .plain '!' :: more => .ok (.look true false, more, g)
    | .plain '<' :: .plain '=' :: more => .ok (.look false true, more, g)
    | .plain '<' :: .plain '!' :: more => .ok (.look false false, more, g)
    | .plain '(' :: more => do
      let (name, more) ← nameUntil ')' more
      let (n, g) ← conditionGroup g name
      if !g.mayRefer n then throw .malformed
      return (.conditional n, more, g)
    | .plain '>' :: more => .ok (.atomic, more, g)
    | _ => do
      let (f, more) ← switchesOn [] f rest
      return (.plain f, more, g)
  | rest => .ok (.capture, rest, g)

mutual

/-- Alternatives, up to the end or a closing parenthesis. -/
def alternatives (fuel : Nat) (f : Switches) (g : Groups) (rest : List Piece) :
    Except ReadFault (Taken Node) :=
  match fuel with
  | 0 => .error .malformed
  | fuel + 1 => do
    let (items, rest, g) ← row fuel f g [] rest
    match rest with
    | .plain '|' :: more =>
      let (others, rest, g) ← alternatives fuel f g more
      return (.alt (rowOf items) others, rest, g)
    | _ => return (rowOf items, rest, g)

/-- A row of items, up to the end, a bar or a closing parenthesis; `items` are those already read,
reversed. -/
def row (fuel : Nat) (f : Switches) (g : Groups) (items : List Node) (rest : List Piece) :
    Except ReadFault (Taken (List Node)) :=
  match fuel with
  | 0 => .error .malformed
  | fuel + 1 =>
    match rest with
    | [] => .ok (items, [], g)
    | .dangling :: _ | .stuck :: _ => .error .malformed
    | .escape c :: more => do
      let (x, more, g) ← escape h f g c more
      row fuel f g (x :: items) more
    | .plain c :: more =>
      if c = '|' ∨ c = ')' then .ok (items, rest, g)
      else if f.verbose ∧ (c = ' ' ∨ (9 ≤ c.toNat ∧ c.toNat ≤ 13)) then row fuel f g items more
      else if f.verbose ∧ c = '#' then row fuel f g items (afterLine more)
      else if c = '.' then row fuel f g (.unit (.any f.newlines) :: items) more
      else if c = '^' then row fuel f g (.anchor (.start f.lines) :: items) more
      else if c = '$' then row fuel f g (.anchor (.stop f.lines) :: items) more
      else if c = '[' then do
        let (x, more, g) ← bracketSet h f g more
        row fuel f g (x :: items) more
      else if c = '*' then do
        let (items, more) ← loopOver 0 none items more
        row fuel f g items more
      else if c = '+' then do
        let (items, more) ← loopOver 1 none items more
        row fuel f g items more
      else if c = '?' then do
        let (items, more) ← loopOver 0 (some 1) items more
        row fuel f g items more
      else if c = '\x7b' then do
        match ← braceCounts more with
        | some (low, high, after) =>
          let (items, after) ← loopOver low high items after
          row fuel f g items after
        | none => row fuel f g (literal f c.toNat :: items) more
      else if c = '(' then do
        let (x, more, g) ← parenthesis fuel f g more
        match x with
        | some x => row fuel f g (x :: items) more
        | none => row fuel f g items more
      else row fuel f g (literal f c.toNat :: items) more

/-- A group after its opening parenthesis. -/
def parenthesis (fuel : Nat) (f : Switches) (g : Groups) (rest : List Piece) :
    Except ReadFault (Taken (Option Node)) :=
  match fuel with
  | 0 => .error .malformed
  | fuel + 1 => do
    let (kind, rest, g) ← opening f g rest
    match kind with
    | .done x => return (x, rest, g)
    | .capture =>
      let n := g.count
      let (x, rest, g) ← alternatives fuel f { g with count := n + 1 } rest
      let rest ← closing rest
      return (some (.capture n x), rest, { g with closed := (n, x.width g) :: g.closed })
    | .plain inner =>
      let (x, rest, g) ← alternatives fuel inner g rest
      return (some (.group x), ← closing rest, g)
    | .atomic =>
      let (x, rest, g) ← alternatives fuel f g rest
      return (some (.atomic x), ← closing rest, g)
    | .look true positive =>
      let (x, rest, g) ← alternatives fuel f g rest
      return (some (.ahead positive x), ← closing rest, g)
    | .look false positive =>
      let outer := g.behindFrom
      let (x, rest, g) ←
        alternatives fuel f { g with behindFrom := some (outer.getD g.count) } rest
      let (low, high) := x.width g
      let loose := g.loose || low != high || maxCount < low
      return (some (.behind positive low x), ← closing rest, { g with behindFrom := outer, loose })
    | .conditional n =>
      let (yes, rest, g) ← row fuel f g [] rest
      match rest with
      | .plain '|' :: more =>
        let (no, rest, g) ← row fuel f g [] more
        return (some (.conditional n (rowOf yes) (rowOf no)), ← closing rest, g)
      | _ => return (some (.conditional n (rowOf yes) .empty), ← closing rest, g)

end

/-- Reads a written pattern. -/
def read (s : String) : Except ReadFault Node :=
  if h.bears s then do
    let ps := pieces s.toList
    let (x, rest, g) ← alternatives h (4 * ps.length + 4) {} {} ps
    if !rest.isEmpty ∨ g.loose ∨ g.asked.any (· ≥ g.count) then throw .malformed
    return x
  else .error (.unjudged .nestedTooDeeply)

end Pattern
end CommandGrammar
