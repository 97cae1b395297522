/-
# Documents in TOML

The data of a document.  A document is a mapping; a line gives a key its value, or opens the table
that the lines after it belong to.

| line | meaning |
| --- | --- |
| `a.b = v` | in the open table, under `a`, the value of `b` |
| `[a.b]` | opens the table `b` of the table `a`; once for each table |
| `[[a.b]]` | adds a table to the list `b` of the table `a`, and opens it |

Values are texts between quotes, numbers, `true` and `false`, dates and times, lists whose items
are of one kind, and mappings between braces.  A key is given a value once.
-/

import CommandGrammar.Datum
import CommandGrammar.Document.Fault
import CommandGrammar.Document.Stamp
import CommandGrammar.Text.Hex
import CommandGrammar.Text.Word

namespace CommandGrammar
namespace Document
namespace Toml

open Text Stamp

/-- Keys with what stands under them. -/
abbrev Entries := List (Datum × Datum)

/-! ## Tables -/

/-- The entries with the table at a path changed; tables on the way that are missing are made.  On
the way through a list, its last table is meant. -/
def within (change : Entries → Option Entries) : List String → Entries → Option Entries
  | [], es => change es
  | k :: path, es => do
    let value ← match Datum.field? k es with
      | none => some (Datum.mapping (← within change path []))
      | some (.mapping inner) => some (.mapping (← within change path inner))
      | some (.list ds) =>
        match ds.getLast? with
        | some (.mapping inner) =>
          some (.list (ds.dropLast ++ [.mapping (← within change path inner)]))
        | _ => none
      | some _ => none
    return Datum.assign (.text k) value es

/-- The entries with a value for a key at a path that has none. -/
def define (path : List String) (key : String) (value : Datum) : Entries → Option Entries :=
  within (fun es =>
    if (Datum.field? key es).isSome then none else some (es ++ [(.text key, value)]))
    path

/-- What has been read of a document. -/
structure Draft where
  entries : Entries := []
  /-- The path of the open table. -/
  table : List String := []
  /-- The paths of tables that were only made on the way to others. -/
  implied : List (List String) := []

namespace Draft

/-- Whether there is something at a path. -/
def has (path : List String) (es : Entries) : Bool :=
  match path.getLast? with
  | none => true
  | some key =>
    (within (fun es => if (Datum.field? key es).isSome then some es else none)
      path.dropLast es).isSome

/-- The paths on the way to another one that lead nowhere yet. -/
def missing (es : Entries) (path : List String) : List (List String) :=
  (((List.range path.length).drop 1).map path.take).filter fun p => !has p es

/-- Gives a key a value in the open table. -/
def put (d : Draft) (key : List String) (value : Datum) : Option Draft := do
  let last ← key.getLast?
  return { d with entries := ← define (d.table ++ key.dropLast) last value d.entries }

/-- Opens a table. -/
def openTable (d : Draft) (path : List String) : Option Draft := do
  let last ← path.getLast?
  let implied := d.implied ++ missing d.entries path
  if d.implied.contains path then
    return { d with table := path, implied := implied.filter (· != path) }
  else
    return ⟨← define path.dropLast last (.mapping []) d.entries, path, implied⟩

/-- Adds a table to a list of tables, and opens it. -/
def addTable (d : Draft) (path : List String) : Option Draft := do
  let last ← path.getLast?
  let add := fun (es : Entries) =>
    match Datum.field? last es with
    | none => some (es ++ [(Datum.text last, .list [.mapping []])])
    | some (.list ds) => some (Datum.assign (.text last) (.list (ds ++ [.mapping []])) es)
    | some _ => none
  return ⟨← within add path.dropLast d.entries, path, d.implied ++ missing d.entries path⟩

end Draft

/-! ## Reading -/

/-- A reader of some part of a document. -/
abbrev Reading := StateT (List Char) Option

namespace Reading

/-- Fails unless a condition holds. -/
def need (b : Bool) : Reading Unit := if b then pure () else failure

/-- The next character. -/
def next? : Reading (Option Char) := do return (← get).head?

/-- Goes on by some characters. -/
def skip (n : Nat) : Reading Unit := modify fun cs => cs.drop n

/-- Goes on past the blanks of a line. -/
def blanks : Reading Unit := modify fun cs => cs.dropWhile isLineBlank

/-- What follows the blanks, line breaks and comments that a text begins with. -/
def afterGap (inComment : Bool) : List Char → List Char
  | [] => []
  | c :: rest =>
    if c == '\n' then afterGap false rest
    else if inComment || isLineBlank c then afterGap inComment rest
    else if c == '#' then afterGap true rest
    else c :: rest

/-- Goes on past blanks, line breaks and comments. -/
def gap : Reading Unit := modify (afterGap false)

/-- Goes on to the end of the line, where only a comment may stand. -/
def lineEnd : Reading Unit := do
  blanks
  let cs ← get
  need (cs.isEmpty || cs.head? == some '\n' || cs.head? == some '#')
  gap

/-- The characters that have an escape of one letter. -/
def letterEscapes : List (Char × Char) :=
  [('b', '\x08'), ('t', '\t'), ('n', '\n'), ('f', '\x0c'), ('r', '\r'), ('0', '\x00'),
    ('\x22', '\x22'), ('\\', '\\')]

/-- The character with a hexadecimal code. -/
def coded? (digits : List Char) : Option Char := do
  let n ← hexNumber? digits
  if n.isValidChar then some (Char.ofNat n) else none

/-- The characters before those of the rest. -/
def withChars (cs : List Char) (r : Option (List Char × List Char)) :
    Option (List Char × List Char) :=
  r.map fun x => (cs ++ x.1, x.2)

/-- The text up to `count` quotes in a row, escapes read if there are any, and what follows them; a
text over several lines ends with three quotes.  After an escaped line break, `joining`, blanks and
breaks are left out. -/
def quotedText (quote : Char) (count : Nat) (joining : Bool) :
    List Char → Option (List Char × List Char)
  | [] => none
  | '\\' :: 'u' :: a :: b :: c :: d :: rest =>
    if quote == '\x22' then do
      let e ← coded? [a, b, c, d]
      withChars [e] (quotedText quote count false rest)
    else withChars ['\\'] (quotedText quote count false ('u' :: a :: b :: c :: d :: rest))
  | '\\' :: 'U' :: a :: b :: c :: d :: e :: f :: g :: h :: rest =>
    if quote == '\x22' then do
      let x ← coded? [a, b, c, d, e, f, g, h]
      withChars [x] (quotedText quote count false rest)
    else withChars ['\\']
      (quotedText quote count false ('U' :: a :: b :: c :: d :: e :: f :: g :: h :: rest))
  | '\\' :: c :: rest =>
    if quote != '\x22' then withChars ['\\'] (quotedText quote count false (c :: rest))
    else if c == '\n' && count == 3 then quotedText quote count true rest
    else do
      let e ← letterEscapes.lookup c
      withChars [e] (quotedText quote count false rest)
  | c :: rest =>
    if joining && (c == '\n' || isLineBlank c) then quotedText quote count true rest
    else if c == quote && (List.replicate (count - 1) quote).isPrefixOf rest then
      some ([], rest.drop (count - 1))
    else if c == '\n' && count == 1 then none
    else withChars [c] (quotedText quote count false rest)

/-- A text between quotes, over several lines between three of them. -/
def text (quote : Char) : Reading String := do
  skip 1
  let cs ← get
  let long := [quote, quote].isPrefixOf cs
  let start := if long then cs.drop 2 else cs
  let start := if long && start.head? == some '\n' then start.drop 1 else start
  let (s, rest) ← quotedText quote (if long then 3 else 1) false start
  set rest
  return String.ofList s

/-- Whether a character may stand in a key without quotes. -/
def isKeyChar (c : Char) : Bool := isWordChar c || c == '-'

/-- One part of a key. -/
def keyPart : Reading String := do
  blanks
  let cs ← get
  let part ← match cs with
    | '\x22' :: _ => text '\x22'
    | '\x27' :: _ => text '\x27'
    | _ => bareKey
  blanks
  return part
where
  /-- A part without quotes. -/
  bareKey : Reading String := do
    let part := (← get).takeWhile isKeyChar
    skip part.length
    need !part.isEmpty
    return String.ofList part

/-- A key, its parts between points; the number bounds how many there are. -/
def key : Nat → Reading (List String)
  | 0 => failure
  | n + 1 => do
    let part ← keyPart
    if (← next?) == some '.' then
      skip 1
      return part :: (← key n)
    else return [part]

/-! ## Values -/

/-- Whether digits may have underscores between them so. -/
def isSpaced (cs : List Char) : Bool := (cutAt (· == '_') cs).all fun g => !g.isEmpty

/-- The number that digits of a base write, with underscores between them. -/
def based (base : Nat) (ds : List Char) : Option Nat :=
  if isSpaced ds then basedNumber? base (ds.filter (· != '_')) else none

/-- The integer without a sign that a word writes. -/
def natural? : List Char → Option Nat
  | '0' :: 'x' :: ds => based 16 ds
  | '0' :: 'o' :: ds => based 8 ds
  | '0' :: 'b' :: ds => based 2 ds
  | ['0'] => some 0
  | '0' :: _ => none
  | ds => based 10 ds

/-- Whether a word is written as a real number without a sign: digits, and a point with digits after
it, or an exponent, or both. -/
def isReal (cs : List Char) : Bool :=
  let digits := fun (ds : List Char) => isSpaced ds && ds.all fun c => c.isDigit || c == '_'
  let isExponent := fun c : Char => c == 'e' || c == 'E'
  let mantissa := cs.takeWhile fun c => !isExponent c
  let exponent := (cs.dropWhile fun c => !isExponent c).drop 1
  let hasExponent := cs.any isExponent
  let goodExponent := !hasExponent || digits (Numeral.sign exponent).2
  match cutAt (· == '.') mantissa with
  | [whole] => hasExponent && digits whole && goodExponent
  | [whole, places] => digits whole && digits places && goodExponent
  | _ => false

/-- The number that a word writes. -/
def number? (cs : List Char) : Option Datum :=
  let (negative, body) := Numeral.sign cs
  let signed := fun (ds : List Char) => if negative then '-' :: ds else ds
  if isReal body || body == "inf".toList || body == "nan".toList then
    (Binary64.read? (String.ofList (signed (body.filter (· != '_'))))).map .real
  else (natural? body).map fun n => .integer (if negative then -(n : Int) else n)

/-- The date or time that a word writes. -/
def stamp? (cs : List Char) : Option Datum :=
  let shown := String.ofList cs
  match date? 2 cs with
  | some ((y, m, d), rest) =>
    if (dateFault? y m d).isSome then none
    else if rest.isEmpty then some (.other "date" shown)
    else do
      let (hour, minute, second) ← time? 2 (← timePart? rest)
      if (timeFault? hour minute second).isSome then none else some (.other "datetime" shown)
  | none => do
    let (hour, minute, second) ← time? 2 cs
    if (timeFault? hour minute second).isSome then none else some (.other "time" shown)

/-- What a word stands for. -/
def ofWord? (cs : List Char) : Option Datum :=
  if cs == "true".toList then some (.truth true)
  else if cs == "false".toList then some (.truth false)
  else (stamp? cs).or (number? cs)

/-- Whether data are all of one kind. -/
def sameKind : List Datum → Bool
  | [] => true
  | d :: ds => ds.all fun e => e.kindName == d.kindName

mutual

/-- A value. -/
def value : Nat → Reading Datum
  | 0 => failure
  | n + 1 => do
    match ← next? with
    | some '\x22' => return .text (← text '\x22')
    | some '\x27' => return .text (← text '\x27')
    | some '[' => do
      skip 1
      let ds ← items n
      need (sameKind ds)
      return .list ds
    | some '\x7b' => do
      skip 1
      blanks
      if (← next?) == some '\x7d' then
        skip 1
        return .mapping []
      else return .mapping (← fields n [])
    | _ => do
      let word := (← get).takeWhile fun c => !([',', ']', '\x7d', '#', '\n'].contains c)
      skip word.length
      ofWord? (word.reverse.dropWhile isLineBlank).reverse

/-- The items of a list up to its bracket. -/
def items : Nat → Reading (List Datum)
  | 0 => failure
  | n + 1 => do
    gap
    if (← next?) == some ']' then
      skip 1
      return []
    let d ← value n
    gap
    match ← next? with
    | some ',' => do
      skip 1
      return d :: (← items n)
    | some ']' => do
      skip 1
      return [d]
    | _ => failure

/-- The fields of a mapping up to its brace, after those that are given. -/
def fields : Nat → Entries → Reading Entries
  | 0, _ => failure
  | n + 1, es => do
    let k ← key n
    need ((← next?) == some '=')
    skip 1
    blanks
    let d ← value n
    let es ← define k.dropLast (k.getLast?.getD "") d es
    blanks
    match ← next? with
    | some ',' => do
      skip 1
      fields n es
    | some '\x7d' => do
      skip 1
      return es
    | _ => failure

end

/-! ## Lines -/

/-- One line, with its effect on what has been read. -/
def statement (n : Nat) (d : Draft) : Reading Draft := do
  match ← get with
  | '[' :: '[' :: rest => do
    set rest
    let path ← key n
    need ([']', ']'].isPrefixOf (← get))
    skip 2
    lineEnd
    d.addTable path
  | '[' :: rest => do
    set rest
    let path ← key n
    need ((← next?) == some ']')
    skip 1
    lineEnd
    d.openTable path
  | _ => do
    let k ← key n
    need ((← next?) == some '=')
    skip 1
    blanks
    let v ← value n
    lineEnd
    d.put k v

/-- The lines of a document; the number bounds how many there are. -/
def statements (depth : Nat) : Nat → Draft → Reading Draft
  | 0, d => pure d
  | n + 1, d => do
    gap
    if (← get).isEmpty then return d
    else statements depth n (← statement depth d)

end Reading

/-- The data of a text. -/
def read (text : String) : Except Fault Datum :=
  let cs := text.toList
  let n := cs.length + 1
  match (Reading.statements n n {}).run cs with
  | some (d, []) => .ok (.mapping d.entries)
  | _ => .error .malformed

/-- **A value is defined once.** -/
theorem define_of_isSome {key : String} {value : Datum} {es : Entries}
    (h : (Datum.field? key es).isSome) : define [] key value es = none := by
  simp [define, within, h]

end Toml
end Document
end CommandGrammar
