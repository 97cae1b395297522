/-
# Matching a pattern

A backtracking matcher in continuation style.  `run x k p` asks whether the pattern `x` matches at
the place `p` so that `k` accepts the place after it, and gives the end of the whole match; the
alternatives of `x` are tried in order until `k` accepts.  The recursion is on the pattern.  A
loop counts its rounds, and a further round is not begun where the round before it began, so the
characters left bound the rounds of a loop without bound.

Captures are kept with the place and are undone by backtracking with it.
-/

import CommandGrammar.Pattern.Syntax

namespace CommandGrammar
namespace Pattern

/-- A place in a text, with what the groups have captured so far. -/
structure Place where
  /-- The characters before the place, the nearest first. -/
  before : List Char
  /-- The characters after the place. -/
  after : List Char
  /-- What the groups have captured, the latest first. -/
  captures : List (Nat × List Char)

namespace Place

/-- The start of a text. -/
def start (s : String) : Place := ⟨[], s.toList, []⟩

/-- How many characters are before the place. -/
def offset (p : Place) : Nat := p.before.length

/-- The place after the next character. -/
def forward? (p : Place) : Option (Char × Place) :=
  match p.after with
  | [] => none
  | c :: rest => some (c, { p with before := c :: p.before, after := rest })

/-- The place `n` characters before. -/
def back? (p : Place) : Nat → Option Place
  | 0 => some p
  | n + 1 =>
    match p.before with
    | [] => none
    | c :: rest => back? { p with before := rest, after := c :: p.after } n

/-- Whether a word character is next to the place, on the side of the given characters. -/
def wordBeside (ascii : Bool) : List Char → Bool
  | [] => false
  | c :: _ => Category.word.has ascii c.toNat

/-- The place after the text `expected`, if it stands here. -/
def skip? (folding : Folding) (p : Place) : List Char → Option Place
  | [] => some p
  | e :: rest =>
    match p.after with
    | [] => none
    | c :: more =>
      if folding.lower e.toNat == folding.lower c.toNat then
        skip? folding { p with before := c :: p.before, after := more } rest
      else none

/-- The place with a group's capture added: the characters read since another place. -/
def remember (p : Place) (n : Nat) (since : Place) : Place :=
  let text := (p.before.take (p.offset - since.offset)).reverse
  { p with captures := (n, text) :: p.captures }

end Place

/-- Whether an anchor holds at a place. -/
def Anchor.holds (p : Place) : Anchor → Bool
  | .start lines => p.before.isEmpty || (lines && p.before.head? == some '\n')
  | .stop lines =>
    p.after.isEmpty || p.after == ['\n'] || (lines && p.after.head? == some '\n')
  | .textEnd => p.after.isEmpty
  | .boundary negated ascii =>
    !(p.before.isEmpty && p.after.isEmpty) &&
      ((Place.wordBeside ascii p.before != Place.wordBeside ascii p.after) != negated)

/-- What is done with the place after a match: the end of the whole match, if there is one. -/
abbrev Continuation := Place → Option Place

/-- Exactly `n` rounds of `body`. -/
def rounds (body : Continuation → Continuation) (k : Continuation) : Nat → Continuation
  | 0, p => k p
  | n + 1, p => body (rounds body k n) p

/-- At most `n` rounds of `body`, as many as possible first; `last` is where the round before
began. -/
def greedyRounds (body : Continuation → Continuation) (k : Continuation) :
    Nat → Option Nat → Continuation
  | 0, _, p => k p
  | n + 1, last, p =>
    if last = some p.offset then k p
    else (body (greedyRounds body k n (some p.offset)) p).orElse fun _ => k p

/-- At most `n` rounds of `body`, as few as possible first. -/
def lazyRounds (body : Continuation → Continuation) (k : Continuation) :
    Nat → Option Nat → Continuation
  | 0, _, p => k p
  | n + 1, last, p =>
    (k p).orElse fun _ =>
      if last = some p.offset then none else body (lazyRounds body k n (some p.offset)) p

/-- As many single rounds as possible, at most `n`, none of them taken back. -/
def firmRounds (once : Continuation) : Nat → Option Nat → Place → Place
  | 0, _, p => p
  | n + 1, last, p =>
    if last = some p.offset then p
    else
      match once p with
      | some q => firmRounds once n (some p.offset) q
      | none => p

/-- How many optional rounds a loop may need at a place: one for each character ahead, one that
reads nothing, and no more than the loop allows. -/
def spareRounds (low : Nat) (high : Option Nat) (p : Place) : Nat :=
  match high with
  | some h => min (h - low) (p.after.length + 2)
  | none => p.after.length + 2

/-- Matches a pattern at a place so that the continuation accepts the place after it. -/
def run : Node → Continuation → Continuation
  | .empty, k, p => k p
  | .unit u, k, p =>
    match p.forward? with
    | some (c, q) => if u.has c then k q else none
    | none => none
  | .anchor a, k, p => if a.holds p then k p else none
  | .seq x y, k, p => run x (run y k) p
  | .alt x y, k, p => (run x k p).orElse fun _ => run y k p
  | .group x, k, p => run x k p
  | .capture n x, k, p => run x (fun q => k (q.remember n p)) p
  | .loop .greedy low high x, k, p =>
    rounds (run x) (greedyRounds (run x) k (spareRounds low high p) none) low p
  | .loop .lazy low high x, k, p =>
    rounds (run x) (lazyRounds (run x) k (spareRounds low high p) none) low p
  | .loop .possessive low high x, k, p =>
    match rounds (fun k q => (run x some q).bind k) some low p with
    | some q => k (firmRounds (run x some) (spareRounds low high q) none q)
    | none => none
  | .atomic x, k, p => (run x some p).bind k
  | .ahead true x, k, p =>
    match run x some p with
    | some q => k { p with captures := q.captures }
    | none => none
  | .ahead false x, k, p => if (run x some p).isSome then none else k p
  | .behind true width x, k, p =>
    match (p.back? width).bind (run x some) with
    | some q => k { p with captures := q.captures }
    | none => none
  | .behind false width x, k, p =>
    if ((p.back? width).bind (run x some)).isSome then none else k p
  | .reference n folding, k, p =>
    match p.captures.lookup n with
    | some text => (p.skip? folding text).bind k
    | none => none
  | .conditional n yes no, k, p =>
    if (p.captures.lookup n).isSome then run yes k p else run no k p

/-- Whether a pattern matches at the start of a text. -/
def Node.matchesAtStart (x : Node) (text : String) : Bool := (run x some (Place.start text)).isSome

/-- **The empty pattern matches at the start of every text.** -/
theorem matchesAtStart_empty (text : String) : Node.empty.matchesAtStart text = true := rfl

/-- **A choice matches where one of its branches does.** -/
theorem matchesAtStart_alt (x y : Node) (text : String) :
    (Node.alt x y).matchesAtStart text = (x.matchesAtStart text || y.matchesAtStart text) := by
  simp only [Node.matchesAtStart, run]
  cases run x some (Place.start text) <;> simp

end Pattern
end CommandGrammar
