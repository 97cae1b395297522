/-
# Selecting candidates by a token

A token selects candidates as a pattern anchored at their start, ignoring case, so a plain word
selects what it begins.  A token that is no pattern selects what begins with its characters.  A
candidate that equals the token but for case is selected alone.

| token | candidates | selected |
| --- | --- | --- |
| `fo` | `foo`, `foobar`, `bar` | `foo`, `foobar` |
| `foo` | `foo`, `foobar` | `foo` |
| `.*bar` | `foo`, `foobar` | `foobar` |
| `foo(` | `foo(1)`, `foo` | `foo(1)` |
-/

import CommandGrammar.Pattern.Matcher
import CommandGrammar.Pattern.Reader

namespace CommandGrammar
namespace Pattern

open Text

/-- A pattern made from a token: its written form, and its reading. -/
structure Anchored where
  /-- The written form; it begins with `^`. -/
  text : String
  /-- The reading of the written form. -/
  node : Node

/-- The characters that are escaped in a literal pattern. -/
def specials : List Char :=
  ['(', ')', '[', ']', '\x7b', '\x7d', '?', '*', '+', '-', '|', '^', '$', '\\', '.', '&', '~', '#',
    ' ', '\t', '\n', '\r', '\x0b', '\x0c']

/-- A text as a pattern that matches it literally. -/
def escaped (cs : List Char) : List Char :=
  cs.flatMap fun c => if specials.contains c then ['\\', c] else [c]

/-- The pattern of a row of literal characters. -/
def literals : List Char → Node
  | [] => .empty
  | c :: rest => .seq (literal {} c.toNat) (literals rest)

/-- The pattern that matches what begins with a text. -/
def beginsWith (token : String) : Anchored :=
  ⟨String.ofList ('^' :: escaped token.toList),
    .seq (.anchor (.start false)) (literals token.toList)⟩

/-- The written form of a token's pattern. -/
def anchoredText (token : String) : String :=
  if token.toList.head? = some '^' then token else "^" ++ token

/-- The pattern of a token: its own reading, anchored, or its characters if it has none. -/
def ofToken (h : Host) (token : String) : Except TokenFault Anchored :=
  match read h (anchoredText token) with
  | .ok node => .ok ⟨anchoredText token, node⟩
  | .error .malformed => .ok (beginsWith token)
  | .error (.unjudged f) => .error f

/-- The candidates that a pattern matches, in order. -/
def Anchored.filter (p : Anchored) (candidates : List String) : List String :=
  candidates.filter p.node.matchesAtStart

/-- The candidates that a token selects: the first that equals it but for case, or else all that its
pattern matches, in order. -/
def select (h : Host) (token : String) (candidates : List String) :
    Except TokenFault (List String) :=
  match candidates.find? fun c => lowercase c == lowercase token with
  | some c => .ok [c]
  | none => (ofToken h token).map fun p => p.filter candidates

/-- **Only candidates are selected.** -/
theorem mem_of_mem_select {h : Host} {token : String} {candidates chosen : List String}
    (hselect : select h token candidates = .ok chosen) {c : String} (hc : c ∈ chosen) :
    c ∈ candidates := by
  unfold select at hselect
  split at hselect
  · rename_i d hd
    simp only [Except.ok.injEq] at hselect
    subst hselect
    simp only [List.mem_singleton] at hc
    exact hc ▸ List.mem_of_find?_eq_some hd
  · cases hp : ofToken h token with
    | error e => simp [hp, Except.map] at hselect
    | ok p =>
      simp only [hp, Except.map, Except.ok.injEq] at hselect
      subst hselect
      exact (List.mem_filter.1 hc).1

end Pattern
end CommandGrammar
