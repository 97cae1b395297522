/-
# Tokens select what they begin

Where a token has no meaning as a pattern, because it has letters, digits and underscores only or
because it is no pattern at all, it selects by its characters, and among ASCII texts that comes to
comparing letters in lowercase (`Text.folded`).

| token | candidates | selected | completed |
| --- | --- | --- | --- |
| `fo` | `foo`, `Foobar`, `bar` | `foo`, `Foobar` | `foo`, `Foobar` |
| `FOO` | `foo`, `Foobar`, `bar` | `foo` | `foo`, `Foobar` |
| `foo(` | `foo(1)`, `foo` | `foo(1)` | `foo(1)` |

Patterns compare letters by their classes (`Folding.same`), equal texts are found by their lowercase
(`Text.lowercase`); both rules come to the same lowercase on ASCII (`same_of_ascii`,
`lowercase_of_isAscii`).
-/

import CommandGrammar.Host.Usual
import CommandGrammar.Proofs.Patterns.Choosing
import CommandGrammar.Proofs.Patterns.Literals
import Mathlib.Data.List.Find

namespace CommandGrammar

namespace Text

/-- A text of ASCII characters only. -/
def IsAscii (s : String) : Prop := ∀ c ∈ s.toList, c.toNat < 128

instance : DecidablePred IsAscii := fun s =>
  decidable_of_iff (s.toList.all fun c => c.toNat < 128) (by simp [IsAscii])

/-- The characters of a text, the letters of ASCII in lowercase. -/
def folded (s : String) : List Char := s.toList.map Char.toLower

/-- Whether two texts are equal, ignoring the case of ASCII letters. -/
def equalsFolded (s t : String) : Bool := folded s == folded t

/-- Whether a text begins with another, ignoring the case of ASCII letters. -/
def beginsFolded (start s : String) : Bool := (folded start).isPrefixOf (folded s)

/-- **What is true of the first 128 characters is true of ASCII.** -/
theorem of_ascii {P : Char → Prop} (h : ∀ n < 128, P (Char.ofNat n)) {c : Char}
    (hc : c.toNat < 128) : P c := by
  have hP := h c.toNat hc
  rwa [Char.ofNat_toNat] at hP

/-- **The lowercase of a character of ASCII is of ASCII.** -/
theorem toNat_toLower_lt {c : Char} (hc : c.toNat < 128) : c.toLower.toNat < 128 :=
  of_ascii (P := fun c => c.toLower.toNat < 128) (by decide) hc

/-- **For ASCII, both rules have the same lowercase.** -/
theorem lowerPoint_of_ascii {c : Char} (hc : c.toNat < 128) : lowerPoint c = c.toLower :=
  of_ascii (P := fun c => lowerPoint c = c.toLower) (by decide +kernel) hc

/-- **Characters of ASCII are put in lowercase one by one.** -/
theorem lowerFrom_of_ascii : ∀ (cs before : List Char), (∀ c ∈ cs, c.toNat < 128) →
    lowerFrom before cs = cs.map Char.toLower
  | [], _, _ => rfl
  | c :: cs, before, h => by
    have hc := h c List.mem_cons_self
    have hsigma : c ≠ 'Σ' := by rintro rfl; exact absurd hc (by decide)
    have hdotted : c ≠ 'İ' := by rintro rfl; exact absurd hc (by decide)
    rw [lowerFrom, if_neg hsigma, if_neg hdotted, lowerPoint_of_ascii hc,
      lowerFrom_of_ascii cs _ fun d hd => h d (List.mem_cons_of_mem c hd)]
    rfl

/-- **The lowercase of an ASCII text is taken letter by letter.** -/
theorem lowercase_of_isAscii {s : String} (h : IsAscii s) :
    lowercase s = String.ofList (folded s) :=
  congrArg String.ofList (lowerFrom_of_ascii s.toList [] h)

/-- **For ASCII, texts have equal lowercases if they are equal but for case.** -/
theorem lowercase_beq_of_isAscii {s t : String} (hs : IsAscii s) (ht : IsAscii t) :
    (lowercase s == lowercase t) = equalsFolded t s := by
  rw [lowercase_of_isAscii hs, lowercase_of_isAscii ht, equalsFolded, Bool.beq_comm,
    Bool.eq_iff_iff, beq_iff_eq, beq_iff_eq, String.ofList_inj]

end Text

namespace Pattern

open Text

/-- **A pattern folds a character of ASCII to its lowercase.** -/
theorem lower_of_ascii {c : Char} (hc : c.toNat < 128) :
    Folding.full.lower c.toNat = c.toLower.toNat :=
  of_ascii (P := fun c => Folding.full.lower c.toNat = c.toLower.toNat) (by decide +kernel) hc

/-- **A letter of ASCII is alone of its kin there.** -/
theorem contains_kin_of_lt {m n : Nat} (hm : m < 128) (hn : n < 128) :
    (kin m).contains n = (m == n) := by
  have halone : ∀ m < 128, (kin m).filter (· < 128) = [m] := by decide
  have hmem : n ∈ (kin m).filter (· < 128) ↔ n ∈ kin m := by
    rw [List.mem_filter]
    exact and_iff_left (by simpa using hn)
  rw [halone m hm, List.mem_singleton] at hmem
  rw [Bool.eq_iff_iff, List.contains_iff_mem, ← hmem, beq_iff_eq]
  exact eq_comm

/-- **Two characters of ASCII are the same letter if their lowercases are equal.** -/
theorem same_of_ascii {c d : Char} (hc : c.toNat < 128) (hd : d.toNat < 128) :
    Folding.full.same c.toNat d.toNat = (c.toLower == d.toLower) := by
  show (kin (Folding.full.lower c.toNat)).contains (Folding.full.lower d.toNat) = _
  rw [lower_of_ascii hc, lower_of_ascii hd,
    contains_kin_of_lt (toNat_toLower_lt hc) (toNat_toLower_lt hd), Bool.eq_iff_iff, beq_iff_eq,
    beq_iff_eq, Char.toNat_inj]

/-- **Beginning with a text, letter by letter, is beginning with its lowercase** for ASCII. -/
theorem beginsAlike_of_ascii : ∀ {cs ds : List Char}, (∀ c ∈ cs, c.toNat < 128) →
    (∀ d ∈ ds, d.toNat < 128) →
    beginsAlike cs ds = (cs.map Char.toLower).isPrefixOf (ds.map Char.toLower)
  | [], ds, _, _ => by cases ds <;> rfl
  | c :: cs, [], _, _ => rfl
  | c :: cs, d :: ds, hcs, hds => by
    rw [beginsAlike, same_of_ascii (hcs c List.mem_cons_self) (hds d List.mem_cons_self),
      beginsAlike_of_ascii (fun e he => hcs e (List.mem_cons_of_mem c he)) fun e he =>
        hds e (List.mem_cons_of_mem d he)]
    rfl

/-- A token that has no meaning as a pattern: letters, digits and underscores of ASCII, or any
characters of ASCII that are no pattern behind the anchor. -/
inductive IsLiteral (h : Host) (token : String) : Prop
  | word (plain : ∀ c ∈ token.toList, c.isAlphanum = true ∨ c = '_') : IsLiteral h token
  | malformed (ascii : IsAscii token) (unread : read h (anchoredText token) = .error .malformed) :
    IsLiteral h token

namespace IsLiteral

variable {host : Host} {token : String}

/-- **Such a token is of ASCII.** -/
theorem isAscii (h : IsLiteral host token) : IsAscii token := by
  cases h with
  | word plain =>
    intro c hc
    rcases plain c hc with hc | rfl
    · exact toNat_lt_of_isAlphanum hc
    · decide
  | malformed ascii unread => exact ascii

/-- **Such a token is made into a pattern that matches what begins with it.** -/
theorem exists_ofToken (h : IsLiteral host token) : ∃ pattern, ofToken host token = .ok pattern ∧
    ∀ name, pattern.node.matchesAtStart name = beginsAlike token.toList name.toList := by
  cases h with
  | word plain =>
    have hplain : ∀ c ∈ token.toList, c ∉ meaningful := by
      intro c hc hm
      rcases plain c hc with hc | rfl
      · exact Bool.noConfusion (hc.symm.trans (not_isAlphanum_of_mem_meaningful c hm))
      · exact absurd hm (by decide)
    refine ⟨_, ofToken_of_plain fun c hc => .inr (hplain c hc), fun name => ?_⟩
    rw [map_unitOf hplain]
    exact matchesAtStart_row token.toList name
  | malformed ascii unread =>
    refine ⟨beginsWith token, ?_, matchesAtStart_beginsWith token⟩
    unfold ofToken
    rw [unread]

/-- **Of ASCII candidates its pattern matches those that begin with it, ignoring case.** -/
theorem exists_filter (h : IsLiteral host token) {candidates : List String}
    (hascii : ∀ name ∈ candidates, IsAscii name) : ∃ pattern, ofToken host token = .ok pattern ∧
      pattern.filter candidates = candidates.filter (beginsFolded token) := by
  obtain ⟨pattern, hpattern, hmatches⟩ := h.exists_ofToken
  refine ⟨pattern, hpattern, List.filter_congr fun name hname => ?_⟩
  rw [hmatches, beginsAlike_of_ascii h.isAscii (hascii name hname)]
  rfl

end IsLiteral

/-- What a token selects by its characters: the first candidate that equals it, ignoring case, or
else all that begin with it. -/
def selectFolded (token : String) (candidates : List String) : List String :=
  match candidates.find? (equalsFolded token) with
  | some name => [name]
  | none => candidates.filter (beginsFolded token)

/-- **A token without a meaning as a pattern selects by its characters.** -/
theorem select_of_isLiteral {host : Host} {token : String} {candidates : List String}
    (h : IsLiteral host token) (hascii : ∀ name ∈ candidates, IsAscii name) :
    select host token candidates = .ok (selectFolded token candidates) := by
  have hfind : candidates.find? (fun c => lowercase c == lowercase token) =
      candidates.find? (equalsFolded token) :=
    List.find?_congr fun name hname => lowercase_beq_of_isAscii (hascii name hname) h.isAscii
  obtain ⟨pattern, hpattern, hfilter⟩ := h.exists_filter hascii
  unfold select selectFolded
  rw [hfind]
  cases candidates.find? (equalsFolded token) with
  | some name => rfl
  | none =>
    rw [hpattern, ← hfilter]
    rfl

end Pattern

open Pattern Text

/-- **Tokens select what they begin**, on every host.  Let a choice or a selector judge a token of
letters, digits and underscores, or one of ASCII that is no pattern, among ASCII candidates.  The
first candidate that equals the token, ignoring case, is selected alone; otherwise all that begin
with it are, in order.  The values of the selected candidates are bound in this order; a single
value that is nothing is not bound, and of one that is several these are.  That no candidate matches
is reported where the token begins, exactly if nothing is selected.  The same word is completed with
exactly the candidates that begin with it. -/
theorem tokens_select_what_they_begin {o : Occasion} {l : Leaf} {c : Choice} {token : String}
    (hleaf : l.choiceFor? token = some c) (hliteral : IsLiteral o.host token)
    (hascii : ∀ name ∈ c.supply token, IsAscii name) :
    select o.host token (c.supply token) = .ok (selectFolded token (c.supply token)) ∧
    l.Chooses c token (selectFolded token (c.supply token)) o ∧
    (∀ (f : Frame) (p : Progress) (s : TokenStream), p.stream.next = .ok (token, s) →
      ((∃ e, ((Parameter.leaf f l).core o p).result = .error (.failed e) ∧
        e.kind = .noMatchingChoice ∧ e.position = p.stream.position) ↔
        selectFolded token (c.supply token) = [])) ∧
    ∀ p, Leaf.IsTyping p token →
      (l.complete o p).result = .ok ((c.supply token).filter (beginsFolded token)) := by
  have hselect := select_of_isLiteral hliteral hascii
  have hchooses := Leaf.chooses_of_select hleaf hselect
  obtain ⟨pattern, hpattern, hfilter⟩ := hliteral.exists_filter hascii
  refine ⟨hselect, hchooses, fun f p s hnext => hchooses.noMatchingChoice_iff f hnext,
    fun p htyping => ?_⟩
  rw [Leaf.complete_of_choiceFor? o hleaf htyping, ← hfilter]
  exact Leaf.completeChoice_of_ofToken htyping hpattern

/-- **Two calls by their beginnings**: `foob` selects `Foobar`, and `foo(`, which is no pattern,
selects `foo(1)`. -/
theorem beginnings_are_selected :
    let o : Occasion := ⟨.bare "tester", ⟨2024, 5, 31, 12, 34, 56, 789012, none⟩, .usual⟩
    let c := Choice.ofList
      [("foo", .integer 1), ("Foobar", .integer 2), ("foo(1)", .integer 3)] true
    select o.host "foob" (c.supply "foob") = .ok ["Foobar"] ∧
      (Leaf.choice c).Chooses c "foo(" ["foo(1)"] o := by
  intro o c
  have hascii : ∀ name ∈ ["foo", "Foobar", "foo(1)"], IsAscii name := by decide
  have hword : IsLiteral o.host "foob" := .word (by simp)
  have hcall : IsLiteral o.host "foo(" := .malformed (by decide) rfl
  have hselect := (tokens_select_what_they_begin (l := .choice c) rfl hword hascii).1
  have hchooses := (tokens_select_what_they_begin (l := .choice c) rfl hcall hascii).2.1
  exact ⟨hselect.trans (congrArg _ (by decide)), hchooses⟩

end CommandGrammar
