/-
# What an inserted completion says

An editor puts the text of a completion in the place of the last word of a line, and the completion
promises what is read there then: the word that it shows.  The words before it stay what they are,
because the completion only replaces the last one.  Whether the promise is kept depends on how the
word is inserted:

| completion | inserted | read back if the shown word has |
| --- | --- | --- |
| a word with a space or a tabulator | between double quotes | no double quote and no backslash |
| any other word | as it is | no blank and no quote, and no backslash but at its end |
| the common start of several words | as it is | the same, so no space at its end either |

The table is sharp (`Completion.inserted_is_read_back_iff`).
-/

import CommandGrammar.Command.Completion
import CommandGrammar.Host.Usual
import CommandGrammar.Proofs.Tokens.Typing

namespace CommandGrammar

open Splitting

namespace Completion

/-- The text before the cursor after a completion is inserted. -/
def inserted (k : Completion) (text : String) : String :=
  String.ofList (text.toList.take ((text.length : Int) + k.start).toNat) ++ k.text

/-- The word that a completion shows is said as it is where it is inserted. -/
def ReadsBack (k : Completion) : Prop :=
  if k.text = k.shown then SaysItself k.shown.toList else SaysItselfQuoted k.shown.toList

/-- **A completion replaces what is typed, by the shown word or by that word between quotes.** -/
theorem of_mem_ofWords {words : List String} {typed : String} {length : Int} {k : Completion}
    (hk : k ∈ ofWords words typed length) :
    k.start = -length ∧ (k.text = k.shown ∨ k.text = inQuotes k.shown) := by
  have hword : ∀ k ∈ (Text.distinct words).map fun w => (⟨quotedWord w, -length, w⟩ : Completion),
      k.start = -length ∧ (k.text = k.shown ∨ k.text = inQuotes k.shown) := by
    intro k hk
    obtain ⟨w, -, rfl⟩ := List.mem_map.1 hk
    refine ⟨rfl, ?_⟩
    dsimp only
    unfold quotedWord
    split
    · exact .inr rfl
    · exact .inl rfl
  unfold ofWords at hk
  dsimp only at hk
  split at hk
  · rcases List.mem_cons.1 hk with rfl | hk
    · exact ⟨rfl, .inl rfl⟩
    · exact hword k hk
  · exact hword k hk

/-- **What a command offers replaces the last word of the line.** -/
theorem of_mem_ofCommand {o : Occasion} {c : Command} {further : List String} {text : String}
    {cs : List Completion} (h : ofCommand o c further text = .ok cs) {earlier : List Token}
    {last : Token} (htokens : TokenStream.typedTokens c.frame.splitting text = earlier ++ [last])
    {k : Completion} (hk : k ∈ cs) :
    k.start = -((text.length : Int) - last.start) ∧
      (k.text = k.shown ∨ k.text = inQuotes k.shown) := by
  unfold ofCommand at h
  rcases hwords : (c.completions o text).result with e | words
  · rw [hwords] at h
    cases h
  · rw [hwords, htokens] at h
    dsimp only [Bind.bind, Except.bind] at h
    rw [List.getLastD_concat] at h
    cases h
    exact of_mem_ofWords hk

/-- **The words before the last one stay what they are.** -/
theorem typedTokens_inserted {text : String} {earlier : List Token} {last : Token}
    (htokens : TokenStream.typedTokens .quoted text = earlier ++ [last]) {k : Completion}
    (hstart : k.start = -((text.length : Int) - last.start)) :
    TokenStream.typedTokens .quoted (k.inserted text) =
        earlier ++ typedFrom last.start k.text.toList ∧
      (k.inserted text).length = last.start + k.text.length := by
  rw [typedTokens_quoted] at htokens
  obtain ⟨front, back, hfront, -, hplace, hput⟩ := exists_front_of_typedFrom 0 _ htokens
  rw [Nat.zero_add] at hplace
  have htake : text.toList.take ((text.length : Int) + k.start).toNat = front := by
    have hn : ((text.length : Int) + k.start).toNat = front.length := by
      rw [hstart, hplace]
      omega
    rw [hn, hfront, List.take_left]
  have hchars : (k.inserted text).toList = front ++ k.text.toList := by
    unfold inserted
    rw [String.toList_append, String.toList_ofList, htake]
  refine ⟨?_, ?_⟩
  · rw [typedTokens_quoted, hchars, hput]
  · rw [← String.length_toList, hchars, List.length_append, String.length_toList, hplace]

/-- **An inserted completion is read back as the word it shows exactly if that word is said as it
is.**  For every command whose lines are split at blanks and quotes, every text before the cursor and
everything that is offered there: if the shown word is said as it is where it is inserted, then the
words before the last one stay, and the last one is the shown word, from where the replaced word
began to the cursor; and if there is one word in the place of the last one, and it is the shown one,
then the shown word is said as it is. -/
theorem inserted_is_read_back_iff {o : Occasion} {c : Command} {further : List String}
    {text : String} {cs : List Completion} (hquoted : c.frame.splitting = .quoted)
    (h : ofCommand o c further text = .ok cs) {earlier : List Token} {last : Token}
    (htokens : TokenStream.typedTokens .quoted text = earlier ++ [last]) {k : Completion}
    (hk : k ∈ cs) :
    (k.ReadsBack → TokenStream.typedTokens .quoted (k.inserted text) =
      earlier ++ [⟨k.shown, last.start, (k.inserted text).length⟩]) ∧
    ∀ t, TokenStream.typedTokens .quoted (k.inserted text) = earlier ++ [t] → t.text = k.shown →
      k.ReadsBack := by
  obtain ⟨hstart, hform⟩ := of_mem_ofCommand h (hquoted ▸ htokens) hk
  obtain ⟨hsame, hlength⟩ := typedTokens_inserted htokens hstart
  rw [hsame, hlength]
  unfold ReadsBack
  by_cases hbare : k.text = k.shown
  · rw [if_pos hbare, hbare]
    obtain ⟨hplain, hread⟩ := typedFrom_text_iff last.start k.shown
    refine ⟨fun hs => ?_, fun t ht htext => hread t (List.append_cancel_left ht) htext⟩
    rw [hplain hs]
  · rw [if_neg hbare, hform.resolve_left hbare]
    obtain ⟨hplain, hread⟩ := typedFrom_inQuotes_iff last.start k.shown
    refine ⟨fun hs => ?_, fun t ht htext => hread t (List.append_cancel_left ht) htext⟩
    rw [hplain hs]

/-- A command that reads one of two towns, whose names begin with `new` and a blank. -/
def towns : Command :=
  let names : Choice := .ofList [("new york", .integer 1), ("new jersey", .integer 2)] true
  .node { parameter := .leaf {} (.choice names), executor := some ⟨"go", fun _ _ => ⟨"", .silent⟩⟩ } []

/-- Someone who types the name of a town. -/
def traveller : Occasion := ⟨.bare "tester", ⟨2024, 5, 31, 12, 34, 56, 0, none⟩, .usual⟩

/-- What is offered for `n` where a town is read. -/
theorem ofCommand_towns : ofCommand traveller towns [] "n" = .ok [⟨"new ", -1, "new "⟩,
    ⟨inQuotes "new york", -1, "new york"⟩, ⟨inQuotes "new jersey", -1, "new jersey"⟩] := by
  have hrun : (match ofCommand traveller towns [] "n" with
      | .error _ => none
      | .ok cs => some cs) = some [⟨"new ", -1, "new "⟩,
        ⟨inQuotes "new york", -1, "new york"⟩, ⟨inQuotes "new jersey", -1, "new jersey"⟩] := by
    decide +kernel
  split at hrun
  · cases hrun
  · rename_i hcs
    rw [hcs, Option.some.inj hrun]

/-- **A town with a blank in its name is read back**, because it is inserted between quotes. -/
theorem quoted_town_is_read_back :
    let k : Completion := ⟨inQuotes "new york", -1, "new york"⟩
    ∃ cs, ofCommand traveller towns [] "n" = .ok cs ∧ k ∈ cs ∧ k.ReadsBack ∧
      TokenStream.typedTokens .quoted (k.inserted "n") = [⟨"new york", 0, 10⟩] := by
  intro k
  have htokens : TokenStream.typedTokens .quoted "n" = [] ++ [⟨"n", 0, 1⟩] := by decide +kernel
  have hk : k ∈ [⟨"new ", -1, "new "⟩, k, (⟨inQuotes "new jersey", -1, "new jersey"⟩ : Completion)] :=
    List.mem_cons_of_mem _ List.mem_cons_self
  have hreads : k.ReadsBack := by
    unfold ReadsBack
    rw [if_neg (by decide +kernel)]
    exact ⟨by decide +kernel, by decide +kernel⟩
  obtain ⟨hback, -⟩ := inserted_is_read_back_iff (c := towns) rfl ofCommand_towns htokens hk
  exact ⟨_, ofCommand_towns, hk, hreads, (hback hreads).trans (by decide +kernel)⟩

/-- **The common start of two towns is not read back**: it ends in a blank, and it is inserted
without quotes. -/
theorem common_start_is_not_read_back :
    ¬∀ cs k earlier last, ofCommand traveller towns [] "n" = .ok cs → k ∈ cs →
      TokenStream.typedTokens .quoted "n" = earlier ++ [last] →
        ∃ t, t.text = k.shown ∧
          TokenStream.typedTokens .quoted (k.inserted "n") = earlier ++ [t] := by
  intro h
  have htokens : TokenStream.typedTokens .quoted "n" = [] ++ [⟨"n", 0, 1⟩] := by decide +kernel
  obtain ⟨t, -, ht⟩ := h _ _ _ _ ofCommand_towns List.mem_cons_self htokens
  have htwo : TokenStream.typedTokens .quoted (inserted ⟨"new ", -1, "new "⟩ "n") =
      [⟨"new", 0, 3⟩, ⟨"", 4, 4⟩] := by decide +kernel
  rw [htwo] at ht
  cases (List.cons.inj ht).2

end Completion
end CommandGrammar
