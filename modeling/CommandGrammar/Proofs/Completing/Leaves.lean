/-
# What a leaf offers for a word

Truth values, moments, choices and selectors offer what is there for the next word, and ask nothing
else about the line (`Leaf.wordsFor`).  A literal is different: it looks at how the line goes on, and
offers one of its words only where the line ends.
-/

import CommandGrammar.Proofs.Breakdowns.Typing
import CommandGrammar.Proofs.Steps.Onward

namespace CommandGrammar

/-- **The last word can be read, and nothing is left behind it.** -/
theorem TokenStream.Lone.next? {s : TokenStream} {t : Token} (h : s.Lone t) :
    ∃ stream, s.next? = some (t.text, stream) ∧ stream.hasNext = false := by
  rcases s.next?_cases with ⟨hc, hn, hhead⟩ | ⟨-, hhead⟩
  · obtain rfl := Option.some.inj (h.head?.symm.trans hhead)
    refine ⟨_, hn, ?_⟩
    unfold TokenStream.hasNext
    rw [show (s.withCursor (s.cursor + 1) hc).pending = none from h.pending, Option.isSome_none,
      Bool.or_false]
    exact decide_eq_false (Nat.not_lt.2 (Nat.le_of_eq h.length_eq))
  · cases h.head?.symm.trans hhead

/-- The candidates of a choice for a word. -/
def Choice.wordsFor (h : Host) (c : Choice) (word : String) : List String :=
  match Pattern.ofToken h word with
  | .ok pattern => pattern.filter (c.supply word)
  | .error _ => []

/-- The words that a leaf offers for a word whether or not it is the last one. -/
def Leaf.wordsFor (h : Host) (word : String) : Leaf → List String
  | truth => beginning word ["true", "false"]
  | moment => beginning word ["now"]
  | choice c => c.wordsFor h word
  | selector s => if Text.beginsWith s.sigil word then [] else s.choice.wordsFor h word
  | _ => []

namespace Leaf

variable {o : Occasion} {t : Token}

/-- **The word being typed is the token ahead.** -/
theorem typed_of_head? {p : Progress} (h : p.stream.head? = some t) :
    ∃ q, Step.typed p = ⟨.ok t.text, q, []⟩ := by
  unfold Step.typed
  rcases p.stream.next?_cases with ⟨hc, hn, hhead⟩ | ⟨-, hhead⟩
  · obtain rfl := Option.some.inj (h.symm.trans hhead)
    rw [hn]
    exact ⟨_, rfl⟩
  · cases h.symm.trans hhead

/-- **A choice offers its candidates for the next word.** -/
theorem words_of_completeChoice {host : Host} {c : Choice} {p : Progress}
    (hs : p.stream.head? = some t) {words : List String}
    (h : (completeChoice host c p).result = .ok words) : words = c.wordsFor host t.text := by
  obtain ⟨q, htyped⟩ := typed_of_head? hs
  obtain ⟨asked, hnames⟩ := ParseCourse.exists_candidates_eq c t.text q
  unfold completeChoice at h
  rw [Step.bind_of_ok htyped] at h
  unfold Choice.wordsFor
  cases hpattern : Pattern.ofToken host t.text with
  | error fault =>
    rw [hpattern] at h
    cases h
  | ok pattern =>
    rw [hpattern] at h
    dsimp only at h
    rw [Step.bind_of_ok hnames] at h
    exact (Except.ok.inj h).symm

/-- **A selector offers those of its choice, and nothing behind its sigil.** -/
theorem words_of_completeSelector {c : Selector} {p : Progress} (hs : p.stream.head? = some t)
    {words : List String} (h : ((selector c).complete o p).result = .ok words) :
    words = (selector c).wordsFor o.host t.text := by
  have hnext : p.stream.hasNext = true := by
    unfold TokenStream.hasNext
    rw [decide_eq_true (List.getElem?_eq_some_iff.1 hs).1, Bool.true_or]
  obtain ⟨q, hread⟩ := Step.next_of_head? hs
  rw [Course.complete_selector, if_pos hnext, Step.bind_of_ok (Step.peek_of_head? hs)] at h
  change words = if Text.beginsWith c.sigil t.text then [] else c.choice.wordsFor o.host t.text
  split
  · rename_i hsigil
    rw [if_pos hsigil, Step.bind_of_ok hread] at h
    exact (Except.ok.inj h).symm
  · rename_i hsigil
    rw [if_neg hsigil] at h
    exact words_of_completeChoice hs h

/-- **A leaf that is no literal offers its words for the next word.** -/
theorem words_of_complete {l : Leaf} (hl : ∀ v words, l ≠ literal v words) {p : Progress}
    (hs : p.stream.head? = some t) {words : List String}
    (h : (l.complete o p).result = .ok words) : words = l.wordsFor o.host t.text := by
  obtain ⟨q, htyped⟩ := typed_of_head? hs
  have hwords : ∀ f : String → List String,
      ((Step.typed >>= fun u => pure (f u)) p).result = .ok words → words = f t.text := by
    intro f hf
    rw [Step.bind_of_ok htyped] at hf
    exact (Except.ok.inj hf).symm
  cases l with
  | literal v fixed => exact absurd rfl (hl v fixed)
  | choice c => exact words_of_completeChoice hs h
  | selector c => exact words_of_completeSelector hs h
  | truth => exact hwords (fun u => beginning u ["true", "false"]) h
  | moment => exact hwords (fun u => beginning u ["now"]) h
  | nothing => exact (Except.ok.inj h).symm
  | _ => exact hwords (fun _ => []) h

/-- **A literal offers its first word for a lone word that it begins with.** -/
theorem words_of_completeWords {s : TokenStream} (hlone : s.Lone t) {context : Context} {u : String}
    {rest words : List String}
    (h : (completeWords (u :: rest) ⟨s, context⟩).result = .ok words) :
    words = if Text.beginsWith (Text.lowercase t.text) (Text.lowercase u) then [u] else [] := by
  obtain ⟨stream, hstream, hend⟩ := hlone.next?
  have hnext : Step.next? ⟨s, context⟩ = ⟨.ok (some t.text), ⟨stream, context⟩, []⟩ := by
    unfold Step.next?
    rw [hstream]
  unfold completeWords at h
  rw [Step.bind_of_ok hnext] at h
  dsimp only at h
  rw [Step.here_bind] at h
  dsimp only at h
  rw [hend, Bool.not_false, if_pos rfl] at h
  split at h
  · rename_i hbegins
    rw [if_pos hbegins]
    exact (Except.ok.inj h).symm
  · rename_i hbegins
    rw [if_neg hbegins]
    exact (Except.ok.inj h).symm

end Leaf

end CommandGrammar
