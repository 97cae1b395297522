/-
# Words for the last word

Completions are for the last word of a line, and what is offered begins with it, ignoring case.  A
literal sees to that itself: it offers a word only where the line ends.  The other leaves take the
next word for the last one.  When they are asked while words are left behind that one, they offer what
begins with a word that nobody is typing (`Leaf.OffersEarly`).
-/

import CommandGrammar.Proofs.Completing.Asking
import CommandGrammar.Proofs.Completing.Leaves
import CommandGrammar.Proofs.Completing.Letters

namespace CommandGrammar

variable {o : Occasion} {last : Token}

/-- **The end of a line is that of its last part.** -/
theorem getLast?_of_append {a b : List Token} (h : (a ++ b).getLast? = some last) (hb : b ≠ []) :
    b.getLast? = some last := by
  rw [List.getLast?_append] at h
  cases hlast : b.getLast? with
  | none => exact absurd (List.getLast?_eq_none_iff.1 hlast) hb
  | some t => rwa [hlast] at h

/-- What is left of the stream ends in `last`, and no error stands behind it. -/
structure TokenStream.EndsIn (last : Token) (s : TokenStream) : Prop where
  unread : s.unread.getLast? = some last
  pending : s.pending = none

namespace TokenStream

/-- **A line of one word ends in it.** -/
theorem Lone.endsIn {s : TokenStream} (h : s.Lone last) : s.EndsIn last :=
  ⟨by rw [h.unread]; rfl, h.pending⟩

namespace EndsIn

variable {s : TokenStream} {p q : Progress}

/-- **A line that ends in a word has something left.** -/
theorem unread_ne_nil (h : s.EndsIn last) : s.unread ≠ [] := fun hnil => by
  have hlast := h.unread
  rw [hnil] at hlast
  cases hlast

/-- **Further on, the line has the same end as long as something is left.** -/
theorem of_onward (h : p.stream.EndsIn last) (hpq : p.Onward q) (hnext : q.stream.hasNext = true) :
    q.stream.EndsIn last := by
  have hpending := hpq.pending.trans h.pending
  obtain ⟨read, hread⟩ := hpq.exists_unread
  refine ⟨getLast?_of_append (hread ▸ h.unread) fun hnil => ?_, hpending⟩
  cases hnext.symm.trans ((q.stream.hasNext_eq_false_iff).2 ⟨hnil, hpending⟩)

/-- **The next word is the last one, or the line goes on behind it.** -/
theorem next (h : s.EndsIn last) : ∃ t stream, s.next? = some (t.text, stream) ∧
    s.unread = t :: stream.unread ∧
      (t = last ∧ stream.hasNext = false ∨ stream.hasNext = true ∧ stream.EndsIn last) := by
  rcases s.next?_cases with ⟨hc, hn, -⟩ | ⟨-, hhead⟩
  · have hunread : s.unread = s.tokens[s.cursor] :: (s.withCursor (s.cursor + 1) hc).unread :=
      List.drop_eq_getElem_cons hc
    refine ⟨_, _, hn, hunread, ?_⟩
    have hlast := h.unread
    rw [hunread] at hlast
    cases hnext : (s.withCursor (s.cursor + 1) hc).hasNext with
    | false =>
      rw [((TokenStream.hasNext_eq_false_iff _).1 hnext).1] at hlast
      exact .inl ⟨Option.some.inj hlast, rfl⟩
    | true =>
      refine .inr ⟨rfl, getLast?_of_append (a := [_]) hlast fun hnil => ?_, h.pending⟩
      cases hnext.symm.trans ((TokenStream.hasNext_eq_false_iff _).2 ⟨hnil, h.pending⟩)
  · have hhead' : s.head? = none := hhead
    rw [TokenStream.head?, ← List.head?_drop, List.head?_eq_none_iff] at hhead'
    exact absurd hhead' h.unread_ne_nil

end EndsIn
end TokenStream

namespace Leaf

variable {word w : String}

/-- **Fixed words in lowercase are offered if they begin with a plain word.** -/
theorem beginsAlike_of_mem_beginning (h : Pattern.IsPlain word) {words : List String}
    (hwords : ∀ u ∈ words, Text.lowercase u = u) (hw : w ∈ beginning word words) :
    Pattern.beginsAlike word.toList w.toList = true := by
  obtain ⟨hmem, hbegins⟩ := List.mem_filter.1 hw
  refine Pattern.beginsAlike_of_beginsWith h ?_
  rwa [hwords w hmem]

/-- **What a choice offers for a plain word begins with it, ignoring case.** -/
theorem beginsAlike_of_mem_choice {host : Host} (h : Pattern.IsPlain word) {c : Choice}
    (hw : w ∈ c.wordsFor host word) : Pattern.beginsAlike word.toList w.toList = true := by
  unfold Choice.wordsFor at hw
  cases hpattern : Pattern.ofToken host word with
  | ok pattern =>
    rw [hpattern] at hw
    exact Pattern.filter_of_isPlain h hpattern hw
  | error fault =>
    rw [hpattern] at hw
    cases hw

/-- **What a leaf offers for a plain word begins with it, ignoring case.** -/
theorem beginsAlike_of_mem_wordsFor {host : Host} (h : Pattern.IsPlain word) {l : Leaf}
    (hw : w ∈ l.wordsFor host word) : Pattern.beginsAlike word.toList w.toList = true := by
  cases l with
  | truth => exact beginsAlike_of_mem_beginning h (by decide) hw
  | moment => exact beginsAlike_of_mem_beginning h (by decide) hw
  | choice c => exact beginsAlike_of_mem_choice h hw
  | selector s =>
    change w ∈ if Text.beginsWith s.sigil word then [] else s.choice.wordsFor host word at hw
    split at hw
    · cases hw
    · exact beginsAlike_of_mem_choice h hw
  | _ => cases hw

/-- **A literal offers a word only for the last one.** -/
theorem beginsAlike_of_completeWords (hplain : Pattern.IsPlain last.text) :
    ∀ (fixed : List String) {p : Progress} {words : List String},
      p.stream.EndsIn last → (completeWords fixed p).result = .ok words → w ∈ words →
      Pattern.beginsAlike last.text.toList w.toList = true
  | [], p, words, _, h, hw => by
    obtain rfl := Except.ok.inj h
    cases hw
  | u :: rest, p, words, hp, h, hw => by
    obtain ⟨t, stream, hn, -, hnext⟩ := hp.next
    have hread : Step.next? p = ⟨.ok (some t.text), { p with stream := stream }, []⟩ := by
      unfold Step.next?
      rw [hn]
    unfold completeWords at h
    rw [Step.bind_of_ok hread] at h
    dsimp only at h
    rw [Step.here_bind] at h
    dsimp only at h
    rcases hnext with ⟨rfl, hend⟩ | ⟨hmore, hrest⟩
    · rw [hend, Bool.not_false, if_pos rfl] at h
      split at h
      · rename_i hbegins
        obtain rfl := Except.ok.inj h
        exact List.mem_singleton.1 hw ▸ Pattern.beginsAlike_of_beginsWith hplain hbegins
      · obtain rfl := Except.ok.inj h
        cases hw
    · rw [hmore, Bool.not_true, if_neg Bool.false_ne_true] at h
      split at h
      · exact beginsAlike_of_completeWords hplain rest (p := { p with stream := stream }) hrest h hw
      · obtain rfl := Except.ok.inj h
        cases hw

/-- The leaf offers `w` for the next word although others stand behind that. -/
def OffersEarly (l : Leaf) (h : Host) (s : TokenStream) (w : String) : Prop :=
  ∃ t more, s.unread = t :: more ∧ more ≠ [] ∧ w ∈ l.wordsFor h t.text

/-- **A leaf completes the last word, or it is early.** -/
theorem begins_or_early (hplain : Pattern.IsPlain last.text) {l : Leaf} {p : Progress}
    {words : List String} (hp : p.stream.EndsIn last) (h : (l.complete o p).result = .ok words)
    (hw : w ∈ words) :
    Pattern.beginsAlike last.text.toList w.toList = true ∨ l.OffersEarly o.host p.stream w := by
  by_cases hliteral : ∃ v fixed, l = literal v fixed
  · obtain ⟨v, fixed, rfl⟩ := hliteral
    exact .inl (beginsAlike_of_completeWords hplain fixed hp h hw)
  · obtain ⟨t, stream, -, hunread, hnext⟩ := hp.next
    obtain rfl := words_of_complete (fun v fixed hl => hliteral ⟨v, fixed, hl⟩)
      (TokenStream.head?_of_unread hunread) h
    rcases hnext with ⟨rfl, -⟩ | ⟨-, hrest⟩
    · exact .inl (beginsAlike_of_mem_wordsFor hplain hw)
    · exact .inr ⟨t, stream.unread, hunread, hrest.unread_ne_nil, hw⟩

end Leaf

namespace Parameter

variable {w : String} {c : Parameter} {p : Progress}

/-- **Passing over words keeps the last one.** -/
theorem endsIn_passOver {core : Step Unit} (hcore : ParseCourse.onward.Governs core) :
    ∀ (n : Nat) {p q : Progress} {asked : List String}, p.stream.EndsIn last →
      passOver core n p = ⟨.ok (), q, asked⟩ → q.stream.EndsIn last
  | 0, p, q, asked, hp, h => by
    obtain ⟨-, rfl, -⟩ := Report.mk.inj h
    exact hp
  | n + 1, p, q, asked, hp, h => by
    unfold passOver at h
    split at h
    · split at h
      · cases h
      · obtain ⟨-, rfl, -⟩ := Report.mk.inj h
        exact hp
      · rename_i r xs hr
        have honward : p.Onward r := (hcore p).leads_of_eq hr
        split at h
        · obtain ⟨-, rfl, -⟩ := Report.mk.inj h
          exact hp
        · rename_i hmore
          obtain ⟨ys, hrest⟩ := Report.exists_of_after_ok h
          refine endsIn_passOver hcore n (hp.of_onward honward ?_) hrest
          exact Bool.of_not_eq_false fun hno => hmore (.inr (by rw [hno]; rfl))
    · obtain ⟨-, rfl, -⟩ := Report.mk.inj h
      exact hp

/-- **A repetition does not go over the last word.** -/
theorem GoesOver.endsIn {q : Progress} (h : c.GoesOver o p q) (hp : p.stream.EndsIn last) :
    q.stream.EndsIn last := by
  cases h with
  | once _ _ => exact hp
  | again _ _ hover => exact endsIn_passOver (governs_onward_core o c) _ hp hover

/-- **Where a parameter is satisfied, the last word is left.** -/
theorem endsIn_of_satisfied {q : Progress} {asked : List String} (hp : p.stream.EndsIn last)
    (h : satisfied o c p = ⟨.ok true, q, asked⟩) : q.stream.EndsIn last := by
  have honward := c.onward_parse o p
  unfold satisfied at h
  rcases hparse : c.parse o p with ⟨(e | b) | ⟨⟩, r, xs⟩ <;> rw [hparse] at h honward
  · cases h
  · cases h
  · obtain ⟨hnext, rfl, -⟩ := Report.mk.inj h
    exact hp.of_onward honward (Except.ok.inj hnext)

/-- **Every leaf that is asked still has the last word in front of it.** -/
theorem Asks.endsIn {l : Leaf} {q : Progress} (h : c.Asks o p l q) (hp : p.stream.EndsIn last) :
    q.stream.EndsIn last := by
  induction h with
  | leaf hover => exact hover.endsIn hp
  | all hover hgets _ _ ih =>
    exact ih (hgets.keeps (fun _ _ _ _ _ hd => endsIn_of_satisfied hd) (hover.endsIn hp))
  | first hover _ _ ih => exact ih (hover.endsIn hp)

/-- **A grammar completes the last word, or a leaf is asked early.** -/
theorem begins_or_asksEarly (hplain : Pattern.IsPlain last.text)
    (hcompleter : ∀ n, c.Has n → n.frame.completer = none) {words : List String}
    (hp : p.stream.EndsIn last) (h : (c.complete o p).result = .ok words) (hw : w ∈ words) :
    Pattern.beginsAlike last.text.toList w.toList = true ∨
      ∃ l q, c.Asks o p l q ∧ l.OffersEarly o.host q.stream w := by
  obtain ⟨f, l, q, own, -, hasks, hown, hw'⟩ := exists_of_complete c hcompleter h hw
  exact (Leaf.begins_or_early hplain (hasks.endsIn hp) hown hw').imp_right
    fun hearly => ⟨l, q, hasks, hearly⟩

/-- **A grammar completes a lone word.** -/
theorem beginsAlike_of_lone (hplain : Pattern.IsPlain last.text)
    (hcompleter : ∀ n, c.Has n → n.frame.completer = none) {words : List String}
    (hp : p.stream.Lone last) (h : (c.complete o p).result = .ok words) (hw : w ∈ words) :
    Pattern.beginsAlike last.text.toList w.toList = true := by
  refine (begins_or_asksEarly hplain hcompleter hp.endsIn h hw).resolve_right ?_
  rintro ⟨l, q, hasks, t, more, hunread, hmore, -⟩
  rw [hasks.stream_eq_of_lone hp, hp.unread] at hunread
  exact hmore (List.cons.inj hunread).2.symm

end Parameter

end CommandGrammar
