/-
# What breaks the completion of a grammar off

A grammar reads more than it shows when it completes a word: it parses the words before the last one
to see which parameters they satisfy, and a choice makes a pattern of the last word even if that is
the name of a candidate.  So a completion may break off where a parse does, and at a few words more
(`Leaf.typedFault?`).

A line being typed has no error at its end, and nothing is read where no word is left; that is why
no failure of a parse gets out of a completion.
-/

import CommandGrammar.Command.Complete
import CommandGrammar.Proofs.Breakdowns.Words

namespace CommandGrammar

/-- What a choice breaks off with when it completes a word. -/
def Choice.typedFault? (h : Host) (word : String) : Option Breakdown :=
  match Pattern.ofToken h word with
  | .error fault => some (Leaf.breakdownOf fault)
  | .ok _ => none

/-- What a leaf breaks off with when it completes a word. -/
def Leaf.typedFault? (h : Host) : Leaf → String → Option Breakdown
  | .choice _, word => Choice.typedFault? h word
  | .selector s, word => if Text.beginsWith s.sigil word then none else Choice.typedFault? h word
  | _, _ => none

/-- A leaf breaks off with `b` when the word is typed: when it completes the word, or when it reads
it to see how far the typed words go. -/
def Leaf.BreaksTyping (h : Host) (l : Leaf) (word : String) (b : Breakdown) : Prop :=
  l.BreaksReading h word b ∨ l.typedFault? h word = some b

/-- **No choice breaks off at the empty word.** -/
theorem Choice.typedFault?_empty (h : Host) : Choice.typedFault? h "" = none := by
  unfold typedFault? Pattern.ofToken Pattern.read
  rw [if_pos (h.bears_of_isFlat _ (by decide))]
  rfl

/-- **Either a word is read, or none is left.** -/
theorem TokenStream.next?_cases (s : TokenStream) :
    (∃ h : s.cursor < s.tokens.length,
      s.next? = some (s.tokens[s.cursor].text, s.withCursor (s.cursor + 1) h) ∧
      s.head? = some s.tokens[s.cursor]) ∨ s.next? = none ∧ s.head? = none := by
  unfold next?
  by_cases h : s.cursor < s.tokens.length
  · exact .inl ⟨h, dif_pos h, List.getElem?_eq_getElem h⟩
  · exact .inr ⟨dif_neg h, List.getElem?_eq_none (Nat.le_of_not_lt h)⟩

/-- The course of a completion: it reads only words, and it breaks off only for a reason in `F`. -/
def Course.typing (W : String → Prop) (F : Breakdown → Prop) : Course where
  leads p q := p.stream.SaysOnly W none → q.stream.SaysOnly W none
  stops p e := p.stream.SaysOnly W none → ∃ b, e = .broken b ∧ F b
  refl _ := id
  trans h h' hp := h' (h hp)
  back h he hp := he (h hp)

/-- Whether a completer comes to words and leaves the tokens as they are. -/
def Completer.Returns (completer : Completer) : Prop :=
  ∀ source p, ∃ words q asked, completer source p = ⟨.ok words, q, asked⟩ ∧
    q.stream.tokens = p.stream.tokens ∧ q.stream.pending = p.stream.pending

/-- Whether the completers of a grammar do. -/
def Parameter.CompletersReturn (param : Parameter) : Prop :=
  ∀ n, param.Has n → ∀ k, n.frame.completer = some k → Completer.Returns k

section

variable {W : String → Prop} {F : Breakdown → Prop} {o : Occasion} {p q : Progress}

/-- **Leaves that break off at typed words in `F` do so when they read.** -/
theorem Parameter.FaultsIn.reading {h : Host} {param : Parameter}
    (hf : param.FaultsIn (Leaf.BreaksTyping h) W F) :
    param.FaultsIn (Leaf.BreaksReading h) W F :=
  fun f l hl w b hw hb => hf f l hl w b hw (.inl hb)

/-- **Moving the cursor leaves the words as they are.** -/
theorem TokenStream.SaysOnly.withCursor {s : TokenStream} {ending : Option ParseError} {n : Nat}
    (h : s.SaysOnly W ending) (hn : n ≤ s.tokens.length) : (s.withCursor n hn).SaysOnly W ending :=
  ⟨h.words, h.pending⟩

/-- **Where something is ahead and no error stands at the end, a token is.** -/
theorem TokenStream.exists_head?_of_hasNext {s : TokenStream} (h : s.hasNext = true)
    (hs : s.pending = none) : ∃ t, s.head? = some t := by
  unfold hasNext at h
  rw [hs, Option.isSome_none, Bool.or_false, decide_eq_true_eq] at h
  exact ⟨_, List.getElem?_eq_getElem h⟩

namespace Course

/-- **What is allowed where the stream says only words is allowed.** -/
theorem allows_of_saysOnly {α : Type} {r : Report α}
    (h : p.stream.SaysOnly W none → (typing W F).Allows p r) : (typing W F).Allows p r :=
  ⟨fun hp => (h hp).1 hp, fun e he hp => (h hp).2 e he hp⟩

/-- **Reading a word, if there is one, is a step of a completion.** -/
theorem carries_next? : (typing W F).Carries p Step.next? := fun q hq => by
  unfold Step.next?
  rcases q.stream.next?_cases with ⟨hc, hn, -⟩ | ⟨hn, -⟩ <;> rw [hn]
  · exact allows_ok (fun hp => (hq hp).withCursor hc) _ _
  · exact allows_ok hq _ _

/-- **What follows the word being typed knows it.** -/
theorem allows_typed_bind {α : Type} {next : String → Step α}
    (h : ∀ w, (w = "" ∨ ∃ t, p.stream.head? = some t ∧ t.text = w) →
      (typing W F).Carries p (next w)) :
    (typing W F).Allows p ((Step.typed >>= next) p) := by
  rw [Step.bind_apply]
  unfold Step.typed
  rcases p.stream.next?_cases with ⟨hc, hn, hhead⟩ | ⟨hn, -⟩ <;> rw [hn]
  · exact (h _ (.inr ⟨_, hhead, rfl⟩) _ fun hp => hp.withCursor hc).after _
  · exact (h "" (.inl rfl) p id).after _

/-- **So is going back to the tokens of an earlier stage.** -/
theorem carries_goTo : (typing W F).Carries p (Step.goTo p.stream) :=
  fun _ _ => allows_ok id _ _

/-- **A token is read where one is left.** -/
theorem allows_next_bind {α : Type} {t : Token} {next : String → Step α}
    (hhead : p.stream.head? = some t) (h : (typing W F).Carries p (next t.text)) :
    (typing W F).Allows p ((Step.next >>= next) p) := by
  obtain ⟨r, hnext⟩ := Step.next_of_head? hhead
  rw [Step.bind_of_ok hnext]
  exact (h r fun hp => hp.of_onward (Progress.unread_of_next hhead hnext).2).after _

/-- **The fixed words of a literal are read without failing.** -/
theorem governs_completeWords : ∀ words, (typing W F).Governs (Leaf.completeWords words)
  | [] => governs_of_carries fun _ => carries_pure _
  | w :: rest => governs_of_carries fun p => by
    refine carries_next?.bind fun t? => ?_
    split
    · exact carries_pure _
    · refine carries_here_bind fun q _ => ?_
      split
      · exact carries_pure _
      · split
        · exact (governs_completeWords rest).carries
        · exact carries_pure _

/-- **A choice completes the word being typed, or breaks off as its pattern must.** -/
theorem allows_completeChoice {h : Host} {c : Choice}
    (hf : ∀ t b, p.stream.head? = some t → Choice.typedFault? h t.text = some b →
      p.stream.SaysOnly W none → F b) :
    (typing W F).Allows p (Leaf.completeChoice h c p) := by
  refine allows_typed_bind fun w hw => ?_
  cases ho : Pattern.ofToken h w with
  | ok pattern =>
    refine Carries.bind (fun q hq => ?_) fun _ => carries_pure _
    obtain ⟨asked, hnames⟩ := ParseCourse.exists_candidates_eq c w q
    rw [hnames]
    exact allows_ok hq _ _
  | error fault =>
    refine carries_stop fun hp => ⟨_, rfl, ?_⟩
    have hfault : Choice.typedFault? h w = some (Leaf.breakdownOf fault) := by
      unfold Choice.typedFault?
      rw [ho]
    rcases hw with rfl | ⟨t, ht, rfl⟩
    · cases (Choice.typedFault?_empty h).symm.trans hfault
    · exact hf t _ ht hfault hp

/-- **A selector completes as its choice, unless its sigil is typed.** -/
theorem complete_selector (s : Selector) (p : Progress) :
    (Leaf.selector s).complete o p =
      if p.stream.hasNext then
        (Step.peek >>= fun ahead =>
          if Text.beginsWith s.sigil ahead then Step.next >>= fun _ => pure []
          else Leaf.completeChoice o.host s.choice) p
      else Leaf.completeChoice o.host s.choice p := by
  show (Step.here >>= _) p = _
  rw [Step.here_bind]
  cases p.stream.hasNext <;> rfl

/-- **So does a selector without its sigil.** -/
theorem allows_completeSelector {s : Selector}
    (h : ∀ w b, W w → (Leaf.selector s).typedFault? o.host w = some b → F b) :
    (typing W F).Allows p ((Leaf.selector s).complete o p) := by
  have hchoice : ∀ t, p.stream.head? = some t → Text.beginsWith s.sigil t.text = false →
      (typing W F).Allows p (Leaf.completeChoice o.host s.choice p) := fun t ht hs => by
    refine allows_completeChoice fun t' b ht' hb hp => ?_
    obtain rfl := Option.some.inj (ht.symm.trans ht')
    refine h t.text b (hp.head ht) ?_
    show (if Text.beginsWith s.sigil t.text then none
      else Choice.typedFault? o.host t.text) = some b
    rw [hs]
    exact hb
  refine allows_of_saysOnly fun hp => ?_
  rw [complete_selector]
  split
  · rename_i hnext
    obtain ⟨t, ht⟩ := TokenStream.exists_head?_of_hasNext hnext hp.pending
    rw [Step.bind_of_ok (Step.peek_of_head? ht), Report.after_nil]
    split
    · exact allows_next_bind ht (carries_pure _)
    · rename_i hs
      exact hchoice t ht (Bool.not_eq_true _ ▸ hs)
  · rename_i hnext
    refine allows_completeChoice fun t b ht _ _ => ?_
    -- Where a token is ahead, something is.
    refine absurd ?_ hnext
    unfold TokenStream.hasNext
    rw [decide_eq_true (List.getElem?_eq_some_iff.1 ht).1, Bool.true_or]

/-- **A leaf completes the word being typed, or breaks off as it must.** -/
theorem governs_completeLeaf {l : Leaf}
    (h : ∀ w b, W w → l.typedFault? o.host w = some b → F b) :
    (typing W F).Governs (l.complete o) := fun p => by
  cases l <;> unfold Leaf.complete
  case choice c => exact allows_completeChoice fun t b ht hb hp => h _ b (hp.head ht) hb
  case selector s => exact allows_completeSelector h
  case literal v words => exact governs_completeWords words p
  case nothing => exact carries_pure _ p id
  all_goals exact allows_typed_bind fun _ _ => carries_pure _

/-- **Where a parse leads, a completion does.** -/
theorem leads_typing (h : (ParseCourse.words W none F).leads p q) : (typing W F).leads p q := h

/-- **Where a parse breaks off, a completion does.** -/
theorem stops_typing {b : Breakdown} (h : (ParseCourse.words W none F).stops p (.broken b)) :
    (typing W F).stops p (.broken b) := fun hp => ⟨b, rfl, h hp b rfl⟩

/-- **What is read to see how far the typed words go breaks off at most.** -/
theorem governs_satisfied {param : Parameter} (h : param.FaultsIn (Leaf.BreaksReading o.host) W F) :
    (typing W F).Governs (Parameter.satisfied o param) := fun p => by
  have hparse := ParseCourse.governs_words (o := o) none h p
  unfold Parameter.satisfied
  split <;> rename_i hp
  · exact allows_ok (leads_typing (hparse.leads_of_eq hp)) _ _
  · exact allows_ok (leads_typing (hparse.leads_of_eq hp)) _ _
  · exact allows_error (leads_typing (hparse.leads_of_eq hp))
      (stops_typing (hparse.stops_of_eq hp)) _

/-- **Passing over words breaks off at most.** -/
theorem governs_passOver {core : Step Unit} (h : (ParseCourse.words W none F).Governs core) :
    ∀ n, (typing W F).Governs (Parameter.passOver core n)
  | 0 => governs_of_carries fun _ => carries_done ()
  | n + 1 => fun p => by
    have hcore := h p
    unfold Parameter.passOver
    split
    · split <;> rename_i hp <;> have hq := leads_typing (hcore.leads_of_eq hp)
      · exact allows_error hq (stops_typing (hcore.stops_of_eq hp)) _
      · exact allows_ok id _ _
      · split
        · exact allows_ok id _ _
        · exact ((governs_passOver h n _).back hq).after _
    · exact allows_ok id _ _

/-- **What a parameter offers breaks off where its own completion does.** -/
theorem governs_offered {param : Parameter} {own : Step (List String)}
    (hk : param.CompletersReturn) (hf : param.FaultsIn (Leaf.BreaksReading o.host) W F)
    (h : (typing W F).Governs own) : (typing W F).Governs (Parameter.offered o param own) := by
  refine governs_of_carries fun p => ?_
  unfold Parameter.offered
  split
  · exact carries_pure _
  · split
    · rename_i k hcompleter
      refine Carries.bind (fun q hq => ?_) fun _ => carries_pure _
      obtain ⟨words, r, asked, hkq, htokens, hpending⟩ :=
        hk param (.self param) k hcompleter o.source q
      rw [hkq]
      refine allows_ok (fun hp => ⟨?_, ?_⟩) _ _
      · rw [htokens]
        exact (hq hp).words
      · rw [hpending]
        exact (hq hp).pending
    · have hcore := governs_passOver
        (ParseCourse.governs_core (ParseCourse.covers_words (o := o) hf))
      have hown : (typing W F).Carries p (do return Text.distinct (← own)) :=
        h.carries.bind fun _ => carries_pure _
      dsimp only
      split
      · exact Carries.bind (fun q hq => (hcore _ q).back hq) fun _ => hown
      · exact hown

/-- **A sequence completes the word being typed if its children do.** -/
theorem governs_completeAll : ∀ cs : List Parameter,
    (∀ c ∈ cs, c.FaultsIn (Leaf.BreaksReading o.host) W F ∧ (typing W F).Governs (c.complete o)) →
    (typing W F).Governs (Parameter.completeAll o cs)
  | [], _ => governs_of_carries fun _ => by
    rw [Parameter.completeAll]
    exact carries_pure _
  | c :: cs, h => by
    have hcs := governs_completeAll cs fun d hd => h d (List.mem_cons_of_mem c hd)
    obtain ⟨hf, hc⟩ := h c List.mem_cons_self
    rw [Parameter.completeAll]
    refine governs_of_carries fun p => carries_here_bind fun q _ => ?_
    refine (governs_satisfied hf).carries.bind fun b => ?_
    split
    · exact hcs.carries
    · refine carries_goTo.bind fun _ => hc.carries.bind fun words => ?_
      split
      · exact carries_pure _
      · exact carries_goTo.bind fun _ => hcs.carries.bind fun _ => carries_pure _

/-- **So do alternatives.** -/
theorem governs_completeEach : ∀ cs : List Parameter,
    (∀ c ∈ cs, (typing W F).Governs (c.complete o)) →
    (typing W F).Governs (Parameter.completeEach o cs)
  | [], _ => governs_of_carries fun _ => by
    rw [Parameter.completeEach]
    exact carries_pure _
  | c :: cs, h => by
    have hcs := governs_completeEach cs fun d hd => h d (List.mem_cons_of_mem c hd)
    have hc := h c List.mem_cons_self
    rw [Parameter.completeEach]
    exact governs_of_carries fun _ => hc.carries.undone.bind fun _ =>
      hcs.carries.bind fun _ => carries_pure _

/-- **A grammar completes the word being typed, or breaks off as one of its leaves must.** -/
theorem governs_completeParameter (param : Parameter) (hk : param.CompletersReturn)
    (hf : param.FaultsIn (Leaf.BreaksTyping o.host) W F) :
    (typing W F).Governs (param.complete o) := by
  induction param using Parameter.inductionOnChildren with
  | step param ih =>
    have hchild : ∀ c ∈ param.children,
        c.FaultsIn (Leaf.BreaksTyping o.host) W F ∧ c.CompletersReturn :=
      fun c hc => ⟨fun f l hl => hf f l (.child hc hl), fun n hn => hk n (.child hc hn)⟩
    have hcomplete : ∀ c ∈ param.children, (typing W F).Governs (c.complete o) :=
      fun c hc => ih c hc (hchild c hc).2 (hchild c hc).1
    cases param with
    | leaf f l =>
      rw [Parameter.complete]
      exact governs_offered hk hf.reading (governs_completeLeaf fun w b hw hb =>
        hf f l (.self _) w b hw (.inr hb))
    | all f cs =>
      rw [Parameter.complete]
      refine governs_offered hk hf.reading (governs_completeAll cs fun c hc => ?_)
      exact ⟨(hchild c hc).1.reading, hcomplete c hc⟩
    | first f c cs =>
      rw [Parameter.complete]
      refine governs_offered hk hf.reading (governs_of_carries fun _ => ?_)
      refine (hcomplete c List.mem_cons_self).carries.undone.bind fun _ => ?_
      refine (governs_completeEach cs fun d hd => ?_).carries.bind fun _ => carries_pure _
      exact hcomplete d (List.mem_cons_of_mem c hd)

end Course

end
end CommandGrammar
