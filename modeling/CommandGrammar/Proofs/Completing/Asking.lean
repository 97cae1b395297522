/-
# Which leaves are asked

The words that a grammar completes come from its leaves.  Which leaf is asked, and at which place of
the line, is settled on the way to it:

| part | where it asks what is inside |
| --- | --- |
| one that repeats | behind the words that it has read so far |
| `all` | at the first child that is not satisfied, and at the ones after it while they are optional |
| `first` | at each alternative, where it stands itself |

`Parameter.Asks` is this way.  What a completion comes to is known from the leaves at its ends.
-/

import CommandGrammar.Proofs.Completing.Sequences

namespace CommandGrammar
namespace Parameter

variable {o : Occasion} {w : String}

/-- A parameter that a source may use completes at `q`, behind the words that it repeats. -/
inductive GoesOver (o : Occasion) (c : Parameter) (p : Progress) : Progress → Prop
  | once (usable : c.mayUse o.source = true) (repeats : c.isRepeating = false) : GoesOver o c p p
  | again {q : Progress} {asked : List String} (usable : c.mayUse o.source = true)
      (repeats : c.isRepeating = true) (passes : passOverAll (c.core o) p = ⟨.ok (), q, asked⟩) :
      GoesOver o c p q

/-- **No repetition goes over the last word.** -/
theorem GoesOver.eq_of_lone {c : Parameter} {p q : Progress} {t : Token} (h : c.GoesOver o p q)
    (hlone : p.stream.Lone t) : q = p := by
  cases h with
  | once _ _ => rfl
  | again _ _ hover =>
    have hp := passOverAll_lone hlone (c.core o) p.context
    exact (congrArg Report.progress hover).symm.trans (congrArg Report.progress hp)

/-- A parameter that completes at `p` asks its leaf `l` at `q`. -/
inductive Asks (o : Occasion) : Parameter → Progress → Leaf → Progress → Prop
  | leaf {f : Frame} {l : Leaf} {p q : Progress} (goes : (leaf f l).GoesOver o p q) :
      Asks o (.leaf f l) p l q
  | all {f : Frame} {cs after : List Parameter} {c : Parameter} {l : Leaf} {p q r r' s : Progress}
      {asked : List String} (goes : (all f cs).GoesOver o p q) (gets : GetsTo o cs q (c :: after) r)
      (tried : satisfied o c r = ⟨.ok false, r', asked⟩)
      (asks : Asks o c ⟨r.stream, r'.context⟩ l s) : Asks o (.all f cs) p l s
  | first {f : Frame} {c d : Parameter} {cs : List Parameter} {l : Leaf} {p q s : Progress}
      (goes : (first f c cs).GoesOver o p q) (mem : d ∈ c :: cs) (asks : Asks o d q l s) :
      Asks o (.first f c cs) p l s

/-- **At a lone word, every leaf is asked where the grammar stands.** -/
theorem Asks.stream_eq_of_lone {c : Parameter} {l : Leaf} {p q : Progress} {t : Token}
    (h : c.Asks o p l q) (hlone : p.stream.Lone t) : q.stream = p.stream := by
  induction h with
  | leaf hover => rw [hover.eq_of_lone hlone]
  | all hover hgets _ _ ih =>
    obtain rfl := hover.eq_of_lone hlone
    have hr := hgets.stream_eq_of_lone hlone
    exact (ih (hr ▸ hlone)).trans hr
  | first hover _ _ ih =>
    obtain rfl := hover.eq_of_lone hlone
    exact ih hlone

/-- **What a sequence completes, a child does that it gets to and that is not satisfied there.** -/
theorem exists_of_completeAll : ∀ (cs : List Parameter) {p : Progress} {words : List String},
    (completeAll o cs p).result = .ok words → w ∈ words →
    ∃ c after q r asked own, GetsTo o cs p (c :: after) q ∧
      satisfied o c q = ⟨.ok false, r, asked⟩ ∧
      (c.complete o ⟨q.stream, r.context⟩).result = .ok own ∧ w ∈ own
  | [], p, words, h, hw => by
    rw [completeAll] at h
    obtain rfl := Except.ok.inj h
    cases hw
  | c :: cs, p, words, h, hw => by
    rw [completeAll_cons] at h
    rcases htried : satisfied o c p with ⟨b | passed, q, asked⟩
    · rw [Step.bind_of_error htried] at h
      cases h
    rw [Step.bind_of_ok htried] at h
    cases passed with
    | true =>
      obtain ⟨d, after, r, s, xs, own, hgets, hd⟩ := exists_of_completeAll cs h hw
      exact ⟨d, after, r, s, xs, own, .passed htried hgets, hd⟩
    | false =>
      rw [if_neg Bool.false_ne_true, Step.goTo_bind] at h
      rcases hfirst : c.complete o ⟨p.stream, q.context⟩ with ⟨b | own, r, xs⟩
      · rw [Step.bind_of_error hfirst] at h
        cases h
      rw [Step.bind_of_ok hfirst] at h
      have hresult := congrArg Report.result hfirst
      cases hopt : c.isOptional with
      | false =>
        rw [hopt] at h
        obtain rfl := Except.ok.inj h
        exact ⟨c, cs, p, q, asked, own, .here _ p, htried, hresult, hw⟩
      | true =>
        rw [hopt, Bool.not_true, if_neg Bool.false_ne_true, Step.goTo_bind] at h
        rcases hmore : completeAll o cs ⟨p.stream, r.context⟩ with ⟨b | more, t, ys⟩
        · rw [Step.bind_of_error hmore] at h
          cases h
        rw [Step.bind_of_ok hmore] at h
        obtain rfl := Except.ok.inj h
        rcases List.mem_append.1 hw with hw | hw
        · exact ⟨c, cs, p, q, asked, own, .here _ p, htried, hresult, hw⟩
        · obtain ⟨d, after, u, v, zs, own', hgets, hd⟩ :=
            exists_of_completeAll cs (congrArg Report.result hmore) hw
          exact ⟨d, after, u, v, zs, own', .optional hopt htried hfirst hgets, hd⟩

/-- **What a choice completes, one of its children does in its place.** -/
theorem exists_of_completeEach : ∀ (cs : List Parameter) {p : Progress} {words : List String},
    (completeEach o cs p).result = .ok words → w ∈ words →
    ∃ c ∈ cs, ∃ own, (c.complete o p).result = .ok own ∧ w ∈ own
  | [], p, words, h, hw => by
    rw [completeEach] at h
    obtain rfl := Except.ok.inj h
    cases hw
  | c :: cs, p, words, h, hw => by
    rw [completeEach] at h
    rcases hfirst : c.complete o p with ⟨b | own, q, xs⟩
    · rw [Step.bind_of_error (s := (c.complete o).undone) (by unfold Step.undone; rw [hfirst])] at h
      cases h
    rw [Step.bind_of_ok (s := (c.complete o).undone) (by unfold Step.undone; rw [hfirst])] at h
    rcases hmore : completeEach o cs p with ⟨b | more, r, ys⟩
    · rw [Step.bind_of_error hmore] at h
      cases h
    rw [Step.bind_of_ok hmore] at h
    obtain rfl := Except.ok.inj h
    rcases List.mem_append.1 hw with hw | hw
    · exact ⟨c, List.mem_cons_self, own, by rw [hfirst], hw⟩
    · obtain ⟨d, hd, own', hown⟩ := exists_of_completeEach cs (by rw [hmore]) hw
      exact ⟨d, List.mem_cons_of_mem c hd, own', hown⟩

/-- **What is offered in a frame is completed inside it**, after the frame has gone over its words. -/
theorem exists_of_offered {c : Parameter} {own : Step (List String)} {p : Progress}
    {words : List String} (hcompleter : c.frame.completer = none)
    (h : (offered o c own p).result = .ok words) (hw : w ∈ words) :
    ∃ q words', c.GoesOver o p q ∧ (own q).result = .ok words' ∧ w ∈ words' := by
  have hown : ∀ q, ((own >>= fun words => pure (Text.distinct words)) q).result = .ok words →
      ∃ words', (own q).result = .ok words' ∧ w ∈ words' := by
    intro q hq
    rw [Step.result_bind_pure] at hq
    rcases hr : (own q).result with b | words' <;> rw [hr] at hq
    · cases hq
    · obtain rfl := Except.ok.inj hq
      exact ⟨words', rfl, (Text.mem_distinctFrom.1 hw).1⟩
  unfold offered at h
  cases hmay : c.mayUse o.source with
  | false =>
    rw [hmay] at h
    obtain rfl := Except.ok.inj h
    cases hw
  | true =>
    rw [hmay, Bool.not_true, if_neg Bool.false_ne_true, hcompleter] at h
    dsimp only at h
    cases hrepeats : c.isRepeating with
    | false =>
      rw [hrepeats] at h
      obtain ⟨words', hwords'⟩ := hown p h
      exact ⟨p, words', .once hmay hrepeats, hwords'⟩
    | true =>
      rw [hrepeats, if_pos rfl] at h
      rcases hpass : passOverAll (c.core o) p with ⟨b | ⟨⟩, q, asked⟩
      · rw [Step.bind_of_error hpass] at h
        cases h
      · rw [Step.bind_of_ok hpass] at h
        obtain ⟨words', hwords'⟩ := hown q h
        exact ⟨q, words', .again hmay hrepeats hpass, hwords'⟩

/-- **What a grammar completes, a leaf does that it asks.** -/
theorem exists_of_complete (c : Parameter) (hcompleter : ∀ n, c.Has n → n.frame.completer = none)
    {p : Progress} {words : List String} (h : (c.complete o p).result = .ok words) (hw : w ∈ words) :
    ∃ f l q own, c.Has (.leaf f l) ∧ c.Asks o p l q ∧ (l.complete o q).result = .ok own ∧
      w ∈ own := by
  induction c using inductionOnChildren generalizing p words with
  | step c ih =>
    have hchild : ∀ d ∈ c.children, ∀ {p words}, (d.complete o p).result = .ok words → w ∈ words →
        ∃ f l q own, c.Has (.leaf f l) ∧ d.Asks o p l q ∧ (l.complete o q).result = .ok own ∧
          w ∈ own := by
      intro d hd p words hwords hw
      obtain ⟨f, l, q, own, hl, hasks⟩ := ih d hd (fun n hn => hcompleter n (.child hd hn)) hwords hw
      exact ⟨f, l, q, own, .child hd hl, hasks⟩
    have hframe := hcompleter c (.self c)
    cases c with
    | leaf f l =>
      rw [complete] at h
      obtain ⟨q, own, hover, hown⟩ := exists_of_offered hframe h hw
      exact ⟨f, l, q, own, .self _, .leaf hover, hown⟩
    | all f cs =>
      rw [complete] at h
      obtain ⟨q, own, hover, hown, hw'⟩ := exists_of_offered hframe h hw
      obtain ⟨d, after, r, r', asked, own', hgets, htried, hown', hw''⟩ :=
        exists_of_completeAll cs hown hw'
      obtain ⟨g, l, s, words', hl, hasks, hs⟩ := hchild d (hgets.subset List.mem_cons_self) hown' hw''
      exact ⟨g, l, s, words', hl, .all hover hgets htried hasks, hs⟩
    | first f d ds =>
      rw [complete] at h
      obtain ⟨q, own, hover, hown, hw'⟩ := exists_of_offered hframe h hw
      have heach : (completeEach o (d :: ds) q).result = .ok own := by rwa [completeEach]
      obtain ⟨e, he, own', hown', hw''⟩ := exists_of_completeEach (d :: ds) heach hw'
      obtain ⟨g, l, s, words', hl, hasks, hs⟩ := hchild e he hown' hw''
      exact ⟨g, l, s, words', hl, .first hover he hasks, hs⟩

end Parameter
end CommandGrammar
