/-
# What a sequence completes

A sequence offers what its children offer for the word being typed, as far as the children in front
are optional.  Which child the word belongs to is found out by parsing it: a child that succeeds and
leaves the word unread is passed over, and nothing that it offers is taken.

| child | passed over |
| --- | --- |
| it lets no word pass | never |
| `optionalWeak`, inside or outside | at a word that is not finished yet, unless a leaf takes it so |

The second row is where completions are lost.  A choice takes the beginning of a candidate, but a
truth value and a literal take whole words only, so `tr` is passed over and `true` is not offered.

Trying the children binds values, which may make an `onlyOne` fail in a sequence further inside; that
is the one other way to lose a completion.  `GetsTo` and `Tries` follow the tries of one run.
-/

import CommandGrammar.Host.Usual
import CommandGrammar.Proofs.Breakdowns.Typing
import CommandGrammar.Proofs.Steps.Likeness
import CommandGrammar.Proofs.Steps.Passing

namespace CommandGrammar

variable {α : Type} {R : Context → Context → Prop} {o : Occasion}

namespace Leaf

open Step

/-- **A literal completes alike whatever is bound.** -/
theorem alike_completeWords : ∀ words, (completeWords words).Alike R
  | [] => alike_pure []
  | w :: rest => by
    refine alike_next?.bind fun t? => ?_
    cases t? with
    | none => exact alike_pure _
    | some t =>
      refine alike_here_bind fun stream c c' hR => ?_
      dsimp only
      split
      · exact alike_pure _ stream c c' hR
      · split
        · exact alike_completeWords rest stream c c' hR
        · exact alike_pure _ stream c c' hR

/-- **So does a choice.** -/
theorem alike_completeChoice (h : Host) (c : Choice) : (completeChoice h c).Alike R := by
  refine alike_typed.bind fun w => ?_
  split
  · exact alike_stop _
  · exact (alike_candidates c w).bind fun _ => alike_pure _

/-- **A leaf completes by what stands on the line only.** -/
theorem alike_complete (o : Occasion) (l : Leaf) : (l.complete o).Alike R := by
  cases l <;> unfold complete
  case choice c => exact alike_completeChoice o.host c
  case literal v words => exact alike_completeWords words
  case nothing => exact alike_pure _
  case selector s =>
    refine alike_here_bind fun stream c c' hR => ?_
    dsimp only
    split
    · refine (alike_peek.bind fun ahead => ?_) stream c c' hR
      split
      · exact alike_next.bind fun _ => alike_pure _
      · exact alike_completeChoice o.host s.choice
    · exact alike_completeChoice o.host s.choice stream c c' hR
  all_goals exact alike_typed.bind fun _ => alike_pure _

end Leaf

namespace Parameter

variable {s : TokenStream} {t : Token} {c p : Parameter} {context : Context}

/-- With some bindings, the parameter succeeds and leaves the stream as it is. -/
def PassesOver (o : Occasion) (c : Parameter) (s : TokenStream) : Prop :=
  ∃ context q asked, c.parse o ⟨s, context⟩ = ⟨.ok (), q, asked⟩ ∧ q.stream = s

/-- **Only what lets words pass does so.** -/
theorem PassesOver.letsPass (h : c.PassesOver o s) (hnext : s.hasNext = true) :
    c.letsPass o.source = true := by
  obtain ⟨context, q, asked, hparse, hq⟩ := h
  refine Bool.of_not_eq_false fun hno => ?_
  have hlt := advances_parse c hno ⟨s, context⟩ hnext () q asked hparse
  rw [hq] at hlt
  exact Nat.lt_irrefl _ hlt

/-- Whether an `onlyOne` counts the values of a key within a sequence inside the parameter. -/
def CountsInSequences (p : Parameter) (key : String) : Prop :=
  ∃ f cs c, p.Has (.all f cs) ∧ c ∈ cs ∧ c.Counts key

/-- **A child that is satisfied at a lone word is passed over.** -/
theorem of_satisfied_true (hlone : s.Lone t) {q : Progress} {asked : List String}
    (h : satisfied o c ⟨s, context⟩ = ⟨.ok true, q, asked⟩) : q.stream = s ∧ c.PassesOver o s := by
  have honward := c.onward_parse o ⟨s, context⟩
  unfold satisfied at h
  rcases hparse : c.parse o ⟨s, context⟩ with ⟨(e | b) | ⟨⟩, r, xs⟩ <;> rw [hparse] at h honward
  · cases h
  · cases h
  · obtain ⟨hnext, rfl, -⟩ := Report.mk.inj h
    have hstream := hlone.stream_eq_of_onward honward (Except.ok.inj hnext)
    exact ⟨hstream, context, r, xs, hparse, hstream⟩

/-- **Whether a child is satisfied has an answer, unless the child breaks off.** -/
theorem exists_satisfied_eq {q : Progress}
    (hbroken : ∀ b, (c.parse o q).result ≠ .error (.broken b)) :
    ∃ passed stream d asked, satisfied o c q = ⟨.ok passed, ⟨stream, d⟩, asked⟩ := by
  unfold satisfied
  rcases hparse : c.parse o q with ⟨(e | b) | ⟨⟩, ⟨stream, d⟩, asked⟩
  · exact ⟨false, stream, d, asked, rfl⟩
  · exact absurd (by rw [hparse]) (hbroken b)
  · exact ⟨stream.hasNext, stream, d, asked, rfl⟩

/-- **The first child is passed over, or it is asked, and the others after it if it is optional.** -/
theorem completeAll_cons (o : Occasion) (c : Parameter) (cs : List Parameter) (p : Progress) :
    completeAll o (c :: cs) p = (satisfied o c >>= fun passed =>
      if passed then completeAll o cs
      else Step.goTo p.stream >>= fun _ => complete o c >>= fun words =>
        if !c.isOptional then pure words
        else Step.goTo p.stream >>= fun _ => completeAll o cs >>= fun more =>
          pure (words ++ more)) p := by
  rw [completeAll]
  rfl

/-- A sequence that completes at `p` gets to its last children `rest` at `q`: those in front of them
are passed over, or they complete and are optional. -/
inductive GetsTo (o : Occasion) : List Parameter → Progress → List Parameter → Progress → Prop
  | here (cs : List Parameter) (p : Progress) : GetsTo o cs p cs p
  | optional {d : Parameter} {cs rest : List Parameter} {p q r s : Progress}
      {asked more words : List String} (front : d.isOptional = true)
      (tried : satisfied o d p = ⟨.ok false, q, asked⟩)
      (offers : d.complete o ⟨p.stream, q.context⟩ = ⟨.ok words, r, more⟩)
      (onward : GetsTo o cs ⟨p.stream, r.context⟩ rest s) : GetsTo o (d :: cs) p rest s
  | passed {d : Parameter} {cs rest : List Parameter} {p q s : Progress} {asked : List String}
      (tried : satisfied o d p = ⟨.ok true, q, asked⟩) (onward : GetsTo o cs q rest s) :
      GetsTo o (d :: cs) p rest s

namespace GetsTo

variable {cs rest : List Parameter} {q r : Progress}

/-- **What is left of a sequence are children of it.** -/
theorem subset (h : GetsTo o cs q rest r) : rest ⊆ cs := by
  induction h with
  | here cs p => exact List.Subset.refl cs
  | optional _ _ _ _ ih => exact fun c hc => List.mem_cons_of_mem _ (ih hc)
  | passed _ _ ih => exact fun c hc => List.mem_cons_of_mem _ (ih hc)

/-- **A sequence gets to its children at places that satisfied children lead to.** -/
theorem keeps {I : TokenStream → Prop} (h : GetsTo o cs q rest r)
    (hI : ∀ d ∈ cs, ∀ p q asked, I p.stream → satisfied o d p = ⟨.ok true, q, asked⟩ → I q.stream)
    (hq : I q.stream) : I r.stream := by
  induction h with
  | here _ _ => exact hq
  | optional _ _ _ _ ih => exact ih (fun d hd => hI d (List.mem_cons_of_mem _ hd)) hq
  | passed htried _ ih =>
    exact ih (fun d hd => hI d (List.mem_cons_of_mem _ hd))
      (hI _ List.mem_cons_self _ _ _ hq htried)

/-- **At a lone word, it gets to them where it stands.** -/
theorem stream_eq_of_lone (h : GetsTo o cs q rest r) (hlone : q.stream.Lone t) :
    r.stream = q.stream := by
  refine h.keeps (I := fun stream => stream = q.stream) (fun d _ u v asked hu hd => ?_) rfl
  have hlone' : u.stream.Lone t := by rwa [hu]
  exact (of_satisfied_true hlone' hd).1.trans hu

end GetsTo

/-- A sequence that completes at `p` tries its child `c`, which stands in front of `after`; that comes
to `passed` and leaves the bindings `d`. -/
def Tries (o : Occasion) (cs : List Parameter) (p : Progress) (c : Parameter)
    (after : List Parameter) (passed : Bool) (d : Context) : Prop :=
  ∃ q stream asked, GetsTo o cs p (c :: after) q ∧
    satisfied o c q = ⟨.ok passed, ⟨stream, d⟩, asked⟩

namespace Tries

variable {b : Parameter} {cs after : List Parameter} {q r : Progress} {d : Context} {passed : Bool}
  {asked : List String}

/-- **The first child of what is left is tried where the sequence stands.** -/
theorem head (h : satisfied o c q = ⟨.ok passed, r, asked⟩) :
    Tries o (c :: after) q c after passed r.context := ⟨q, r.stream, asked, .here _ q, h⟩

/-- **What is tried behind a child that is passed over is tried in the sequence.** -/
theorem of_passed (h : Tries o cs r c after passed d)
    (htried : satisfied o b q = ⟨.ok true, r, asked⟩) : Tries o (b :: cs) q c after passed d := by
  obtain ⟨u, stream, more, hgets, hu⟩ := h
  exact ⟨u, stream, more, .passed htried hgets, hu⟩

/-- **So is what is tried behind an optional child that offers its words.** -/
theorem of_optional {u : Progress} {words more : List String}
    (h : Tries o cs ⟨q.stream, u.context⟩ c after passed d) (hfront : b.isOptional = true)
    (htried : satisfied o b q = ⟨.ok false, r, asked⟩)
    (hoffers : b.complete o ⟨q.stream, r.context⟩ = ⟨.ok words, u, more⟩) :
    Tries o (b :: cs) q c after passed d := by
  obtain ⟨v, stream, ys, hgets, hv⟩ := h
  exact ⟨v, stream, ys, .optional hfront htried hoffers hgets, hv⟩

/-- **Only what lets words pass is ever passed over.** -/
theorem letsPass (h : Tries o cs q c after true d) (hlone : q.stream.Lone t) :
    c.letsPass o.source = true := by
  obtain ⟨r, stream, asked, hgets, htried⟩ := h
  have hlone' : r.stream.Lone t := hgets.stream_eq_of_lone hlone ▸ hlone
  exact (of_satisfied_true hlone' htried).2.letsPass hlone'.hasNext

end Tries

/-- **A sequence offers what its children offer behind optional ones**, unless they are passed
over. -/
theorem result_completeAll_lone (hlone : s.Lone t) : ∀ (cs : List Parameter) (context : Context),
    (∀ c ∈ cs, ∀ d, ∃ own, (c.complete o ⟨s, d⟩).result = .ok own) →
    (∀ c ∈ cs, ∀ d b, (c.parse o ⟨s, d⟩).result ≠ .error (.broken b)) →
    ∃ words, (completeAll o cs ⟨s, context⟩).result = .ok words ∧
      ∀ before c after, cs = before ++ c :: after → (∀ b ∈ before, b.isOptional = true) →
        ∃ passed d, Tries o cs ⟨s, context⟩ c after passed d ∧ (passed = false →
          ∃ own, (c.complete o ⟨s, d⟩).result = .ok own ∧ own ⊆ words)
  | [], context, _, _ => by
    rw [completeAll]
    refine ⟨[], rfl, fun before c after hcs => ?_⟩
    cases before <;> cases hcs
  | c :: cs, context, hown, hbroken => by
    have hrest := fun d => result_completeAll_lone hlone cs d
      (fun c hc => hown c (List.mem_cons_of_mem _ hc))
      (fun c hc => hbroken c (List.mem_cons_of_mem _ hc))
    obtain ⟨passed, stream, d, asked, htried⟩ :=
      exists_satisfied_eq (hbroken c List.mem_cons_self context)
    rw [completeAll_cons, Step.bind_of_ok htried]
    -- The first child is passed over, or it is asked; the others are asked behind it if it is
    -- optional.
    cases passed with
    | true =>
      obtain ⟨rfl, -⟩ := of_satisfied_true hlone htried
      obtain ⟨words, hwords, hmem⟩ := hrest d
      refine ⟨words, hwords, fun before e after hcs hbefore => ?_⟩
      cases before with
      | nil =>
        obtain ⟨rfl, rfl⟩ := List.cons.inj hcs
        exact ⟨true, d, .head htried, fun h => Bool.noConfusion h⟩
      | cons b before =>
        obtain ⟨rfl, hcs'⟩ := List.cons.inj hcs
        obtain ⟨passed', d', htries, hasked⟩ :=
          hmem before e after hcs' fun b hb => hbefore b (List.mem_cons_of_mem _ hb)
        exact ⟨passed', d', htries.of_passed htried, hasked⟩
    | false =>
      obtain ⟨own, hc⟩ := hown c List.mem_cons_self d
      rcases hfirst : c.complete o ⟨s, d⟩ with ⟨x, ⟨stream', d'⟩, xs⟩
      obtain rfl : x = .ok own := by rw [hfirst] at hc; exact hc
      rw [if_neg Bool.false_ne_true, Step.goTo_bind, Step.bind_of_ok hfirst]
      cases hopt : c.isOptional with
      | false =>
        refine ⟨own, rfl, fun before e after hcs hbefore => ?_⟩
        cases before with
        | nil =>
          obtain ⟨rfl, rfl⟩ := List.cons.inj hcs
          exact ⟨false, d, .head htried, fun _ => ⟨own, hc, List.Subset.refl own⟩⟩
        | cons b before =>
          obtain ⟨rfl, -⟩ := List.cons.inj hcs
          exact absurd ((hbefore _ List.mem_cons_self).symm.trans hopt) Bool.noConfusion
      | true =>
        obtain ⟨more, hmore, hmem⟩ := hrest d'
        refine ⟨own ++ more, ?_, fun before e after hcs hbefore => ?_⟩
        · show ((completeAll o cs >>= fun more => pure (own ++ more)) ⟨s, d'⟩).result = _
          rw [Step.result_bind_pure, hmore]
          rfl
        · cases before with
          | nil =>
            obtain ⟨rfl, rfl⟩ := List.cons.inj hcs
            exact ⟨false, d, .head htried, fun _ => ⟨own, hc, List.subset_append_left own more⟩⟩
          | cons b before =>
            obtain ⟨rfl, hcs'⟩ := List.cons.inj hcs
            obtain ⟨passed', e', htries, hasked⟩ :=
              hmem before e after hcs' fun b hb => hbefore b (List.mem_cons_of_mem _ hb)
            refine ⟨passed', e', htries.of_optional hopt htried hfirst, fun hpassed => ?_⟩
            obtain ⟨own', hown', hsub⟩ := hasked hpassed
            exact ⟨own', hown', List.Subset.trans hsub (List.subset_append_right own more)⟩

/-- **No word stands before a lone one.** -/
theorem passOverAll_lone (hlone : s.Lone t) (core : Step Unit) (context : Context) :
    passOverAll core ⟨s, context⟩ = ⟨.ok (), ⟨s, context⟩, []⟩ := by
  show passOver core s.remaining ⟨s, context⟩ = _
  rw [hlone.remaining, passOver]
  dsimp only
  rw [hlone.remaining, if_neg (Nat.lt_irrefl 1)]

/-- **What a frame offers at a lone word is what its parameter does, each word once.** -/
theorem offered_lone (hlone : s.Lone t) (hmay : p.mayUse o.source = true)
    (hcompleter : p.frame.completer = none) (own : Step (List String)) (context : Context) :
    offered o p own ⟨s, context⟩ = (own >>= fun words => pure (Text.distinct words)) ⟨s, context⟩ := by
  unfold offered
  rw [hmay, hcompleter, Bool.not_true, if_neg Bool.false_ne_true]
  cases p.isRepeating with
  | false => rfl
  | true =>
    show (passOverAll (p.core o) >>= fun _ => own >>= fun words => pure (Text.distinct words)) _ = _
    rw [Step.bind_of_ok (passOverAll_lone hlone _ context), Report.after_nil]

/-- **Whether a child is satisfied is alike where the child parses alike.** -/
theorem alike_satisfied (h : (c.parse o).Alike R) : (satisfied o c).Alike R := by
  intro stream d d' hR
  obtain ⟨result, stream', asked, x, x', hR', hx, hy⟩ := h stream d d' hR
  unfold satisfied
  rw [hx, hy]
  rcases result with (e | b) | ⟨⟩ <;> exact .mk hR'

/-- **A sequence completes a lone word alike if its children do.** -/
theorem alikeAt_completeAll (hlone : s.Lone t) : ∀ cs : List Parameter,
    (∀ c ∈ cs, (c.parse o).Alike R) → (∀ c ∈ cs, (c.complete o).AlikeAt R s) →
    (completeAll o cs).AlikeAt R s
  | [], _, _ => by
    rw [completeAll]
    exact Step.alike_pure [] s
  | c :: cs, hparse, hcomplete => by
    have hrest := alikeAt_completeAll hlone cs (fun d hd => hparse d (List.mem_cons_of_mem c hd))
      fun d hd => hcomplete d (List.mem_cons_of_mem c hd)
    intro d d' hR
    rw [completeAll_cons, completeAll_cons]
    refine ((alike_satisfied (hparse c List.mem_cons_self) s).bind ?_) d d' hR
    intro passed x stream' y asked htried
    cases passed with
    | true =>
      obtain ⟨rfl, -⟩ := of_satisfied_true hlone htried
      exact hrest
    | false =>
      refine (Step.alike_goTo s stream').bind fun _ _ stream'' _ _ hgone => ?_
      obtain rfl : s = stream'' := congrArg (·.progress.stream) hgone
      refine (hcomplete c List.mem_cons_self).bind fun words _ stream₁ _ _ _ => ?_
      split
      · exact Step.alike_pure _ _
      · refine (Step.alike_goTo s stream₁).bind fun _ _ stream₂ _ _ hgone => ?_
        obtain rfl : s = stream₂ := congrArg (·.progress.stream) hgone
        exact hrest.bind fun more _ stream₃ _ _ _ => Step.alike_pure _ _

/-- **So do alternatives.** -/
theorem alikeAt_completeEach : ∀ cs : List Parameter,
    (∀ c ∈ cs, (c.complete o).AlikeAt R s) → (completeEach o cs).AlikeAt R s
  | [], _ => by
    rw [completeEach]
    exact Step.alike_pure [] s
  | c :: cs, h => by
    have hrest := alikeAt_completeEach cs fun d hd => h d (List.mem_cons_of_mem c hd)
    rw [completeEach]
    refine (h c List.mem_cons_self).undone.bind fun words _ stream' _ _ hc => ?_
    obtain rfl : s = stream' := congrArg (·.progress.stream) hc
    exact hrest.bind fun more _ _ _ _ _ => Step.alike_pure _ _

/-- **What a parameter offers for a lone word depends on bindings only** under the keys that an
`onlyOne` counts within a sequence. -/
theorem alikeAt_complete (hlone : s.Lone t) {K : String → Prop} (p : Parameter)
    (hcompleter : ∀ n, p.Has n → n.frame.completer = none)
    (hcounts : ∀ key, p.CountsInSequences key → K key) :
    (p.complete o).AlikeAt (Context.AgreeOn K) s := by
  induction p using inductionOnChildren with
  | step p ih =>
    have hchild : ∀ c ∈ p.children, (c.complete o).AlikeAt (Context.AgreeOn K) s := fun c hc =>
      ih c hc (fun n hn => hcompleter n (.child hc hn)) fun key ⟨f, cs, d, hall, hd⟩ =>
        hcounts key ⟨f, cs, d, .child hc hall, hd⟩
    have hoffered : ∀ own : Step (List String), own.AlikeAt (Context.AgreeOn K) s →
        (offered o p own).AlikeAt (Context.AgreeOn K) s := fun own hown d d' hR => by
      cases hmay : p.mayUse o.source with
      | false =>
        unfold offered
        rw [hmay]
        exact .mk hR
      | true =>
        rw [offered_lone hlone hmay (hcompleter p (.self p)),
          offered_lone hlone hmay (hcompleter p (.self p))]
        exact hown.bind (fun _ _ _ _ _ _ => Step.alike_pure _ _) d d' hR
    cases p with
    | leaf f l =>
      rw [complete]
      exact hoffered _ (Leaf.alike_complete o l s)
    | all f cs =>
      rw [complete]
      refine hoffered _ (alikeAt_completeAll hlone cs (fun c hc => ?_) hchild)
      refine alike_parse fun n hn => preserves_agreeOn fun hm => ?_
      exact hcounts n.key ⟨f, cs, c, .self _, hc, n, hn, rfl, hm⟩
    | first f c cs =>
      rw [complete]
      refine hoffered _ ((hchild c List.mem_cons_self).undone.bind fun words _ stream' _ _ hc => ?_)
      obtain rfl : s = stream' := congrArg (·.progress.stream) hc
      refine (alikeAt_completeEach cs fun d hd => hchild d (List.mem_cons_of_mem c hd)).bind ?_
      exact fun more _ _ _ _ _ => Step.alike_pure _ _

/-- **Where no leaf breaks off, a completion comes to words.** -/
theorem exists_result_complete {p : Parameter} {q : Progress} {W : String → Prop}
    (hcompleter : ∀ n, p.Has n → n.frame.completer = none)
    (hfault : p.FaultsIn (Leaf.BreaksTyping o.host) W fun _ => False)
    (hq : q.stream.SaysOnly W none) :
    ∃ words, (p.complete o q).result = .ok words := by
  have hgoverns := Course.governs_completeParameter (o := o) p
    (fun n hn k hk => nomatch (hcompleter n hn).symm.trans hk) hfault q
  cases hresult : (p.complete o q).result with
  | ok words => exact ⟨words, rfl⟩
  | error e =>
    obtain ⟨b, -, hno⟩ := hgoverns.2 e hresult hq
    exact hno.elim

/-- **A sequence loses no completion of a child behind optional ones, unless it passes over the child
at the word being typed**, which only a child that lets words pass can bring about; or its tries have
bound something under a key that an `onlyOne` counts in a sequence inside the child. -/
theorem sequence_completes_unless_passed_over {f : Frame} {cs : List Parameter} {p : Progress}
    (hlone : p.stream.Lone t) (hmay : (all f cs).mayUse o.source = true)
    (hcompleter : ∀ n, (all f cs).Has n → n.frame.completer = none)
    (hfault : (all f cs).FaultsIn (Leaf.BreaksTyping o.host)
      (fun w => ∃ u ∈ p.stream.tokens, u.text = w) fun _ => False) :
    ∃ words, ((all f cs).complete o p).result = .ok words ∧
      ∀ before c after, cs = before ++ c :: after → (∀ b ∈ before, b.isOptional = true) →
        ∀ context, ∃ own, (c.complete o ⟨p.stream, context⟩).result = .ok own ∧
          (own ⊆ words ∨
            (c.letsPass o.source = true ∧ ∃ d, Tries o cs p c after true d) ∨
            ∃ d key, Tries o cs p c after false d ∧ c.CountsInSequences key ∧
              context.values key ≠ d.values key) := by
  have hsays : p.stream.SaysOnly (fun w => ∃ u ∈ p.stream.tokens, u.text = w) none :=
    ⟨fun u hu => ⟨u, hu, rfl⟩, hlone.pending⟩
  have hinside : ∀ c ∈ cs, c.FaultsIn (Leaf.BreaksTyping o.host)
      (fun w => ∃ u ∈ p.stream.tokens, u.text = w) fun _ => False :=
    fun c hc g l hl => hfault g l (.child hc hl)
  have hown : ∀ c ∈ cs, ∀ d, ∃ own, (c.complete o ⟨p.stream, d⟩).result = .ok own :=
    fun c hc d => exists_result_complete (fun n hn => hcompleter n (.child hc hn)) (hinside c hc)
      (q := ⟨p.stream, d⟩) hsays
  have hbroken : ∀ c ∈ cs, ∀ d b, (c.parse o ⟨p.stream, d⟩).result ≠ .error (.broken b) :=
    fun c hc d b h =>
      (ParseCourse.governs_words none (hinside c hc).reading ⟨p.stream, d⟩).2 _ h hsays b rfl
  obtain ⟨words, hwords, hmem⟩ := result_completeAll_lone hlone cs p.context hown hbroken
  refine ⟨Text.distinct words, ?_, fun before c after hcs hbefore context => ?_⟩
  · rw [complete, offered_lone hlone hmay (hcompleter _ (.self _)), Step.result_bind_pure, hwords]
    rfl
  · have hc : c ∈ cs := by rw [hcs]; exact List.mem_append_right before List.mem_cons_self
    obtain ⟨own, hcontext⟩ := hown c hc context
    refine ⟨own, hcontext, ?_⟩
    obtain ⟨passed, d, htries, hasked⟩ := hmem before c after hcs hbefore
    cases passed with
    | true => exact .inr (.inl ⟨htries.letsPass hlone, d, htries⟩)
    | false =>
      obtain ⟨own', hd, hsub⟩ := hasked rfl
      by_cases hagree : context.AgreeOn c.CountsInSequences d
      · have halike := alikeAt_complete (o := o) hlone c (fun n hn => hcompleter n (.child hc hn))
          (fun _ h => h) context d hagree
        obtain rfl : own = own' := Except.ok.inj (hcontext.symm.trans (halike.result_eq.trans hd))
        exact .inl fun w hw => Text.mem_distinctFrom.2 ⟨hsub hw, List.not_mem_nil⟩
      · obtain ⟨key, hkey⟩ := Classical.not_forall.1 hagree
        obtain ⟨hcounted, hne⟩ := Classical.not_imp.1 hkey
        exact .inr (.inr ⟨d, key, htries, hcounted, hne⟩)

/-- **Behind an optional choice, a sequence offers what the next choice does.** -/
theorem sequence_completes_behind_optional_choice :
    let o : Occasion := ⟨.trusted "tester", ⟨2024, 5, 31, 12, 34, 56, 789012, none⟩, .usual⟩
    let town : Parameter := .leaf { key := "town", modifiers := [.optional] }
      (.choice (.ofList [("alba", .integer 1)] true))
    let bay : Parameter := .leaf { key := "bay" }
      (.choice (.ofList [("bath", .integer 2), ("bude", .integer 3)] true))
    let p : Progress := .ofStream (.ofTyped .spaced "b")
    ((all {} [town, bay]).complete o p).result = .ok ["bath", "bude"] ∧
      ∀ context, ∃ own, (bay.complete o ⟨p.stream, context⟩).result = .ok own ∧
        own ⊆ ["bath", "bude"] := by
  dsimp only
  refine ⟨rfl, fun context => ?_⟩
  have hleaf : ∀ n, (all {} [.leaf { key := "town", modifiers := [.optional] }
      (.choice (.ofList [("alba", .integer 1)] true)), .leaf { key := "bay" }
      (.choice (.ofList [("bath", .integer 2), ("bude", .integer 3)] true))]).Has n →
      n.frame.completer = none ∧
        ∀ f l, n = .leaf f l → ∀ b, ¬l.BreaksTyping .usual "b" b := by
    intro n hn
    rcases hn.of_pair with rfl | rfl | rfl
    · exact ⟨rfl, fun f l h => nomatch h⟩
    · refine ⟨rfl, fun f l h b hb => ?_⟩
      cases h
      rcases hb with hb | hb <;> cases hb
    · refine ⟨rfl, fun f l h b hb => ?_⟩
      cases h
      rcases hb with hb | hb <;> cases hb
  obtain ⟨words, hwords, hmem⟩ := sequence_completes_unless_passed_over
    (o := ⟨.trusted "tester", ⟨2024, 5, 31, 12, 34, 56, 789012, none⟩, .usual⟩)
    (p := .ofStream (.ofTyped .spaced "b")) (t := ⟨"b", 0, 1⟩) ⟨rfl, rfl⟩ rfl
    (fun n hn => (hleaf n hn).1) (fun f l hl w b hw hb => by
      obtain ⟨u, hu, rfl⟩ := hw
      obtain rfl : u = ⟨"b", 0, 1⟩ := List.mem_singleton.1 hu
      exact (hleaf _ hl).2 f l rfl b hb)
  obtain rfl : ["bath", "bude"] = words := Except.ok.inj hwords
  obtain ⟨own, hown, h⟩ :=
    hmem [_] _ [] rfl (fun b hb => by rw [List.mem_singleton.1 hb]; rfl) context
  refine ⟨own, hown, ?_⟩
  rcases h with h | ⟨h, -⟩ | ⟨d, key, -, ⟨f, cs, c, hall, -⟩, -⟩
  · exact h
  · cases h
  · cases hall.of_leaf

/-- **A truth value that need not be given is lost while its word is being typed**: alone it offers
`true` for `tr`, but a sequence passes over it and asks only the choice behind it. -/
theorem sequence_loses_truth_value :
    let o : Occasion := ⟨.trusted "tester", ⟨2024, 5, 31, 12, 34, 56, 789012, none⟩, .usual⟩
    let sure : Parameter := .leaf { key := "sure", modifiers := [.optionalWeak] } .truth
    let bay : Parameter := .leaf { key := "bay" } (.choice (.ofList [("bath", .integer 2)] true))
    let p : Progress := .ofStream (.ofTyped .spaced "tr")
    (sure.complete o p).result = .ok ["true"] ∧
      ((all {} [sure, bay]).complete o p).result = .ok [] := by
  exact ⟨rfl, rfl⟩

end Parameter
end CommandGrammar
