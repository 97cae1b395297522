/-
# What lets a word pass

A parameter may succeed without reading anything although a word is ahead.  Its form tells when
(`Parameter.letsPass`):

| part | lets a word pass |
| --- | --- |
| a leaf | if it reads nothing at all |
| `all` | if all children do |
| `first` | if some child does |
| `optionalWeak` | always |
| `optional`, `allOf`, `onlyOne`, `repeated`, a default, `plain` | if what it wraps does |

and a source that may not use it passes over any parameter.  `optional` is not the same as
`optionalWeak` here: it forgives a failure only where nothing is ahead.  Everything that lets a word
pass is optional; the converse fails.
-/

import CommandGrammar.Proofs.Steps.Onward

namespace CommandGrammar

variable {α β : Type} {o : Occasion}

/-- **What was asked before has no part in what a report has come to.** -/
theorem Report.exists_of_after_ok {r : Report α} {asked xs : List String} {a : α} {q : Progress}
    (h : r.after asked = ⟨.ok a, q, xs⟩) : ∃ ys, r = ⟨.ok a, q, ys⟩ := by
  obtain ⟨result, progress, more⟩ := r
  obtain ⟨rfl, rfl, -⟩ := Report.mk.inj h
  exact ⟨more, rfl⟩

namespace Step

/-- If the step succeeds where something is ahead, it has read something. -/
def Advances (s : Step α) : Prop :=
  ∀ p, p.stream.hasNext = true → ∀ a q asked, s p = ⟨.ok a, q, asked⟩ →
    p.stream.cursor < q.stream.cursor

/-- **Reading a token advances.** -/
theorem advances_next : Advances Step.next := by
  intro p _ a q asked h
  unfold Step.next at h
  rcases p.stream.next_cases with ⟨hc, hn, -⟩ | ⟨hn, -⟩ <;> rw [hn] at h <;> cases h
  exact Nat.lt_succ_self _

/-- **Reading a token with its place advances.** -/
theorem advances_token : Advances Step.token := by
  intro p _ a q asked h
  unfold Step.token at h
  rcases p.stream.next_cases with ⟨hc, hn, -⟩ | ⟨hn, -⟩ <;> rw [hn] at h <;> cases h
  exact Nat.lt_succ_self _

/-- **What begins by reading has read in the end.** -/
theorem Advances.bind {s : Step α} {next : α → Step β} (hs : s.Advances)
    (hnext : ∀ a p, ParseCourse.onward.Carries p (next a)) : (s >>= next).Advances := by
  intro p hp b r asked h
  obtain ⟨a, q, xs, ys, hq, hr, -⟩ := exists_of_bind_ok h
  have honward := (hnext a q q (.refl q)).leads_of_eq hr
  exact Nat.lt_of_lt_of_le (hs p hp a q xs hq) honward.cursor_le

/-- **What ends by reading has read, for nothing moves back before.** -/
theorem Advances.of_bind {s : Step α} {next : α → Step β}
    (hs : ∀ p, ParseCourse.onward.Carries p s)
    (hcarries : ∀ a p, ParseCourse.onward.Carries p (next a)) (hnext : ∀ a, (next a).Advances) :
    (s >>= next).Advances := by
  intro p hp b r asked h
  obtain ⟨a, q, xs, ys, hq, hr, -⟩ := exists_of_bind_ok h
  have hpq := (hs p p (.refl p)).leads_of_eq hq
  have hqr := (hcarries a q q (.refl q)).leads_of_eq hr
  rcases Nat.lt_or_ge p.stream.cursor q.stream.cursor with hlt | hge
  · exact Nat.lt_of_lt_of_le hlt hqr.cursor_le
  · have hstream := hpq.stream_eq hge
    have hlt := hnext a q (by rw [hstream]; exact hp) b r ys hr
    rwa [hstream] at hlt

/-- **A look at the next token advances as what follows it does.** -/
theorem advances_peek_bind {next : String → Step β} (h : ∀ a, (next a).Advances) :
    (Step.peek >>= next).Advances := by
  intro p hp b r asked hr
  obtain ⟨a, q, xs, ys, hq, hr, -⟩ := exists_of_bind_ok hr
  unfold Step.peek at hq
  split at hq <;> cases hq
  exact h a p hp b r ys hr

/-- **Noting the place advances as what follows it does.** -/
theorem Advances.here_bind {next : Progress → Step β} (h : ∀ p, (next p).Advances) :
    (Step.here >>= next).Advances := fun p hp b q asked hq => h p p hp b q asked hq

/-- **Going back on failure advances as the step does.** -/
theorem Advances.atomic {s : Step α} (h : s.Advances) : s.atomic.Advances := by
  intro p hp a q asked hq
  unfold Step.atomic at hq
  split at hq
  · rename_i hs
    exact h p hp _ _ _ (hs.trans hq)
  · cases hq

/-- **A step that cannot succeed has nothing to read.** -/
theorem advances_of_ne_ok {s : Step α} (h : ∀ p a, (s p).result ≠ .ok a) : s.Advances :=
  fun p _ a _ _ hq => absurd (by rw [hq]) (h p a)

end Step

open Step

namespace Leaf

/-- Whether a leaf reads no token. -/
def letsPass : Leaf → Bool
  | nothing => true
  | literal _ words => words.isEmpty
  | _ => false

/-- **A failure leads onward.** -/
theorem carries_failAt (p : Progress) (i : Int) (problem : Problem) :
    ParseCourse.onward.Carries p (Step.failAt i problem : Step α) :=
  fun _ hq => Course.allows_error hq trivial _

/-- **A stop leads onward.** -/
theorem carries_stop (p : Progress) (e : Stop) :
    ParseCourse.onward.Carries p (Step.stop e : Step α) :=
  Course.carries_stop trivial

open ParseCourse Course

/-- **A leaf that reads one token advances.** -/
theorem advances_readToken (read : String → Except Problem Value) : (readToken read).Advances := by
  refine advances_token.bind fun t p => ?_
  dsimp only
  split
  · exact carries_pure _
  · exact Leaf.carries_failAt p _ _

/-- **A literal with a word advances.** -/
theorem advances_readWords (w : String) (rest : List String) : (readWords (w :: rest)).Advances := by
  refine advances_token.bind fun t p => ?_
  dsimp only
  split
  · exact (governs_readWords rest).carries
  · exact Leaf.carries_failAt p _ _

/-- **The values of the candidates lead onward.** -/
theorem carries_valuesOf (c : Choice) (p : Progress) (i : Int) :
    ∀ names, ParseCourse.onward.Carries p (valuesOf c i names)
  | [] => carries_pure _
  | name :: rest => by
    unfold valuesOf
    split
    · exact (carries_valuesOf c p i rest).bind fun _ => carries_pure _
    · exact Leaf.carries_failAt p _ _
    · exact Leaf.carries_stop p _

/-- **A choice advances.** -/
theorem advances_readChoice (h : Host) (c : Choice) : (readChoice h c).Advances := by
  refine advances_token.bind fun t p => Carries.bind (fun q hq => ?_) fun names => ?_
  · obtain ⟨asked, hnames⟩ := exists_candidates_eq c t.1 q
    rw [hnames]
    exact allows_ok hq _ _
  · split
    · exact Leaf.carries_stop p _
    · exact Leaf.carries_failAt p _ _
    · exact (carries_valuesOf c p _ _).bind fun _ => carries_pure _

/-- **A selector advances.** -/
theorem advances_readSelector (o : Occasion) (s : Selector) : (readSelector o s).Advances := by
  refine advances_peek_bind fun ahead => ?_
  split
  · refine advances_token.bind fun t p => ?_
    dsimp only
    split
    · exact Leaf.carries_failAt p _ _
    · exact Leaf.carries_failAt p _ _
    · split
      · exact Leaf.carries_failAt p _ _
      · exact carries_pure _
  · exact advances_readChoice o.host s.choice

/-- **A duration advances.** -/
theorem advances_readDuration : readDuration.Advances := by
  refine advances_token.bind fun t p => ?_
  dsimp only
  split
  · exact carries_pure _
  · exact Leaf.carries_stop p _
  · exact Leaf.carries_failAt p _ _

/-- **A leaf reads the word ahead, unless it reads none at all.** -/
theorem advances_read {l : Leaf} (h : l.letsPass = false) : (l.read o).Advances := by
  cases l <;> unfold read
  case text => exact advances_next.bind fun _ _ => carries_pure _
  case integer | real | truth | moment => exact advances_readToken _
  case nothing => cases h
  case restJoined =>
    refine advances_next.bind fun first p => carries_here_bind fun q _ => ?_
    exact (governs_restTokens _).carries.bind fun _ => carries_pure _
  case restRaw =>
    refine Advances.here_bind fun start => advances_next.bind fun _ p => ?_
    refine carries_here_bind fun q _ => ?_
    exact (governs_restTokens _).carries.bind fun _ => carries_pure _
  case duration => exact advances_readDuration
  case literal v words =>
    cases words with
    | nil => cases h
    | cons w rest => exact (advances_readWords w rest).bind fun _ _ => carries_pure _
  case choice c => exact advances_readChoice o.host c
  case selector s => exact advances_readSelector o s

end Leaf

namespace Modifier

variable {inner : Step Unit} {key : String} {source : Source}

/-- Whether a modifier lets any word pass. -/
def letsPass : Modifier → Bool
  | optionalWeak | repeated 0 => true
  | _ => false

/-- **What may be given only once advances if the inner step does.** -/
theorem advances_runOnlyOne (h : inner.Advances) : (runOnlyOne key inner).Advances := by
  refine Advances.here_bind fun start => h.bind fun _ p => ?_
  refine Course.carries_here_of_allows fun q _ => ?_
  split
  · exact Leaf.carries_failAt q _ _ q (.refl q)
  · exact Course.carries_pure () q (.refl q)

/-- **As many runs as succeed advance if the inner step does.** -/
theorem advances_runAllOf (hinner : ParseCourse.onward.Governs inner) (h : inner.Advances) :
    (runAllOf key inner).Advances := by
  intro p hp a q asked hq
  unfold runAllOf at hq
  rw [if_pos hp] at hq
  split at hq
  · rename_i r xs hr
    have hlt := h.atomic p hp _ _ _ hr
    rw [if_neg (Nat.ne_of_gt hlt)] at hq
    have honward := (hinner.runAgain r.stream.remaining r).1
    rcases hs : runAgain inner r.stream.remaining r with ⟨x, s, ys⟩
    rw [hs] at hq honward
    cases hq
    exact Nat.lt_of_lt_of_le hlt honward.cursor_le
  · cases hq

/-- **Repeated runs advance if there is one and the inner step does.** -/
theorem advances_runTimes (hinner : ParseCourse.onward.Governs inner) (h : inner.Advances)
    (times left attempt : Nat) : (runTimes inner times (left + 1) attempt).Advances := by
  intro p hp a q asked hq
  unfold runTimes at hq
  split at hq
  · rename_i r xs hr
    have hlt := h p hp _ _ _ hr
    have honward := (hinner.runTimes times left (attempt + 1) r).1
    rcases hs : runTimes inner times left (attempt + 1) r with ⟨x, s, ys⟩
    rw [hs] at hq honward
    cases hq
    exact Nat.lt_of_lt_of_le hlt honward.cursor_le
  · cases hq
  · cases hq

/-- **An optional step advances where it succeeds if the inner one does.** -/
theorem advances_runOptional (h : inner.Advances) : (runOptional inner).Advances := by
  intro p hp a q asked hq
  unfold runOptional at hq
  split at hq
  · rw [if_pos hp] at hq
    cases hq
  · exact h.atomic p hp a q asked hq

/-- **A step with a default advances if the inner one does.** -/
theorem advances_runDefault (h : inner.Advances) (value : Option Value) :
    (runDefault key value inner).Advances := by
  refine h.bind fun _ p => Course.carries_here_bind fun q _ => ?_
  split
  · cases value with
    | none => exact Course.carries_pure ()
    | some v => exact ParseCourse.carries_put trivial
  · exact Course.carries_pure ()

/-- **A modifier that lets no word pass advances if what it wraps does.** -/
theorem advances_apply (hinner : ParseCourse.onward.Governs inner) (h : inner.Advances)
    {m : Modifier} (hm : m.letsPass = false) : (m.apply key source inner).Advances := by
  cases m with
  | onlyOne => exact advances_runOnlyOne h
  | allOf => exact advances_runAllOf hinner h
  | repeated n =>
    cases n with
    | zero => cases hm
    | succ n => exact (advances_runTimes hinner h (n + 1) n 1).atomic
  | optional => exact advances_runOptional h
  | optionalWeak => cases hm
  | default v => exact advances_runDefault h (some v)
  | defaultBy value => exact advances_runDefault h (value source)
  | plain => exact h

/-- **So does a chain of such modifiers.** -/
theorem advances_chain (hinner : ParseCourse.onward.Governs inner) (h : inner.Advances) :
    ∀ ms : List Modifier, ms.any letsPass = false → (chain key source ms inner).Advances
  | [], _ => h
  | m :: ms, hms => by
    rw [List.any_cons, Bool.or_eq_false_iff] at hms
    have hbinds : ∀ k ∈ ms, k.BindsIn ParseCourse.onward key source := fun k _ => by
      cases k <;> first | trivial | exact fun _ _ => trivial
    rw [chain_cons]
    exact advances_apply (hinner.chain hbinds) (advances_chain hinner h ms hms.2) hms.1

end Modifier

namespace Parameter

/-- **A grammar keeps to the line.** -/
theorem governs_onward (o : Occasion) (p : Parameter) : ParseCourse.onward.Governs (p.parse o) :=
  fun s => ⟨p.onward_parse o s, fun _ _ => trivial⟩

/-- **What a parameter reads leads onward.** -/
theorem governs_onward_core (o : Occasion) (p : Parameter) :
    ParseCourse.onward.Governs (p.core o) :=
  ParseCourse.governs_core
    (ParseCourse.covers_of_binds (fun _ _ => trivial) fun _ _ _ _ _ _ _ _ => trivial)

/-- Whether a parameter lets any word pass by itself: a source may not use it, or a modifier lets
words pass. -/
def frameLetsPass (source : Source) (p : Parameter) : Bool :=
  !p.mayUse source || p.frame.modifiers.any Modifier.letsPass

mutual

/-- Whether a parameter may succeed without reading a word that is ahead, as its form tells. -/
def letsPass (source : Source) : Parameter → Bool
  | leaf f l => frameLetsPass source (leaf f l) || l.letsPass
  | all f cs => frameLetsPass source (all f cs) || allLetPass source cs
  | first f c cs =>
    frameLetsPass source (first f c cs) || (letsPass source c || someLetsPass source cs)

/-- Whether all parameters do. -/
def allLetPass (source : Source) : List Parameter → Bool
  | [] => true
  | c :: cs => letsPass source c && allLetPass source cs

/-- Whether one of the parameters does. -/
def someLetsPass (source : Source) : List Parameter → Bool
  | [] => false
  | c :: cs => letsPass source c || someLetsPass source cs

end

/-- **A sequence advances if some child does not let pass.** -/
theorem advances_parseAll : ∀ cs : List Parameter,
    (∀ c ∈ cs, c.letsPass o.source = false → (c.parse o).Advances) →
    allLetPass o.source cs = false → (parseAll o cs).Advances
  | [], _, h => by
    rw [allLetPass] at h
    cases h
  | c :: cs, ih, h => by
    have hcs := ParseCourse.governs_parseAll cs fun d _ => governs_onward o d
    rw [parseAll]
    rw [allLetPass] at h
    -- If the first child may let the word pass, one of the others reads it.
    cases hc : c.letsPass o.source with
    | false => exact (ih c List.mem_cons_self hc).bind fun _ _ => hcs.carries
    | true =>
      rw [hc, Bool.true_and] at h
      refine Advances.of_bind (fun _ => (governs_onward o c).carries) (fun _ _ => hcs.carries)
        fun _ => ?_
      exact advances_parseAll cs (fun d hd => ih d (List.mem_cons_of_mem c hd)) h

/-- **Alternatives advance if none of them lets pass.** -/
theorem advances_parseFirst : ∀ (cs : List Parameter) (best : ParseError),
    (∀ c ∈ cs, c.letsPass o.source = false → (c.parse o).Advances) →
    someLetsPass o.source cs = false → (parseFirst o best cs).Advances
  | [], best, _, _ => by
    rw [parseFirst]
    refine advances_of_ne_ok fun _ _ h => ?_
    cases h
  | c :: cs, best, ih, h => by
    rw [someLetsPass, Bool.or_eq_false_iff] at h
    have hcs := fun e =>
      advances_parseFirst cs e (fun d hd => ih d (List.mem_cons_of_mem c hd)) h.2
    have hc := (ih c List.mem_cons_self h.1).atomic
    intro p hp a q asked hq
    rw [parseFirst] at hq
    dsimp only at hq
    split at hq
    · obtain ⟨xs, hr⟩ := Report.exists_of_after_ok hq
      exact hcs _ p hp a q xs hr
    · exact hc p hp a q asked hq

/-- **A parameter that does not let pass has no modifier that does.** -/
theorem frameLetsPass_of_letsPass {p : Parameter} {source : Source}
    (h : p.letsPass source = false) : p.frameLetsPass source = false := by
  cases p <;> rw [letsPass, Bool.or_eq_false_iff] at h <;> exact h.1

/-- **A parameter that does not let pass advances once its children do.** -/
theorem advances_core {p : Parameter}
    (ih : ∀ c ∈ p.children, c.letsPass o.source = false → (c.parse o).Advances)
    (h : p.letsPass o.source = false) : (p.core o).Advances := by
  cases p with
  | leaf f l =>
    rw [letsPass, Bool.or_eq_false_iff] at h
    refine (Leaf.advances_read h.2).bind fun vs p => ?_
    split
    · exact ParseCourse.carries_putAll fun _ _ => trivial
    · exact Course.carries_pure ()
  | all f cs =>
    rw [letsPass, Bool.or_eq_false_iff] at h
    exact (advances_parseAll cs ih h.2).atomic
  | first f c cs =>
    rw [letsPass, Bool.or_eq_false_iff, Bool.or_eq_false_iff] at h
    obtain ⟨-, hc, hcs⟩ := h
    intro p hp a q asked hq
    unfold core at hq
    dsimp only at hq
    split at hq
    · obtain ⟨xs, hr⟩ := Report.exists_of_after_ok hq
      exact advances_parseFirst cs _ (fun d hd => ih d (List.mem_cons_of_mem c hd)) hcs
        p hp a q xs hr
    · exact (ih c List.mem_cons_self hc).atomic p hp a q asked hq

/-- **A parameter that lets no word pass has read one when it succeeds.** -/
theorem advances_parse (p : Parameter) (h : p.letsPass o.source = false) :
    (p.parse o).Advances := by
  induction p using inductionOnChildren with
  | step p ih =>
    have hframe := frameLetsPass_of_letsPass h
    rw [frameLetsPass, Bool.or_eq_false_iff, Bool.not_eq_false'] at hframe
    rw [parse_eq_framed]
    unfold framed
    rw [if_pos (show o.source.may p.frame.permission = true from hframe.1)]
    exact Modifier.advances_chain (governs_onward_core o p) (advances_core ih h) _ hframe.2

/-- **Children that all let pass are optional, each if it is.** -/
theorem allOptional_of_allLetPass {source : Source} : ∀ cs : List Parameter,
    (∀ c ∈ cs, c.letsPass source = true → c.isOptional = true) →
    allLetPass source cs = true → allOptional cs = true
  | [], _, _ => rfl
  | c :: cs, ih, h => by
    rw [allLetPass, Bool.and_eq_true] at h
    rw [allOptional, ih c List.mem_cons_self h.1, Bool.true_and]
    exact allOptional_of_allLetPass cs (fun d hd => ih d (List.mem_cons_of_mem c hd)) h.2

/-- **Of children some of which let pass, some are optional.** -/
theorem someOptional_of_someLetsPass {source : Source} : ∀ cs : List Parameter,
    (∀ c ∈ cs, c.letsPass source = true → c.isOptional = true) →
    someLetsPass source cs = true → someOptional cs = true
  | [], _, h => h
  | c :: cs, ih, h => by
    rw [someLetsPass, Bool.or_eq_true] at h
    rw [someOptional, Bool.or_eq_true]
    refine h.imp (ih c List.mem_cons_self) ?_
    exact someOptional_of_someLetsPass cs fun d hd => ih d (List.mem_cons_of_mem c hd)

/-- **What lets a word pass is optional**, where the source may use every node, no repetition is
empty and no literal is without words. -/
theorem isOptional_of_letsPass {source : Source} (p : Parameter)
    (husable : ∀ n, p.Has n → n.mayUse source = true)
    (hmodifiers : ∀ n, p.Has n → ∀ m ∈ n.frame.modifiers, m.letsPass = true → m.isSkippable = true)
    (hleaves : ∀ f l, p.Has (leaf f l) → l.letsPass = true → l.readsNothing = true)
    (h : p.letsPass source = true) : p.isOptional = true := by
  induction p using inductionOnChildren with
  | step p ih =>
    have hchild : ∀ c ∈ p.children, c.letsPass source = true → c.isOptional = true :=
      fun c hc => ih c hc (fun n hn => husable n (.child hc hn))
        (fun n hn => hmodifiers n (.child hc hn)) fun f l hl => hleaves f l (.child hc hl)
    have hframe : p.frameLetsPass source = true → p.frame.modifiers.any Modifier.isSkippable = true := by
      intro hframe
      rw [frameLetsPass, husable p (.self p), Bool.not_true, Bool.false_or, List.any_eq_true] at hframe
      obtain ⟨m, hm, hpass⟩ := hframe
      exact List.any_eq_true.2 ⟨m, hm, hmodifiers p (.self p) m hm hpass⟩
    cases p with
    | leaf f l =>
      rw [letsPass, Bool.or_eq_true] at h
      rw [isOptional, Bool.or_eq_true]
      exact h.imp hframe (hleaves f l (.self _))
    | all f cs =>
      rw [letsPass, Bool.or_eq_true] at h
      rw [isOptional, Bool.or_eq_true]
      exact h.imp hframe (allOptional_of_allLetPass cs hchild)
    | first f c cs =>
      rw [letsPass, Bool.or_eq_true] at h
      rw [isOptional, Bool.or_eq_true]
      exact h.imp hframe (someOptional_of_someLetsPass (c :: cs) hchild)

end Parameter
end CommandGrammar
