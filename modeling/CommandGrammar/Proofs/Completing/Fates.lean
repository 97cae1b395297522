/-
# What becomes of a lone word

What a grammar makes of the last word of a line, and of the end of the line, can be told from its
form.  There are five fates:

| fate | the grammar |
| --- | --- |
| `reads` | succeeds and has read the word |
| `passes` | succeeds and leaves what is left as it is |
| `lacks` | fails for want of a further word |
| `refuses` | fails at the word |
| `breaks` | breaks off |

An outlook tells the fate of a word that is left, and of nothing left.  Modifiers turn one outlook
into another, a sequence joins those of its children (`Outlook.andThen`), and a choice tries one
after the other (`Outlook.orElse`); that is how outlooks are computed.
-/

import CommandGrammar.Parameter.Parse
import CommandGrammar.Proofs.Steps.Onward

namespace CommandGrammar

/-- What becomes of what is left of a line, a word or nothing. -/
inductive Fate
  | reads
  | passes
  | lacks
  | refuses
  | breaks
  deriving DecidableEq, Repr

/-- The fate of one word that is left (`true`), and of nothing left (`false`). -/
abbrev Outlook := Bool → Fate

namespace Fate

/-- The fate of what is left if a failure counts as success. -/
def forgiven : Fate → Fate
  | lacks | refuses => passes
  | f => f

/-- The fate of a word after which the end of the line has the given fate. -/
def behindWord : Fate → Fate
  | passes => reads
  | f => f

/-- The fate of what is left if another grammar may try it after a failure. -/
def orElse (f g : Fate) : Fate :=
  match f with
  | refuses => g
  | lacks => if g = refuses then lacks else g
  | _ => f

/-- **Trying alternatives one after the other is associative.** -/
theorem orElse_assoc (f g h : Fate) : (f.orElse g).orElse h = f.orElse (g.orElse h) := by
  cases f <;> cases g <;> cases h <;> rfl

/-- **An alternative that refuses changes nothing.** -/
theorem orElse_refuses (f : Fate) : f.orElse .refuses = f := by cases f <;> rfl

end Fate

namespace Outlook

/-- The outlook of two grammars one after the other. -/
def andThen (x y : Outlook) : Outlook := fun ahead =>
  match x ahead with
  | .reads => (y false).behindWord
  | .passes => y ahead
  | f => f

/-- The outlook of a grammar and of another one if that fails. -/
def orElse (x y : Outlook) : Outlook := fun ahead => (x ahead).orElse (y ahead)

/-- The outlook of a grammar several times. -/
def times (x : Outlook) : Nat → Outlook
  | 0 => fun _ => .passes
  | n + 1 => x.andThen (x.times n)

end Outlook

/-- The outlook inside a modifier; `several` tells that the word stands for several values. -/
def Modifier.outlook (several : Bool) (x : Outlook) : Modifier → Outlook
  | onlyOne => fun ahead => if x ahead = .reads ∧ several then .refuses else x ahead
  | allOf => fun ahead => if ahead then x true else .lacks
  | repeated n => x.times n
  | optional => fun ahead => if ahead then x true else (x false).forgiven
  | optionalWeak => fun ahead => (x ahead).forgiven
  | default _ | defaultBy _ | plain => x

/-- Whether a word stands for several values of a leaf. -/
def Leaf.several (o : Occasion) (w : String) : Leaf → Bool
  | literal v _ => 1 < v.parts.length
  | choice c =>
    match Pattern.select o.host w (c.supply w) with
    | .ok names =>
      match names.mapM c.value with
      | .ok vs => 1 < (bindable vs).length
      | .error _ => false
    | .error _ => false
  | _ => false

/-- The outlook of a leaf, for truth values, literals and choices that refuse no candidate; other
leaves are taken to refuse all words. -/
def Leaf.outlook (o : Occasion) (w : String) : Leaf → Outlook
  | truth => fun ahead =>
    if ahead then if (truthOf? w).isSome then .reads else .refuses else .lacks
  | literal _ [] => fun _ => .passes
  | literal _ (u :: rest) => fun ahead =>
    if ahead then if sameWord w u then if rest.isEmpty then .reads else .lacks else .refuses
    else .lacks
  | choice c => fun ahead =>
    if ahead then
      match Pattern.select o.host w (c.supply w) with
      | .error _ => .breaks
      | .ok [] => .refuses
      | .ok names => if c.isMisused names then .breaks else .reads
    else .lacks
  | _ => fun ahead => if ahead then .refuses else .lacks

/-- **The outlook of a choice is told by the candidates that the word selects.** -/
theorem Leaf.outlook_choice (o : Occasion) (w : String) (c : Choice) :
    (choice c).outlook o w true =
      match Pattern.select o.host w (c.supply w) with
      | .error _ => .breaks
      | .ok [] => .refuses
      | .ok names => if c.isMisused names then .breaks else .reads := rfl

namespace Parameter

/-- Whether a word is several values under the key of a parameter. -/
def several (o : Occasion) (w : String) : Parameter → Bool
  | leaf f l => !f.key.isEmpty && l.several o w
  | _ => false

/-- The outlook inside the modifiers of a parameter. -/
def outlookIn (o : Occasion) (w : String) (p : Parameter) (core : Outlook) : Outlook :=
  p.frame.modifiers.foldr (fun m x => m.outlook (p.several o w) x) core

mutual

/-- What becomes of the word `w` when it is the last one, and of the end of the line. -/
def outlook (o : Occasion) (w : String) : Parameter → Outlook
  | leaf f l => outlookIn o w (leaf f l) (l.outlook o w)
  | all f cs => outlookIn o w (all f cs) (allOutlook o w cs)
  | first f c cs => outlookIn o w (first f c cs) ((outlook o w c).orElse (someOutlook o w cs))

/-- The outlook of parameters one after the other. -/
def allOutlook (o : Occasion) (w : String) : List Parameter → Outlook
  | [] => fun _ => .passes
  | c :: cs => (outlook o w c).andThen (allOutlook o w cs)

/-- The outlook of the first of the parameters that succeeds. -/
def someOutlook (o : Occasion) (w : String) : List Parameter → Outlook
  | [] => fun _ => .refuses
  | c :: cs => (outlook o w c).orElse (someOutlook o w cs)

end

/-- The outlook inside the modifiers. -/
def coreOutlook (o : Occasion) (w : String) : Parameter → Outlook
  | leaf _ l => l.outlook o w
  | all _ cs => allOutlook o w cs
  | first _ c cs => someOutlook o w (c :: cs)

/-- **The outlook of a parameter is what its modifiers make of the one inside.** -/
theorem outlook_eq (o : Occasion) (w : String) (p : Parameter) :
    p.outlook o w = outlookIn o w p (p.coreOutlook o w) := by
  cases p <;> simp only [outlook, coreOutlook, someOutlook]

end Parameter

/-- What is left of the stream is the word `w` (`true`) or nothing (`false`); the word begins before
the end of the line. -/
inductive TokenStream.Shows (w : String) (s : TokenStream) : Bool → Prop
  | word {t : Token} (lone : s.Lone t) (text : t.text = w) (start : t.start < s.raw.length) :
      Shows w s true
  | nothing (unread : s.unread = []) (pending : s.pending = none) : Shows w s false

namespace TokenStream.Shows

variable {w : String} {s : TokenStream} {ahead : Bool}

/-- **No error stands at the end of a line of one word or none.** -/
theorem pending (h : s.Shows w ahead) : s.pending = none := by
  cases h with
  | word lone => exact lone.pending
  | nothing _ hpending => exact hpending

/-- **Something is ahead exactly if the word is left.** -/
theorem hasNext (h : s.Shows w ahead) : s.hasNext = ahead := by
  cases h with
  | word lone => exact lone.hasNext
  | nothing unread hpending => exact (s.hasNext_eq_false_iff).2 ⟨unread, hpending⟩

/-- **With nothing left, a problem is put at the end of the line.** -/
theorem position (h : s.Shows w false) : s.position = s.raw.length := by
  cases h with
  | nothing unread hpending =>
    have hhead : s.head? = none := by
      rw [TokenStream.head?, ← List.head?_drop, ← TokenStream.unread, unread, List.head?_nil]
    unfold TokenStream.position
    rw [hhead, hpending]

/-- **With a word left, a problem is put before the end of the line.** -/
theorem position_lt (h : s.Shows w true) : s.position < s.raw.length := by
  cases h with
  | word lone text start =>
    unfold TokenStream.position
    rw [lone.head?]
    exact Int.ofNat_lt.2 start

/-- **Behind the last word, nothing is left.** -/
theorem skipAll (h : s.Shows w ahead) : s.skipAll.Shows w false :=
  .nothing (List.drop_length) h.pending

end TokenStream.Shows

namespace Fate

/-- The report of a step at the stream `s` has come to a fate; `B` holds of what is bound then,
according to whether a word is read. -/
def Comes (B : Bool → Context → Prop) (s : TokenStream) (r : Report Unit) : Fate → Prop
  | reads => s.hasNext = true ∧ ∃ c asked, r = ⟨.ok (), ⟨s.skipAll, c⟩, asked⟩ ∧ B true c
  | passes => ∃ c asked, r = ⟨.ok (), ⟨s, c⟩, asked⟩ ∧ B false c
  | lacks => ∃ e q asked, r = ⟨.error (.failed e), q, asked⟩ ∧ e.kind = .outOfTokens ∧
      e.position = s.raw.length
  | refuses => ∃ e q asked, r = ⟨.error (.failed e), q, asked⟩ ∧ e.position < s.raw.length
  | breaks => ∃ b q asked, r = ⟨.error (.broken b), q, asked⟩

variable {B B' : Bool → Context → Prop} {s : TokenStream} {r : Report Unit} {f : Fate}

/-- **A failure is for want of a word or a refusal**, according to where it stands. -/
theorem comes_failed_iff {e : ParseError} {q : Progress} {asked : List String} :
    f.Comes B s ⟨.error (.failed e), q, asked⟩ ↔
      (f = lacks ∧ e.kind = .outOfTokens ∧ e.position = s.raw.length) ∨
        f = refuses ∧ e.position < s.raw.length := by
  constructor
  · intro h
    cases f with
    | reads => obtain ⟨-, c, more, hr, -⟩ := h; cases hr
    | passes => obtain ⟨c, more, hr, -⟩ := h; cases hr
    | lacks => obtain ⟨e', q', more, hr, he⟩ := h; cases hr; exact .inl ⟨rfl, he⟩
    | refuses => obtain ⟨e', q', more, hr, he⟩ := h; cases hr; exact .inr ⟨rfl, he⟩
    | breaks => obtain ⟨b, q', more, hr⟩ := h; cases hr
  · rintro (⟨rfl, he⟩ | ⟨rfl, he⟩)
    · exact ⟨e, q, asked, rfl, he⟩
    · exact ⟨e, q, asked, rfl, he⟩

/-- **A step succeeds, fails or breaks off, and its fate tells which**; it is the same for a failure
that is worded otherwise. -/
theorem Comes.cases (h : f.Comes B s r) :
    (f = reads ∧ s.hasNext = true ∧ ∃ c asked, r = ⟨.ok (), ⟨s.skipAll, c⟩, asked⟩ ∧ B true c) ∨
      (f = passes ∧ ∃ c asked, r = ⟨.ok (), ⟨s, c⟩, asked⟩ ∧ B false c) ∨
      ((f = lacks ∨ f = refuses) ∧ ∃ e q asked, r = ⟨.error (.failed e), q, asked⟩ ∧
        ∀ B e', e'.kind = e.kind → e'.position = e.position → ∀ q asked,
          f.Comes B s ⟨.error (.failed e'), q, asked⟩) ∨
      f = breaks ∧ ∃ b q asked, r = ⟨.error (.broken b), q, asked⟩ := by
  cases f with
  | reads => exact .inl ⟨rfl, h⟩
  | passes => exact .inr (.inl ⟨rfl, h⟩)
  | lacks =>
    obtain ⟨e, q, asked, hr, hkind, hplace⟩ := h
    refine .inr (.inr (.inl ⟨.inl rfl, e, q, asked, hr, fun _ e' hk hp q asked => ?_⟩))
    exact comes_failed_iff.2 (.inl ⟨rfl, hk.trans hkind, hp.trans hplace⟩)
  | refuses =>
    obtain ⟨e, q, asked, hr, hplace⟩ := h
    refine .inr (.inr (.inl ⟨.inr rfl, e, q, asked, hr, fun _ e' _ hp q asked => ?_⟩))
    exact comes_failed_iff.2 (.inr ⟨rfl, hp ▸ hplace⟩)
  | breaks => exact .inr (.inr (.inr ⟨rfl, h⟩))

/-- **Undoing a failure does not change what a step comes to.** -/
theorem Comes.atomic {inner : Step Unit} {p : Progress} (h : f.Comes B s (inner p)) :
    f.Comes B s (inner.atomic p) := by
  unfold Step.atomic
  obtain ⟨rfl, hs, c, asked, hr, hB⟩ | ⟨rfl, c, asked, hr, hB⟩ | ⟨-, e, q, asked, hr, hfail⟩ |
    ⟨rfl, b, q, asked, hr⟩ := h.cases <;> rw [hr]
  · exact ⟨hs, c, asked, rfl, hB⟩
  · exact ⟨c, asked, rfl, hB⟩
  · exact hfail B e rfl rfl p asked
  · exact ⟨b, p, asked, rfl⟩

/-- **Words that were asked for before do not change what a step comes to.** -/
theorem Comes.after (h : f.Comes B s r) (asked : List String) : f.Comes B s (r.after asked) := by
  obtain ⟨rfl, hs, c, more, rfl, hB⟩ | ⟨rfl, c, more, rfl, hB⟩ | ⟨-, e, q, more, rfl, hfail⟩ |
    ⟨rfl, b, q, more, rfl⟩ := h.cases
  · exact ⟨hs, c, _, rfl, hB⟩
  · exact ⟨c, _, rfl, hB⟩
  · exact hfail B e rfl rfl q _
  · exact ⟨b, q, _, rfl⟩

/-- **What is known of the bindings at the end may be put otherwise.** -/
theorem Comes.imp (h : f.Comes B s r) (hB : ∀ b, B b r.progress.context → B' b r.progress.context) :
    f.Comes B' s r := by
  cases f with
  | reads => obtain ⟨hnext, c, more, rfl, hb⟩ := h; exact ⟨hnext, c, _, rfl, hB true hb⟩
  | passes => obtain ⟨c, more, rfl, hb⟩ := h; exact ⟨c, _, rfl, hB false hb⟩
  | lacks => exact h
  | refuses => exact h
  | breaks => exact h

/-- **The end of the line behind a word has the fate that it gives the word.** -/
theorem Comes.behindWord (h : f.Comes B s.skipAll r) (hs : s.hasNext = true)
    (hend : s.skipAll.hasNext = false) (hB : ∀ c, B false c → B' true c) :
    f.behindWord.Comes B' s r := by
  cases f with
  | reads => exact absurd (h.1.symm.trans hend) Bool.noConfusion
  | passes => obtain ⟨c, asked, rfl, hb⟩ := h; exact ⟨hs, c, asked, rfl, hB c hb⟩
  | lacks => exact h
  | refuses => exact h
  | breaks => exact h

end Fate

/-- Whether the word is still left if it was before and a step has read it or not. -/
def stillLeft (ahead read : Bool) : Bool := if read then false else ahead

/-- **The word is left after two steps if neither of them has read it.** -/
theorem stillLeft_stillLeft (ahead read read' : Bool) :
    stillLeft (stillLeft ahead read) read' = stillLeft ahead (read || read') := by
  cases read <;> cases read' <;> rfl

/-- With the word `w` or nothing left and bindings that `A` holds of, the step comes to what the
outlook says; `B` relates the bindings before and after. -/
def Step.Fits (w : String) (A : Bool → Context → Prop) (B : Bool → Context → Bool → Context → Prop)
    (x : Outlook) (s : Step Unit) : Prop :=
  ∀ ahead stream, stream.Shows w ahead → ∀ context, A ahead context →
    (x ahead).Comes (B ahead context) stream (s ⟨stream, context⟩)

namespace Modifier

variable {w key : String} {several : Bool} {A : Bool → Context → Prop}
  {B : Bool → Context → Bool → Context → Prop} {x : Outlook} {inner : Step Unit}

/-- **`onlyOne` refuses a word that is several values, and changes nothing else.** -/
theorem fits_runOnlyOne (h : inner.Fits w A B x)
    (hcount : ∀ ahead c b c', B ahead c b c' →
      (1 < (c'.values key).length ↔ b = true ∧ several = true)) :
    (runOnlyOne key inner).Fits w A B (onlyOne.outlook several x) := by
  intro ahead stream hs context hA
  have hinner := h ahead stream hs context hA
  show Fate.Comes _ stream ((inner >>= fun _ => Step.here >>= fun p =>
    if (p.context.values key).length > 1 then Step.failAt stream.position (.severalValues key)
    else pure ()) ⟨stream, context⟩) (if x ahead = .reads ∧ several = true then .refuses else x ahead)
  obtain ⟨hx, hnext, c, asked, hr, hB⟩ | ⟨hx, c, asked, hr, hB⟩ | ⟨hx, e, q, asked, hr, hfail⟩ |
    ⟨hx, b, q, asked, hr⟩ := hinner.cases
  · rw [Step.bind_of_ok hr, Step.here_bind, hx]
    have hc := hcount ahead context true c hB
    cases several with
    | false =>
      rw [if_neg fun h => Bool.false_ne_true (hc.1 h).2, if_neg fun h => Bool.false_ne_true h.2]
      exact ⟨hnext, c, _, rfl, hB⟩
    | true =>
      rw [if_pos (hc.2 ⟨rfl, rfl⟩), if_pos ⟨rfl, rfl⟩]
      obtain rfl : ahead = true := hs.hasNext.symm.trans hnext
      exact ⟨_, _, _, rfl, hs.position_lt⟩
  · have hc := hcount ahead context false c hB
    rw [Step.bind_of_ok hr, Step.here_bind, hx, if_neg fun h => Bool.false_ne_true (hc.1 h).1,
      if_neg fun h => Fate.noConfusion h.1]
    exact ⟨c, _, rfl, hB⟩
  · rw [Step.bind_of_error hr, if_neg (by rcases hx with hx | hx <;> rw [hx] <;> simp)]
    exact hfail _ e rfl rfl q asked
  · rw [Step.bind_of_error hr, if_neg (by rw [hx]; simp), hx]
    exact ⟨b, q, asked, rfl⟩

/-- **With nothing left, a repetition is over.** -/
theorem runAgain_of_not_hasNext {p : Progress} (h : p.stream.hasNext = false) (inner : Step Unit) :
    ∀ n, runAgain inner n p = ⟨.ok (), p, []⟩
  | 0 => rfl
  | n + 1 => by
    unfold runAgain
    rw [if_neg (by rw [h]; exact Bool.false_ne_true)]

/-- **`allOf` lacks a word at the end of the line, and reads one word as its inside does.** -/
theorem fits_runAllOf (h : inner.Fits w A B x) :
    (runAllOf key inner).Fits w A B (allOf.outlook several x) := by
  intro ahead stream hs context hA
  unfold runAllOf
  dsimp only
  rw [hs.hasNext]
  cases ahead with
  | false => exact ⟨_, _, _, rfl, rfl, hs.position⟩
  | true =>
    show Fate.Comes _ stream _ (x true)
    rw [if_pos rfl]
    obtain ⟨hx, hnext, c, asked, hr, hB⟩ | ⟨hx, c, asked, hr, hB⟩ | ⟨hx, e, q, asked, hr, hfail⟩ |
      ⟨hx, b, q, asked, hr⟩ := (h true stream hs context hA).atomic.cases <;> rw [hr]
    · have hmoved : stream.tokens.length ≠ stream.cursor := by
        cases hs with
        | word lone => have := lone.length_eq; omega
      dsimp only
      rw [hx, if_neg (show stream.skipAll.cursor ≠ stream.cursor from hmoved),
        runAgain_of_not_hasNext (p := ⟨stream.skipAll, c⟩) hs.skipAll.hasNext]
      exact ⟨hnext, c, _, rfl, hB⟩
    · rw [hx]
      dsimp only
      rw [if_pos rfl]
      exact ⟨c, asked, rfl, hB⟩
    · exact hfail _ e rfl rfl q asked
    · rw [hx]
      exact ⟨b, q, asked, rfl⟩

/-- **Several runs have the outlook of a sequence.** -/
theorem fits_runTimes (h : inner.Fits w A B x) (hspare : ∀ ahead c, A ahead c → B ahead c false c)
    (hagain : ∀ ahead c read c', A ahead c → B ahead c read c' → A (stillLeft ahead read) c' ∧
      ∀ read' c'', B (stillLeft ahead read) c' read' c'' → B ahead c (read || read') c'')
    (times : Nat) :
    ∀ left attempt, (runTimes inner times left attempt).Fits w A B (x.times left)
  | 0, _ => fun ahead stream _ context hA => ⟨context, [], rfl, hspare ahead context hA⟩
  | left + 1, attempt => by
    intro ahead stream hs context hA
    have hrest := fits_runTimes h hspare hagain times left (attempt + 1)
    unfold runTimes Outlook.times Outlook.andThen
    obtain ⟨hx, hnext, c, asked, hr, hB⟩ | ⟨hx, c, asked, hr, hB⟩ | ⟨hx, e, q, asked, hr, hfail⟩ |
      ⟨hx, b, q, asked, hr⟩ := (h ahead stream hs context hA).cases <;> rw [hr]
    · obtain ⟨hA', hB'⟩ := hagain ahead context true c hA hB
      rw [hx]
      exact ((hrest false _ hs.skipAll c hA').behindWord hnext hs.skipAll.hasNext
        (hB' false)).after asked
    · obtain ⟨hA', hB'⟩ := hagain ahead context false c hA hB
      rw [hx]
      exact ((hrest ahead stream hs c hA').imp fun read => hB' read _).after asked
    · have hreworded := hfail (B ahead context)
        { e with problem := .inAttempt e.problem attempt times } (Problem.kind_inAttempt _ _ _) rfl
        q asked
      rcases hx with hx | hx <;> rw [hx] at hreworded ⊢ <;> exact hreworded
    · rw [hx]
      exact ⟨b, q, asked, rfl⟩

/-- **`optional` forgives a failure at the end of the line only.** -/
theorem fits_runOptional (h : inner.Fits w A B x)
    (hspare : ∀ ahead c, A ahead c → B ahead c false c) :
    (runOptional inner).Fits w A B (optional.outlook several x) := by
  intro ahead stream hs context hA
  unfold runOptional
  dsimp only [outlook]
  rw [hs.hasNext]
  obtain ⟨hx, hnext, c, asked, hr, hB⟩ | ⟨hx, c, asked, hr, hB⟩ | ⟨hx, e, q, asked, hr, hfail⟩ |
    ⟨hx, b, q, asked, hr⟩ := (h ahead stream hs context hA).cases <;> unfold Step.atomic <;> rw [hr]
  · obtain rfl : ahead = true := hs.hasNext.symm.trans hnext
    rw [if_pos rfl, hx]
    exact ⟨hnext, c, asked, rfl, hB⟩
  · cases ahead <;> rw [hx] <;> exact ⟨c, asked, rfl, hB⟩
  · cases ahead with
    | false => rcases hx with hx | hx <;> rw [hx] <;> exact ⟨context, asked, rfl, hspare _ context hA⟩
    | true => exact hfail _ e rfl rfl _ asked
  · cases ahead <;> rw [hx] <;> exact ⟨b, _, asked, rfl⟩

/-- **`optionalWeak` forgives every failure.** -/
theorem fits_runOptionalWeak (h : inner.Fits w A B x)
    (hspare : ∀ ahead c, A ahead c → B ahead c false c) :
    (runOptionalWeak inner).Fits w A B (optionalWeak.outlook several x) := by
  intro ahead stream hs context hA
  unfold runOptionalWeak
  dsimp only [outlook]
  obtain ⟨hx, hnext, c, asked, hr, hB⟩ | ⟨hx, c, asked, hr, hB⟩ | ⟨hx, e, q, asked, hr, hfail⟩ |
    ⟨hx, b, q, asked, hr⟩ := (h ahead stream hs context hA).cases <;> unfold Step.atomic <;> rw [hr]
  · rw [hx]
    exact ⟨hnext, c, asked, rfl, hB⟩
  · rw [hx]
    exact ⟨c, asked, rfl, hB⟩
  · rcases hx with hx | hx <;> rw [hx] <;> exact ⟨context, asked, rfl, hspare _ context hA⟩
  · rw [hx]
    exact ⟨b, _, asked, rfl⟩

/-- **A default changes no outlook.** -/
theorem fits_runDefault (h : inner.Fits w A B x) (value : Option Value)
    (hdefault : ∀ ahead c b c', B ahead c b c' → B ahead c b (c'.withDefault key value)) :
    (runDefault key value inner).Fits w A B x := by
  intro ahead stream hs context hA
  rw [runDefault_apply]
  obtain ⟨hx, hnext, c, asked, hr, hB⟩ | ⟨hx, c, asked, hr, hB⟩ | ⟨hx, e, q, asked, hr, hfail⟩ |
    ⟨hx, b, q, asked, hr⟩ := (h ahead stream hs context hA).cases <;> rw [hr]
  · rw [hx]
    exact ⟨hnext, _, asked, rfl, hdefault ahead context true c hB⟩
  · rw [hx]
    exact ⟨_, asked, rfl, hdefault ahead context false c hB⟩
  · exact hfail _ e rfl rfl q asked
  · rw [hx]
    exact ⟨b, q, asked, rfl⟩

/-- Whether a modifier may bind a default. -/
def BindsDefault (m : Modifier) : Prop := (∃ v, m = default v) ∨ ∃ value, m = defaultBy value

/-- What holds of the bindings before a step (`A`) and after it (`B`) outlasts the modifiers around it
and settles what they ask. -/
structure Watches (key : String) (several : Bool) (ms : List Modifier) (A : Bool → Context → Prop)
    (B : Bool → Context → Bool → Context → Prop) : Prop where
  spare : ∀ ahead c, A ahead c → B ahead c false c
  default : ∀ m ∈ ms, m.BindsDefault → ∀ value ahead c read c', B ahead c read c' →
    B ahead c read (c'.withDefault key value)
  again : ∀ n, repeated n ∈ ms → ∀ ahead c read c', A ahead c → B ahead c read c' →
    A (stillLeft ahead read) c' ∧
      ∀ read' c'', B (stillLeft ahead read) c' read' c'' → B ahead c (read || read') c''
  count : onlyOne ∈ ms → ∀ ahead c read c', B ahead c read c' →
    (1 < (c'.values key).length ↔ read = true ∧ several = true)

/-- **A chain of modifiers has the outlook that they make of the one inside, one by one.** -/
theorem Watches.fits_chain {ms : List Modifier} (hw : Watches key several ms A B)
    (h : inner.Fits w A B x) (source : Source) : ∀ inside, (∀ m ∈ inside, m ∈ ms) →
    (chain key source inside inner).Fits w A B (inside.foldr (fun m y => m.outlook several y) x)
  | [], _ => h
  | m :: inside, hms => by
    have hinside := hw.fits_chain h source inside fun k hk => hms k (List.mem_cons_of_mem m hk)
    have hm := hms m List.mem_cons_self
    rw [chain_cons, List.foldr_cons]
    cases m with
    | onlyOne => exact fits_runOnlyOne hinside (hw.count hm)
    | allOf => exact fits_runAllOf hinside
    | repeated n =>
      have htimes := fits_runTimes hinside hw.spare (hw.again n hm) n n 1
      exact fun ahead stream hs context hA => (htimes ahead stream hs context hA).atomic
    | optional => exact fits_runOptional hinside hw.spare
    | optionalWeak => exact fits_runOptionalWeak hinside hw.spare
    | default v => exact fits_runDefault hinside (some v) (hw.default _ hm (.inl ⟨v, rfl⟩) _)
    | defaultBy value =>
      exact fits_runDefault hinside (value source) (hw.default _ hm (.inr ⟨value, rfl⟩) _)
    | plain => exact hinside

end Modifier

end CommandGrammar
