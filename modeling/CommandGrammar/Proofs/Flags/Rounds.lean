/-
# The rounds of reading flags

Flags that may stand anywhere in a line are read in rounds, one for each token that comes ahead.
`Flags.Rounds` is that loop as it goes, with nothing that counts its rounds:

| round | what stands ahead | what it does |
| --- | --- | --- |
| `ended` | nothing | gives the kept tokens |
| `stopped` | a word that ends the flags, before any token is kept | gives all tokens from it on |
| `failed` | a flag that cannot be read | stops |
| `flag` | a flag | takes it, and its value if it has one |
| `keep` | anything else | keeps the token |

Each round that goes on leaves fewer tokens, because a flag takes at least its own; so the loop
comes to an end, and `Flags.readAnywhere` with as many rounds as there are tokens is the whole loop
(`Flags.rounds_iff`).
-/

import CommandGrammar.Proofs.Flags.Reading
import CommandGrammar.Proofs.Steps.Onward

namespace CommandGrammar

namespace Flags

/-- The parameter of a usable flag reads a value from `m` to `n`. -/
def ReadsFrom (o : Occasion) (fs : Flags) (m n : Progress) : Prop :=
  ∃ f param asked, fs.HasValue o f param ∧ param.parse o m = ⟨.ok (), n, asked⟩

/-- The loop over the tokens of a line: `fs.Rounds o stopAt kept p r` says that from `p` on, with
the tokens `kept` already kept, it comes to the report `r`. -/
inductive Rounds (o : Occasion) (fs : Flags) (stopAt : String → Bool) :
    List Token → Progress → Report (List Token) → Prop
  | ended {kept : List Token} {p : Progress} (head : p.stream.head? = none) :
      Rounds o fs stopAt kept p ⟨.ok kept, p, []⟩
  | stopped {kept : List Token} {p : Progress} {t : Token} (head : p.stream.head? = some t)
      (ends : (kept.isEmpty && stopAt t.text) = true) :
      Rounds o fs stopAt kept p
        ⟨.ok p.stream.unread, { p with stream := p.stream.skipAll }, []⟩
  | failed {kept : List Token} {p q : Progress} {t : Token} {e : Stop} {asked : List String}
      (head : p.stream.head? = some t) (goesOn : (kept.isEmpty && stopAt t.text) = false)
      (one : readOne o fs p = ⟨.error e, q, asked⟩) :
      Rounds o fs stopAt kept p ⟨.error e, q, asked⟩
  | flag {kept : List Token} {p q : Progress} {t : Token} {asked : List String}
      {r : Report (List Token)} (head : p.stream.head? = some t)
      (goesOn : (kept.isEmpty && stopAt t.text) = false)
      (one : readOne o fs p = ⟨.ok true, q, asked⟩) (more : Rounds o fs stopAt kept q r) :
      Rounds o fs stopAt kept p (r.after asked)
  | keep {kept : List Token} {p q : Progress} {t : Token} {asked : List String}
      {r : Report (List Token)} (head : p.stream.head? = some t)
      (goesOn : (kept.isEmpty && stopAt t.text) = false)
      (one : readOne o fs p = ⟨.ok false, p, asked⟩) (next : Step.next p = ⟨.ok t.text, q, []⟩)
      (more : Rounds o fs stopAt (kept ++ [t]) q r) :
      Rounds o fs stopAt kept p (r.after asked)

section

variable {o : Occasion} {fs : Flags} {stopAt : String → Bool} {p q r : Progress}

/-- **A flag that is read takes its token and its value.** -/
theorem of_reading_ok {t : Token} {b : Bool} {asked : List String}
    (h : Reading o fs t r ⟨.ok b, q, asked⟩) :
    b = true ∧ (q.stream = r.stream ∨ ∃ m, m.stream = r.stream ∧ fs.ReadsFrom o m q) := by
  generalize hx : (⟨.ok b, q, asked⟩ : Report Bool) = x at h
  cases h with
  | marked keys =>
    obtain ⟨hb, rfl, -⟩ := Report.mk.inj hx
    cases hb
    exact ⟨rfl, .inl rfl⟩
  | unfit => cases (Report.mk.inj hx).1
  | @value keys f param flag =>
    obtain ⟨_, m, xs, _, hp, hret, -⟩ := Step.exists_of_bind_ok hx.symm
    obtain ⟨hb, rfl, -⟩ := Report.mk.inj hret
    cases hb
    exact ⟨rfl, .inr ⟨r.markAll keys, rfl, f, param, xs, flag, hp⟩⟩
  | @attached keys f param flag index inside =>
    obtain ⟨_, m, xs, _, hp, hret, -⟩ := Step.exists_of_bind_ok hx.symm
    obtain ⟨hb, rfl, -⟩ := Report.mk.inj hret
    cases hb
    -- The value is a line of its own: the stream that is being read stays where it is.
    exact ⟨rfl, .inl (congrArg (·.progress.stream) hp).symm⟩

/-- **What a flag's parameter reads lies onward.** -/
theorem ReadsFrom.onward (h : fs.ReadsFrom o p q) : p.Onward q := by
  obtain ⟨f, param, asked, -, hp⟩ := h
  have := Parameter.onward_parse o param p
  rwa [hp] at this

/-- **What is no flag is left as it was.** -/
theorem of_readOne_false {asked : List String} (h : readOne o fs p = ⟨.ok false, q, asked⟩) :
    q = p := by
  rcases reading_of_readOne o fs p with hfalse | ⟨t, r, -, -, -, hread⟩
  · rw [hfalse] at h
    exact (Report.mk.inj h).2.1.symm
  · rw [h] at hread
    cases (of_reading_ok hread).1

/-- **A flag takes the tokens that are read with it.** -/
theorem of_readOne_true {asked : List String} (h : readOne o fs p = ⟨.ok true, q, asked⟩) :
    p.Onward q ∧ ∃ t values, p.stream.unread = t :: (values ++ q.stream.unread) ∧
      looksLikeFlag t.text = true ∧ (values = [] ∨ ∃ m, p.Onward m ∧
        m.stream.unread = values ++ q.stream.unread ∧ fs.ReadsFrom o m q) := by
  rcases reading_of_readOne o fs p with hfalse | ⟨t, r, hhead, hlooks, hnext, hread⟩
  · rw [hfalse] at h
    cases (Report.mk.inj h).1
  · rw [h] at hread
    obtain ⟨hunread, hpr⟩ := Progress.unread_of_next hhead hnext
    rcases (of_reading_ok hread).2 with hstream | ⟨m, hstream, hvalue⟩
    · refine ⟨hpr.trans (Progress.onward_of_stream_eq hstream), t, [], ?_, hlooks, .inl rfl⟩
      rw [hunread, hstream]
      rfl
    · have hpm : p.Onward m := hpr.trans (Progress.onward_of_stream_eq hstream)
      obtain ⟨values, hvalues⟩ := hvalue.onward.exists_unread
      refine ⟨hpm.trans hvalue.onward, t, values, ?_, hlooks, .inr ⟨m, hpm, hvalues, hvalue⟩⟩
      rw [hunread, ← hstream, hvalues]

/-- **A flag leaves fewer tokens.** -/
theorem unread_length_of_readOne_true {asked : List String}
    (h : readOne o fs p = ⟨.ok true, q, asked⟩) :
    q.stream.unread.length < p.stream.unread.length := by
  obtain ⟨-, t, values, hunread, -⟩ := of_readOne_true h
  rw [hunread, List.length_cons, List.length_append]
  omega

/-- **One round of reading flags anywhere looks at one token.** -/
theorem readAnywhere_succ (o : Occasion) (fs : Flags) (stopAt : String → Bool) (n : Nat)
    (kept : List Token) (p : Progress) :
    readAnywhere o fs stopAt (n + 1) kept p = match p.stream.head? with
      | none => ⟨.ok kept, p, []⟩
      | some t =>
        if kept.isEmpty && stopAt t.text then
          ⟨.ok p.stream.unread, { p with stream := p.stream.skipAll }, []⟩
        else
          (readOne o fs >>= fun found =>
            if found then readAnywhere o fs stopAt n kept
            else Step.next >>= fun _ => readAnywhere o fs stopAt n (kept ++ [t])) p := by
  show (Step.here >>= _) p = _
  rw [Step.here_bind]
  cases p.stream.head? with
  | none => rfl
  | some t =>
    dsimp only
    cases kept.isEmpty && stopAt t.text <;> rfl

/-- **The loop comes to an end**, and the rounds that are counted are all that it has. -/
theorem rounds_readAnywhere (o : Occasion) (fs : Flags) (stopAt : String → Bool) :
    ∀ (n : Nat) (kept : List Token) (p : Progress), p.stream.unread.length ≤ n →
      fs.Rounds o stopAt kept p (readAnywhere o fs stopAt n kept p)
  | 0, kept, p, hn => by
    have hnil : p.stream.unread = [] := List.eq_nil_of_length_eq_zero (Nat.le_zero.1 hn)
    exact .ended (TokenStream.head?_of_unread_nil hnil)
  | n + 1, kept, p, hn => by
    rw [readAnywhere_succ]
    cases hhead : p.stream.head? with
    | none => exact .ended hhead
    | some t =>
      dsimp only
      split
      · rename_i hends
        exact .stopped hhead hends
      · rename_i hends
        have hgoes := Bool.eq_false_iff.2 hends
        rcases hone : readOne o fs p with ⟨e | found, q, asked⟩
        · rw [Step.bind_of_error hone]
          exact .failed hhead hgoes hone
        · rw [Step.bind_of_ok hone]
          cases found with
          | true =>
            have hless := unread_length_of_readOne_true hone
            exact .flag hhead hgoes hone (rounds_readAnywhere o fs stopAt n kept q (by omega))
          | false =>
            obtain rfl := of_readOne_false hone
            obtain ⟨r, hnext⟩ := Step.next_of_head? hhead
            obtain ⟨hunread, -⟩ := Progress.unread_of_next hhead hnext
            rw [if_neg Bool.false_ne_true, Step.bind_of_ok hnext, Report.after_nil]
            rw [hunread, List.length_cons] at hn
            exact .keep hhead hgoes hone hnext
              (rounds_readAnywhere o fs stopAt n (kept ++ [t]) r (by omega))

/-- **The loop comes to what the counted rounds come to**, if there are enough of them. -/
theorem Rounds.eq_readAnywhere {kept : List Token} {x : Report (List Token)}
    (h : fs.Rounds o stopAt kept p x) :
    ∀ n, p.stream.unread.length ≤ n → x = readAnywhere o fs stopAt n kept p := by
  have hpos : ∀ {p : Progress} {t : Token} {n : Nat}, p.stream.head? = some t →
      p.stream.unread.length ≤ n → ∃ k, n = k + 1 := fun hhead hn => by
    obtain ⟨more, hunread⟩ := TokenStream.unread_of_head? hhead
    rw [hunread, List.length_cons] at hn
    exact Nat.exists_eq_add_one.2 (by omega)
  induction h with
  | ended hhead =>
    rintro (_ | n) -
    · rfl
    · rw [readAnywhere_succ, hhead]
  | stopped hhead ends =>
    intro n hn
    obtain ⟨k, rfl⟩ := hpos hhead hn
    rw [readAnywhere_succ, hhead]
    dsimp only
    rw [if_pos ends]
  | failed hhead goesOn one =>
    intro n hn
    obtain ⟨k, rfl⟩ := hpos hhead hn
    rw [readAnywhere_succ, hhead]
    dsimp only
    rw [goesOn, if_neg Bool.false_ne_true, Step.bind_of_error one]
  | flag hhead goesOn one _ ih =>
    intro n hn
    obtain ⟨k, rfl⟩ := hpos hhead hn
    have hless := unread_length_of_readOne_true one
    rw [readAnywhere_succ, hhead]
    dsimp only
    rw [goesOn, if_neg Bool.false_ne_true, Step.bind_of_ok one, if_pos rfl, ← ih k (by omega)]
  | keep hhead goesOn one next _ ih =>
    intro n hn
    obtain ⟨k, rfl⟩ := hpos hhead hn
    obtain ⟨hunread, -⟩ := Progress.unread_of_next hhead next
    rw [hunread, List.length_cons] at hn
    rw [readAnywhere_succ, hhead]
    dsimp only
    rw [goesOn, if_neg Bool.false_ne_true, Step.bind_of_ok one, if_neg Bool.false_ne_true,
      Step.bind_of_ok next, Report.after_nil, ← ih k (by omega)]

/-- **The loop comes to an end, in one way only.** -/
theorem rounds_iff {kept : List Token} {x : Report (List Token)} :
    fs.Rounds o stopAt kept p x ↔
      x = readAnywhere o fs stopAt p.stream.unread.length kept p := by
  refine ⟨fun h => h.eq_readAnywhere _ (Nat.le_refl _), ?_⟩
  rintro rfl
  exact rounds_readAnywhere o fs stopAt _ kept p (Nat.le_refl _)

end

section

variable {C : ParseCourse} {o : Occasion} {fs : Flags}

/-- A value that is a line of its own, read to its end. -/
def readWhole (o : Occasion) (f : Flag) (param : Parameter) : Step Unit := do
  param.parse o
  let after ← Step.here
  if after.stream.hasNext then
    let left ← Step.peek
    Step.fail (.unexpectedFlagValue left (Flag.dashed f.key))

/-- **An attached value is read whole, as a line of its own.** -/
theorem readAttached_apply (f : Flag) (param : Parameter) (v : Token) (p : Progress) :
    readAttached o f param v p =
      Step.within (.ofTokens p.stream.raw [v] none) (readWhole o f param) p := rfl

/-- **A whole value keeps to the course of its parameter.** -/
theorem governs_readWhole {param : Parameter} (h : C.Governs (param.parse o)) (f : Flag) :
    C.Governs (readWhole o f param) := by
  refine Course.governs_of_carries fun p => ?_
  refine h.carries.bind fun _ => Course.carries_here_bind fun q _ => ?_
  split
  · exact ParseCourse.carries_peek.bind fun _ => ParseCourse.carries_fail _
  · exact Course.carries_pure _

/-- **Marking keys is binding**, or nothing. -/
theorem leads_markAll (binds : ∀ key v, C.binds key v) (keys : List String) (p : Progress) :
    C.leads p (p.markAll keys) := by
  induction keys generalizing p with
  | nil => exact C.refl p
  | cons key keys ih =>
    have hmark : C.leads p { p with context := p.context.mark key } := by
      unfold Context.mark
      split
      · exact C.refl p
      · exact C.put p (binds key _)
    exact C.trans hmark (ih _)

/-- **A flag keeps to a course that lets anything be bound and does not look at the stream.** -/
theorem governs_readOne_of_binds (binds : ∀ key v, C.binds key v) (stops : ∀ p e, C.stops p e)
    (still : ∀ {p q : Progress}, q.context = p.context → C.leads p q) :
    C.Governs (readOne o fs) := by
  have hparam : ∀ param : Parameter, C.Governs (param.parse o) := fun param =>
    ParseCourse.governs_parse
      (ParseCourse.covers_of_binds binds fun _ _ _ _ _ _ _ _ => stops _ _)
  refine fun p => ⟨?_, fun e _ => stops p e⟩
  rcases reading_of_readOne o fs p with hfalse | ⟨t, r, hhead, -, hnext, hread⟩
  · rw [hfalse]
    exact C.refl p
  · have hmark : ∀ keys, C.leads p (r.markAll keys) := fun keys =>
      C.trans (still (Progress.context_of_next hnext)) (leads_markAll binds keys r)
    have hreads : ∀ {step : Step Unit} {q : Progress}, C.leads p q → C.leads q (step q).progress →
        C.leads p ((step >>= fun _ => pure true) q).progress := fun {step q} hq hstep => by
      rw [Step.bind_apply]
      rcases hs : step q with ⟨e | u, m, asked⟩ <;> rw [hs] at hstep <;> exact C.trans hq hstep
    generalize readOne o fs p = x at hread ⊢
    cases hread with
    | marked keys => exact hmark keys
    | unfit keys problem => exact hmark keys
    | @value keys f param flag => exact hreads (hmark keys) (hparam param _).1
    | @attached keys f param flag index inside =>
      refine hreads (hmark keys) ?_
      rw [readAttached_apply]
      let value : TokenStream := .ofTokens r.stream.raw [t.valueFrom r.stream.raw index] none
      have hwhole := (governs_readWhole (hparam param) f ⟨value, (r.markAll keys).context⟩).1
      have hstart : C.leads (r.markAll keys) ⟨value, (r.markAll keys).context⟩ := still rfl
      exact C.trans (C.trans hstart hwhole) (still rfl)

/-- **Flags at the head of a line keep to the course of each flag.** -/
theorem governs_readHead (h : C.Governs (readOne o fs)) : ∀ n, C.Governs (readHead o fs n)
  | 0 => Course.governs_of_carries fun _ => Course.carries_pure ()
  | n + 1 => Course.governs_of_carries fun _ => by
    refine h.carries.bind fun found => ?_
    cases found with
    | true => exact (governs_readHead h n).carries
    | false => exact Course.carries_pure ()

/-- **Flags anywhere in a line do, too**, if the course lets them pass over the end of the line. -/
theorem governs_readAnywhere (h : C.Governs (readOne o fs))
    (skip : ∀ p, C.leads p { p with stream := p.stream.skipAll }) {stopAt : String → Bool} :
    ∀ n kept, C.Governs (readAnywhere o fs stopAt n kept)
  | 0, _ => Course.governs_of_carries fun _ => Course.carries_pure _
  | n + 1, kept => fun p => by
    rw [readAnywhere_succ]
    split
    · exact Course.allows_ok (C.refl p) _ _
    · split
      · exact Course.allows_ok (skip p) _ _
      · refine (h.carries.bind fun found => ?_) p (C.refl p)
        cases found with
        | true => exact (governs_readAnywhere h skip n kept).carries
        | false =>
          exact ParseCourse.carries_next.bind fun _ => (governs_readAnywhere h skip n _).carries

/-- **So does the reading of all flags.** -/
theorem governs_parse (h : C.Governs (readOne o fs))
    (skip : ∀ p, C.leads p { p with stream := p.stream.skipAll }) (stopAt : String → Bool) :
    C.Governs (fs.parse o stopAt) := by
  refine Course.governs_of_carries fun p => Course.carries_here_bind fun q _ => ?_
  dsimp only
  split
  · exact (governs_readHead h _).carries.bind fun _ => Course.carries_pure _
  · exact (governs_readAnywhere h skip _ _).carries.bind fun _ => Course.carries_pure _

end

end Flags
end CommandGrammar
