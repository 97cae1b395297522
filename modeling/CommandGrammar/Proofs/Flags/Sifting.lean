/-
# What flags take from a line

Flags are read before the arguments, and the arguments are read from what they leave.
`Flags.Sifts` says how a line falls apart: every token is a flag, or belongs to the value that is
read behind a flag, or is kept; the kept tokens stay in order.  Nothing else of the line changes:
the error that stands at its end is still there when the arguments are read.

For flags that may stand anywhere this is an invariant of the rounds in which they are read
(`Flags.Rounds.exists_sifts`), and what they leave is a stream of its own (`Flags.Leaves`).
-/

import CommandGrammar.Host.Usual
import CommandGrammar.Proofs.Dispatch.Attempts
import CommandGrammar.Proofs.Flags.Rounds

namespace CommandGrammar

namespace Flags

/-- The tokens `values` are read by the parameter of a usable flag, and `more` is left. -/
def ReadsValue (o : Occasion) (fs : Flags) (values more : List Token) : Prop :=
  ∃ f param m n asked, fs.HasValue o f param ∧ param.parse o m = ⟨.ok (), n, asked⟩ ∧
    m.stream.unread = values ++ more ∧ n.stream.unread = more

/-- The token is among those that the parameter of a usable flag reads in the loop that begins at
`p` and ends at `q` with the tokens `all`: from where the parameter ends, the loop goes on to that
end. -/
def ReadAsValue (o : Occasion) (fs : Flags) (stopAt : String → Bool) (p q : Progress)
    (all : List Token) (t : Token) : Prop :=
  ∃ m n values kept asked, p.Onward m ∧ fs.ReadsFrom o m n ∧
    m.stream.unread = values ++ n.stream.unread ∧ t ∈ values ∧
    fs.Rounds o stopAt kept n ⟨.ok all, q, asked⟩

/-- `fs.Sifts o line taken kept`: of the tokens of a line, the flags take `taken` and leave `kept`
to the arguments. -/
inductive Sifts (o : Occasion) (fs : Flags) : List Token → List Token → List Token → Prop
  | rest (line : List Token) : Sifts o fs line [] line
  | flag {t : Token} {values more taken kept : List Token} (form : looksLikeFlag t.text = true)
      (value : values = [] ∨ fs.ReadsValue o values more) (onward : Sifts o fs more taken kept) :
      Sifts o fs (t :: (values ++ more)) (t :: (values ++ taken)) kept
  | keep (t : Token) {more taken kept : List Token} (onward : Sifts o fs more taken kept) :
      Sifts o fs (t :: more) taken (t :: kept)

section

variable {o : Occasion} {fs : Flags} {stopAt : String → Bool} {p q r : Progress}
  {line taken kept all : List Token}

/-- **No token is lost or made up.** -/
theorem Sifts.perm (h : fs.Sifts o line taken kept) : (taken ++ kept).Perm line := by
  induction h with
  | rest line => exact .refl _
  | flag _ _ _ ih =>
    rw [List.cons_append, List.append_assoc]
    exact (ih.append_left _).cons _
  | keep t _ ih => exact List.perm_middle.trans (ih.cons t)

/-- **The kept tokens stay in order.** -/
theorem Sifts.sublist (h : fs.Sifts o line taken kept) : kept.Sublist line := by
  induction h with
  | rest line => exact .refl _
  | flag _ _ _ ih => exact (ih.trans (List.sublist_append_right _ _)).cons _
  | keep t _ ih => exact ih.cons_cons t

/-- **What a flag's parameter reads is a value.** -/
theorem ReadsFrom.readsValue {values : List Token} (h : fs.ReadsFrom o p q)
    (hp : p.stream.unread = values ++ q.stream.unread) :
    fs.ReadsValue o values q.stream.unread := by
  obtain ⟨f, param, asked, flag, hread⟩ := h
  exact ⟨f, param, p, q, asked, flag, hread, hp, rfl⟩

/-- **What is read further on is read on the same line.** -/
theorem ReadAsValue.back {t : Token} (hpq : p.Onward q)
    (h : fs.ReadAsValue o stopAt q r all t) : fs.ReadAsValue o stopAt p r all t := by
  obtain ⟨m, n, values, kept, asked, hqm, hmn⟩ := h
  exact ⟨m, n, values, kept, asked, hpq.trans hqm, hmn⟩

/-- **A flag that is read sifts its token and its value out of the line.** -/
theorem sifts_of_readOne_true {asked : List String} (h : readOne o fs p = ⟨.ok true, q, asked⟩) :
    p.Onward q ∧ ∃ values, p.stream.unread = values ++ q.stream.unread ∧
      (∀ {stopAt kept all r xs}, fs.Rounds o stopAt kept q ⟨.ok all, r, xs⟩ →
        ∀ t ∈ values, looksLikeFlag t.text = true ∨ fs.ReadAsValue o stopAt p r all t) ∧
      ∀ {taken kept}, fs.Sifts o q.stream.unread taken kept →
        fs.Sifts o p.stream.unread (values ++ taken) kept := by
  obtain ⟨hpq, t, values, hunread, hlooks, hval⟩ := of_readOne_true h
  refine ⟨hpq, t :: values, hunread, fun hmore u hu => ?_, fun hsift => ?_⟩
  · rcases List.mem_cons.1 hu with rfl | hu
    · exact .inl hlooks
    · rcases hval with rfl | ⟨m, hpm, hm, hread⟩
      · cases hu
      · exact .inr ⟨m, q, values, _, _, hpm, hread, hm, hu, hmore⟩
  · rw [hunread]
    exact .flag hlooks (hval.imp_right fun ⟨_, _, hm, hread⟩ => hread.readsValue hm) hsift

/-- **Flags at the head of a line leave what is unread after them.** -/
theorem sifts_of_readHead : ∀ (n : Nat) {p : Progress} {asked : List String},
    readHead o fs n p = ⟨.ok (), q, asked⟩ →
      p.Onward q ∧ ∃ taken, fs.Sifts o p.stream.unread taken q.stream.unread
  | 0, p, asked, h => by
    obtain ⟨-, rfl, -⟩ := Report.mk.inj h
    exact ⟨.refl p, [], .rest _⟩
  | n + 1, p, asked, h => by
    obtain ⟨b, m, _, ys, hone, hmore, -⟩ := Step.exists_of_bind_ok h
    cases b with
    | false =>
      obtain rfl : q = m := (Report.mk.inj hmore).2.1.symm
      obtain rfl := of_readOne_false hone
      exact ⟨.refl q, [], .rest _⟩
    | true =>
      obtain ⟨hpm, values, -, -, hflag⟩ := sifts_of_readOne_true hone
      obtain ⟨hmq, taken, hsift⟩ := sifts_of_readHead n hmore
      exact ⟨hpm.trans hmq, values ++ taken, hflag hsift⟩

/-- **The loop leaves the tokens that flags do not take**, and from a first such token that ends
the flags, the line as it is. -/
theorem Rounds.exists_sifts {x : Report (List Token)} (h : fs.Rounds o stopAt kept p x)
    (hall : x.result = .ok all) :
    ∃ taken left, all = kept ++ left ∧ fs.Sifts o p.stream.unread taken left ∧
      (∀ t ∈ taken, looksLikeFlag t.text = true ∨
        fs.ReadAsValue o stopAt p x.progress all t) ∧
      (kept = [] → ∀ t more, left = t :: more → stopAt t.text = true →
        taken ++ left = p.stream.unread) := by
  have hnone : ∀ p q : Progress, ∀ t ∈ ([] : List Token),
      looksLikeFlag t.text = true ∨ fs.ReadAsValue o stopAt p q all t := fun _ _ _ ht => nomatch ht
  induction h with
  | @ended kept p hhead =>
    cases hall
    refine ⟨[], [], (List.append_nil _).symm, ?_, hnone p _, fun _ _ _ h => nomatch h⟩
    rw [TokenStream.unread_of_head?_none hhead]
    exact .rest []
  | @stopped kept p t hhead ends =>
    cases hall
    rw [List.isEmpty_iff.1 (Bool.and_eq_true_iff.1 ends).1]
    exact ⟨[], p.stream.unread, rfl, .rest _, hnone p _, fun _ _ _ _ _ => rfl⟩
  | failed => cases hall
  | @flag kept p q t asked x hhead goesOn one more ih =>
    have hall : x.result = .ok all := hall
    obtain ⟨taken, left, hleft, hsift, hform, hstop⟩ := ih hall
    obtain ⟨hpq, values, hunread, hvalues, hflag⟩ := sifts_of_readOne_true one
    have hmore : fs.Rounds o stopAt kept q ⟨.ok all, x.progress, x.asked⟩ := hall ▸ more
    refine ⟨values ++ taken, left, hleft, hflag hsift, fun t ht => ?_, fun hkept t rest h hs => ?_⟩
    · rcases List.mem_append.1 ht with ht | ht
      · exact hvalues hmore t ht
      · exact (hform t ht).imp_right (ReadAsValue.back hpq)
    · rw [List.append_assoc, hstop hkept t rest h hs, hunread]
  | @keep kept p q t asked r hhead goesOn one next more ih =>
    obtain ⟨taken, left, hleft, hsift, hform, -⟩ := ih hall
    obtain ⟨hunread, hpq⟩ := Progress.unread_of_next hhead next
    refine ⟨taken, t :: left, ?_, ?_, fun u hu => (hform u hu).imp_right (ReadAsValue.back hpq),
      fun hkept u rest h hs => ?_⟩
    · rw [hleft, List.append_assoc]
      rfl
    · rw [hunread]
      exact .keep t hsift
    · -- The first kept token is one that the loop has not ended at.
      cases h
      rw [hkept, hs] at goesOn
      cases goesOn

/-- **Flags anywhere in a line leave the tokens that they do not take.** -/
theorem sifts_of_readAnywhere (n : Nat) {asked : List String}
    (h : readAnywhere o fs stopAt n kept p = ⟨.ok all, q, asked⟩)
    (hn : p.stream.unread.length ≤ n) :
    ∃ taken left, all = kept ++ left ∧ fs.Sifts o p.stream.unread taken left := by
  obtain ⟨taken, left, hall, hsift, -⟩ :=
    (rounds_readAnywhere o fs stopAt n kept p hn).exists_sifts (congrArg Report.result h)
  exact ⟨taken, left, hall, hsift⟩

/-- **Free flags are read by the loop**, and what it keeps is a stream of its own. -/
theorem parse_of_free (free : fs.anchored = false) (o : Occasion) (stopAt : String → Bool)
    {x : Report (List Token)} (h : fs.Rounds o stopAt [] p x) :
    fs.parse o stopAt p =
      ⟨x.result.map fun kept => some (.ofTokens p.stream.raw kept p.stream.pending), x.progress,
        x.asked⟩ := by
  unfold parse
  rw [Step.here_bind, free, if_neg Bool.false_ne_true, Step.bind_apply, ← rounds_iff.1 h]
  rcases x with ⟨e | kept, q, asked⟩
  · rfl
  · exact congrArg (Report.mk _ _) (List.append_nil asked)

/-- **Flags anywhere leave a stream of the tokens that they do not take.** -/
theorem exists_of_parse_ok {s? : Option TokenStream} {asked : List String}
    (free : fs.anchored = false) (h : fs.parse o stopAt p = ⟨.ok s?, q, asked⟩) :
    ∃ kept, readAnywhere o fs stopAt p.stream.unread.length [] p = ⟨.ok kept, q, asked⟩ ∧
      s? = some (.ofTokens p.stream.raw kept p.stream.pending) := by
  rw [parse_of_free free o stopAt (rounds_iff.2 rfl)] at h
  obtain ⟨hs, hq, hasked⟩ := Report.mk.inj h
  rcases hread : readAnywhere o fs stopAt p.stream.unread.length [] p with ⟨e | kept, m, xs⟩ <;>
    rw [hread] at hs hq hasked
  · cases hs
  · cases hs
    cases hq
    cases hasked
    exact ⟨kept, rfl, rfl⟩

/-- **The arguments are read from the line without its flags.** -/
theorem sifts_of_parse {s? : Option TokenStream} {asked : List String}
    (h : fs.parse o stopAt p = ⟨.ok s?, q, asked⟩) :
    match s? with
    | none => p.Onward q ∧ ∃ taken, fs.Sifts o p.stream.unread taken q.stream.unread
    | some s => ∃ taken kept, s = .ofTokens p.stream.raw kept p.stream.pending ∧
        fs.Sifts o p.stream.unread taken kept := by
  cases hanchored : fs.anchored with
  | true =>
    unfold parse at h
    rw [Step.here_bind, hanchored, if_pos rfl] at h
    obtain ⟨_, m, _, _, hhead, hret, -⟩ := Step.exists_of_bind_ok h
    obtain ⟨hs, rfl, -⟩ := Report.mk.inj hret
    cases hs
    exact sifts_of_readHead _ hhead
  | false =>
    obtain ⟨kept, hread, rfl⟩ := exists_of_parse_ok hanchored h
    obtain ⟨taken, _, rfl, hsift⟩ := sifts_of_readAnywhere _ hread (Nat.le_refl _)
    exact ⟨taken, kept, rfl, hsift⟩

/-- What free flags leave to the arguments of the line that is read from `p` to `q`: the stream `s`,
if they have taken the tokens `taken`. -/
structure Leaves (o : Occasion) (fs : Flags) (stopAt : String → Bool) (p q : Progress)
    (taken : List Token) (s : TokenStream) : Prop where
  raw : s.raw = p.stream.raw
  pending : s.pending = p.stream.pending
  /-- Nothing of it is read yet. -/
  cursor : s.cursor = 0
  /-- Its tokens are unread ones, in order, each with its span. -/
  sublist : s.tokens.Sublist p.stream.unread
  /-- Each unread token is taken or left, as often as it stands there. -/
  perm : (taken ++ s.tokens).Perm p.stream.unread
  /-- Nothing is taken but flags and their values. -/
  form : ∀ t ∈ taken, looksLikeFlag t.text = true ∨ fs.ReadAsValue o stopAt p q s.tokens t
  /-- From a first token that ends the flags, the line is left as it is. -/
  untouched : ∀ t more, s.tokens = t :: more → stopAt t.text = true →
    taken ++ s.tokens = p.stream.unread

/-- **Free flags leave the arguments.**  The loop over the tokens comes to an end, in one way only;
and if it does not stop at a flag, it gives a new stream of the line, in which no argument is
missing, doubled or out of order. -/
theorem parse_leaves_arguments (free : fs.anchored = false) (o : Occasion)
    (stopAt : String → Bool) (p : Progress) :
    (∃ x, fs.Rounds o stopAt [] p x ∧ (∀ y, fs.Rounds o stopAt [] p y → y = x) ∧
      fs.parse o stopAt p =
        ⟨x.result.map fun kept => some (.ofTokens p.stream.raw kept p.stream.pending), x.progress,
          x.asked⟩) ∧
    ∀ s? q asked, fs.parse o stopAt p = ⟨.ok s?, q, asked⟩ →
      ∃ s taken, s? = some s ∧ fs.Leaves o stopAt p q taken s := by
  refine ⟨⟨_, rounds_iff.2 rfl, fun _ hy => rounds_iff.1 hy,
    parse_of_free free o stopAt (rounds_iff.2 rfl)⟩, fun s? q asked h => ?_⟩
  obtain ⟨kept, hread, rfl⟩ := exists_of_parse_ok free h
  have hrounds : fs.Rounds o stopAt [] p ⟨.ok kept, q, asked⟩ := rounds_iff.2 hread.symm
  obtain ⟨taken, _, rfl, hsift, hform, hstop⟩ := hrounds.exists_sifts rfl
  exact ⟨_, taken, rfl, {
    raw := rfl
    pending := rfl
    cursor := rfl
    sublist := hsift.sublist
    perm := hsift.perm
    form := hform
    untouched := hstop rfl }⟩

/-- **A flag behind a word that ends the flags is left**, and the word after `-n` is a value. -/
theorem flag_behind_last_word_is_left :
    let o : Occasion := ⟨.bare "tester", ⟨2024, 5, 31, 12, 34, 56, 789012, none⟩, .usual⟩
    let note : Parameter := .leaf { key := "note" } .text
    let fs : Flags := { flags := [⟨"v", [], .switch none⟩, ⟨"n", [], .valued note⟩] }
    let p : Progress := .ofStream (.ofLine .spaced "-v -n hi web -v")
    let s : TokenStream := .ofTokens "-v -n hi web -v" [⟨"web", 9, 12⟩, ⟨"-v", 13, 15⟩] none
    fs.anchored = false ∧ (fs.parse o (· == "web") p).result = .ok (some s) ∧
      ∃ q taken, fs.Leaves o (· == "web") p q taken s := by
  have hleaves : ∀ {o : Occasion} {fs : Flags} {stopAt : String → Bool} {p : Progress}
      {s : TokenStream}, fs.anchored = false → (fs.parse o stopAt p).result = .ok (some s) →
        ∃ q taken, fs.Leaves o stopAt p q taken s := by
    intro o fs stopAt p s free hrun
    obtain ⟨_, taken, hs, hleaves⟩ :=
      (parse_leaves_arguments free o stopAt p).2 _ _ _ (congrArg (Report.mk · _ _) hrun)
    cases hs
    exact ⟨_, taken, hleaves⟩
  exact ⟨rfl, rfl, hleaves rfl rfl⟩

end

end Flags

namespace CommandFrame

/-- What the flags of a command, if it has any, take from a line. -/
def Sifts (o : Occasion) (f : CommandFrame) (line taken kept : List Token) : Prop :=
  match f.flags with
  | none => taken = [] ∧ kept = line
  | some fs => fs.Sifts o line taken kept

variable {o : Occasion} {f : CommandFrame} {line taken kept : List Token}

/-- **What is taken and what is kept make up the line.** -/
theorem Sifts.perm (h : f.Sifts o line taken kept) : (taken ++ kept).Perm line := by
  unfold Sifts at h
  split at h
  · rw [h.1, h.2]
    exact .refl _
  · exact Flags.Sifts.perm h

/-- **What a command reads after its flags is the line without them**, with its end as it was. -/
theorem sifts_of_readFlags {cs : List Command} {p q : Progress} {runs : List Run}
    (h : f.readFlags o cs p = ⟨.ok (), q, runs⟩) :
    q.stream.pending = p.stream.pending ∧
      ∃ taken, f.Sifts o p.stream.unread taken q.stream.unread := by
  unfold readFlags at h
  unfold Sifts
  cases hf : f.flags with
  | none =>
    rw [hf] at h
    obtain ⟨-, rfl, -⟩ := Trial.mk.inj h
    exact ⟨rfl, [], rfl, rfl⟩
  | some fs =>
    rw [hf] at h
    obtain ⟨_, h⟩ := Attempt.exists_of_ofStep_ok h
    obtain ⟨s?, m, _, _, hparse, h, -⟩ := Step.exists_of_bind_ok h
    have hsifts := Flags.sifts_of_parse hparse
    cases s? with
    | none =>
      obtain ⟨-, rfl, -⟩ := Report.mk.inj h
      exact ⟨hsifts.1.pending, hsifts.2⟩
    | some s =>
      obtain ⟨-, rfl, -⟩ := Report.mk.inj h
      obtain ⟨taken, kept, rfl, hsift⟩ := hsifts
      exact ⟨rfl, taken, hsift⟩

end CommandFrame
end CommandGrammar
