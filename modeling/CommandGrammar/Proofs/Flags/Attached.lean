/-
# Values that are attached to a flag

A value that is attached to a flag is read from a stream of its own with one word, but the line of
that stream is the whole line still.  Typed alone, the value is a line of one word, too, so the two
runs go side by side (`Pairing.single`), and all that is left to differ is where an error stands and
what is taken as it was typed: `Pairing.sameTail` asks that nothing follows the value in its line.

| the parameter, on the value alone | the attached value (`Flags.readAttached_apply`) |
| --- | --- |
| reads it to its end | is read, with the same bindings |
| leaves the word, or an empty rest of it | a problem |
| fails, or breaks off | fails with the same problem, or breaks off |
-/

import CommandGrammar.Proofs.Flags.Rounds
import CommandGrammar.Proofs.Steps.Pairing

namespace CommandGrammar

open Text

/-- The tokens of the stream are one token of a line, and no error follows it. -/
structure TokenStream.Single (raw : String) (t : Token) (s : TokenStream) : Prop where
  raw : s.raw = raw
  tokens : s.tokens = [t]
  pending : s.pending = none

namespace TokenStream.Single

variable {raw : String} {t : Token} {s : TokenStream}

/-- **A line that is made of one token has only that one.** -/
theorem ofTokens (raw : String) (t : Token) : (TokenStream.ofTokens raw [t] none).Single raw t :=
  ⟨rfl, rfl, rfl⟩

/-- **It has only that one wherever the cursor stands.** -/
theorem withCursor (h : s.Single raw t) {n : Nat} (hn : n ≤ s.tokens.length) :
    (s.withCursor n hn).Single raw t := ⟨h.raw, h.tokens, h.pending⟩

/-- **The token is ahead, or it is read.** -/
theorem cases (h : s.Single raw t) :
    (s.cursor = 0 ∧ s.head? = some t) ∨ (s.cursor = 1 ∧ s.head? = none) := by
  have hle := s.cursor_le
  unfold head?
  rw [h.tokens] at hle ⊢
  rcases Nat.le_one_iff_eq_zero_or_eq_one.1 hle with hc | hc
  · exact .inl ⟨hc, by rw [hc]; rfl⟩
  · exact .inr ⟨hc, by rw [hc]; rfl⟩

/-- **At its end, an argument is missing.** -/
theorem endError_eq (h : s.Single raw t) :
    s.endError = ⟨.notEnoughArguments, raw, raw.length⟩ := by
  rw [endError, h.pending, h.raw]

/-- **At its end, problems are put behind the line.** -/
theorem position_of_end (h : s.Single raw t) (hend : s.head? = none) :
    s.position = raw.length := by
  rw [position, hend, h.pending, h.raw]

end TokenStream.Single

section single

variable (raw raw' : String) (t t' : Token)

/-- Two lines with one token each, read as far. -/
structure TokenStream.SameSingle (s s' : TokenStream) : Prop where
  left : s.Single raw t
  right : s'.Single raw' t'
  cursor : s'.cursor = s.cursor

/-- Both places are where the token begins, or both are where the line ends. -/
def Token.SamePlace (i i' : Int) : Prop :=
  (i = t.start ∧ i' = t'.start) ∨ (i = raw.length ∧ i' = raw'.length)

variable {raw raw' t t'}

/-- **Either both lines have their token ahead, or neither has.** -/
theorem TokenStream.SameSingle.cases {s s' : TokenStream} (h : SameSingle raw raw' t t' s s') :
    (s.head? = some t ∧ s'.head? = some t') ∨ (s.head? = none ∧ s'.head? = none) := by
  have hcursor := h.cursor
  rcases h.left.cases with ⟨hc, hhead⟩ | ⟨hc, hhead⟩ <;>
    rcases h.right.cases with ⟨hc', hhead'⟩ | ⟨hc', hhead'⟩
  · exact .inl ⟨hhead, hhead'⟩
  · omega
  · omega
  · exact .inr ⟨hhead, hhead'⟩

/-- The pairing of runs on two lines with one word each, the same one. -/
def Pairing.single (text : t'.text = t.text) (inside : t.start < raw.length)
    (inside' : t'.start < raw'.length) : Pairing where
  lines := TokenStream.SameSingle raw raw' t t'
  contexts := Eq
  places := Token.SamePlace raw raw' t t'
  errors e e' := Token.SamePlace raw raw' t t' e.position e'.position ∧ e'.problem = e.problem
  next {s s'} h := by
    rcases h.cases with ⟨hhead, hhead'⟩ | ⟨hhead, hhead'⟩
    · obtain ⟨hc, hnext⟩ := TokenStream.next_of_head? hhead
      obtain ⟨hc', hnext'⟩ := TokenStream.next_of_head? hhead'
      rw [text] at hnext'
      exact .inl ⟨_, _, _, hnext, hnext', h.left.withCursor hc, h.right.withCursor hc',
        congrArg (· + 1) h.cursor⟩
    · refine .inr ⟨TokenStream.next_of_head?_none hhead, TokenStream.next_of_head?_none hhead', ?_⟩
      rw [h.left.endError_eq, h.right.endError_eq]
      exact ⟨.inr ⟨rfl, rfl⟩, rfl⟩
  remaining h := by
    unfold TokenStream.remaining
    rw [h.cursor, h.left.tokens, h.right.tokens, h.left.pending, h.right.pending]
    rfl
  position h := by
    rcases h.cases with ⟨hhead, hhead'⟩ | ⟨hhead, hhead'⟩
    · unfold TokenStream.position
      rw [hhead, hhead']
      exact .inl ⟨rfl, rfl⟩
    · exact .inr ⟨h.left.position_of_end hhead, h.right.position_of_end hhead'⟩
  sameTail := dropped t.start raw = dropped t'.start raw'
  fromHere htail {s s'} h := by
    rcases h.cases with ⟨hhead, hhead'⟩ | ⟨hhead, hhead'⟩
    · unfold TokenStream.position
      rw [hhead, hhead', h.left.raw, h.right.raw]
      exact htail
    · rw [h.left.position_of_end hhead, h.right.position_of_end hhead', h.left.raw, h.right.raw]
      have hend : ∀ line : String, dropped (line.length : Int).toNat line = "" := fun line => by
        rw [Int.toNat_natCast, dropped, ← String.length_toList, List.drop_length]
      rw [hend, hend]
  sameCursor h h' := by rw [h.cursor, h'.cursor]
  errorAt _ _ hplace := ⟨hplace, rfl⟩
  inAttempt k n h := ⟨h.1, congrArg (Problem.inAttempt · k n) h.2⟩
  further h h' := by
    rcases h.1 with ⟨he, he'⟩ | ⟨he, he'⟩ <;> rcases h'.1 with ⟨hf, hf'⟩ | ⟨hf, hf'⟩ <;>
      rw [he, he', hf, hf'] <;> omega

end single

/-- **A part of a token that is not its end begins inside of the line.** -/
theorem offsetOf_lt {raw : String} {t : Token} {index : Nat} (ht : t.start < raw.length)
    (inside : index < t.text.toList.length) : offsetOf raw t index < raw.length := by
  have hraw : raw.toList.length = raw.length := String.length_toList
  unfold offsetOf
  dsimp only
  split
  · rename_i hspan
    have hlength := length_slice raw t.start t.stop
    rw [hspan] at hlength
    omega
  · have hpart : t.text.toList.drop index ≠ [] := by
      rw [Ne, List.drop_eq_nil_iff]
      omega
    rw [if_neg (by simpa using hpart)]
    cases hplace : lastPlace? (t.text.toList.drop index) raw.toList t.start t.stop with
    | none => exact ht
    | some i =>
      show i < raw.length
      refine Nat.lt_of_not_le fun hle => hpart ?_
      rw [← hraw] at hle
      have hfits := (standsAt_of_lastPlace? hplace).1.goesOn
      rw [List.drop_eq_nil_of_le hle] at hfits
      exact List.prefix_nil.1 hfits

namespace Flags

variable {o : Occasion} {M : Pairing} {param : Parameter}

/-- **A whole value keeps runs side by side if its parameter does.** -/
theorem paired_readWhole (h : Step.Paired M Eq (param.parse o) (param.parse o)) (f : Flag) :
    Step.Paired M Eq (readWhole o f param) (readWhole o f param) := by
  refine Pairing.paired_bind h fun _ _ _ => Pairing.paired_here_bind fun q q' hq => ?_
  rw [hq.hasNext_eq]
  split
  · refine Pairing.paired_bind Pairing.paired_peek (fun left left' hleft => ?_) q q' hq
    rw [hleft]
    exact Pairing.paired_fail _
  · exact Pairing.paired_pure rfl q q' hq

/-- **A value that is read to its end is read whole.** -/
theorem readWhole_of_ok {p q : Progress} {asked : List String}
    (h : param.parse o p = ⟨.ok (), q, asked⟩) (hend : q.stream.hasNext = false) (f : Flag) :
    readWhole o f param p = ⟨.ok (), q, asked⟩ := by
  unfold readWhole
  rw [Step.bind_of_ok h, Step.here_bind, hend]
  exact congrArg (Report.mk _ _) (List.append_nil asked)

/-- **A value of which something is left is refused.** -/
theorem exists_readWhole_of_left {p q : Progress} {asked : List String}
    (h : param.parse o p = ⟨.ok (), q, asked⟩) (hleft : q.stream.hasNext = true) (f : Flag) :
    ∃ e, readWhole o f param p = ⟨.error (.failed e), q, asked⟩ := by
  unfold readWhole
  rw [Step.bind_of_ok h, Step.here_bind, hleft, if_pos rfl, Step.bind_apply]
  unfold Step.peek
  rcases q.stream.peek with e | word <;>
    exact ⟨_, congrArg (Report.mk _ _) (List.append_nil asked)⟩

/-- What the value of a flag comes to, against what its parameter comes to on the value alone: it is
read, up to `s`, with the same bindings if it is read to its end alone. -/
inductive AsAlone (s : TokenStream) : Report Unit → Report Unit → Prop
  | read {q : Progress} (whole : q.stream.hasNext = false) (asked : List String) :
      AsAlone s ⟨.ok (), q, asked⟩ ⟨.ok (), ⟨s, q.context⟩, asked⟩
  | left {q : Progress} (left : q.stream.hasNext = true) (asked : List String) (e : ParseError)
      (q' : Progress) : AsAlone s ⟨.ok (), q, asked⟩ ⟨.error (.failed e), q', asked⟩
  | failed {e e' : ParseError} (problem : e'.problem = e.problem) (asked : List String)
      (q q' : Progress) :
      AsAlone s ⟨.error (.failed e), q, asked⟩ ⟨.error (.failed e'), q', asked⟩
  | broken (b : Breakdown) (asked : List String) (q q' : Progress) :
      AsAlone s ⟨.error (.broken b), q, asked⟩ ⟨.error (.broken b), q', asked⟩

/-- **An attached value comes to what it comes to alone**, unless the line goes on behind it and the
parameter takes a line as it was typed. -/
theorem asAlone_readAttached (f : Flag) {raw : String} {t v : Token} {p : Progress}
    (text : v.text = t.text) (inside : t.start < raw.length)
    (inside' : v.start < p.stream.raw.length)
    (htail : ∀ g, param.Has (.leaf g .restRaw) →
      dropped t.start raw = dropped v.start p.stream.raw) :
    AsAlone p.stream (param.parse o ⟨.ofTokens raw [t] none, p.context⟩)
      (readAttached o f param v p) := by
  have hparse : Step.Paired (.single text inside inside') Eq (param.parse o) (param.parse o) :=
    Pairing.paired_parse (fun n _ => n.preserves_eq) htail
  have hrun := paired_readWhole hparse f ⟨.ofTokens raw [t] none, p.context⟩
    ⟨.ofTokens p.stream.raw [v] none, p.context⟩ ⟨⟨.ofTokens raw t, .ofTokens _ v, rfl⟩, rfl⟩
  rw [readAttached_apply]
  unfold Step.within
  dsimp only
  generalize readWhole o f param ⟨.ofTokens p.stream.raw [v] none, p.context⟩ = y at hrun
  rcases halone : param.parse o ⟨.ofTokens raw [t] none, p.context⟩ with ⟨e | ⟨⟩, q, asked⟩
  · have hwhole : readWhole o f param _ = _ := Step.bind_of_error halone _
    rw [hwhole] at hrun
    cases hrun with
    | failed error _ _ => exact .failed error.2 asked q _
    | broken b _ _ => exact .broken b asked q _
  · cases hnext : q.stream.hasNext with
    | false =>
      rw [readWhole_of_ok halone hnext f] at hrun
      cases hrun with
      | @ok _ _ _ q' _ place _ =>
        rw [← show q.context = q'.context from place.contexts]
        exact .read hnext asked
    | true =>
      obtain ⟨e, hwhole⟩ := exists_readWhole_of_left halone hnext f
      rw [hwhole] at hrun
      cases hrun with
      | failed _ _ _ => exact .left hnext asked _ _

end Flags
end CommandGrammar
