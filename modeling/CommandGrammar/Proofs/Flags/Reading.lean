/-
# What reading a flag comes to

`Flags.readOne` looks at one token.  Either it leaves everything as it was, or the token is read,
keys of switches are marked, and then one of four things happens.  `Flags.Reading` lists them; every
fact about flags is proved from the list, without another look at long names, letters or policies.

| what happens last | result |
| --- | --- |
| nothing more | read |
| a name is unknown, or has a value that it cannot take | a failure where the token begins |
| a parameter reads the tokens that follow | what the parameter comes to |
| a parameter reads the end of the token | what the parameter comes to |

The end of a token is placed where the line says it last in the token's span
(`standsAt_of_lastPlace?`).
-/

import CommandGrammar.Flag.Parse
import CommandGrammar.Proofs.Steps.Course

namespace CommandGrammar

/-- The progress with keys marked, in order. -/
def Progress.markAll (p : Progress) (keys : List String) : Progress :=
  { p with context := keys.foldl Context.mark p.context }

/-- **Keys are marked one after the other.** -/
theorem Progress.markAll_append (p : Progress) (keys : List String) (key : String) :
    p.markAll (keys ++ [key]) =
      { p.markAll keys with context := (p.markAll keys).context.mark key } := by
  unfold markAll
  rw [List.foldl_append]
  rfl

/-- Within a span of a line, a text stands at a place. -/
structure StandsAt (part chars : List Char) (start stop i : Nat) : Prop where
  after : start ≤ i
  before : i + part.length ≤ stop
  goesOn : part <+: chars.drop i

section lastPlace

variable {part chars : List Char} {start stop i : Nat}

/-- **The places that are tried are those within the span at which the text fits.** -/
theorem mem_places {length : Nat} :
    i ∈ ((List.range (stop + 1 - length - start)).map (· + start)).reverse ↔
      start ≤ i ∧ i + length ≤ stop := by
  rw [List.mem_reverse, List.mem_map]
  constructor
  · rintro ⟨k, hk, rfl⟩
    have := List.mem_range.1 hk
    omega
  · rintro ⟨hstart, hstop⟩
    exact ⟨i - start, List.mem_range.2 (by omega), by omega⟩

/-- **The last place of a text is a place of it, and the last one.** -/
theorem standsAt_of_lastPlace? (h : lastPlace? part chars start stop = some i) :
    StandsAt part chars start stop i ∧ ∀ j, StandsAt part chars start stop j → j ≤ i := by
  have hsorted : ((List.range (stop + 1 - part.length - start)).map (· + start)).reverse.Pairwise
      fun a b => b < a := by
    rw [List.pairwise_reverse, List.pairwise_map]
    exact List.pairwise_lt_range.imp fun hlt => Nat.add_lt_add_right hlt _
  obtain ⟨hfits, later, earlier, hplaces, hno⟩ := List.find?_eq_some_iff_append.1 h
  obtain ⟨hstart, hstop⟩ := mem_places.1 (hplaces ▸ List.mem_append_right _ List.mem_cons_self)
  refine ⟨⟨hstart, hstop, List.isPrefixOf_iff_prefix.1 hfits⟩, fun j hj => ?_⟩
  have hmem := mem_places.2 ⟨hj.after, hj.before⟩
  rw [hplaces] at hsorted hmem
  rcases List.mem_append.1 hmem with hlater | hrest
  · have := hno j hlater
    rw [List.isPrefixOf_iff_prefix.2 hj.goesOn] at this
    cases this
  · rcases List.mem_cons.1 hrest with rfl | hearlier
    · exact Nat.le_refl _
    · exact Nat.le_of_lt
        ((List.pairwise_cons.1 (List.pairwise_append.1 hsorted).2.1).1 j hearlier)

/-- **A text without a last place has no place.** -/
theorem not_standsAt_of_lastPlace?_none (h : lastPlace? part chars start stop = none) (j : Nat) :
    ¬StandsAt part chars start stop j := fun hj =>
  List.find?_eq_none.1 h j (mem_places.2 ⟨hj.after, hj.before⟩)
    (List.isPrefixOf_iff_prefix.2 hj.goesOn)

end lastPlace

/-- The part of a token from a character on, as a value of its own. -/
def Token.valueFrom (raw : String) (t : Token) (index : Nat) : Token :=
  ⟨String.ofList (t.text.toList.drop index), offsetOf raw t index, t.stop⟩

/-- **The value of a flag is the end of its token.** -/
theorem Token.valueFrom_suffix (raw : String) (t : Token) (index : Nat) :
    (t.valueFrom raw index).text.toList <:+ t.text.toList := by
  rw [valueFrom, String.toList_ofList]
  exact List.drop_suffix index _

namespace Flags

/-- A flag that a source may use, and the parameter that reads its value. -/
structure HasValue (o : Occasion) (fs : Flags) (f : Flag) (param : Parameter) : Prop where
  mem : f ∈ fs.flags
  mayUse : f.mayUse o.source = true
  reads : f.parameter? = some param

/-- What reading a flag may come to after its token `t` is read; `r` is where the token ends. -/
inductive Reading (o : Occasion) (fs : Flags) (t : Token) (r : Progress) : Report Bool → Prop
  | marked (keys : List String) : Reading o fs t r ⟨.ok true, r.markAll keys, []⟩
  | unfit (keys : List String) (problem : Problem) :
      Reading o fs t r
        ⟨.error (.failed (r.stream.errorAt t.start problem)), r.markAll keys, []⟩
  | value (keys : List String) {f : Flag} {param : Parameter} (flag : fs.HasValue o f param) :
      Reading o fs t r ((param.parse o >>= fun _ => pure true) (r.markAll keys))
  | attached (keys : List String) {f : Flag} {param : Parameter} (flag : fs.HasValue o f param)
      {index : Nat} (inside : index ≤ t.text.toList.length) :
      Reading o fs t r ((readAttached o f param (t.valueFrom r.stream.raw index) >>= fun _ =>
        pure true) (r.markAll keys))

section

variable {o : Occasion} {fs : Flags} {t : Token} {before r : Progress}

/-- **A flag that is found by its name is one of the flags.** -/
theorem mem_of_long? {name : String} {f : Flag} (h : fs.long? name = some f) : f ∈ fs.flags :=
  List.mem_of_find?_eq_some h

/-- **So is one that is found by its letter.** -/
theorem mem_of_short? {letter : Char} {f : Flag} (h : fs.short? letter = some f) : f ∈ fs.flags :=
  List.mem_of_find?_eq_some h

/-- **A flag that is usable is there and may be used.** -/
theorem of_usable {f? : Option Flag} {f : Flag} (h : usable o f? = some f) :
    f? = some f ∧ f.mayUse o.source = true := by
  unfold usable at h
  obtain ⟨hf, hu⟩ := Option.filter_eq_some_iff.1 h
  exact ⟨hf, hu⟩

/-- **A value that is attached to a long flag begins behind the `=`.** -/
theorem drop_of_tail? {body inline : List Char}
    (h : (body.dropWhile (· != '=')).tail? = some inline) :
    inline = body.drop ((body.takeWhile (· != '=')).length + 1) ∧
      (body.takeWhile (· != '=')).length + 1 ≤ body.length := by
  have hbody := List.takeWhile_append_dropWhile (p := (· != '=')) (l := body)
  cases hrest : body.dropWhile (· != '=') with
  | nil => rw [hrest] at h; cases h
  | cons c rest =>
    rw [hrest] at h hbody
    obtain rfl : rest = inline := Option.some.inj h
    generalize body.takeWhile (· != '=') = name at hbody
    subst hbody
    exact ⟨by simp [List.drop_append], by simp⟩

/-- **An unknown flag is refused, left as it was, or read.** -/
theorem reading_of_handle (t : Token) (before r : Progress) (policy : UnknownFlagPolicy)
    (name : String) (keys : List String) :
    policy.handle name t before (r.markAll keys) = ⟨.ok false, before, []⟩ ∨
      (∃ problem, policy.handle name t before (r.markAll keys) =
        ⟨.error (.failed (r.stream.errorAt t.start problem)), r.markAll keys, []⟩) ∨
      ∃ more, policy.handle name t before (r.markAll keys) =
        ⟨.ok true, r.markAll (keys ++ more), []⟩ := by
  cases policy with
  | refuse => exact .inr (.inl ⟨_, rfl⟩)
  | keep => exact .inl rfl
  | drop => exact .inr (.inr ⟨[], by rw [List.append_nil]; rfl⟩)
  | mark => exact .inr (.inr ⟨[name], by rw [Progress.markAll_append]; rfl⟩)

/-- **A long flag is left, or read to its end.** -/
theorem reading_of_readLong (hraw : before.stream.raw = r.stream.raw) :
    readLong o fs t before r = ⟨.ok false, before, []⟩ ∨
      Reading o fs t r (readLong o fs t before r) := by
  obtain ⟨name, hname⟩ : ∃ n, n = String.ofList ((t.text.toList.drop 2).takeWhile (· != '=')) :=
    ⟨_, rfl⟩
  rcases hu : usable o (fs.long? name) with _ | f
  · have hstep : readLong o fs t before = fs.unknownLong.handle name t before := by
      unfold readLong
      simp only [← hname, hu]
    rw [hstep]
    rcases reading_of_handle t before r fs.unknownLong name []
      with h | ⟨_, h⟩ | ⟨more, h⟩
    · exact .inl h
    · exact .inr (h ▸ .unfit [] _)
    · exact .inr (h ▸ .marked more)
  · obtain ⟨hlong, hmay⟩ := of_usable hu
    have hmem := mem_of_long? hlong
    refine .inr ?_
    unfold readLong
    simp only [← hname, hu]
    rcases hp : f.parameter? with _ | param <;>
      rcases hi : ((t.text.toList.drop 2).dropWhile (· != '=')).tail? with _ | inline
    · exact .marked [f.key]
    · exact .unfit [] _
    · exact .value [] ⟨hmem, hmay, hp⟩
    · have hlength : name.length = ((t.text.toList.drop 2).takeWhile (· != '=')).length := by
        rw [hname, String.length_ofList]
      obtain ⟨rfl, hle⟩ := drop_of_tail? hi
      rw [← hlength, List.length_drop] at hle
      have hvalue : t.valueFrom r.stream.raw (3 + name.length) =
          ⟨String.ofList ((t.text.toList.drop 2).drop (name.length + 1)),
            offsetOf before.stream.raw t (3 + name.length), t.stop⟩ := by
        rw [List.drop_drop, hraw, Token.valueFrom]
        congr 3
        omega
      have h := Reading.attached (r := r) [] ⟨hmem, hmay, hp⟩
        (show 3 + name.length ≤ t.text.toList.length by omega)
      rw [hvalue] at h
      rw [← hlength]
      exact h

/-- **Short flags are left, or read to the end of their token.** -/
theorem reading_of_readLetters (hraw : before.stream.raw = r.stream.raw) :
    ∀ (letters : List Char) (index : Nat) (keys : List String),
    t.text.toList.drop (index + 1) = letters →
    readLetters o fs t before index letters (r.markAll keys) = ⟨.ok false, before, []⟩ ∨
      Reading o fs t r (readLetters o fs t before index letters (r.markAll keys))
  | [], index, keys, _ => by
    unfold readLetters
    exact .inr (.marked keys)
  | letter :: rest, index, keys, hletters => by
    have hrest : t.text.toList.drop (index + 1 + 1) = rest := by
      rw [← List.tail_drop, hletters, List.tail_cons]
    unfold readLetters
    rcases hu : usable o (fs.short? letter) with _ | f
    · dsimp only
      rw [Step.bind_apply]
      rcases reading_of_handle t before r fs.unknownShort
        letter.toString keys with h | ⟨problem, h⟩ | ⟨more, h⟩ <;> rw [h]
      · exact .inl rfl
      · exact .inr (.unfit keys problem)
      · exact reading_of_readLetters hraw rest (index + 1) (keys ++ more) hrest
    · obtain ⟨hshort, hmay⟩ := of_usable hu
      dsimp only
      rcases hp : f.parameter? with _ | param
      · have hmark := Progress.markAll_append r keys f.key
        have h := reading_of_readLetters hraw rest (index + 1) (keys ++ [f.key]) hrest
        rw [hmark] at h
        exact h
      · refine .inr ?_
        cases rest with
        | nil => exact .value keys ⟨mem_of_short? hshort, hmay, hp⟩
        | cons c cs =>
          have hle : 2 + index ≤ t.text.toList.length := by
            have hlen := congrArg List.length hrest
            rw [List.length_drop, List.length_cons] at hlen
            omega
          have hvalue : t.valueFrom r.stream.raw (2 + index) =
              ⟨String.ofList (c :: cs), offsetOf before.stream.raw t (2 + index), t.stop⟩ := by
            rw [hraw, Token.valueFrom, ← hrest]
            congr 3
            omega
          have h := Reading.attached (r := r) keys ⟨mem_of_short? hshort, hmay, hp⟩ hle
          rw [hvalue] at h
          exact h

/-- **A token is read as a flag only if it has the form of one.** -/
theorem readOne_eq (o : Occasion) (fs : Flags) (p : Progress) :
    readOne o fs p = match p.stream.head? with
      | none => ⟨.ok false, p, []⟩
      | some t =>
        if looksLikeFlag t.text then
          (Step.next >>= fun _ => if Text.beginsWith "--" t.text then readLong o fs t p
            else readLetters o fs t p 0 (t.text.toList.drop 1)) p
        else ⟨.ok false, p, []⟩ := by
  unfold readOne
  dsimp only [Bind.bind, Step.andThen, Step.here]
  cases p.stream.head? with
  | none => rfl
  | some t =>
    dsimp only
    cases looksLikeFlag t.text <;> rfl

/-- **A flag at the cursor is left, or its token is read first.** -/
theorem reading_of_readOne (o : Occasion) (fs : Flags) (p : Progress) :
    readOne o fs p = ⟨.ok false, p, []⟩ ∨
      ∃ t r, p.stream.head? = some t ∧ looksLikeFlag t.text = true ∧
        Step.next p = ⟨.ok t.text, r, []⟩ ∧ Reading o fs t r (readOne o fs p) := by
  rw [readOne_eq]
  cases hhead : p.stream.head? with
  | none => exact .inl rfl
  | some t =>
    dsimp only
    split
    · rename_i hlooks
      obtain ⟨r, hnext⟩ := Step.next_of_head? hhead
      rw [Step.bind_of_ok hnext, Report.after_nil]
      have hread : ∀ x : Report Bool, x = ⟨.ok false, p, []⟩ ∨ Reading o fs t r x →
          x = ⟨.ok false, p, []⟩ ∨ ∃ t' r', some t = some t' ∧ looksLikeFlag t'.text = true ∧
            Step.next p = ⟨.ok t'.text, r', []⟩ ∧ Reading o fs t' r' x :=
        fun x hx => hx.imp_right fun hx => ⟨t, r, rfl, hlooks, hnext, hx⟩
      have hraw := (Step.raw_of_next hnext).symm
      split
      · exact hread _ (reading_of_readLong hraw)
      · exact hread _ (reading_of_readLetters (r := r) hraw _ 0 [] rfl)
    · exact .inl rfl

end

end Flags
end CommandGrammar
