/-
# Flags behind a front

Reading flags goes along with a line behind a front, too.  A flag looks at more of a line than a
grammar does: it finds the place of an attached value in the line (`offsetOf`), and it makes streams
of its own, from that value or from the tokens that are no flags.  Nothing is read already of such a
stream, so behind a front it is moved with no tokens passed.
-/

import CommandGrammar.Proofs.Flags.Attached
import CommandGrammar.Proofs.Flags.Sifting
import CommandGrammar.Proofs.Moving.Lines

namespace CommandGrammar

open Text

section offsets

variable (front raw : String)

/-- **Behind a front, the last place of a text is moved by its length.** -/
theorem lastPlace?_append (part : List Char) (start stop : Nat) :
    lastPlace? part (front ++ raw).toList (start + front.length) (stop + front.length) =
      (lastPlace? part raw.toList start stop).map (· + front.length) := by
  have hlength : front.length = front.toList.length := String.length_toList.symm
  have hcount : stop + front.length + 1 - part.length - (start + front.length) =
      stop + 1 - part.length - start := by omega
  have hplaces : ∀ n, (List.range n).map (· + (start + front.length)) =
      ((List.range n).map (· + start)).map (· + front.length) := by
    intro n
    rw [List.map_map]
    exact List.map_congr_left fun i _ => (Nat.add_assoc i start front.length).symm
  have hfits : ((fun i => part.isPrefixOf ((front ++ raw).toList.drop i)) ∘ (· + front.length)) =
      fun i => part.isPrefixOf (raw.toList.drop i) := by
    funext i
    rw [Function.comp_apply, String.toList_append, Nat.add_comm, hlength, ← List.drop_drop,
      List.drop_left]
  unfold lastPlace?
  simp only [hcount, hplaces, ← List.map_reverse, List.find?_map, hfits]

/-- **A part of a token is found at the same place of the line.** -/
theorem offsetOf_append (t : Token) (index : Nat) :
    offsetOf (front ++ raw) (t.moved front.length) index = offsetOf raw t index + front.length := by
  unfold offsetOf
  simp only [Token.text_moved, Token.start_moved, Token.stop_moved, Text.slice_append,
    lastPlace?_append]
  split
  · omega
  · split
    · rfl
    · cases lastPlace? _ raw.toList t.start t.stop <;> rfl

end offsets

variable {front : String} {passed : List Token} {o : Occasion} {fs : Flags}

/-- **The tokens of a line make a line that is moved with it.** -/
theorem TokenStream.moved_ofTokens {raw : String} {pending pending' : Option ParseError}
    (tokens : List Token) (hpending : Option.Rel (ParseError.Moved front) pending pending')
    (inside : ∀ e, pending = some e → 0 ≤ e.position) :
    (TokenStream.ofTokens raw tokens pending).Moved front []
      (.ofTokens (front ++ raw) (tokens.map (Token.moved front.length)) pending') where
  raw := rfl
  tokens := rfl
  cursor := rfl
  pending := hpending
  inside := inside

namespace Pairing

/-- **A mark is the same behind any front.** -/
theorem paired_mark (key : String) :
    Step.Paired (.moving front passed) Eq (Step.mark key) (Step.mark key) := fun p p' hp =>
  .ok (p := ⟨p.stream, p.context.mark key⟩) (q := ⟨p'.stream, p'.context.mark key⟩) rfl
    ⟨hp.lines, congrArg (Context.mark · key) hp.contexts⟩ []

/-- **Going back on both sides keeps them paired.** -/
theorem paired_backTo {M : Pairing} {q q' : Progress} (h : M.At q q') :
    Step.Paired M Eq (Step.backTo q) (Step.backTo q') := fun _ _ _ => .ok rfl h []

/-- **What runs on a line of its own may leave the line that is being read.** -/
theorem paired_within {α : Type} {M M' : Pairing} {s s' : TokenStream} {inner inner' : Step α}
    (hs : M'.lines s s') (h : Step.Paired M' Eq inner inner')
    (sameContexts : M'.contexts = M.contexts) (sameErrors : M'.errors = M.errors) :
    Step.Paired M Eq (Step.within s inner) (Step.within s' inner') := by
  intro p p' hp
  have hrun := h ⟨s, p.context⟩ ⟨s', p'.context⟩ ⟨hs, sameContexts ▸ hp.contexts⟩
  unfold Step.within
  dsimp only
  generalize inner ⟨s, p.context⟩ = x at hrun
  generalize inner' ⟨s', p'.context⟩ = y at hrun
  cases hrun with
  | @ok _ _ q q' value place asked =>
    exact .ok (p := ⟨p.stream, q.context⟩) (q := ⟨p'.stream, q'.context⟩) value
      ⟨hp.lines, sameContexts ▸ place.contexts⟩ asked
  | @failed _ _ q q' error place asked =>
    exact .failed (p := ⟨p.stream, q.context⟩) (q := ⟨p'.stream, q'.context⟩)
      (sameErrors ▸ error) ⟨hp.lines, sameContexts ▸ place.contexts⟩ asked
  | @broken q q' b place asked =>
    exact .broken (p := ⟨p.stream, q.context⟩) (q := ⟨p'.stream, q'.context⟩) b
      ⟨hp.lines, sameContexts ▸ place.contexts⟩ asked

end Pairing

namespace Flags

open Pairing

/-- **An unknown flag is handled alike behind any front.** -/
theorem paired_handle (name : String) (t : Token) {before before' : Progress}
    (hbefore : (moving front passed).At before before') (policy : UnknownFlagPolicy) :
    Step.Paired (moving front passed) Eq (policy.handle name t before)
      (policy.handle name (t.moved front.length) before') := by
  have hplace : (moving front passed).places t.start (t.moved front.length).start := by
    exact Int.natCast_add t.start front.length
  cases policy with
  | refuse => exact paired_failAt hplace _
  | keep => exact paired_bind (paired_backTo hbefore) fun _ _ _ => paired_pure rfl
  | drop => exact paired_pure rfl
  | mark => exact paired_bind (paired_mark name) fun _ _ _ => paired_pure rfl

/-- **So is an attached value.** -/
theorem paired_readAttached (f : Flag) (param : Parameter) (value : Token) :
    Step.Paired (moving front passed) Eq (readAttached o f param value)
      (readAttached o f param (value.moved front.length)) := by
  intro p p' hp
  have hline : (TokenStream.ofTokens p.stream.raw [value] none).Moved front []
      (.ofTokens (front ++ p.stream.raw) [value.moved front.length] none) :=
    TokenStream.moved_ofTokens [value] .none fun _ h => by cases h
  rw [readAttached_apply, readAttached_apply, hp.lines.raw]
  have hwhole := paired_readWhole (param.paired_parse_moving front [] o) f
  exact paired_within (M := moving front passed) hline hwhole rfl rfl p p' hp

/-- **So is a flag with a name.** -/
theorem paired_readLong (t : Token) {before before' : Progress}
    (hbefore : (moving front passed).At before before') :
    Step.Paired (moving front passed) Eq (readLong o fs t before)
      (readLong o fs (t.moved front.length) before') := by
  unfold readLong
  simp only [Token.text_moved, Token.stop_moved, hbefore.lines.raw, offsetOf_append]
  split
  · exact paired_handle _ t hbefore _
  · rename_i f _
    split
    · exact paired_bind (paired_mark f.key) fun _ _ _ => paired_pure rfl
    · have hplace : (moving front passed).places t.start (t.moved front.length).start :=
        Int.natCast_add t.start front.length
      exact paired_bind (paired_failAt (V := fun _ _ => True) hplace _) fun _ _ _ =>
        paired_pure rfl
    · exact paired_bind (Parameter.paired_parse_moving front passed o _) fun _ _ _ =>
        paired_pure rfl
    · exact paired_bind (paired_readAttached f _ ⟨_, _, t.stop⟩) fun _ _ _ => paired_pure rfl

/-- **So is a bundle of letters.** -/
theorem paired_readLetters (t : Token) {before before' : Progress}
    (hbefore : (moving front passed).At before before') :
    ∀ (letters : List Char) (index : Nat),
      Step.Paired (moving front passed) Eq (readLetters o fs t before index letters)
        (readLetters o fs (t.moved front.length) before' index letters)
  | [], _ => paired_pure rfl
  | letter :: rest, index => by
    have hrest := paired_readLetters t hbefore rest (index + 1)
    unfold readLetters
    simp only [hbefore.lines.raw, offsetOf_append]
    split
    · refine paired_bind (paired_handle _ t hbefore _) fun found found' hfound => ?_
      rw [hfound]
      split
      · exact hrest
      · exact paired_pure rfl
    · rename_i f _
      split
      · exact paired_bind (paired_mark f.key) fun _ _ _ => hrest
      · by_cases hempty : rest.isEmpty = true
        · rw [if_pos hempty, if_pos hempty]
          exact paired_bind (Parameter.paired_parse_moving front passed o _) fun _ _ _ =>
            paired_pure rfl
        · rw [if_neg hempty, if_neg hempty]
          exact paired_bind (paired_readAttached f _ ⟨_, _, t.stop⟩) fun _ _ _ =>
            paired_pure rfl

/-- **So is any one flag.** -/
theorem paired_readOne :
    Step.Paired (moving front passed) Eq (readOne o fs) (readOne o fs) := by
  intro p p' hp
  rw [readOne_eq, readOne_eq, hp.lines.head?]
  cases p.stream.head? with
  | none => exact .ok rfl hp []
  | some t =>
    rw [Option.map_some]
    dsimp only
    rw [Token.text_moved]
    by_cases hlooks : looksLikeFlag t.text = true
    · rw [if_pos hlooks, if_pos hlooks]
      refine paired_bind paired_next (fun _ _ _ => ?_) p p' hp
      split
      · exact paired_readLong t hp
      · exact paired_readLetters t hp _ 0
    · rw [if_neg hlooks, if_neg hlooks]
      exact .ok rfl hp []

/-- **So are the flags at the head of a line.** -/
theorem paired_readHead :
    ∀ n, Step.Paired (moving front passed) Eq (readHead o fs n) (readHead o fs n)
  | 0 => paired_pure rfl
  | n + 1 => by
    refine paired_bind paired_readOne fun found found' hfound => ?_
    rw [hfound]
    split
    · exact paired_readHead n
    · exact paired_pure rfl

/-- Tokens go with the same tokens, moved. -/
def SameTokens (front : String) (ts ts' : List Token) : Prop :=
  ts' = ts.map (Token.moved front.length)

/-- **So are the flags anywhere on it, and the tokens that are kept.** -/
theorem paired_readAnywhere (stopAt : String → Bool) : ∀ (n : Nat) (kept : List Token),
    Step.Paired (moving front passed) (SameTokens front) (readAnywhere o fs stopAt n kept)
      (readAnywhere o fs stopAt n (kept.map (Token.moved front.length)))
  | 0, _ => paired_pure rfl
  | n + 1, kept => fun p p' hp => by
    rw [readAnywhere_succ, readAnywhere_succ, hp.lines.head?, List.isEmpty_map]
    rcases p.stream.head? with _ | t
    · exact .ok (V := SameTokens front) rfl hp []
    · rw [Option.map_some]
      dsimp only
      rw [Token.text_moved]
      by_cases hstop : (kept.isEmpty && stopAt t.text) = true
      · rw [if_pos hstop, if_pos hstop]
        exact .ok (V := SameTokens front) (p := ⟨p.stream.skipAll, p.context⟩)
          (q := ⟨p'.stream.skipAll, p'.context⟩) hp.lines.unread
          ⟨hp.lines.skipAll, hp.contexts⟩ []
      · rw [if_neg hstop, if_neg hstop]
        refine paired_bind paired_readOne (fun found found' hfound => ?_) p p' hp
        rw [hfound]
        split
        · exact paired_readAnywhere stopAt n kept
        · refine paired_bind paired_next fun _ _ _ => ?_
          rw [← List.map_singleton, ← List.map_append]
          exact paired_readAnywhere stopAt n (kept ++ [t])

/-- **The arguments are read from the same stream, moved.** -/
theorem paired_parse (stopAt : String → Bool) :
    Step.Paired (moving front passed) (Option.Rel (TokenStream.Moved front []))
      (fs.parse o stopAt) (fs.parse o stopAt) := by
  refine paired_here_bind fun p p' hp => ?_
  rw [hp.lines.unread, List.length_map, hp.lines.raw]
  by_cases hanchored : fs.anchored = true
  · rw [if_pos hanchored, if_pos hanchored]
    exact paired_bind (paired_readHead _) (fun _ _ _ => paired_pure .none) p p' hp
  · rw [if_neg hanchored, if_neg hanchored]
    refine paired_bind (paired_readAnywhere stopAt _ []) (fun kept kept' hkept => ?_) p p' hp
    have hrest : (TokenStream.ofTokens p.stream.raw kept p.stream.pending).Moved front []
        (.ofTokens (front ++ p.stream.raw) kept' p'.stream.pending) := by
      rw [hkept]
      exact TokenStream.moved_ofTokens kept hp.lines.pending hp.lines.inside
    exact paired_pure (.some hrest)

end Flags
end CommandGrammar
