/-
# Coming to a place of the line

Reading the flags of a line from its start on is coming to some place of it and then reading the
flags from there on (`Flags.exists_parse_of_comes`).  On the way flags are read, each with its
values, and other tokens are kept; the kept ones stand before whatever is left from that place on.

| on the way | anchored flags | free flags |
| --- | --- | --- |
| a flag | is read | is read |
| another token | is not passed | is kept |

No word ends the flags early here.
-/

import CommandGrammar.Proofs.Flags.FirstFlag

namespace CommandGrammar

/-- A report of flags whose arguments are read from more tokens, the kept ones first. -/
def Report.keeping (kept : List Token) (x : Report (Option TokenStream)) :
    Report (Option TokenStream) :=
  { x with
    result := x.result.map (Option.map fun s => .ofTokens s.raw (kept ++ s.unread) s.pending) }

namespace Flags

variable {o : Occasion} {fs : Flags} {p q m : Progress}

/-- `fs.Comes o p kept m`: the reading of flags that begins at `p` comes to `m`, and has kept the
tokens `kept`. -/
inductive Comes (o : Occasion) (fs : Flags) : Progress → List Token → Progress → Prop
  | start (p : Progress) : Comes o fs p [] p
  | flag {p q m : Progress} {kept : List Token} {t : Token} {asked : List String}
      (head : p.stream.head? = some t) (one : readOne o fs p = ⟨.ok true, q, asked⟩)
      (more : Comes o fs q kept m) : Comes o fs p kept m
  | keep {p q m : Progress} {kept : List Token} {t : Token} {asked : List String}
      (free : fs.anchored = false) (head : p.stream.head? = some t)
      (one : readOne o fs p = ⟨.ok false, p, asked⟩) (next : Step.next p = ⟨.ok t.text, q, []⟩)
      (more : Comes o fs q kept m) : Comes o fs p (t :: kept) m

/-- **A token that does not have the form of a flag is kept.** -/
theorem Comes.word {kept : List Token} {t : Token} (free : fs.anchored = false)
    (head : p.stream.head? = some t) (looks : looksLikeFlag t.text = false)
    (next : Step.next p = ⟨.ok t.text, q, []⟩) (more : fs.Comes o q kept m) :
    fs.Comes o p (t :: kept) m :=
  .keep free head (readOne_of_word head looks) next more

/-- **Tokens that are kept before do not matter to the rounds.** -/
theorem Rounds.prepend (before : List Token) {kept : List Token} {x : Report (List Token)}
    (h : fs.Rounds o (fun _ => false) kept p x) :
    fs.Rounds o (fun _ => false) (before ++ kept) p
      { x with result := x.result.map (before ++ ·) } := by
  have hgoes : ∀ ts : List Token, (ts.isEmpty && false) = false := fun _ => Bool.and_false _
  induction h with
  | ended head => exact .ended head
  | stopped head ends =>
    rw [hgoes] at ends
    cases ends
  | failed head goesOn one => exact .failed head (hgoes _) one
  | flag head goesOn one _ ih => exact .flag head (hgoes _) one ih
  | keep head goesOn one next _ ih =>
    rw [← List.append_assoc] at ih
    exact .keep head (hgoes _) one next ih

/-- **A token that is no flag is kept before what is left from the next one on.** -/
theorem parse_of_kept {t : Token} {asked : List String} (free : fs.anchored = false)
    (hhead : p.stream.head? = some t) (hone : readOne o fs p = ⟨.ok false, p, asked⟩)
    (hnext : Step.next p = ⟨.ok t.text, q, []⟩) :
    fs.parse o (fun _ => false) p =
      ((fs.parse o (fun _ => false) q).keeping [t]).after asked := by
  have hon := (Progress.unread_of_next hhead hnext).2
  have hrest := rounds_readAnywhere o fs (fun _ => false) _ [] q (Nat.le_refl _)
  have hall : fs.Rounds o (fun _ => false) [] p _ :=
    .keep hhead rfl hone hnext (hrest.prepend [t])
  rw [parse_of_free free o _ hall, parse_of_free free o _ hrest, hon.raw, hon.pending]
  rcases readAnywhere o fs (fun _ => false) q.stream.unread.length [] q with ⟨e | kept, r, more⟩ <;>
    rfl

/-- **What flags leave is a stream of its own at its start**, or none. -/
theorem keeping_nil_parse (p : Progress) :
    (fs.parse o (fun _ => false) p).keeping [] = fs.parse o (fun _ => false) p := by
  cases hanchored : fs.anchored with
  | true =>
    rw [parse_of_anchored_eq hanchored, Step.bind_apply]
    rcases readHead o fs p.stream.unread.length p with ⟨e | u, q, asked⟩ <;> rfl
  | false =>
    rw [parse_of_free hanchored o _
      (rounds_readAnywhere o fs (fun _ => false) _ [] p (Nat.le_refl _))]
    rcases readAnywhere o fs (fun _ => false) p.stream.unread.length [] p with
      ⟨e | kept, q, asked⟩ <;> rfl

/-- **Tokens that are kept twice are kept one behind the other.** -/
theorem keeping_keeping (before kept : List Token) (x : Report (Option TokenStream)) :
    (x.keeping kept).keeping before = x.keeping (before ++ kept) := by
  rcases x with ⟨e | _ | s, q, asked⟩
  · rfl
  · rfl
  · simp [Report.keeping, Except.map, TokenStream.ofTokens, TokenStream.unread]

/-- **The flags of a line are those from a place on that it comes to**, and the kept tokens stand
before what these leave. -/
theorem exists_parse_of_comes {kept : List Token} (h : fs.Comes o p kept m) :
    ∃ asked, fs.parse o (fun _ => false) p =
      ((fs.parse o (fun _ => false) m).keeping kept).after asked := by
  induction h with
  | start p => exact ⟨[], (keeping_nil_parse p).symm⟩
  | flag head one _ ih =>
    obtain ⟨asked, hmore⟩ := ih
    rw [parse_of_flag head (fun _ => rfl) one, hmore]
    exact ⟨_ ++ asked, congrArg (Report.mk _ _) (List.append_assoc _ _ _).symm⟩
  | @keep p q m kept t xs free head one next _ ih =>
    obtain ⟨asked, hmore⟩ := ih
    refine ⟨xs ++ asked, ?_⟩
    have hkept := keeping_keeping [t] kept (fs.parse o (fun _ => false) m)
    rw [List.singleton_append] at hkept
    rw [parse_of_kept free head one next, hmore, ← hkept]
    exact congrArg (Report.mk _ _) (List.append_assoc _ _ _).symm

end Flags
end CommandGrammar
