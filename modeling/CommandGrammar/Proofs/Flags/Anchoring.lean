/-
# Anchored and free flags

Flags are anchored or free.  Anchored flags are read at the head of the line, and the arguments are
read from where they end; free flags are read over the whole line, and the arguments are read from a
new stream.  Where no flag stands behind the first token that anchored flags leave, the two come to
the same (`Flags.anchored_and_free_flags_leave_the_same`):

| line | anchored flags | free flags |
| --- | --- | --- |
| a flag is ahead | it is read | it is read |
| a flag that cannot be read is ahead | it fails | it fails |
| another token is ahead | it and all behind it are left in place | each is kept, in order |

The first token that is left may itself look like a flag: one with an unknown name does, if such
tokens are arguments.
-/

import CommandGrammar.Host.Usual
import CommandGrammar.Proofs.Flags.Switches

namespace CommandGrammar

namespace Flags

variable {o : Occasion} {fs : Flags} {p q r : Progress} {t : Token}

/-- `LeftAlike x y`: flags that are read in place come to `x`, and flags that leave a stream of
their own come to `y`; both stop in the same way, or they have bound the same and asked for the same
and the arguments are read from the same line, tokens and pending error. -/
inductive LeftAlike : Report (Option TokenStream) → Report (Option TokenStream) → Prop
  | stopped (e : Stop) (q : Progress) (asked : List String) :
      LeftAlike ⟨.error e, q, asked⟩ ⟨.error e, q, asked⟩
  | left {q : Progress} (s stream : TokenStream) (raw : s.raw = q.stream.raw)
      (unread : s.unread = q.stream.unread) (pending : s.pending = q.stream.pending)
      (asked : List String) :
      LeftAlike ⟨.ok none, q, asked⟩ ⟨.ok (some s), ⟨stream, q.context⟩, asked⟩

/-- **Words that were asked for before leave alike what was left alike.** -/
theorem LeftAlike.after {x y : Report (Option TokenStream)} (h : LeftAlike x y)
    (asked : List String) : LeftAlike (x.after asked) (y.after asked) := by
  cases h with
  | stopped e q xs => exact .stopped e q _
  | left s stream raw unread pending xs => exact .left s stream raw unread pending _

/-- **The letters of a token mean the same for anchored flags and for free ones.** -/
theorem readLetters_anchored (o : Occasion) (fs : Flags) (b : Bool) (t : Token)
    (before : Progress) : ∀ (letters : List Char) (index : Nat),
      readLetters o { fs with anchored := b } t before index letters =
        readLetters o fs t before index letters
  | [], index => rfl
  | letter :: rest, index => by
    unfold readLetters
    rw [readLetters_anchored o fs b t before rest (index + 1)]
    rfl

/-- **So does a token.** -/
theorem readOne_anchored (o : Occasion) (fs : Flags) (b : Bool) :
    readOne o { fs with anchored := b } = readOne o fs := by
  funext p
  rw [readOne_eq, readOne_eq]
  simp only [readLetters_anchored]
  rfl

/-- **Free flags leave a line without flags as it is.** -/
theorem exists_parse_of_words (o : Occasion) (free : fs.anchored = false)
    (words : ∀ t ∈ p.stream.unread, looksLikeFlag t.text = false) :
    ∃ stream, fs.parse o (fun _ => false) p =
      ⟨.ok (some (.ofTokens p.stream.raw p.stream.unread p.stream.pending)), ⟨stream, p.context⟩,
        []⟩ := by
  have htexts : ∀ w ∈ Token.texts p.stream.unread, looksLikeFlag w = false := by
    intro w hw
    obtain ⟨t, ht, rfl⟩ := List.mem_map.1 hw
    exact words t ht
  have only : fs.OnlySwitches o (Token.texts p.stream.unread) := fun w hw hlooks => by
    rw [htexts w hw] at hlooks
    cases hlooks
  have hnone : fs.keysAmong o (Token.texts p.stream.unread) = [] := by
    have hflags : (Token.texts p.stream.unread).filter looksLikeFlag = [] :=
      List.filter_eq_nil_iff.2 (by simpa using htexts)
    simp [keysAmong, mentioned, hflags]
  have hall : wordsAmong p.stream.unread = p.stream.unread :=
    List.filter_eq_self.2 (by simpa using words)
  obtain ⟨stream, hparse⟩ := exists_parse_of_switches free only
  rw [hnone, hall] at hparse
  exact ⟨stream, hparse⟩

/-- **What is no flag asks for nothing.** -/
theorem asked_of_readOne_false {asked : List String} (h : readOne o fs p = ⟨.ok false, q, asked⟩) :
    asked = [] := by
  rcases reading_of_readOne o fs p with hfalse | ⟨t, r, -, -, -, hread⟩
  · rw [hfalse] at h
    exact (Report.mk.inj h).2.2.symm
  · rw [h] at hread
    cases (of_reading_ok hread).1

/-- **Anchored flags leave what is no flag, and all behind it, in place.** -/
theorem parse_of_anchored_stop (anchored : fs.anchored = true)
    (hone : readOne o fs p = ⟨.ok false, p, []⟩) :
    fs.parse o (fun _ => false) p = ⟨.ok none, p, []⟩ := by
  have hhead : ∀ n, readHead o fs n p = ⟨.ok (), p, []⟩ := by
    intro n
    cases n with
    | zero => rfl
    | succ n =>
      unfold readHead
      rw [Step.bind_of_ok hone]
      rfl
  rw [parse_of_anchored_eq anchored, Step.bind_of_ok (hhead _)]
  rfl

/-- **Where anchored flags end, free ones leave the same**, if no flag follows. -/
theorem leftAlike_of_stop (hone : readOne o fs p = ⟨.ok false, p, []⟩)
    (behind : ∀ t ∈ p.stream.unread.tail, looksLikeFlag t.text = false) :
    LeftAlike ({ fs with anchored := true }.parse o (fun _ => false) p)
      ({ fs with anchored := false }.parse o (fun _ => false) p) := by
  have hsame : ∀ b, readOne o { fs with anchored := b } p = ⟨.ok false, p, []⟩ := fun b => by
    rw [readOne_anchored, hone]
  have free : { fs with anchored := false }.anchored = false := rfl
  rw [parse_of_anchored_stop rfl (hsame true)]
  cases hhead : p.stream.head? with
  | none =>
    have hnil := TokenStream.unread_of_head?_none hhead
    have hwords : ∀ t ∈ p.stream.unread, looksLikeFlag t.text = false := by simp [hnil]
    obtain ⟨stream, hfree⟩ := exists_parse_of_words o free hwords
    rw [hfree]
    exact .left (.ofTokens _ _ _) stream rfl rfl rfl []
  | some t =>
    obtain ⟨r, hnext⟩ := Step.next_of_head? hhead
    obtain ⟨hunread, hon⟩ := Progress.unread_of_next hhead hnext
    rw [hunread, List.tail_cons] at behind
    obtain ⟨stream, hfree⟩ := exists_parse_of_words o free behind
    rw [parse_of_kept free hhead (hsame false) hnext, hfree, Progress.context_of_next hnext]
    exact .left (.ofTokens _ (t :: r.stream.unread) _) stream hon.raw hunread.symm hon.pending []

/-- **Anchored and free flags leave the same**, if no token looks like a flag behind the one at
which the anchored ones end. -/
theorem anchored_and_free_flags_leave_the_same (o : Occasion) (fs : Flags) (p : Progress)
    (behind : ∀ q asked,
      { fs with anchored := true }.parse o (fun _ => false) p = ⟨.ok none, q, asked⟩ →
        ∀ t ∈ q.stream.unread.tail, looksLikeFlag t.text = false) :
    LeftAlike ({ fs with anchored := true }.parse o (fun _ => false) p)
      ({ fs with anchored := false }.parse o (fun _ => false) p) := by
  generalize hn : p.stream.unread.length = n
  induction n using Nat.strongRecOn generalizing p with
  | ind n ih =>
    have hstop : readOne o fs p = ⟨.ok false, p, []⟩ →
        LeftAlike ({ fs with anchored := true }.parse o (fun _ => false) p)
          ({ fs with anchored := false }.parse o (fun _ => false) p) := by
      intro hone
      have hall : { fs with anchored := true }.parse o _ p = _ :=
        parse_of_anchored_stop rfl ((congrFun (readOne_anchored o fs true) p).trans hone)
      exact leftAlike_of_stop hone (behind p [] hall)
    cases hhead : p.stream.head? with
    | none => exact hstop (readOne_of_head?_none hhead)
    | some t =>
      -- Both ways read the first token alike, so they go on alike or end here.
      have hsame : ∀ b, readOne o { fs with anchored := b } p = readOne o fs p := fun b =>
        congrFun (readOne_anchored o fs b) p
      rcases hone : readOne o fs p with ⟨e | found, q, asked⟩
      · rw [parse_of_flag_error hhead (fun _ => rfl) ((hsame true).trans hone),
          parse_of_flag_error hhead (fun _ => rfl) ((hsame false).trans hone)]
        exact .stopped e q asked
      · cases found with
        | true =>
          have hless := unread_length_of_readOne_true hone
          have hrest : { fs with anchored := true }.parse o (fun _ => false) p = _ :=
            parse_of_flag hhead (fun _ => rfl) ((hsame true).trans hone)
          rw [hrest, parse_of_flag hhead (fun _ => rfl) ((hsame false).trans hone)]
          refine (ih _ (by omega) q (fun m xs hm => ?_) rfl).after asked
          refine behind m (asked ++ xs) ?_
          rw [hrest, hm]
          rfl
        | false =>
          obtain rfl := of_readOne_false hone
          obtain rfl := asked_of_readOne_false hone
          exact hstop hone

/-- In `-v -n hi web 3 -5`, what anchored flags leave has no flag in it: `-5` is a number. -/
theorem flags_before_all_words_may_be_free :
    let o : Occasion := ⟨.bare "tester", ⟨2024, 5, 31, 12, 34, 56, 789012, none⟩, .usual⟩
    let note : Parameter := .leaf { key := "note" } .text
    let fs : Flags := { flags := [⟨"v", [], .switch none⟩, ⟨"n", [], .valued note⟩] }
    let p : Progress := .ofStream (.ofLine .spaced "-v -n hi web 3 -5")
    let anchored := { fs with anchored := true }.parse o (fun _ => false) p
    Token.texts anchored.progress.stream.unread = ["web", "3", "-5"] ∧
      LeftAlike anchored ({ fs with anchored := false }.parse o (fun _ => false) p) := by
  intro o note fs p anchored
  have hleft : anchored.progress.stream.unread.tail.all (fun t => !looksLikeFlag t.text) = true := by
    decide +kernel
  refine ⟨by decide +kernel, anchored_and_free_flags_leave_the_same o fs p ?_⟩
  intro q asked hq t ht
  have hq : anchored = ⟨.ok none, q, asked⟩ := hq
  rw [hq] at hleft
  simpa using List.all_eq_true.1 hleft t ht

end Flags
end CommandGrammar
