/-
# What becomes of unknown names

Wherever the reading of flags comes to a token with unknown names, the policy for such tokens says
what a line means (`Flags.unknown_names_are_dropped_kept_or_marked`); the other policy, the one for
the tokens of the other kind, does not matter.

| policy | the line means |
| --- | --- |
| `drop` | what it means with the unknown names erased, if the reading comes to this place there, too |
| `keep` | what is behind the token, with the token kept whole; nothing of it is bound |
| `mark` | what it means if the names are dropped, and `true` under each that has no value |

Erasing a token brings together what it kept apart: a flag before it that reads as many values as
there are may read on then (`Flags.value_flag_reads_on_behind_erased_name`).
-/

import CommandGrammar.Host.Usual
import CommandGrammar.Proofs.Flags.MarkedNames

namespace CommandGrammar

open Text

namespace Flags

/-- The flags, with unknown names dropped where a token like this one has them. -/
def dropping (fs : Flags) (token : String) : Flags :=
  if beginsWith "--" token then { fs with unknownLong := .drop }
  else { fs with unknownShort := .drop }

variable {o : Occasion} {fs : Flags} {t : Token} {p m : Progress} {kept : List Token}

/-- `m'` is the place of the token `t` in a line that has the tokens `ts` in place of it, which are
what is left of it without its unknown names: the same is bound as at `m`, and the same follows. -/
structure Erased (o : Occasion) (fs : Flags) (t : Token) (m : Progress) (ts : List Token)
    (m' : Progress) : Prop where
  left : Token.texts ts = fs.leftOf o t.text
  /-- What is left still looks like a short flag. -/
  starts : ∀ w ∈ fs.leftOf o t.text, ∀ letter ∈ w.toList[1]?, startsFlag letter = true
  context : m'.context = m.context
  follows : ∃ (r : TokenStream) (front front' : String),
    r.Follows front [t] m.stream ∧ r.Follows front' ts m'.stream
  said : ∀ u ∈ ts, fs.SaidAlike o m.stream.raw t m'.stream.raw u

/-- **Unknown names are dropped, kept or marked**, as the policy for their token says.  Dropped
names are as good as erased.  A token that is kept is kept whole, though it may have known names,
too.  Marking names is dropping them and binding `true` once under each that has no value. -/
theorem unknown_names_are_dropped_kept_or_marked (free : fs.anchored = false)
    (comes : fs.Comes o p kept m) (head : m.stream.head? = some t)
    (looks : looksLikeFlag t.text = true) (unknown : fs.unknownNames o t.text ≠ []) :
    (fs.unknownPolicy t.text = .drop → ∀ p' kept' m' ts, fs.Comes o p' kept' m' →
      Token.texts kept' = Token.texts kept → fs.Erased o t m ts m' →
      ParsedAlike (fs.parse o (fun _ => false) p) (fs.parse o (fun _ => false) p')) ∧
    (fs.unknownPolicy t.text = .keep → readOne o fs m = ⟨.ok false, m, []⟩ ∧
      ∃ q asked, Step.next m = ⟨.ok t.text, q, []⟩ ∧ q.context = m.context ∧
        fs.parse o (fun _ => false) p =
          ((fs.parse o (fun _ => false) q).keeping (kept ++ [t])).after asked) ∧
    (fs.unknownPolicy t.text = .mark →
      (∀ f param, fs.HasValue o f param → ∀ key, param.HasKey key → ¬ fs.Marks o p key) →
      Report.Alike (Context.MarkedUnder (fs.Marks o p))
        ((fs.dropping t.text).parse o (fun _ => false) p) (fs.parse o (fun _ => false) p) ∧
      ∀ name ∈ fs.unknownNames o t.text, fs.Marks o p name) := by
  refine ⟨fun drops p' kept' m' ts comes' sameKept erased => ?_, fun keeps => ?_,
    fun marks apart => ⟨?_, fun name hname => ⟨kept, m, t, comes, head, looks, marks, hname⟩⟩⟩
  · obtain ⟨r, front, front', ahead, ahead'⟩ := erased.follows
    obtain ⟨asked, hline⟩ := exists_parse_of_comes comes
    obtain ⟨asked', hline'⟩ := exists_parse_of_comes comes'
    have hthere := alike_of_unknown_dropped looks unknown drops erased.left erased.starts ahead
      ahead' erased.context erased.said
    rw [hline, hline']
    exact (hthere.keeping sameKept).after asked asked'
  · obtain ⟨r, hnext⟩ := Step.next_of_head? head
    have hone := readOne_of_unknown_kept head looks hnext unknown keeps
    exact ⟨hone, parse_of_unknown_kept free comes head hone⟩
  · unfold unknownPolicy at marks
    unfold dropping
    split at marks
    · rename_i hdashes
      rw [if_pos hdashes]
      exact markedUnder_parse free (.inl rfl) (.inr ⟨rfl, marks⟩) apart
    · rename_i hdashes
      rw [if_neg hdashes]
      exact markedUnder_parse free (.inr ⟨rfl, marks⟩) (.inl rfl) apart

/-- In `go -xqy there`, where `x` and `y` are no flags, the token is read as `-q`; and `--foo` with
nothing else before it marks `foo`. -/
theorem unknown_letters_are_dropped_and_long_names_marked :
    let o : Occasion := ⟨.bare "tester", ⟨2024, 5, 31, 12, 34, 56, 789012, none⟩, .usual⟩
    let fs : Flags :=
      { flags := [⟨"q", [], .switch none⟩], unknownShort := .drop, unknownLong := .mark }
    let read (line : String) := fs.parse o (fun _ => false) (.ofStream (.ofLine .quoted line))
    let p : Progress := .ofStream (.ofLine .quoted "--foo -q")
    fs.unknownNames o "-xqy" = ["x", "y"] ∧ fs.leftOf o "-xqy" = ["-q"] ∧
      ParsedAlike (read "go -xqy there") (read "go -q there") ∧
      Report.Alike (Context.MarkedUnder (fs.Marks o p))
        ((fs.dropping "--foo").parse o (fun _ => false) p) (fs.parse o (fun _ => false) p) ∧
      fs.Marks o p "foo" := by
  intro o fs read p
  have hnames : fs.unknownNames o "-xqy" = ["x", "y"] := by decide +kernel
  have hleft : fs.leftOf o "-xqy" = ["-q"] := by decide +kernel
  have hnone : fs.attached? o ['x', 'q', 'y'] = none := by decide +kernel
  let s : TokenStream := .ofTokens "go -xqy there"
    [⟨"go", 0, 2⟩, ⟨"-xqy", 3, 7⟩, ⟨"there", 8, 13⟩] none
  let s' : TokenStream := .ofTokens "go -q there"
    [⟨"go", 0, 2⟩, ⟨"-q", 3, 5⟩, ⟨"there", 6, 11⟩] none
  let r : TokenStream := .ofTokens " there" [⟨"there", 1, 6⟩] none
  have hline : TokenStream.ofLine .quoted "go -xqy there" = s :=
    TokenStream.ofLine_of_split (Prod.ext (by decide +kernel)
      (Option.isNone_iff_eq_none.1 (by decide +kernel)))
  have hline' : TokenStream.ofLine .quoted "go -q there" = s' :=
    TokenStream.ofLine_of_split (Prod.ext (by decide +kernel)
      (Option.isNone_iff_eq_none.1 (by decide +kernel)))
  have ahead : r.Follows "go -xqy" [⟨"-xqy", 3, 7⟩] (s.withCursor 1 (by decide)) :=
    ⟨by decide, by decide, .none, fun _ h => (Option.some_ne_none _ h.symm).elim, by decide⟩
  have ahead' : r.Follows "go -q" [⟨"-q", 3, 5⟩] (s'.withCursor 1 (by decide)) :=
    ⟨by decide, by decide, .none, fun _ h => (Option.some_ne_none _ h.symm).elim, by decide⟩
  have erased : fs.Erased o ⟨"-xqy", 3, 7⟩ ⟨s.withCursor 1 (by decide), {}⟩ [⟨"-q", 3, 5⟩]
      ⟨s'.withCursor 1 (by decide), {}⟩ := by
    refine ⟨hleft.symm, ?_, rfl, ⟨r, _, _, ahead, ahead'⟩, ?_⟩
    · intro w hw letter hletter
      rw [hleft] at hw
      obtain rfl := List.mem_singleton.1 hw
      have hfirst : ("-q" : String).toList[1]? = some 'q' := by decide
      rw [hfirst] at hletter
      cases hletter
      decide
    · intro u _ letter v h
      have hletters : ("-xqy" : String).toList.drop 1 = ['x', 'q', 'y'] := by decide +kernel
      rw [hletters, hnone] at h
      cases h
  have hdropped : ParsedAlike (read "go -xqy there") (read "go -q there") := by
    dsimp only [read]
    rw [hline, hline']
    exact (unknown_names_are_dropped_kept_or_marked rfl (.word rfl rfl (by decide) rfl (.start _))
      rfl (by decide +kernel) (by rw [hnames]; simp)).1 (by decide) _ _ _ _
        (.word rfl rfl (by decide) rfl (.start _)) rfl erased
  have hfoo : fs.unknownNames o "--foo" = ["foo"] := by decide +kernel
  have hhead : p.stream.head? = some ⟨"--foo", 0, 5⟩ := by decide +kernel
  have comes : fs.Comes o p [] p := .start p
  have apart : ∀ f param, fs.HasValue o f param → ∀ key, param.HasKey key → ¬ fs.Marks o p key := by
    intro f param flag
    have hreads := flag.reads
    obtain rfl := List.mem_singleton.1 flag.mem
    cases hreads
  obtain ⟨hmarked, hfound⟩ := (unknown_names_are_dropped_kept_or_marked rfl comes hhead
    (by decide +kernel) (by rw [hfoo]; simp)).2.2 (by decide) apart
  refine ⟨hnames, hleft, hdropped, hmarked, hfound "foo" ?_⟩
  rw [hfoo]
  exact List.mem_cons_self

/-- **Behind an erased name, a value flag may read on**: in `--nums 1 --foo 2` the flag reads `1`
and leaves `2`, and without `--foo` it reads both. -/
theorem value_flag_reads_on_behind_erased_name :
    let o : Occasion := ⟨.bare "tester", ⟨2024, 5, 31, 12, 34, 56, 789012, none⟩, .usual⟩
    let nums : Parameter := .leaf { key := "nums", modifiers := [.allOf] } .integer
    let fs : Flags := { flags := [⟨"nums", [], .valued nums⟩], unknownLong := .drop }
    let line (raw : String) : Progress := .ofStream (.ofLine .quoted raw)
    let read (raw : String) := fs.parse o (fun _ => false) (line raw)
    let shown (raw : String) := ((read raw).progress.context.values "nums").map Value.shown
    (∃ m, fs.Comes o (line "--nums 1 --foo 2") [] m ∧ m.stream.head? = some ⟨"--foo", 9, 14⟩) ∧
      looksLikeFlag "--foo" = true ∧ fs.unknownNames o "--foo" = ["foo"] ∧
      fs.unknownPolicy "--foo" = .drop ∧ fs.leftOf o "--foo" = [] ∧
      shown "--nums 1 --foo 2" = ["1"] ∧ shown "--nums 1 2" = ["1", "2"] ∧
      ¬ParsedAlike (read "--nums 1 --foo 2") (read "--nums 1 2") := by
  intro o nums fs line read shown
  have hline : shown "--nums 1 --foo 2" = ["1"] := by decide +kernel
  have herased : shown "--nums 1 2" = ["1", "2"] := by decide +kernel
  refine ⟨?_, by decide +kernel, by decide +kernel, by decide, by decide +kernel, hline, herased,
    fun h => ?_⟩
  · have hfound : (readOne o fs (line "--nums 1 --foo 2")).result.toOption = some true := by
      decide +kernel
    have hhead : (readOne o fs (line "--nums 1 --foo 2")).progress.stream.head? =
        some ⟨"--foo", 9, 14⟩ := by
      decide +kernel
    rcases hone : readOne o fs (line "--nums 1 --foo 2") with ⟨e | b, q, asked⟩
    · rw [hone] at hfound
      cases hfound
    · rw [hone] at hfound hhead
      obtain rfl : b = true := Option.some.inj hfound
      exact ⟨q, .flag (t := ⟨"--nums", 0, 6⟩) (by decide +kernel) hone (.start q), hhead⟩
  · have hsame : shown "--nums 1 2" = shown "--nums 1 --foo 2" := by
      dsimp only [shown]
      rw [h.context_eq]
    rw [hline, herased] at hsame
    exact absurd hsame (by decide)

end Flags
end CommandGrammar
