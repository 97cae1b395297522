/-
# Every failure stands on the line

Whatever a line is parsed or run by, an error that it ends with is about that line, and stands in it
or at its end: that of an argument, of a flag, of the value in a flag's token, or of a command that
has fallen back (`Command.failures_stand_on_line`).  A grammar by itself, read from any place of a
stream that a line gives rise to (`TokenStream.Arises`), does not fail before that place.

A value that is attached to a flag is a stream of one token, and that token stands within the flag's
(`offsetOf_mem`), so its failures are where the flag's token begins or behind that.
-/

import CommandGrammar.Host.Usual
import CommandGrammar.Proofs.Dispatch.Confining
import CommandGrammar.Proofs.Flags.Walking
import CommandGrammar.Proofs.Positions.Streams

namespace CommandGrammar

open Text

/-- **A part of a token is found between its ends.** -/
theorem offsetOf_mem {raw : String} {t : Token} {index : Nat} (ht : t.start ≤ t.stop)
    (inside : index ≤ t.text.toList.length) :
    t.start ≤ offsetOf raw t index ∧ offsetOf raw t index ≤ t.stop := by
  unfold offsetOf
  dsimp only
  split
  · rename_i hspan
    have hlength := length_slice raw t.start t.stop
    rw [hspan] at hlength
    omega
  · split
    · exact ⟨ht, Nat.le_refl _⟩
    · cases hplace : lastPlace? (t.text.toList.drop index) raw.toList t.start t.stop with
      | none => exact ⟨Nat.le_refl _, ht⟩
      | some i =>
      have hi := (standsAt_of_lastPlace? hplace).1
      exact ⟨hi.after, Nat.le_trans (Nat.le_add_right _ _) hi.before⟩

/-- **The value in a token is a stream on the line**, from the beginning of the token on. -/
theorem TokenStream.OnLine.ofValue {line : String} {t : Token} {index : Nat}
    (ht : t.start ≤ t.stop ∧ t.stop ≤ line.length) (inside : index ≤ t.text.toList.length) :
    (TokenStream.ofTokens line [t.valueFrom line index] none).OnLine line :=
  ⟨rfl, .singleton (offsetOf_mem ht.1 inside).2 ht.2, fun _ h => nomatch h⟩

namespace Flags

variable {o : Occasion} {fs : Flags} {line : String}

/-- **A flag fails on the line, and not before its token.** -/
theorem governs_readOne_onLine : (ParseCourse.onLine line).Governs (readOne o fs) := fun p => by
  rcases reading_of_readOne o fs p with hfalse | ⟨t, r, hhead, -, hnext, hread⟩
  · rw [hfalse]
    exact Course.allows_ok (Progress.Onward.refl p) _ _
  · have hpr := (Progress.unread_of_next hhead hnext).2
    have hmark : ∀ keys, p.Onward (r.markAll keys) := fun _ =>
      hpr.trans (Progress.onward_of_stream_eq rfl)
    have hposition : p.stream.position = t.start := TokenStream.position_of_head? hhead
    generalize readOne o fs p = x at hread ⊢
    cases hread with
    | marked keys => exact Course.allows_ok (hmark keys) _ _
    | unfit keys problem =>
      refine Course.allows_error (hmark keys) ?_ _
      intro hp e he
      cases he
      rw [← hposition]
      exact ⟨hp.errorAt hpr problem, Int.le_refl _⟩
    | @value keys f param flag =>
      exact ((ParseCourse.governs_onLine line o param).carries.bind fun _ => Course.carries_pure _)
        _ (hmark keys)
    | @attached keys f param flag index inside =>
      have hattached : (ParseCourse.onLine line).Allows p
          (readAttached o f param (t.valueFrom r.stream.raw index) (r.markAll keys)) := by
        rw [readAttached_apply]
        refine ⟨hpr.trans (Progress.onward_of_stream_eq rfl), fun why hwhy hp e he => ?_⟩
        have hraw : r.stream.raw = line := hpr.raw.trans hp.raw
        have ht := hp.head hhead
        have hvalue := (governs_readWhole (ParseCourse.governs_onLine line o param) f _).2 why hwhy
          (show (TokenStream.ofTokens (r.markAll keys).stream.raw _ none).OnLine line by
            rw [show (r.markAll keys).stream.raw = line from hraw, hraw]
            exact .ofValue ht inside) e he
        refine ⟨hvalue.1, Int.le_trans ?_ hvalue.2⟩
        rw [hposition]
        exact Int.ofNat_le.2 (offsetOf_mem ht.1 inside).1
      exact hattached.bind fun _ => Course.carries_pure _

/-- **So do all flags**, and none of their failures stands before the cursor. -/
theorem governs_parse_onLine (o : Occasion) (fs : Flags) (stopAt : String → Bool) :
    (ParseCourse.onLine line).Governs (fs.parse o stopAt) :=
  governs_parse governs_readOne_onLine (fun p => p.onward_withCursor _ p.stream.cursor_le) stopAt

/-- **The stream that flags leave stands on the line.** -/
theorem onLine_of_parse_ok {stopAt : String → Bool} {p q : Progress} {s : TokenStream}
    {asked : List String} (hp : p.stream.OnLine line)
    (h : fs.parse o stopAt p = ⟨.ok (some s), q, asked⟩) : s.OnLine line := by
  obtain ⟨taken, kept, rfl, hsift⟩ := sifts_of_parse h
  exact hp.ofTokens (hsift.sublist.trans (List.drop_sublist _ _))

/-- **So does the stream that flags leave of a line being typed.** -/
theorem onLine_of_complete_ok {stopAt : String → Bool} {p q : Progress} {c : FlagCompletion}
    {s : TokenStream} {asked : List String} (hp : p.stream.OnLine line)
    (h : fs.complete o stopAt p = ⟨.ok c, q, asked⟩) (hs : c.rest = some s) : s.OnLine line := by
  obtain ⟨ts, rfl, hsome⟩ := rest_of_complete h hs
  exact ⟨hp.raw, hp.spread.sublist (hsome.trans (List.drop_sublist _ _)), fun _ h => nomatch h⟩

end Flags

/-- A stream that comes up when a line is read: that of the line, the one that flags leave of such a
stream, or one of them with the cursor elsewhere. -/
inductive TokenStream.Arises (line : String) : TokenStream → Prop
  | line (way : Splitting) : Arises line (.ofLine way line)
  | typed (way : Splitting) : Arises line (.ofTyped way line)
  | flagged {o : Occasion} {fs : Flags} {stopAt : String → Bool} {p q : Progress} {s : TokenStream}
      {asked : List String} (before : Arises line p.stream)
      (flags : fs.parse o stopAt p = ⟨.ok (some s), q, asked⟩) : Arises line s
  | completed {o : Occasion} {fs : Flags} {stopAt : String → Bool} {p q : Progress}
      {c : FlagCompletion} {s : TokenStream} {asked : List String} (before : Arises line p.stream)
      (flags : fs.complete o stopAt p = ⟨.ok c, q, asked⟩) (rest : c.rest = some s) : Arises line s
  | moved {s : TokenStream} (before : Arises line s) {n : Nat} (hn : n ≤ s.tokens.length) :
      Arises line (s.withCursor n hn)

/-- **A stream that comes up stands on the line.** -/
theorem TokenStream.Arises.onLine {line : String} {s : TokenStream} (h : s.Arises line) :
    s.OnLine line := by
  induction h with
  | line way => exact onLine_ofLine way line
  | typed way => exact onLine_ofTyped way line
  | flagged _ flags ih => exact Flags.onLine_of_parse_ok ih flags
  | completed _ flags rest ih => exact Flags.onLine_of_complete_ok ih flags rest
  | moved _ hn ih => exact ih.withCursor hn

namespace Command

variable {line : String} {o : Occasion}

/-- The failure is no error of a line, or one that stands on the line. -/
def FailsOn (line : String) (e : CommandFailure) : Prop := ∀ x, e = .unparsed x → x.StandsOn line

/-- **What fails on the line fails so as an attempt, too.** -/
theorem onLine_of_governs {α : Type} {s : Step α} (h : (ParseCourse.onLine line).Governs s)
    {p : Progress} (hp : p.stream.OnLine line) : (s p).progress.stream.OnLine line ∧
      ∀ why, (s p).result = .error why → FailsOn line (Attempt.failureOf why) := by
  refine ⟨hp.of_onward (h p).1, fun why hwhy x hx => ?_⟩
  cases why with
  | broken b => cases hx
  | failed e =>
    cases hx
    exact ((h p).2 _ hwhy hp _ rfl).1

/-- **A step that keeps to the line is confined to failures that stand on it.** -/
theorem confined_onLine {α : Type} (s : Step α) (h : (ParseCourse.onLine line).Governs s) :
    (Attempt.ofStep s).Confined (TokenStream.OnLine line) (FailsOn line) :=
  Attempt.confined_ofStep fun _ hp => onLine_of_governs h hp

/-- **The flags of a command fail on the line, and leave a stream of it.** -/
theorem confined_readFlags_onLine (f : CommandFrame) (cs : List Command) :
    (f.readFlags o cs).Confined (TokenStream.OnLine line) (FailsOn line) := by
  unfold CommandFrame.readFlags
  split
  · exact Attempt.confined_pure ()
  · rename_i fs hfs
    refine Attempt.confined_ofStep fun p hp => ?_
    have hparse := onLine_of_governs
      (Flags.governs_parse_onLine o fs fun t => cs.any (·.goesBy t)) hp
    rcases hrun : fs.parse o (fun t => cs.any (·.goesBy t)) p with ⟨why | s?, q, asked⟩
    · rw [Step.bind_of_error hrun]
      rw [hrun] at hparse
      exact ⟨hparse.1, fun why' h => hparse.2 why' (by cases h; rfl)⟩
    · rw [Step.bind_of_ok hrun]
      rw [hrun] at hparse
      cases s? with
      | none => exact ⟨hparse.1, fun _ h => nomatch h⟩
      | some s => exact ⟨Flags.onLine_of_parse_ok hp hrun, fun _ h => nomatch h⟩

/-- **The failures of a tree of commands stand on the line.** -/
theorem confines_onLine (line : String) (o : Occasion) (c : Command) :
    c.Confines (TokenStream.OnLine line) (FailsOn line) o where
  problem s problem hs x hx := by
    cases hx
    exact ⟨hs.raw, hs.position_mem.1, hs.position_mem.2⟩
  other e he := by
    rintro x rfl
    cases he
  name := confined_onLine _ (Course.governs_of_carries fun _ => ParseCourse.carries_next)
  flags d _ := confined_readFlags_onLine d.frame d.children
  own d _ := CommandFrame.confined_parseOwn (ParseCourse.governs_onLine line o _) confined_onLine

/-- **Failures stand on the line.**  An error that finding a target or running a line ends with is
about the line and stands in it or at its end; and a grammar does not fail before the place that it
is read from. -/
theorem failures_stand_on_line (c : Command) (o : Occasion) (line : String) :
    (∀ context e, (c.parse o line context).result = .error (.unparsed e) → e.StandsOn line) ∧
    (∀ e, (c.process o line).result = .error (.unparsed e) → e.StandsOn line) ∧
    ∀ s : TokenStream, s.Arises line → ∀ (param : Parameter) (context : Context) (e : ParseError),
      (param.parse o ⟨s, context⟩).result = .error (.failed e) →
        e.StandsOn line ∧ s.position ≤ e.position := by
  have hstart := TokenStream.onLine_ofLine c.frame.splitting line
  refine ⟨fun context e he => ?_, fun e he => ?_, fun s hs param context e he => ?_⟩
  · exact (confined_resolve c (confines_onLine line o c) _ hstart).2 _ he e rfl
  · exact (confined_dispatch c (confines_onLine line o c) _ hstart).2 _ he e rfl
  · exact (ParseCourse.governs_onLine line o param ⟨s, context⟩).2 _ he hs.onLine e rfl

/-- **A word too many stands on the line**, behind a flag with its value and an argument. -/
theorem surplus_word_stands_on_line :
    let o : Occasion := ⟨.bare "tester", ⟨2024, 5, 31, 12, 34, 56, 789012, none⟩, .usual⟩
    let word : Parameter := .leaf { key := "word" } .text
    let c : Command := .node
      { parameter := word, flags := some { flags := [⟨"n", [], .valued word⟩] }
        executor := some ⟨"silent", fun _ _ => { ending := .silent }⟩, splitting := .spaced } []
    let e : ParseError := ⟨.tooManyArguments, "-n hi there you", 12⟩
    (c.parse o "-n hi there you" {}).result = .error (.unparsed e) ∧
      e.StandsOn "-n hi there you" := by
  have hstands : ∀ {c : Command} {o : Occasion} {line : String} {e : ParseError},
      (c.parse o line {}).result = .error (.unparsed e) →
        (c.parse o line {}).result = .error (.unparsed e) ∧ e.StandsOn line :=
    fun {c o line e} hfail => ⟨hfail, (failures_stand_on_line c o line).1 {} e hfail⟩
  exact hstands rfl

end Command
end CommandGrammar
