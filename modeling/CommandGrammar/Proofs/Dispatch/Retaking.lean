/-
# Taking a line back

A command that falls back from a failed child reads its arguments where its flags have ended.  Its
flags are not read again, and they have ended at the name of the child; without children they would
have gone on behind it.  So the command does with the line what it would do without any children,
as long as its flags take nothing behind that name (`retakes_as_without_children`).

| flags | behind the name of a child |
| --- | --- |
| none, or anchored | not read, with children or without |
| anywhere in the line | read if there are no children (`flag_behind_child_is_lost`) |
-/

import CommandGrammar.Host.Usual
import CommandGrammar.Proofs.Dispatch.FailedChildren
import CommandGrammar.Proofs.Flags.Stopping

namespace CommandGrammar
namespace Command

variable {o : Occasion} {f : CommandFrame} {l : Level} {c : Command} {p q m r : Progress}
  {t : Target}

/-- **A command without children is its only target**, for a source that has its permission; it
has an executor and takes the line to its end behind its flags. -/
theorem of_resolve_childless {runs : List Run}
    (h : resolve o (.node f []) p = ⟨.ok t, q, runs⟩) :
    ∃ s e, f.readFlags o [] p = ⟨.ok (), s, []⟩ ∧ f.executor = some e ∧
      o.source.may f.permission = true ∧ f.parseOwn o s = ⟨.ok (), q, []⟩ := by
  obtain ⟨s, _, hflags, h⟩ := exists_of_resolve_ok h
  have hnone : called? [] (s.stream.head?.map Token.text) = none := by
    cases s.stream.head? <;> rfl
  rw [resolveIn_eq, hnone] at h
  obtain ⟨_, _, _, _, hown, hret, -⟩ := Attempt.exists_of_bind_ok h
  obtain ⟨-, rfl, -⟩ := Trial.mk.inj hret
  obtain ⟨hmay, hexec, hown⟩ := CommandFrame.of_enterOwn hown
  obtain ⟨e, he⟩ := Option.isSome_iff_exists.1 hexec
  exact ⟨s, e, hflags, he, hmay, hown⟩

/-- **A command that falls back does with a line what it would do without children.**  Let the first
word that its flags leave of a line be the name of a child that fails on the rest.  If the same
command without any children takes the line, then the command takes it, too: it is the target, and
it binds and reads the same.  Its flags are anchored for that, or they would take nothing from the
name on if there were no children. -/
theorem retakes_as_without_children {line : String} {context : Context}
    (policy : l.frame.onChildFailure = .fallBack)
    (passes : Passes o l c ((l.around c).atStart line context) m r)
    (failed : (resolve o c r).hasFailed = true)
    (accepted : ((Command.node l.frame []).parse o line context).result = .ok t)
    (kept : (∀ fs, l.frame.flags = some fs → fs.anchored = true) ∨
      ∀ s, l.frame.readFlags o [] ((l.around c).atStart line context) = ⟨.ok (), s, []⟩ →
        s.stream.unread = m.stream.unread) :
    ((l.around c).parse o line context).result = .ok ⟨[], l.around c⟩ ∧
      ((l.around c).parse o line context).progress =
        ((Command.node l.frame []).parse o line context).progress := by
  unfold parse at accepted ⊢
  have hstart :
      (Command.node l.frame []).atStart line context = (l.around c).atStart line context := rfl
  rw [hstart] at accepted ⊢
  rcases halone : resolve o (.node l.frame []) ((l.around c).atStart line context) with ⟨x, q, runs⟩
  rw [halone] at accepted
  obtain rfl : x = .ok t := accepted
  obtain ⟨s, e, hflags, hexec, hmay, hown⟩ := of_resolve_childless halone
  -- Where the flags end without children is where they have ended before the child.
  have hs : s = m := by
    rcases kept with hanchored | hsame
    · rw [CommandFrame.readFlags_of_anchored hanchored] at hflags
      exact (Trial.mk.inj (hflags.symm.trans passes.flags)).2.1
    · exact CommandFrame.readFlags_unique passes.flags hflags (hsame s hflags)
  rw [hs] at hown
  have hretakes : Retakes o [] l c ((l.around c).atStart line context) m r q e :=
    ⟨⟨_, .here _ _, passes⟩, policy, hexec, hmay, hown⟩
  obtain ⟨_, hresolve⟩ := hretakes.resolve_eq failed
  have htakes : resolve o (l.around c) ((l.around c).atStart line context) = _ := hresolve
  rw [htakes]
  exact ⟨rfl, rfl⟩

/-- **A flag before the name of a child is the command's in any case**: it is set, and the name is
read as a word. -/
theorem flag_before_child_is_kept :
    let o : Occasion := ⟨.bare "tester", ⟨2024, 5, 31, 12, 34, 56, 789012, none⟩, .usual⟩
    let silent : Executor := ⟨"silent", fun _ _ => { ending := .silent }⟩
    let word : Parameter := .leaf { key := "word" } .text
    let l : Level :=
      ⟨{ parameter := word, flags := some { flags := [⟨"q", [], .switch none⟩] }
         executor := some silent, onChildFailure := .fallBack, splitting := .spaced }, [], []⟩
    let sub : Command := .node { names := ["sub"], parameter := .all {} [word, word]
                                 executor := some silent } []
    let left : TokenStream := .ofTokens "-q sub" [⟨"sub", 3, 6⟩] none
    let flagged : Context := { entries := [("q", [.truth true])] }
    Passes o l sub ((l.around sub).atStart "-q sub" {}) ⟨left, flagged⟩
        ⟨left.withCursor 1 (by decide), flagged⟩ ∧
      (resolve o sub ⟨left.withCursor 1 (by decide), flagged⟩).hasFailed = true ∧
      ((Command.node l.frame []).parse o "-q sub" {}).result = .ok ⟨[], .node l.frame []⟩ ∧
      ((l.around sub).parse o "-q sub" {}).result = .ok ⟨[], l.around sub⟩ ∧
      ((l.around sub).parse o "-q sub" {}).progress.context.entries =
        [("q", [.truth true]), ("word", [.text "sub"])] := by
  intro o silent word l sub left flagged
  have hpasses : Passes o l sub ((l.around sub).atStart "-q sub" {}) ⟨left, flagged⟩
      ⟨left.withCursor 1 (by decide), flagged⟩ :=
    ⟨rfl, _, rfl, rfl, rfl, fun _ h => absurd h List.not_mem_nil⟩
  have hkept : ∀ m, l.frame.readFlags o [] ((l.around sub).atStart "-q sub" {}) = ⟨.ok (), m, []⟩ →
      m.stream.unread = left.unread := by
    intro m hm
    obtain ⟨-, rfl, -⟩ := Trial.mk.inj hm
    rfl
  obtain ⟨hresult, hprogress⟩ :=
    retakes_as_without_children (t := ⟨[], .node l.frame []⟩) rfl hpasses rfl rfl (.inr hkept)
  exact ⟨hpasses, rfl, rfl, hresult, by rw [hprogress]; rfl⟩

/-- **A flag behind the name of a child is lost to a command that falls back**: without children it
would be set. -/
theorem flag_behind_child_is_lost :
    let o : Occasion := ⟨.bare "tester", ⟨2024, 5, 31, 12, 34, 56, 789012, none⟩, .usual⟩
    let silent : Executor := ⟨"silent", fun _ _ => { ending := .silent }⟩
    let word : Parameter := .leaf { key := "word" } .text
    let l : Level :=
      ⟨{ parameter := word, flags := some { flags := [⟨"q", [], .switch none⟩] }
         executor := some silent, onChildFailure := .fallBack, splitting := .spaced }, [], []⟩
    let sub : Command := .node { names := ["sub"], parameter := .all {} [word, word]
                                 executor := some silent } []
    let left : TokenStream := .ofTokens "sub -q" [⟨"sub", 0, 3⟩, ⟨"-q", 4, 6⟩] none
    Passes o l sub ((l.around sub).atStart "sub -q" {}) ⟨left, {}⟩
        ⟨left.withCursor 1 (by decide), {}⟩ ∧
      (resolve o sub ⟨left.withCursor 1 (by decide), {}⟩).hasFailed = true ∧
      ((Command.node l.frame []).parse o "sub -q" {}).result = .ok ⟨[], .node l.frame []⟩ ∧
      ((Command.node l.frame []).parse o "sub -q" {}).progress.context.entries =
        [("q", [.truth true]), ("word", [.text "sub"])] ∧
      ((l.around sub).parse o "sub -q" {}).hasFailed = true := by
  exact ⟨⟨rfl, _, rfl, rfl, rfl, fun _ h => absurd h List.not_mem_nil⟩, rfl, rfl, rfl, rfl⟩

end Command
end CommandGrammar
