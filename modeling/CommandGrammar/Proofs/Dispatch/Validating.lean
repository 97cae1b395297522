/-
# What a shell rejects

A shell judges a line twice.  At the prompt it only looks for a target (`Verdict.ofLine`); a line
that passes is handled, and then executors run and commands may fall back.  Both first look for the
words of the shell itself, each in its own way.

| line | at the prompt | when it is handled |
| --- | --- | --- |
| blank | valid | passed over |
| beginning with a word of the shell | valid | answered by the shell |
| any other | valid if it has a target | run, and what came of it is printed |

`Shell.answer` names the ways in which a line is handled, so that a rejection that is printed can be
told from the wording of an executor that only looks like one.
-/

import CommandGrammar.Console.Usual
import CommandGrammar.Host.Usual
import CommandGrammar.Proofs.Breakdowns.Lines
import CommandGrammar.Proofs.Dispatch.Agreement

namespace CommandGrammar

namespace Text

/-- **No words are left exactly if no run has begun and only blanks follow.** -/
theorem wordsFrom_eq_nil_iff : ∀ {cs run : List Char},
    wordsFrom run cs = [] ↔ run = [] ∧ ∀ c ∈ cs, isBlank c = true
  | [], run => by
    unfold wordsFrom
    cases run <;> simp
  | c :: rest, run => by
    unfold wordsFrom
    by_cases hc : isBlank c = true
    · cases run with
      | nil =>
        rw [if_pos hc, if_pos List.isEmpty_nil, wordsFrom_eq_nil_iff]
        simp [hc]
      | cons x more => simp [hc]
    · rw [if_neg hc, wordsFrom_eq_nil_iff]
      simp [hc]

/-- **A text has no words exactly if it is blank.** -/
theorem words_eq_nil_iff {s : String} : words s = [] ↔ ∀ c ∈ s.toList, isBlank c = true := by
  unfold words
  rw [wordsFrom_eq_nil_iff]
  exact and_iff_right rfl

end Text

open Text

namespace Command

/-- **Parsing a line and processing it agree.** -/
theorem agrees_parse_process (o : Occasion) (c : Command) (line : String) :
    Agrees o (c.parse o line {}) (c.process o line) :=
  agrees_resolve_dispatch o c (c.atStart line {})

end Command

namespace Shell

/-- How a shell handles a line. -/
inductive Answer
  /-- It passes the line over. -/
  | passed
  /-- The line leaves the shell. -/
  | left
  /-- It prints help for a path. -/
  | helped (path : List String)
  /-- It has the command process the line, and reports what came of it. -/
  | ran (t : Trial Tally)

/-- How a shell handles the given line. -/
def answer (s : Shell) (line : String) : Answer :=
  match words line with
  | [] => .passed
  | first :: path =>
    if exitWords.contains (lowercase first) then .left
    else if helpWords.contains (lowercase first) then .helped path
    else .ran (s.command.process s.occasion line)

namespace Answer

/-- What is done for an answer. -/
def handling (s : Shell) : Answer → Handling Bool
  | passed => ⟨"", [], .ok true⟩
  | left => ⟨"", [], .ok false⟩
  | helped path => .ofPrinting do
    s.showHelp path
    return true
  | ran t =>
    let h := report s.console t
    ⟨h.printed, h.runs, h.result.map fun _ => true⟩

/-- The rejection that an answer reports: that the line does not match, or that a permission is
missing. -/
def rejection? : Answer → Option CommandFailure
  | ran ⟨.error why, _, _⟩ => if why.isRejection then some why else none
  | _ => none

/-- Whether the shell leaves a line to its command. -/
def dispatches : Answer → Bool
  | ran _ => true
  | _ => false

/-- **Only a command that a line is left to runs an executor.** -/
theorem runs_handling_of_not_dispatches {s : Shell} {a : Answer} (h : a.dispatches = false) :
    (a.handling s).runs = [] := by
  cases a with
  | ran t => cases h
  | _ => rfl

/-- **An executor runs for a line as it runs when the line is processed.** -/
theorem runs_handling_ran (s : Shell) (t : Trial Tally) : ((ran t).handling s).runs = t.runs := by
  show (report s.console t).runs = t.runs
  unfold report
  split <;> rfl

/-- **A rejection before any run is printed, and the shell goes on.** -/
theorem handling_of_rejected (s : Shell) {why : CommandFailure} (hwhy : why.isRejection = true)
    (q : Progress) : (ran ⟨.error why, q, []⟩).handling s =
      ⟨(printOutcome s.console (.error why)).printed, [], .ok true⟩ := by
  have hreport : report s.console ⟨.error why, q, []⟩ =
      ⟨"" ++ (printOutcome s.console (.error why)).printed, [], .ok none⟩ := by
    cases why with
    | unparsed e =>
      show Handling.mk _ _ ((Except.mapError _ (printOutcome _ _).result).map _) = _
      rw [result_printOutcome]
      rfl
    | denied permission =>
      show Handling.mk _ _ ((Except.mapError _ (printOutcome _ _).result).map _) = _
      rw [result_printOutcome]
      rfl
    | _ => cases hwhy
  show Handling.mk (report s.console _).printed (report s.console _).runs
    ((report s.console _).result.map fun _ => true) = _
  rw [hreport, String.empty_append]
  rfl

end Answer

/-- **A shell handles a line by its answer.** -/
theorem handle_eq (s : Shell) (line : String) : s.handle line = (s.answer line).handling s := by
  unfold handle answer
  cases words line with
  | nil => rfl
  | cons first path =>
    dsimp only
    split
    · rfl
    · split <;> rfl

/-- **The words of the shell are in lowercase.** -/
theorem mem_map_lowercase_ownWords {w : String} : w ∈ ownWords.map lowercase ↔ w ∈ ownWords := by
  have h : ownWords.map lowercase = ownWords := by decide
  rw [h]

/-- **A blank line and a line that begins with a word of the shell are not left to the command**,
and they are valid. -/
theorem answer_of_ownLine {s : Shell} {line : String}
    (h : words line = [] ∨ ∃ first path, words line = first :: path ∧ lowercase first ∈ ownWords) :
    Verdict.ofLine s.occasion s.command ownWords line = .valid ∧
      (s.answer line).dispatches = false := by
  rcases h with hnil | ⟨first, path, hw, hfirst⟩
  · unfold Verdict.ofLine answer
    rw [hnil]
    exact ⟨rfl, rfl⟩
  · refine ⟨verdict_of_ownWord hw (mem_map_lowercase_ownWords.2 hfirst), ?_⟩
    unfold answer
    rw [hw]
    dsimp only
    by_cases hexit : exitWords.contains (lowercase first) = true
    · rw [if_pos hexit]
      rfl
    · have hhelp : helpWords.contains (lowercase first) = true := by
        rcases List.mem_append.1 hfirst with hmem | hmem
        · exact List.contains_iff_mem.2 hmem
        · exact absurd (List.contains_iff_mem.2 hmem) hexit
      rw [if_neg hexit, if_pos hhelp]
      rfl

/-- **Any other line is judged by parsing it, and left to the command.** -/
theorem answer_of_foreignLine {s : Shell} {line : String}
    (h : ¬(words line = [] ∨
      ∃ first path, words line = first :: path ∧ lowercase first ∈ ownWords)) :
    (Verdict.ofLine s.occasion s.command ownWords line =
      match (s.command.parse s.occasion line {}).result with
      | .ok _ => .valid
      | .error e => .ofFailure line.length e) ∧
      s.answer line = .ran (s.command.process s.occasion line) := by
  obtain ⟨hnil, hown⟩ := not_or.1 h
  cases hw : words line with
  | nil => exact absurd hw hnil
  | cons first path =>
    have hfirst : lowercase first ∉ ownWords := fun hmem => hown ⟨first, path, hw, hmem⟩
    have hhelp : ¬helpWords.contains (lowercase first) = true := fun hc =>
      hfirst (List.mem_append_left _ (List.contains_iff_mem.1 hc))
    have hexit : ¬exitWords.contains (lowercase first) = true := fun hc =>
      hfirst (List.mem_append_right _ (List.contains_iff_mem.1 hc))
    have hignored : ¬(ownWords.map lowercase).contains (lowercase first) = true := fun hc =>
      hfirst (mem_map_lowercase_ownWords.1 (List.contains_iff_mem.1 hc))
    unfold Verdict.ofLine answer
    rw [hw]
    dsimp only
    rw [if_neg hignored, if_neg hexit, if_neg hhelp]
    exact ⟨rfl, rfl⟩

/-- **The prompt rejects what the shell would report as a rejection, and nothing else.**  For every
line that parsing does not break off at, whatever the executors do: the line is valid exactly if
handling it reports neither that it does not match nor a denial; where it is reported, the prompt
has the same reason, nothing else is printed, and no executor runs.  A blank line and a line that
begins with a word of the shell are valid and not left to the command. -/
theorem verdict_foretells_handling (s : Shell) (line : String)
    (h : ∀ why, (s.command.parse s.occasion line {}).result = .error why →
      why.isRejection = true) :
    s.handle line = (s.answer line).handling s ∧
    (Verdict.ofLine s.occasion s.command ownWords line = .valid ↔
      (s.answer line).rejection? = none) ∧
    (∀ why, (s.answer line).rejection? = some why →
      Verdict.ofLine s.occasion s.command ownWords line = .ofFailure line.length why ∧
        s.handle line = ⟨(printOutcome s.console (.error why)).printed, [], .ok true⟩) ∧
    (Verdict.ofLine s.occasion s.command ownWords line ≠ .valid → (s.handle line).runs = []) ∧
    (((∀ c ∈ line.toList, isBlank c = true) ∨
        ∃ first path, words line = first :: path ∧ lowercase first ∈ ownWords) →
      Verdict.ofLine s.occasion s.command ownWords line = .valid ∧
        (s.answer line).dispatches = false ∧ (s.handle line).runs = []) := by
  refine ⟨s.handle_eq line, ?_⟩
  rw [← words_eq_nil_iff]
  by_cases hown : words line = [] ∨
      ∃ first path, words line = first :: path ∧ lowercase first ∈ ownWords
  · obtain ⟨hvalid, hanswer⟩ := answer_of_ownLine (s := s) hown
    have hnone : (s.answer line).rejection? = none := by
      cases ha : s.answer line with
      | ran t =>
        rw [ha] at hanswer
        cases hanswer
      | _ => rfl
    refine ⟨iff_of_true hvalid hnone, fun why hwhy => ?_, fun hne => absurd hvalid hne,
      fun _ => ⟨hvalid, hanswer, ?_⟩⟩
    · rw [hnone] at hwhy
      cases hwhy
    · rw [s.handle_eq line]
      exact Answer.runs_handling_of_not_dispatches hanswer
  · -- A line for the command: the prompt parses it, and the shell runs it; both reject alike.
    obtain ⟨hverdict, hanswer⟩ := answer_of_foreignLine (s := s) hown
    have hagrees := s.command.agrees_parse_process s.occasion line
    rw [s.handle_eq line, hverdict, hanswer]
    generalize s.command.parse s.occasion line {} = found at h hagrees
    generalize s.command.process s.occasion line = run at hagrees
    cases hagrees with
    | rejected e q =>
      have he : e.isRejection = true := h e rfl
      have hsome : (Answer.ran ⟨.error e, q, []⟩).rejection? = some e := if_pos he
      have hinvalid : Verdict.ofFailure line.length e ≠ .valid := by
        intro hv
        cases e <;> cases hv
      refine ⟨iff_of_false hinvalid (by rw [hsome]; simp), fun why hwhy => ?_, fun _ => ?_,
        fun hline => absurd hline hown⟩
      · obtain rfl := Option.some.inj (hsome.symm.trans hwhy)
        exact ⟨rfl, Answer.handling_of_rejected s he q⟩
      · exact Answer.runs_handling_ran s _
    | @accepted t q r x rest result executor later =>
      have hnone : (Answer.ran ⟨result, r, x.runAt s.occasion t.path q.context :: rest⟩).rejection? =
          none := by
        cases result with
        | ok tally => rfl
        | error why =>
          show (if why.isRejection then some why else none) = none
          rw [if_neg (by rw [later why rfl]; decide)]
      refine ⟨iff_of_true rfl hnone, fun why hwhy => ?_, fun hne => absurd rfl hne,
        fun hline => absurd hline hown⟩
      rw [hnone] at hwhy
      cases hwhy

/-- **A line that its command cannot read is rejected at the prompt, and nothing is run for it**
where it is handled without a prompt. -/
theorem unread_word_is_rejected :
    let ring : Executor := ⟨"ring", fun _ _ => ⟨"ding", .silent⟩⟩
    let o : Occasion := ⟨.trusted "tester", ⟨2024, 5, 31, 12, 34, 56, 789012, none⟩, .usual⟩
    let s : Shell := ⟨.node { executor := some ring, splitting := .spaced } [], o, .usual, "> "⟩
    Verdict.ofLine s.occasion s.command ownWords "twice" = .invalid "Too many arguments." 0 ∧
      (s.handle "twice").runs = [] := by
  intro ring o s
  have hverdict : Verdict.ofLine s.occasion s.command ownWords "twice" =
      .invalid "Too many arguments." 0 := by rfl
  obtain ⟨-, -, -, hruns, -⟩ := verdict_foretells_handling s "twice" (by
    intro why hwhy
    cases hwhy
    rfl)
  refine ⟨hverdict, hruns ?_⟩
  rw [hverdict]
  intro hv
  cases hv

end Shell
end CommandGrammar
