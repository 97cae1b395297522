/-
# What may come of a line

A line has a result, or it is refused: it does not match, a permission is missing, or an executor
fails.  The only other end is a breakdown at a leaf.

| reading | breaks off |
| --- | --- |
| running a line | at a word that a leaf of the command cannot read (`Leaf.BreaksReading`) |
| completing a line | at a word that it cannot read or complete (`Leaf.BreaksTyping`) |
| the shell | where running the line does, and where a number of the result cannot be written |

What the shell prints is escaped, so that it can be shown on every console.
-/

import CommandGrammar.Console.Usual
import CommandGrammar.Host.Usual
import CommandGrammar.Proofs.Breakdowns.Completions
import CommandGrammar.Proofs.Breakdowns.Durations
import CommandGrammar.Shell

namespace CommandGrammar

variable {o : Occasion} {p q : Progress} {b : Breakdown}

namespace Shell

variable {k : Console}

/-- **An error can be printed on every console.** -/
theorem result_printError (k : Console) (message : String) :
    (printError k message).result = .ok () :=
  Printing.result_ofShown (k.print_styled_escape "error" message (by decide))

/-- **Why a line does not match can be printed**, with the caret at its place. -/
theorem result_printProblem (k : Console) (e : ParseError) :
    (printProblem k e).result = .ok () := by
  have hcaret : ∀ c ∈ (e.margin ++ "^").toList, c ∉ ['[', ']', '\\'] := fun c hc => by
    unfold ParseError.margin at hc
    rw [String.toList_append, String.toList_ofList, List.mem_append, List.mem_replicate] at hc
    rcases hc with ⟨-, rfl⟩ | hc
    · decide
    · obtain rfl := List.mem_singleton.1 hc
      decide
  refine Printing.result_bind (result_printError k e.message) ?_
  split
  · exact Printing.result_bind (Printing.result_ofShown (k.print_escape e.raw))
      (Printing.result_ofShown (k.print_styled_plain "caret" _ (by decide) hcaret))
  · rfl

/-- **What came of a line can be printed.** -/
theorem result_printOutcome (k : Console) (x : Except CommandFailure Tally) :
    (printOutcome k x).result = .ok () := by
  unfold printOutcome
  split
  · split
    · exact Printing.result_ofShown (k.print_styled_escape "result" _ (by decide))
    · rfl
  · exact result_printProblem k _
  · exact result_printError k _

/-- **A shell fails only where the line breaks off**, or where its result cannot be written. -/
theorem of_runLine_error {s : Shell} {line : String} {e : ShellFailure}
    (h : (s.runLine line).result = .error e) :
    (∃ b, e = .broken b ∧ (s.command.process s.occasion line).result = .error (.broken b)) ∨
      e = .unwritable ∧ ∃ t, (s.command.process s.occasion line).result = .ok t ∧
        t.summary? = none := by
  unfold runLine report at h
  generalize s.command.process s.occasion line = trial at h ⊢
  split at h
  · rename_i failure hfailure
    cases h
    unfold unprinted? at hfailure
    split at hfailure
    · rename_i b hb
      cases hfailure
      exact .inl ⟨b, rfl, hb⟩
    · rename_i t ht
      split at hfailure
      · rename_i hnone
        cases hfailure
        exact .inr ⟨rfl, t, ht, Option.isNone_iff_eq_none.1 hnone⟩
      · cases hfailure
    · cases hfailure
  · dsimp only at h
    rw [result_printOutcome] at h
    cases h

end Shell

namespace Leaf

/-- **A choice breaks off at a word that is a fault of it.** -/
theorem readChoice_of_fault? {h : Host} {c : Choice} {t : Token} (ht : p.stream.head? = some t)
    (hfault : c.fault? h t.text = some b) :
    ∃ q asked, readChoice h c p = ⟨.error (.broken b), q, asked⟩ := by
  obtain ⟨r, htoken⟩ := Step.token_of_head? ht
  obtain ⟨asked, hnames⟩ := ParseCourse.exists_candidates_eq c t.text r
  refine ⟨r, asked ++ [], ?_⟩
  unfold readChoice
  rw [Step.bind_of_ok htoken, Report.after_nil]
  dsimp only
  rw [Step.bind_of_ok hnames]
  unfold Choice.fault? at hfault
  rcases hsel : Pattern.select h t.text (c.supply t.text) with fault | _ | ⟨name, names⟩ <;>
    rw [hsel] at hfault
  · cases hfault
    rfl
  · cases hfault
  · dsimp only at hfault
    split at hfault
    · rename_i hmisused
      cases hfault
      dsimp only
      rw [Step.bind_of_error (valuesOf_of_isMisused p.stream.position r hmisused)]
      rfl
    · cases hfault

/-- **A leaf breaks off at a word that is a fault of it.** -/
theorem read_of_fault? {l : Leaf} {t : Token} (ht : p.stream.head? = some t)
    (h : l.fault? o.host t.text = some b) :
    ∃ q asked, l.read o p = ⟨.error (.broken b), q, asked⟩ := by
  cases l with
  | duration =>
    obtain ⟨r, htoken⟩ := Step.token_of_head? ht
    refine ⟨r, [], ?_⟩
    unfold fault? at h
    dsimp only at h
    split at h
    · rename_i letters hletters
      cases h
      show readDuration p = _
      unfold readDuration
      rw [Step.bind_of_ok htoken, Report.after_nil]
      dsimp only
      rw [hletters]
      rfl
    · cases h
  | choice c => exact readChoice_of_fault? ht h
  | selector s =>
    unfold fault? at h
    dsimp only at h
    split at h
    · cases h
    · rename_i hsigil
      show ∃ q asked, readSelector o s p = ⟨_, q, asked⟩
      unfold readSelector
      rw [Step.bind_of_ok (Step.peek_of_head? ht), Report.after_nil, if_neg hsigil]
      exact readChoice_of_fault? ht h
  | _ => cases h

/-- **A choice breaks a completion off exactly at a word that is a fault while it is typed.** -/
theorem result_completeChoice_iff {h : Host} {c : Choice} {t : Token}
    (ht : p.stream.head? = some t) :
    (completeChoice h c p).result = .error (.broken b) ↔ Choice.typedFault? h t.text = some b := by
  have htyped : ∃ r, Step.typed p = ⟨.ok t.text, r, []⟩ := by
    unfold Step.typed
    rcases p.stream.next?_cases with ⟨hc, hn, hhead⟩ | ⟨-, hhead⟩
    · obtain rfl := Option.some.inj (hhead.symm.trans ht)
      exact ⟨_, by rw [hn]⟩
    · cases hhead.symm.trans ht
  obtain ⟨r, htyped⟩ := htyped
  obtain ⟨asked, hnames⟩ := ParseCourse.exists_candidates_eq c t.text r
  unfold completeChoice Choice.typedFault?
  rw [Step.bind_of_ok htyped, Report.after_nil]
  cases Pattern.ofToken h t.text with
  | error fault =>
    show Except.error (Stop.broken (breakdownOf fault)) = _ ↔ some (breakdownOf fault) = some b
    constructor
    · intro h
      cases h
      rfl
    · intro h
      cases h
      rfl
  | ok pattern =>
    dsimp only
    rw [Step.bind_of_ok hnames]
    exact ⟨fun h => (nomatch h), fun h => (nomatch h)⟩

end Leaf

namespace Command

/-- A command that reads its whole line by one leaf. -/
def ofLeaf (e : Executor) (l : Leaf) : Command :=
  .node { parameter := .leaf {} l, executor := some e, splitting := .whole } []

variable {e : Executor} {l : Leaf} {w : String}

/-- **Such a command parses its line and runs its executor.** -/
theorem dispatch_ofLeaf (o : Occasion) (e : Executor) (l : Leaf) : dispatch o (ofLeaf e l) =
    ((ofLeaf e l).frame.parseOwn o >>= fun _ => (ofLeaf e l).frame.execute o) := by
  funext p
  unfold ofLeaf
  rw [dispatch]
  show dispatchIn o _ [] (p.stream.head?.map Token.text) [] p = _
  rw [dispatchIn]
  rfl

/-- **A line that is not split is one token**, unless it is empty. -/
theorem split_whole (hw : w ≠ "") (lenient : Bool) :
    Splitting.whole.split w lenient = ([⟨w, 0, w.length⟩], none) := by
  have hempty : w.isEmpty = false := by simpa using hw
  show ((if w.isEmpty then [] else [_] : List Token), none) = _
  rw [hempty]
  rfl

/-- **A line that is read by one leaf is one token.** -/
theorem stream_atStart_ofLeaf (hw : w ≠ "") :
    ((ofLeaf e l).atStart w {}).stream = .ofTokens w [⟨w, 0, w.length⟩] none := by
  show TokenStream.ofLine .whole w = _
  unfold TokenStream.ofLine
  rw [split_whole hw]

/-- **A line that is read by one leaf breaks off exactly if it is a fault of the leaf.** -/
theorem result_process_ofLeaf_iff (hw : w ≠ "") :
    (process o (ofLeaf e l) w).result = .error (.broken b) ↔ l.fault? o.host w = some b := by
  have hstream := stream_atStart_ofLeaf (e := e) (l := l) hw
  unfold process
  rw [dispatch_ofLeaf]
  constructor
  · intro h
    have hleaf : (ofLeaf e l).frame.parameter.FaultsIn (Leaf.BreaksReading o.host) (· = w)
        fun b => l.fault? o.host w = some b := by
      rintro f l' hl v b rfl hb
      cases hl with
      | self => exact hb
      | child hc => cases hc
    have hkeeps : Attempt.Keeps (· = w) none (fun b => l.fault? o.host w = some b)
        ((ofLeaf e l).frame.parseOwn o >>= fun _ => (ofLeaf e l).frame.execute o) :=
      Attempt.keeps_iff_confined.2 ((CommandFrame.confined_parseOwn_words hleaf).bind fun _ =>
        CommandFrame.confined_execute fun _ he => Attempt.breaksIn_of_other he)
    refine (hkeeps _ ?_).2 b h
    rw [hstream]
    refine ⟨fun t ht => ?_, rfl⟩
    obtain rfl := List.mem_singleton.1 ht
    rfl
  · intro h
    obtain ⟨q, asked, hread⟩ := Leaf.read_of_fault? (o := o) (p := (ofLeaf e l).atStart w {})
      (t := ⟨w, 0, w.length⟩) (by rw [hstream]; rfl) h
    have hparse : (ofLeaf e l).frame.parameter.parse o ((ofLeaf e l).atStart w {}) =
        ⟨.error (.broken b), q, asked⟩ := by
      show Parameter.readAndBind o "" l _ = _
      unfold Parameter.readAndBind
      exact Step.bind_of_error hread _
    have hown : (ofLeaf e l).frame.parseOwn o ((ofLeaf e l).atStart w {}) =
        ⟨.error (.broken b), q, []⟩ := Attempt.ofStep_of_error (Step.bind_of_error hparse _)
    rw [Attempt.bind_of_error hown]

/-- **So is a line that is typed without being split.** -/
theorem stream_ofTyped_whole (w : String) :
    TokenStream.ofTyped .whole w = .ofTokens w [⟨w, 0, w.length⟩] none := by
  by_cases hw : w = ""
  · subst hw
    rfl
  · unfold TokenStream.ofTyped TokenStream.typedTokens
    rw [split_whole hw]
    dsimp only [List.getLast?_singleton]
    rw [if_neg (Nat.lt_irrefl _)]

/-- **A command without flags and children offers its own words for a single word.** -/
theorem complete_single {f : CommandFrame} {t : Token} (hflags : f.flags = none)
    (hunread : p.stream.unread = [t]) :
    complete o (.node f []) p = (do return Text.distinct (← f.completeOwn o)) p := by
  have hnone : f.completeFlags o [] p = ⟨.ok none, p, []⟩ := by
    unfold CommandFrame.completeFlags
    rw [hflags]
    rfl
  have hnames : f.childrenBeginning o.source [] t.text = [] := by
    unfold CommandFrame.childrenBeginning
    split <;> rfl
  rw [complete, Step.bind_of_ok hnone, Report.after_nil]
  dsimp only
  rw [Step.here_bind, hunread]
  dsimp only
  rw [hnames]
  rfl

/-- **A line that is read by one choice breaks a completion off exactly if it is a fault while it is
typed.** -/
theorem result_completions_ofLeaf_iff {c : Choice} :
    (completions o (ofLeaf e (.choice c)) w).result = .error (.broken b) ↔
      Choice.typedFault? o.host w = some b := by
  obtain ⟨p, hp⟩ : ∃ p : Progress,
      p = ⟨.ofTokens w [⟨w, 0, w.length⟩] none, { completing := true }⟩ := ⟨_, rfl⟩
  have hgrammar : (ofLeaf e (.choice c)).frame.completeOwn o =
      (do return Text.distinct (← Leaf.completeChoice o.host c)) := by
    show Parameter.complete o (.leaf {} (.choice c)) = _
    rw [Parameter.complete]
    rfl
  have hown : complete o (ofLeaf e (.choice c)) p = (do
      return Text.distinct (← (ofLeaf e (.choice c)).frame.completeOwn o)) p :=
    complete_single rfl (by rw [hp]; rfl)
  unfold completions
  show (complete o (ofLeaf e (.choice c)) ⟨TokenStream.ofTyped .whole w, _⟩).result = _ ↔ _
  rw [stream_ofTyped_whole, ← hp, hown, Step.result_bind_pure, hgrammar, Step.result_bind_pure,
    ← Leaf.result_completeChoice_iff (p := p) (t := ⟨w, 0, w.length⟩) (by rw [hp]; rfl)]
  cases (Leaf.completeChoice o.host c p).result with
  | error x => exact ⟨fun h => h, fun h => h⟩
  | ok words =>
    constructor <;>
    · intro h
      cases h

end Command

/-- **A command of one leaf has no completer that could fail to return.** -/
theorem Command.completersReturn_ofLeaf (e : Executor) (l : Leaf) :
    (ofLeaf e l).CompletersReturn := by
  intro param hparam n hn k hk
  cases hparam with
  | own =>
    cases hn with
    | self => cases hk
    | child hc => cases hc
  | value hfs => cases hfs
  | child hmem => cases hmem

/-- Whether a leaf of a command breaks off at a word of the tokens, as `Breaks` tells. -/
def Command.BreaksAt (Breaks : Leaf → String → Breakdown → Prop) (c : Command)
    (tokens : List Token) (b : Breakdown) : Prop :=
  ∃ l, c.HasLeaf l ∧ ∃ w, IsWordOf tokens w ∧ Breaks l w b

namespace Command

variable {c : Command} {line : String}

/-- **The leaves of a command break off where the command breaks off at a word.** -/
theorem faultsIn_breaksAt (Breaks : Leaf → String → Breakdown → Prop) (c : Command)
    (tokens : List Token) : c.FaultsIn Breaks (IsWordOf tokens) (c.BreaksAt Breaks tokens) :=
  fun l hl w _ hw hb => ⟨l, hl, w, hw, hb⟩

/-- **A line is refused, or it breaks off at a word.** -/
theorem of_process_error {x : CommandFailure} (h : (c.process o line).result = .error x) :
    x.isRecoverable = true ∨ ∃ b, x = .broken b ∧
      c.BreaksAt (Leaf.BreaksReading o.host) (c.frame.splitting.split line false).1 b := by
  obtain ⟨tokens, htokens⟩ : ∃ tokens, (c.frame.splitting.split line false).1 = tokens := ⟨_, rfl⟩
  have hline : (c.atStart line {}).stream.SaysOnly (IsWordOf tokens)
      (c.frame.splitting.split line false).2 :=
    ⟨fun t ht => ⟨t, htokens ▸ ht, .inl rfl⟩, rfl⟩
  have hkeeps := keeps_dispatch (o := o) (closedUnderValues_isWordOf tokens) c
    (faultsIn_breaksAt (Leaf.BreaksReading o.host) c tokens) _ hline
  rw [htokens]
  cases x with
  | broken b => exact .inr ⟨b, rfl, hkeeps.2 b h⟩
  | _ => exact .inl rfl

/-- **A line being typed has its words, or it breaks off at one.** -/
theorem of_completions_error (hk : c.CompletersReturn) {x : Stop}
    (h : (c.completions o line).result = .error x) : ∃ b, x = .broken b ∧
      c.BreaksAt (Leaf.BreaksTyping o.host) (TokenStream.typedTokens c.frame.splitting line) b := by
  have hgoverns := governs_complete (o := o) (closedUnderValues_isWordOf _) c hk
    (faultsIn_breaksAt (Leaf.BreaksTyping o.host) c
      (TokenStream.typedTokens c.frame.splitting line))
  exact (hgoverns _).2 x h ⟨fun t ht => ⟨t, ht, .inl rfl⟩, rfl⟩

end Command

/-- **Only a duration with the long `ſ` breaks off.** -/
theorem Leaf.mem_of_fault?_duration {host : Host} {w : String}
    (h : Leaf.duration.fault? host w = some b) : 'ſ' ∈ w.toList := by
  unfold Leaf.fault? at h
  dsimp only at h
  split at h
  · rename_i letters hletters
    refine Decidable.byContradiction fun hs => ?_
    have hrefused := Duration.isRefusal_of_read hs hletters
    cases hrefused
  · cases h

/-- **A line has a result or is refused, unless it breaks off at a leaf.**  A run of a line ends
with a result, with a problem of the line, with a denial or with a failure of an executor, and the
shell prints which, on any console; a completion ends with a list of words.  There are two
exceptions.  A leaf of the command may break off at a word of the line: then all three break off
with it.  A result may hold a number too long to be written: then the shell cannot print it.  A leaf
breaks off at a word exactly if the command that reads its line by that leaf alone does, and a
duration only at a long `ſ`. -/
theorem Shell.line_ends_unless_leaf_breaks (s : Shell) (line : String) :
    (∀ x, (s.command.process s.occasion line).result = .error x →
      x.isRecoverable = true ∨ ∃ b, x = .broken b ∧
        s.command.BreaksAt (Leaf.BreaksReading s.occasion.host)
          (s.command.frame.splitting.split line false).1 b) ∧
    (s.command.CompletersReturn → ∀ x, (s.command.completions s.occasion line).result = .error x →
      ∃ b, x = .broken b ∧ s.command.BreaksAt (Leaf.BreaksTyping s.occasion.host)
        (TokenStream.typedTokens s.command.frame.splitting line) b) ∧
    (∀ x, (s.runLine line).result = .error x →
      (∃ b, x = .broken b ∧ s.command.BreaksAt (Leaf.BreaksReading s.occasion.host)
        (s.command.frame.splitting.split line false).1 b) ∨
      x = .unwritable ∧ ∃ t, (s.command.process s.occasion line).result = .ok t ∧
        t.summary? = none) ∧
    (∀ e l w b, w ≠ "" →
      ((Command.process s.occasion (.ofLeaf e l) w).result = .error (.broken b) ↔
        l.BreaksReading s.occasion.host w b)) ∧
    (∀ e c w b, (Command.completions s.occasion (.ofLeaf e (.choice c)) w).result =
      .error (.broken b) ↔ (Leaf.choice c).typedFault? s.occasion.host w = some b) ∧
    ∀ w b, Leaf.duration.BreaksReading s.occasion.host w b → 'ſ' ∈ w.toList := by
  refine ⟨fun x hx => Command.of_process_error hx,
    fun hk x hx => Command.of_completions_error hk hx, fun x hx => ?_,
    fun e l w b hw => Command.result_process_ofLeaf_iff hw,
    fun e c w b => Command.result_completions_ofLeaf_iff, fun w b => Leaf.mem_of_fault?_duration⟩
  rcases Shell.of_runLine_error hx with ⟨b, rfl, hb⟩ | hlong
  · rcases Command.of_process_error hb with hno | ⟨b', hbb, hleaf⟩
    · cases hno
    · cases hbb
      exact .inl ⟨b, rfl, hleaf⟩
  · exact .inr hlong

/-- **The duration `5ſ` breaks off a line**, and a completion of it may break off only there. -/
theorem Shell.line_breaks_at_long_s :
    let quiet : Executor := ⟨"quiet", fun _ _ => ⟨"", .silent⟩⟩
    let o : Occasion := ⟨.trusted "tester", ⟨2024, 5, 31, 12, 34, 56, 789012, none⟩, .usual⟩
    (Command.process o (.ofLeaf quiet .duration) "5ſ").result =
        .error (.broken (.unknownUnit "ſ")) ∧
      ∀ x, (Command.completions o (.ofLeaf quiet .duration) "5ſ").result = .error x →
        ∃ b, x = .broken b ∧ (Command.ofLeaf quiet .duration).BreaksAt (Leaf.BreaksTyping o.host)
          (TokenStream.typedTokens .whole "5ſ") b := by
  intro quiet o
  obtain ⟨-, htyped, -, hleaf, -⟩ :=
    Shell.line_ends_unless_leaf_breaks ⟨.ofLeaf quiet .duration, o, .usual, "> "⟩ "5ſ"
  refine ⟨(hleaf quiet .duration "5ſ" (.unknownUnit "ſ") (by decide)).2 ?_, fun x hx => ?_⟩
  · show Leaf.duration.fault? o.host "5ſ" = _
    decide +kernel
  · exact htyped (Command.completersReturn_ofLeaf quiet .duration) x hx

end CommandGrammar
