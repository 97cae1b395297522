/-
# Children that a source may not use

Two trees are compared that differ in children which a source may not use: whole subtrees, with
their names.  Lines that do not name such a child do not tell the trees apart, but for one thing.

| asked of both trees | answer |
| --- | --- |
| the usage of the command | the same: it has the names of children that the source may use |
| completions | the same, for the same reason |
| the target of a line, and what is bound | the same |
| why a line has no target | the same, but for the names suggested for an unknown one |

Suggestions are made from the names of all children (`hidden_name_is_suggested`).
-/

import CommandGrammar.Command.Help
import CommandGrammar.Host.Usual
import CommandGrammar.Proofs.Completing.Guarded
import CommandGrammar.Proofs.Flags.Stopping

namespace CommandGrammar

open Text

/-- The failures are the same, or a word is unknown for both, and one suggests what is close to it
among `names` and the other among `names'`. -/
inductive CommandFailure.SameBut (names names' : List String) :
    CommandFailure → CommandFailure → Prop
  | same (e : CommandFailure) : SameBut names names' e e
  | unknown (word : String) (known : List String) (raw : String) (position : Int) :
      SameBut names names'
        (.unparsed ⟨.unknownSubcommand word
          (closest CommandFrame.suggestionLimit word names) known, raw, position⟩)
        (.unparsed ⟨.unknownSubcommand word
          (closest CommandFrame.suggestionLimit word names') known, raw, position⟩)

/-- The trials have results that are alike, or failures that are the same but for suggestions; they
end at the same progress with the same runs. -/
inductive Trial.SameBut {α : Type} (names names' : List String) (alike : α → α → Prop) :
    Trial α → Trial α → Prop
  | ok {a b : α} (results : alike a b) (q : Progress) (runs : List Run) :
      SameBut names names' alike ⟨.ok a, q, runs⟩ ⟨.ok b, q, runs⟩
  | error {e e' : CommandFailure} (failures : e.SameBut names names' e') (q : Progress)
      (runs : List Run) : SameBut names names' alike ⟨.error e, q, runs⟩ ⟨.error e', q, runs⟩

/-- The same way leads to commands that differ at most in their children. -/
structure Target.SameFrame (t t' : Target) : Prop where
  path : t'.path = t.path
  frame : t'.command.frame = t.command.frame

section

variable {α β : Type} {names names' : List String} {alike : α → α → Prop} {alike' : β → β → Prop}
  {e e' : CommandFailure} {p : Progress}

/-- **Failures that differ in suggestions only are recovered from alike.** -/
theorem CommandFailure.SameBut.isRecoverable_eq (h : e.SameBut names names' e') :
    e'.isRecoverable = e.isRecoverable := by
  cases h <;> rfl

/-- **Which failure is blamed does not depend on suggestions.** -/
theorem CommandFailure.SameBut.blame (h : e.SameBut names names' e') (own : CommandFailure) :
    (e.blame own).SameBut names names' (e'.blame own) := by
  cases h with
  | same e => exact .same _
  | unknown word known raw position =>
    cases own with
    | unparsed f =>
      simp only [CommandFailure.blame, ParseError.deepest, List.foldl_cons, List.foldl_nil]
      split
      · exact .same _
      · exact .unknown word known raw position
    | broken b => exact .same _
    | _ => exact .unknown word known raw position

namespace Trial

/-- **Every trial is the same as itself.** -/
theorem SameBut.refl (h : ∀ a, alike a a) (t : Trial α) : t.SameBut names names' alike t := by
  rcases t with ⟨e | a, q, runs⟩
  · exact .error (.same e) q runs
  · exact .ok (h a) q runs

/-- **Trials that are the same stay so when their runs are changed alike.** -/
theorem SameBut.mapRuns {t t' : Trial α} (h : t.SameBut names names' alike t')
    (g : List Run → List Run) :
    SameBut names names' alike { t with runs := g t.runs } { t' with runs := g t'.runs } := by
  cases h with
  | ok results q runs => exact .ok results q _
  | error failures q runs => exact .error failures q _

end Trial

namespace Attempt

/-- **Attempts in sequence come to the same, but for suggestions, if their parts do.** -/
theorem sameBut_bind {s s' : Attempt α} {next next' : α → Attempt β}
    (first : (s p).SameBut names names' alike (s' p))
    (onward : ∀ a b q, alike a b → (next a q).SameBut names names' alike' (next' b q)) :
    ((s >>= next) p).SameBut names names' alike' ((s' >>= next') p) := by
  rw [bind_apply, bind_apply]
  generalize s p = t, s' p = t' at first
  cases first with
  | ok results q runs => exact (onward _ _ q results).mapRuns (runs ++ ·)
  | error failures q runs => exact .error failures q runs

/-- **Behind one attempt, two come to the same, but for suggestions, if they do where it ends.** -/
theorem sameBut_bind_same (s : Attempt α) {next next' : α → Attempt β}
    (onward : ∀ a q, (next a q).SameBut names names' alike' (next' a q)) :
    ((s >>= next) p).SameBut names names' alike' ((s >>= next') p) := by
  rw [bind_apply, bind_apply]
  rcases s p with ⟨e | a, q, runs⟩
  · exact .error (.same e) q runs
  · exact (onward a q).mapRuns (runs ++ ·)

/-- **What is tried instead of the same is the same.** -/
theorem sameBut_orElse {s s' : Attempt α} {other other' : CommandFailure → Attempt α}
    (first : (s p).SameBut names names' alike (s' p))
    (onward : ∀ e e' q, e.SameBut names names' e' →
      (other e q).SameBut names names' alike (other' e' q)) :
    (s.orElse other p).SameBut names names' alike (s'.orElse other' p) := by
  unfold orElse
  generalize s p = t, s' p = t' at first
  cases first with
  | ok results q runs => exact .ok results q runs
  | error failures q runs =>
    dsimp only
    rw [failures.isRecoverable_eq]
    split
    · exact (onward _ _ q failures).mapRuns (runs ++ ·)
    · exact .error failures q runs

/-- **What is undone of the same is the same.** -/
theorem sameBut_atomic {s s' : Attempt α} (h : (s p).SameBut names names' alike (s' p)) :
    (s.atomic p).SameBut names names' alike (s'.atomic p) := by
  unfold atomic
  generalize s p = t, s' p = t' at h
  cases h with
  | ok results q runs => exact .ok results q runs
  | error failures q runs => exact .error failures p runs

/-- **The same under a name is the same.** -/
theorem sameBut_under {s s' : Attempt α} (name : String)
    (h : (s p).SameBut names names' alike (s' p)) :
    (s.under name p).SameBut names names' alike (s'.under name p) :=
  h.mapRuns (·.map (Run.below name))

end Attempt

end

namespace CommandFrame

variable {o : Occasion} {f : CommandFrame} {cs cs' : List Command} {names names' : List String}

/-- **A command takes the line back alike**, whatever its child has suggested. -/
theorem sameBut_fallBack {e e' : CommandFailure} (h : e.SameBut names names' e') (p : Progress) :
    (f.fallBack o e p).SameBut names names' Eq (f.fallBack o e' p) := by
  unfold fallBack
  dsimp only
  split
  · rename_i own q runs _
    exact .error (h.blame own) q runs
  · exact .refl (fun _ => rfl) _

/-- **A line that names no child is refused alike**, but for what is suggested: the names that are
expected are those of the children that the source may use. -/
theorem sameBut_enterOwn
    (visible : Command.visibleNames cs' o.source = Command.visibleNames cs o.source)
    (p : Progress) : (f.enterOwn o cs p).SameBut (cs.flatMap (·.frame.names))
      (cs'.flatMap (·.frame.names)) Eq (f.enterOwn o cs' p) := by
  unfold enterOwn
  refine Attempt.sameBut_bind_same _ fun _ q => ?_
  dsimp only
  split
  · -- Nothing is parsed: the line is refused for want of a child.
    have hrefused : CommandFailure.SameBut (cs.flatMap (·.frame.names))
        (cs'.flatMap (·.frame.names)) (.unparsed (q.stream.error (missingChild o cs q.stream)))
        (.unparsed (q.stream.error (missingChild o cs' q.stream))) := by
      unfold missingChild TokenStream.error
      rw [visible]
      cases q.stream.head? with
      | none => exact .same _
      | some t => exact .unknown t.text _ _ _
    exact .error hrefused q []
  · exact .refl (fun _ => rfl) _

end CommandFrame

namespace Command

variable {o : Occasion} {f : CommandFrame} {l : Level} {levels : List Level} {c c' : Command}
  {source : Source} {shared hidden hidden' cs cs' : List Command} {names names' : List String}
  {p q : Progress}

/-- `WithHidden source shared hidden cs`: the children `cs` are `shared` and between them `hidden`,
which the source may not use. -/
inductive WithHidden (source : Source) : List Command → List Command → List Command → Prop
  | nil : WithHidden source [] [] []
  | shown (c : Command) {shared hidden cs : List Command}
      (rest : WithHidden source shared hidden cs) :
      WithHidden source (c :: shared) hidden (c :: cs)
  | hidden {c : Command} {shared hidden cs : List Command} (forbidden : c.mayUse source = false)
      (rest : WithHidden source shared hidden cs) :
      WithHidden source shared (c :: hidden) (c :: cs)

namespace WithHidden

/-- **Hidden children are not shown.** -/
theorem visibleNames_eq (h : WithHidden source shared hidden cs) :
    visibleNames cs source = visibleNames shared source := by
  unfold visibleNames
  induction h with
  | nil => rfl
  | shown c _ ih =>
    rw [List.filter_cons, List.filter_cons]
    split
    · rw [List.map_cons, List.map_cons, ih]
    · exact ih
  | hidden forbidden _ ih =>
    rw [List.filter_cons_of_neg (by simp [forbidden]), ih]

/-- **A word that names no hidden child names the same child as without them.** -/
theorem find?_eq {w : String} (h : WithHidden source shared hidden cs)
    (unnamed : ∀ d ∈ hidden, d.goesBy w = false) :
    cs.find? (·.goesBy w) = shared.find? (·.goesBy w) := by
  induction h with
  | nil => rfl
  | shown c _ ih =>
    rw [List.find?_cons, List.find?_cons, ih unnamed]
  | hidden _ _ ih =>
    obtain ⟨hc, hrest⟩ := List.forall_mem_cons.1 unnamed
    rw [List.find?_cons, hc, ih hrest]

/-- **The children are those that are shared and those that are hidden.** -/
theorem mem_iff (h : WithHidden source shared hidden cs) : c ∈ cs ↔ c ∈ shared ∨ c ∈ hidden := by
  induction h with
  | nil => simp
  | shown d _ ih => simp only [List.mem_cons, ih, or_assoc]
  | hidden _ _ ih => simp only [List.mem_cons, ih, or_left_comm]

/-- **A word that names a child but no hidden one names a child of any such tree.** -/
theorem any_of_any {w : String} (h : WithHidden source shared hidden cs)
    (h' : WithHidden source shared hidden' cs') (unnamed : ∀ d ∈ hidden, d.goesBy w = false)
    (named : cs.any (·.goesBy w) = true) : cs'.any (·.goesBy w) = true := by
  obtain ⟨c, hc, hgoes⟩ := List.any_eq_true.1 named
  have hshared : c ∈ shared := (h.mem_iff.1 hc).resolve_right fun hhidden => by
    rw [unnamed c hhidden] at hgoes
    cases hgoes
  exact List.any_eq_true.2 ⟨c, h'.mem_iff.2 (.inl hshared), hgoes⟩

end WithHidden

/-- **A command makes the same of its child, but for suggestions, if the child does the same.** -/
theorem sameBut_viaChild {α : Type} {alike : α → α → Prop} {sub sub' : Attempt α}
    {back back' : CommandFailure → Attempt α}
    (below : (!f.guardsChildren || o.source.may f.permission) = true →
      (sub p).SameBut names names' alike (sub' p))
    (again : ∀ e e' q, e.SameBut names names' e' →
      (back e q).SameBut names names' alike (back' e' q)) :
    (viaChild o f sub back p).SameBut names names' alike (viaChild o f sub' back' p) := by
  unfold viaChild
  rcases henter : f.enterChild o p with ⟨e | _, m, runs⟩
  · rw [Attempt.bind_of_error henter, Attempt.bind_of_error henter]
    exact .error (.same e) m runs
  · obtain ⟨isOpen, rfl⟩ := CommandFrame.of_enterChild henter
    rw [Attempt.bind_of_ok henter, Attempt.bind_of_ok henter]
    dsimp only
    split
    · exact (Attempt.sameBut_orElse (below isOpen) again).mapRuns (runs ++ ·)
    · exact (below isOpen).mapRuns (runs ++ ·)

/-- **Targets that a child finds alike are targets of its parent alike.** -/
theorem sameBut_resolveSub {w : String} {r : Progress} (hname : c'.pathName = c.pathName)
    (hnext : Step.next p = ⟨.ok w, r, []⟩)
    (below : (resolve o c r).SameBut names names' Target.SameFrame (resolve o c' r)) :
    (resolveSub o c p).SameBut names names' Target.SameFrame (resolveSub o c' p) := by
  have hgo : (c.goInto (resolve o c) p).SameBut names names' Target.SameFrame
      (c'.goInto (resolve o c') p) := by
    unfold goInto
    rw [hname]
    refine Attempt.sameBut_atomic ?_
    rw [Attempt.bind_of_ok (Attempt.ofStep_of_ok hnext),
      Attempt.bind_of_ok (Attempt.ofStep_of_ok hnext)]
    exact (Attempt.sameBut_under _ below).mapRuns ([] ++ ·)
  unfold resolveSub
  refine Attempt.sameBut_bind hgo fun t t' q same => .ok ⟨?_, same.frame⟩ q []
  dsimp only
  rw [hname, same.path]

/-- Of two lists of children a word names the same one or none, or two that are alike. -/
def NamedAlike (alike : Command → Command → Prop) (cs cs' : List Command) (w : String) : Prop :=
  cs'.find? (·.goesBy w) = cs.find? (·.goesBy w) ∨
    ∃ c c', cs.find? (·.goesBy w) = some c ∧ cs'.find? (·.goesBy w) = some c' ∧ alike c c'

/-- **A command resolves a line alike with other children**, but for suggestions, if it reads its
flags alike and each word that they leave names the same child, or children that do so. -/
theorem sameBut_resolve (flags : f.readFlags o cs' p = f.readFlags o cs p)
    (own : ∀ m, (f.enterOwn o cs m).SameBut names names' Eq (f.enterOwn o cs' m))
    (called : ∀ m t, f.readFlags o cs p = ⟨.ok (), m, []⟩ → m.stream.head? = some t →
      NamedAlike (fun c c' => (!f.guardsChildren || o.source.may f.permission) = true →
        (resolveSub o c m).SameBut names names' Target.SameFrame (resolveSub o c' m))
        cs cs' t.text) :
    (resolve o (.node f cs) p).SameBut names names' Target.SameFrame
      (resolve o (.node f cs') p) := by
  rw [resolve, resolve]
  rcases hflags : f.readFlags o cs p with ⟨e | _, m, runs⟩ <;> rw [hflags] at flags
  · rw [Attempt.bind_of_error hflags, Attempt.bind_of_error flags]
    exact .error (.same e) m runs
  obtain rfl := (CommandFrame.quiet_readFlags o f cs).runs_eq_nil hflags
  rw [Attempt.bind_of_ok hflags, Attempt.bind_of_ok flags]
  have hown : Trial.SameBut names names' Target.SameFrame
      ((do f.enterOwn o cs; return ⟨[], node f cs⟩ : Attempt Target) m)
      ((do f.enterOwn o cs'; return ⟨[], node f cs'⟩ : Attempt Target) m) :=
    Attempt.sameBut_bind (own m) fun _ _ q _ => .ok ⟨rfl, rfl⟩ q []
  have hback : ∀ e e' q, CommandFailure.SameBut names names' e e' → Trial.SameBut names names'
      Target.SameFrame ((do f.fallBack o e; return ⟨[], node f cs⟩ : Attempt Target) q)
      ((do f.fallBack o e'; return ⟨[], node f cs'⟩ : Attempt Target) q) := fun _ _ q same =>
    Attempt.sameBut_bind (CommandFrame.sameBut_fallBack same q) fun _ _ r _ =>
      .ok ⟨rfl, rfl⟩ r []
  change Trial.SameBut names names' Target.SameFrame
    (resolveIn o f cs (m.stream.head?.map Token.text) cs m)
    (resolveIn o f cs' (m.stream.head?.map Token.text) cs' m)
  rw [resolveIn_eq, resolveIn_eq]
  cases hhead : m.stream.head? with
  | none => exact hown
  | some t =>
    dsimp only [called?, Option.map_some, Option.bind_some]
    rcases called m t hflags hhead with hsame | ⟨c, c', hc, hc', hsub⟩
    · rw [hsame]
      cases cs.find? (·.goesBy t.text) with
      | none => exact hown
      | some c => exact sameBut_viaChild (fun _ => .refl (fun _ => ⟨rfl, rfl⟩) _) hback
    · rw [hc, hc']
      exact sameBut_viaChild hsub hback

/-- **A command completes a line alike with other children**, if they have the same shown names, its
flags complete alike, and each word that they leave names the same child, or children that complete
what is behind it alike. -/
theorem complete_congr (visible : visibleNames cs' o.source = visibleNames cs o.source)
    (flags : f.completeFlags o cs' p = f.completeFlags o cs p)
    (called : ∀ m asked t u more, f.completeFlags o cs p = ⟨.ok none, m, asked⟩ →
      m.stream.unread = t :: u :: more →
      NamedAlike (fun c c' => ∀ r, Step.next m = ⟨.ok t.text, r, []⟩ →
        complete o c' r = complete o c r) cs cs' t.text) :
    complete o (.node f cs') p = complete o (.node f cs) p := by
  rw [complete, complete]
  rcases hflags : f.completeFlags o cs p with ⟨e | _ | words, m, asked⟩ <;> rw [hflags] at flags
  · rw [Step.bind_of_error hflags, Step.bind_of_error flags]
  · rw [Step.bind_of_ok hflags, Step.bind_of_ok flags]
    dsimp only
    rw [Step.here_bind, Step.here_bind]
    rcases hunread : m.stream.unread with _ | ⟨t, _ | ⟨u, more⟩⟩
    · rfl
    · dsimp only
      unfold CommandFrame.childrenBeginning
      rw [visible]
    · dsimp only
      rw [completeIn_eq, completeIn_eq]
      rcases called m asked t u more hflags hunread with hsame | ⟨c, c', hc, hc', hsub⟩
      · rw [hsame]
      · obtain ⟨r, hnext⟩ := Step.next_of_head? (TokenStream.head?_of_unread hunread)
        rw [hc, hc']
        dsimp only
        split
        · rw [Step.bind_of_ok hnext, Step.bind_of_ok hnext, hsub r hnext]
        · rfl
  · rw [Step.bind_of_ok hflags, Step.bind_of_ok flags]

section tree

variable (hframe : c'.frame = c.frame)
include hframe

/-- **Levels around a command have a frame of their own.** -/
theorem frame_within (levels : List Level) :
    (within levels c').frame = (within levels c).frame := by
  cases levels with
  | nil => exact hframe
  | cons l rest => rfl

/-- **The shown names of children are seen in their frames.** -/
theorem visibleNames_fill (l : Level) (source : Source) :
    visibleNames (l.fill c') source = visibleNames (l.fill c) source := by
  have hmay : c'.mayUse source = c.mayUse source := by
    unfold mayUse
    rw [hframe]
  have hname : c'.name = c.name := by
    unfold name
    rw [hframe]
  unfold visibleNames Level.fill
  rw [List.filter_append, List.filter_append, List.filter_cons, List.filter_cons, hmay]
  split <;> simp [hname]

/-- **A level has the same names whichever child fills it.** -/
theorem names_fill (l : Level) :
    (l.fill c').flatMap (·.frame.names) = (l.fill c).flatMap (·.frame.names) := by
  simp [Level.fill, hframe]

/-- **A word names the child in the open place, or the same other child or none.** -/
theorem namedAlike_fill {alike : Command → Command → Prop} {w : String} (l : Level)
    (place : c.goesBy w = true → (∀ b ∈ l.before, b.goesBy w = false) → alike c c') :
    NamedAlike alike (l.fill c) (l.fill c') w := by
  have hgoes : c'.goesBy w = c.goesBy w := goesBy_congr (by rw [hframe]) w
  unfold NamedAlike Level.fill
  rw [List.find?_append, List.find?_append, List.find?_cons, List.find?_cons, hgoes]
  cases hbefore : l.before.find? (·.goesBy w) with
  | some b => exact .inl rfl
  | none =>
    cases hw : c.goesBy w with
    | true => exact .inr ⟨c, c', rfl, rfl, place hw (by simpa using hbefore)⟩
    | false => exact .inl rfl

/-- **A command resolves a line alike, but for suggestions, if the child it is left to does.** -/
theorem sameBut_resolve_around (l : Level)
    (onward : ∀ m r, Passes o l c p m r →
      (!l.frame.guardsChildren || o.source.may l.frame.permission) = true →
      (resolve o c r).SameBut names names' Target.SameFrame (resolve o c' r)) :
    (resolve o (l.around c) p).SameBut names names' Target.SameFrame
      (resolve o (l.around c') p) := by
  have hnames : c'.frame.names = c.frame.names := by rw [hframe]
  refine sameBut_resolve (by rw [readFlags_around hnames]) (fun m => ?_) fun m t hflags hhead => ?_
  · have hown : l.frame.enterOwn o (l.fill c') m = l.frame.enterOwn o (l.fill c) m := by
      unfold CommandFrame.enterOwn CommandFrame.missingChild
      rw [visibleNames_fill hframe, names_fill hframe]
    rw [hown]
    exact .refl (fun _ => rfl) _
  · obtain ⟨r, hnext⟩ := Step.next_of_head? hhead
    exact namedAlike_fill hframe l fun hgoes hbefore isOpen =>
      sameBut_resolveSub (pathName_congr hnames) hnext
        (onward m r ⟨hflags, t, hhead, hnext, hgoes, hbefore⟩ isOpen)

/-- **A command completes a line alike if the child it is left to does.** -/
theorem complete_around (l : Level)
    (onward : ∀ m r, HandsOver o l c p m r → complete o c' r = complete o c r) :
    complete o (l.around c') p = complete o (l.around c) p := by
  have hnames : c'.frame.names = c.frame.names := by rw [hframe]
  have hflags : l.frame.completeFlags o (l.fill c') p = l.frame.completeFlags o (l.fill c) p := by
    unfold CommandFrame.completeFlags
    simp only [any_goesBy_fill hnames l]
  refine complete_congr (visibleNames_fill hframe l o.source) hflags
    fun m asked t u more hrun hunread => ?_
  exact namedAlike_fill hframe l fun hgoes hbefore r hnext =>
    onward m r ⟨⟨asked, hrun⟩, t, u, more, hunread, hnext, hgoes, hbefore⟩

end tree

/-- The first word that the flags of a command leave of a line names none of some children. -/
def NamesNone (o : Occasion) (f : CommandFrame) (cs hidden : List Command) (p : Progress) : Prop :=
  ∀ m t, f.readFlags o cs p = ⟨.ok (), m, []⟩ → m.stream.head? = some t →
    ∀ d ∈ hidden, d.goesBy t.text = false

/-- So does that of a line being typed, if it is not the word being typed. -/
def TypesNone (o : Occasion) (f : CommandFrame) (cs hidden : List Command) (p : Progress) : Prop :=
  ∀ m asked t u more, f.completeFlags o cs p = ⟨.ok none, m, asked⟩ →
    m.stream.unread = t :: u :: more → ∀ d ∈ hidden, d.goesBy t.text = false

section

variable (h : WithHidden o.source shared hidden cs) (h' : WithHidden o.source shared hidden' cs')
include h h'

/-- **Without the name of a hidden child, a line is resolved alike**, but for suggestions. -/
theorem sameBut_resolve_node (none : NamesNone o f cs hidden p)
    (none' : NamesNone o f cs' hidden' p) :
    (resolve o (.node f cs) p).SameBut (cs.flatMap (·.frame.names)) (cs'.flatMap (·.frame.names))
      Target.SameFrame (resolve o (.node f cs') p) := by
  have hflags : f.readFlags o cs p = f.readFlags o cs' p :=
    CommandFrame.readFlags_congr
      (fun m t hm hhead => h.any_of_any h' (none m t hm hhead))
      fun m t hm hhead => h'.any_of_any h (none' m t hm hhead)
  have hvisible := h'.visibleNames_eq.trans h.visibleNames_eq.symm
  refine sameBut_resolve hflags.symm (CommandFrame.sameBut_enterOwn hvisible)
    fun m t hm hhead => .inl ?_
  rw [h.find?_eq (none m t hm hhead), h'.find?_eq (none' m t (hflags ▸ hm) hhead)]

/-- **Without the name of a hidden child, a line is completed alike.** -/
theorem complete_node (none : TypesNone o f cs hidden p) (none' : TypesNone o f cs' hidden' p) :
    complete o (.node f cs') p = complete o (.node f cs) p := by
  have hflags : f.completeFlags o cs p = f.completeFlags o cs' p :=
    CommandFrame.completeFlags_congr
      (fun m asked t u more hm hunread => h.any_of_any h' (none m asked t u more hm hunread))
      fun m asked t u more hm hunread => h'.any_of_any h (none' m asked t u more hm hunread)
  have hvisible := h'.visibleNames_eq.trans h.visibleNames_eq.symm
  refine complete_congr hvisible hflags.symm fun m asked t u more hm hunread => .inl ?_
  rw [h.find?_eq (none m asked t u more hm hunread),
    h'.find?_eq (none' m asked t u more (hflags ▸ hm) hunread)]

end

/-- **What a command resolves alike, the tree around it does.** -/
theorem sameBut_resolve_within (hframe : c'.frame = c.frame) :
    ∀ (levels : List Level) {p : Progress},
      (∀ q, Enters o levels c p q →
        (resolve o c q).SameBut names names' Target.SameFrame (resolve o c' q)) →
      (resolve o (within levels c) p).SameBut names names' Target.SameFrame
        (resolve o (within levels c') p)
  | [], _, h => h _ (.here c _)
  | l :: levels, _, h =>
    sameBut_resolve_around (frame_within hframe levels) l fun _ _ passes isOpen =>
      sameBut_resolve_within hframe levels fun q hq => h q (.down passes isOpen hq)

/-- **What a command completes alike, the tree around it does.** -/
theorem complete_within (hframe : c'.frame = c.frame) :
    ∀ (levels : List Level) {p : Progress},
      (∀ q, TypedInto o levels c p q → complete o c' q = complete o c q) →
      complete o (within levels c') p = complete o (within levels c) p
  | [], _, h => h _ (.here c _)
  | l :: levels, _, h =>
    complete_around (frame_within hframe levels) l fun _ _ hands =>
      complete_within hframe levels fun q hq => h q (.down hands hq)

/-- **The usage of a tree shows the frames of its first children.** -/
theorem usage_within (visible : visibleNames c'.children source = visibleNames c.children source)
    (hframe : c'.frame = c.frame) (levels : List Level) :
    (within levels c').usage source = (within levels c).usage source := by
  have hroot : visibleNames (within levels c').children source =
      visibleNames (within levels c).children source := by
    cases levels with
    | nil => exact visible
    | cons l rest => exact visibleNames_fill (frame_within hframe rest) l source
  unfold usage
  rw [hroot, frame_within hframe levels]

/-- **Hidden children stay hidden, but for their names.**  Let two trees differ in children of one
command which a source may not use.  The usage is the same.  A line being typed that comes down to
the command is completed alike, if the first word that is left there names no such child, or is
the one being typed.  And a line that comes down to it, where the first word that is left names no
such child, has the same target and binds the same, or fails alike; only the names that are
suggested for an unknown word are taken from all children. -/
theorem hidden_children_stay_hidden_but_for_suggestions (o : Occasion) (levels : List Level)
    (f : CommandFrame) {shared hidden hidden' cs cs' : List Command}
    (h : WithHidden o.source shared hidden cs) (h' : WithHidden o.source shared hidden' cs') :
    (within levels (.node f cs')).usage o.source = (within levels (.node f cs)).usage o.source ∧
    (∀ line, (∀ q, TypedInto o levels (.node f cs)
        ⟨.ofTyped (within levels (.node f cs)).frame.splitting line, { completing := true }⟩ q →
        TypesNone o f cs hidden q ∧ TypesNone o f cs' hidden' q) →
      (within levels (.node f cs')).completions o line =
        (within levels (.node f cs)).completions o line) ∧
    ∀ line context, (∀ q, Enters o levels (.node f cs)
        ((within levels (.node f cs)).atStart line context) q →
        NamesNone o f cs hidden q ∧ NamesNone o f cs' hidden' q) →
      ((within levels (.node f cs)).parse o line context).SameBut (cs.flatMap (·.frame.names))
        (cs'.flatMap (·.frame.names)) Target.SameFrame
        ((within levels (.node f cs')).parse o line context) := by
  have hframe : (Command.node f cs').frame = (Command.node f cs).frame := rfl
  have hroot := frame_within hframe levels
  have hvisible : visibleNames (Command.node f cs').children o.source =
      visibleNames (Command.node f cs).children o.source :=
    h'.visibleNames_eq.trans h.visibleNames_eq.symm
  refine ⟨usage_within hvisible hframe levels, fun line hunnamed => ?_,
    fun line context hunnamed => ?_⟩
  · unfold completions
    rw [hroot]
    exact complete_within hframe levels fun q hq =>
      complete_node h h' (hunnamed q hq).1 (hunnamed q hq).2
  · unfold parse atStart
    rw [hroot]
    exact sameBut_resolve_within hframe levels fun q hq =>
      sameBut_resolve_node h h' (hunnamed q hq).1 (hunnamed q hq).2

/-- **Giving is the same with and without shutting down**, for somebody who may not shut down. -/
theorem giving_is_the_same_without_shutdown :
    let o : Occasion := ⟨.bare "tester", ⟨2024, 5, 31, 12, 34, 56, 789012, none⟩, .usual⟩
    let silent : Executor := ⟨"silent", fun _ _ => { ending := .silent }⟩
    let give : Command := .node { names := ["give"], executor := some silent } []
    let shutdown : Command := .node { names := ["shutdown"], permission := some "admin"
                                      executor := some silent } []
    let root : CommandFrame := { splitting := .spaced }
    WithHidden o.source [give] [shutdown] [give, shutdown] ∧ WithHidden o.source [give] [] [give] ∧
      (Command.node root [give]).usage o.source =
        (Command.node root [give, shutdown]).usage o.source ∧
      (Command.node root [give]).completions o "sh" =
        (Command.node root [give, shutdown]).completions o "sh" ∧
      ((Command.node root [give, shutdown]).parse o "give" {}).SameBut ["give", "shutdown"] ["give"]
        Target.SameFrame ((Command.node root [give]).parse o "give" {}) := by
  intro o silent give shutdown root
  have hhidden : WithHidden o.source [give] [shutdown] [give, shutdown] :=
    .shown give (.hidden rfl .nil)
  have hshared : WithHidden o.source [give] [] [give] := .shown give .nil
  obtain ⟨husage, hcompletions, hparse⟩ :=
    hidden_children_stay_hidden_but_for_suggestions o [] root hhidden hshared
  refine ⟨hhidden, hshared, husage, hcompletions "sh" fun q hq => ?_,
    hparse "give" {} fun q hq => ?_⟩
  · cases hq
    refine ⟨fun m asked t u more hm hunread => ?_, fun _ _ _ _ _ _ _ _ hd => nomatch hd⟩
    obtain ⟨-, rfl, -⟩ := Report.mk.inj hm
    have hone : [(⟨"sh", 0, 2⟩ : Token)] = t :: u :: more := hunread
    cases hone
  · cases hq
    refine ⟨fun m t hm hhead d hd => ?_, fun _ _ _ _ _ hd => nomatch hd⟩
    obtain ⟨-, rfl, -⟩ := Trial.mk.inj hm
    obtain rfl : (⟨"give", 0, 4⟩ : Token) = t := Option.some.inj hhead
    rw [List.mem_singleton.1 hd]
    rfl

/-- **The name of a hidden child is suggested** to a source that may not use the child. -/
theorem hidden_name_is_suggested :
    let o : Occasion := ⟨.bare "tester", ⟨2024, 5, 31, 12, 34, 56, 789012, none⟩, .usual⟩
    let silent : Executor := ⟨"silent", fun _ _ => { ending := .silent }⟩
    let give : Command := .node { names := ["give"], executor := some silent } []
    let shutdown : Command := .node { names := ["shutdown"], permission := some "admin"
                                      executor := some silent } []
    let root : CommandFrame := { splitting := .spaced }
    WithHidden o.source [give] [shutdown] [give, shutdown] ∧ WithHidden o.source [give] [] [give] ∧
      ((Command.node root [give, shutdown]).parse o "shutdwn" {}).result =
        .error (.unparsed ⟨.unknownSubcommand "shutdwn" ["shutdown"] ["give"], "shutdwn", 0⟩) ∧
      ((Command.node root [give]).parse o "shutdwn" {}).result =
        .error (.unparsed ⟨.unknownSubcommand "shutdwn" [] ["give"], "shutdwn", 0⟩) := by
  intro o silent give shutdown root
  have hclose : closest 3 "shutdwn" ["give", "shutdown"] = ["shutdown"] := by decide +kernel
  have hnone : closest 3 "shutdwn" ["give"] = [] := by decide +kernel
  refine ⟨.shown give (.hidden rfl .nil), .shown give .nil, ?_, ?_⟩
  · rw [← hclose]
    rfl
  · exact congrArg (fun suggested : List String => Except.error (CommandFailure.unparsed
      ⟨.unknownSubcommand "shutdwn" suggested ["give"], "shutdwn", 0⟩)) hnone

end Command
end CommandGrammar
