/-
# A failed child leaves no trace

A command that falls back takes the line as if its child had not been there.  To say so, two trees
are compared that differ in one subtree: a `Level` is a command without one of its children, and
`Command.within` puts a command in the place that a list of levels leaves open.

| what the subtree may do | why it is not seen above |
| --- | --- |
| read flags and tokens, bind values | a child that fails takes both back (`goInto_of_next`) |
| run executors | their runs are recorded, and nothing else (`Trial.SameBehind`) |
| fail for one reason or another | a command that falls back and succeeds has no failure to give |

The names of the subtree are seen: they tell whether a line is left to it.  So they are the same in
both trees.
-/

import CommandGrammar.Host.Usual
import CommandGrammar.Proofs.Dispatch.Way

namespace CommandGrammar

/-- The run as it is seen from the command that a path begins at. -/
def Run.beneath (path : List String) (x : Run) : Run := { x with path := path ++ x.path }

/-- **What is beneath a path is below each of its names.** -/
theorem Run.map_below_map_beneath (name : String) (path : List String) (runs : List Run) :
    (runs.map (Run.beneath path)).map (Run.below name) = runs.map (Run.beneath (name :: path)) := by
  rw [List.map_map]
  rfl

/-- **Runs below a name, beneath a path, are beneath the path with the name.** -/
theorem Run.map_beneath_map_below (path : List String) (name : String) (runs : List Run) :
    (runs.map (Run.below name)).map (Run.beneath path) =
      runs.map (Run.beneath (path ++ [name])) := by
  simp [Run.beneath, Run.below, Function.comp_def]

/-- **A run beneath a path is the run at that path.** -/
theorem Executor.beneath_runAt (e : Executor) (o : Occasion) (path : List String)
    (context : Context) : (e.runAt o [] context).beneath path = e.runAt o path context := by
  simp [Run.beneath, runAt]

/-- **Beneath the empty path runs stay as they are.** -/
theorem Run.map_beneath_nil (runs : List Run) : runs.map (Run.beneath []) = runs := List.map_id _

/-- Whether a trial has failed with something that a command may recover from. -/
def Trial.hasFailed {α : Type} (t : Trial α) : Bool :=
  match t.result with
  | .error e => e.isRecoverable
  | .ok _ => false

/-- `Trial.SameBehind tried tried' t t'`: the trials go on alike behind the runs `tried` and
`tried'`. -/
def Trial.SameBehind (tried tried' : List Run) (t t' : Trial Tally) : Prop :=
  ∃ result q rest, t = ⟨result, q, tried ++ rest⟩ ∧ t' = ⟨result, q, tried' ++ rest⟩

/-- A command without one of its children. -/
structure Level where
  frame : CommandFrame
  before : List Command
  after : List Command

/-- The children with one in the open place. -/
def Level.fill (l : Level) (c : Command) : List Command := l.before ++ c :: l.after

/-- The command with a child in the open place. -/
def Level.around (l : Level) (c : Command) : Command := .node l.frame (l.fill c)

namespace Command

/-- The tree with a command in the place that the levels leave open, the root first. -/
def within (levels : List Level) (c : Command) : Command := levels.foldr Level.around c

/-- The names that lead to that place. -/
def pathWithin : List Level → Command → List String
  | [], _ => []
  | _ :: levels, c => (within levels c).pathName :: pathWithin levels c

variable {o : Occasion} {levels : List Level} {l : Level} {c c' : Command} {p m q r s : Progress}

section names

variable (names : c'.frame.names = c.frame.names)
include names

/-- **Commands with the same names go by the same names.** -/
theorem goesBy_congr (w : String) : c'.goesBy w = c.goesBy w := by
  unfold goesBy
  rw [names]

/-- **A command with the same frame has the same name in paths.** -/
theorem pathName_congr : c'.pathName = c.pathName := by
  unfold pathName name
  rw [names]

/-- **Levels around two commands with the same names have the same names.** -/
theorem names_within (levels : List Level) :
    (within levels c').frame.names = (within levels c).frame.names := by
  cases levels with
  | nil => exact names
  | cons l rest => rfl

/-- **They have the same path.** -/
theorem pathWithin_congr (levels : List Level) : pathWithin levels c' = pathWithin levels c := by
  induction levels with
  | nil => rfl
  | cons l rest ih =>
    unfold pathWithin
    rw [pathName_congr (names_within names rest), ih]

/-- **The same words name a child.** -/
theorem any_goesBy_fill (l : Level) (w : String) :
    (l.fill c').any (·.goesBy w) = (l.fill c).any (·.goesBy w) := by
  simp [Level.fill, goesBy_congr names w]

/-- **The flags of a command end at the same token.** -/
theorem readFlags_around (o : Occasion) (l : Level) :
    l.frame.readFlags o (l.fill c') = l.frame.readFlags o (l.fill c) := by
  unfold CommandFrame.readFlags
  simp only [any_goesBy_fill names l]

end names

/-- **A word that no child before it goes by names the child in the open place.** -/
theorem find?_fill {w : String} (goes : c.goesBy w = true)
    (before : ∀ b ∈ l.before, b.goesBy w = false) :
    (l.fill c).find? (·.goesBy w) = some c := by
  have hnone : l.before.find? (·.goesBy w) = none := by simpa using before
  simp [Level.fill, List.find?_append, hnone, goes]

/-- `l.Passes o c p m r`: with the child `c`, the command reads its flags from `p` to `m`, and
leaves the line at `r` to this child. -/
structure Passes (o : Occasion) (l : Level) (c : Command) (p m r : Progress) : Prop where
  flags : l.frame.readFlags o (l.fill c) p = ⟨.ok (), m, []⟩
  named : ∃ t, m.stream.head? = some t ∧ Step.next m = ⟨.ok t.text, r, []⟩ ∧
    c.goesBy t.text = true ∧ ∀ b ∈ l.before, b.goesBy t.text = false

/-- **The line is left to any child of the same names.** -/
theorem Passes.congr (names : c'.frame.names = c.frame.names) (h : Passes o l c p m r) :
    Passes o l c' p m r where
  flags := by
    rw [readFlags_around names]
    exact h.flags
  named := by
    obtain ⟨t, hhead, hnext, hgoes, hbefore⟩ := h.named
    exact ⟨t, hhead, hnext, by rw [goesBy_congr names, hgoes], hbefore⟩

/-- **The child is the one that is called.** -/
theorem Passes.called (h : Passes o l c p m r) :
    called? (l.fill c) (m.stream.head?.map Token.text) = some c := by
  obtain ⟨t, hhead, -, hgoes, hbefore⟩ := h.named
  rw [hhead]
  exact find?_fill hgoes hbefore

/-- **A line that passes a level is run through the child there.** -/
theorem Passes.dispatch_eq (h : Passes o l c p m r) :
    dispatch o (l.around c) p = viaChild o l.frame (c.goInto (dispatch o c)) (fun e => do
      l.frame.fallBack o e
      l.frame.execute o) m := by
  rw [Level.around, dispatch, Attempt.bind_of_ok h.flags]
  change dispatchIn o l.frame (l.fill c) (m.stream.head?.map Token.text) (l.fill c) m = _
  rw [dispatchIn_eq, h.called]

/-- **It is resolved through the child there.** -/
theorem Passes.resolve_eq (h : Passes o l c p m r) :
    resolve o (l.around c) p = viaChild o l.frame (resolveSub o c) (fun e => do
      l.frame.fallBack o e
      return ⟨[], l.around c⟩) m := by
  rw [Level.around, resolve, Attempt.bind_of_ok h.flags]
  change resolveIn o l.frame (l.fill c) (m.stream.head?.map Token.text) (l.fill c) m = _
  rw [resolveIn_eq, h.called]

/-- **Nothing of a failed child is left but its runs.** -/
theorem Passes.goInto_of_hasFailed {α : Type} (h : Passes o l c p m r) {sub : Attempt α}
    (hfailed : (sub r).hasFailed = true) :
    ∃ e, e.isRecoverable = true ∧
      c.goInto sub m = ⟨.error e, m, (sub r).runs.map (Run.below c.pathName)⟩ := by
  obtain ⟨t, -, hnext, -⟩ := h.named
  have hgo := goInto_of_next hnext c sub
  rcases hs : sub r with ⟨e | a, q, runs⟩ <;> rw [hs] at hfailed hgo
  · exact ⟨e, hfailed, hgo⟩
  · cases hfailed

/-- **What goes on alike in a child goes on alike in a command that leaves the line to it.** -/
theorem sameBehind_around {tried tried' : List Run} (names : c'.frame.names = c.frame.names)
    (h : Passes o l c p m r)
    (isOpen : (!l.frame.guardsChildren || o.source.may l.frame.permission) = true)
    (hsame : Trial.SameBehind tried tried' (dispatch o c r) (dispatch o c' r)) :
    Trial.SameBehind (tried.map (Run.below c.pathName)) (tried'.map (Run.below c.pathName))
      (dispatch o (l.around c) p) (dispatch o (l.around c') p) := by
  have h' : Passes o l c' p m r := h.congr names
  obtain ⟨t, -, hnext, -⟩ := h.named
  have hgo := goInto_of_next hnext c (dispatch o c)
  have hgo' := goInto_of_next hnext c' (dispatch o c')
  obtain ⟨result, q, rest, hdispatch, hdispatch'⟩ := hsame
  rw [hdispatch] at hgo
  rw [hdispatch', pathName_congr names] at hgo'
  rw [h.dispatch_eq, h'.dispatch_eq]
  rcases result with e | a
  · by_cases hback : l.frame.mayFallBack = true ∧ e.isRecoverable = true
    · rw [viaChild_of_error isOpen hgo hback.1 hback.2,
        viaChild_of_error isOpen hgo' hback.1 hback.2]
      simp only [List.map_append, List.append_assoc]
      exact ⟨_, _, _, rfl, rfl⟩
    · rw [viaChild_of_rethrow isOpen hgo hback, viaChild_of_rethrow isOpen hgo' hback]
      simp only [List.map_append]
      exact ⟨_, _, _, rfl, rfl⟩
  · rw [viaChild_of_ok isOpen hgo, viaChild_of_ok isOpen hgo']
    simp only [List.map_append]
    exact ⟨_, _, _, rfl, rfl⟩

/-- `Enters o levels c p q`: the line goes from the root of the tree at `p` down all levels, and
comes to `c` at `q`.  The commands that it passes let the source through. -/
inductive Enters (o : Occasion) : List Level → Command → Progress → Progress → Prop
  | here (c : Command) (p : Progress) : Enters o [] c p p
  | down {l : Level} {levels : List Level} {c : Command} {p m r q : Progress}
      (passes : Passes o l (within levels c) p m r)
      (isOpen : (!l.frame.guardsChildren || o.source.may l.frame.permission) = true)
      (onward : Enters o levels c r q) : Enters o (l :: levels) c p q

/-- **What goes on alike in a command goes on alike in the tree around it.** -/
theorem Enters.sameBehind {tried tried' : List Run} (names : c'.frame.names = c.frame.names)
    (h : Enters o levels c p q)
    (hsame : Trial.SameBehind tried tried' (dispatch o c q) (dispatch o c' q)) :
    Trial.SameBehind (tried.map (Run.beneath (pathWithin levels c)))
      (tried'.map (Run.beneath (pathWithin levels c)))
      (dispatch o (within levels c) p) (dispatch o (within levels c') p) := by
  induction h with
  | here c p =>
    simp only [pathWithin, Run.map_beneath_nil]
    exact hsame
  | @down l levels c p m r q passes isOpen _ ih =>
    have hbelow := sameBehind_around (names_within names levels) passes isOpen (ih names hsame)
    rw [Run.map_below_map_beneath, Run.map_below_map_beneath] at hbelow
    exact hbelow

/-- **A target of a command is a target of the tree around it.** -/
theorem Enters.resolve_eq {t : Target} {runs : List Run} (h : Enters o levels c p q)
    (hresolve : resolve o c q = ⟨.ok t, s, runs⟩) :
    ∃ rs, resolve o (within levels c) p =
      ⟨.ok ⟨pathWithin levels c ++ t.path, t.command⟩, s, rs⟩ := by
  induction h with
  | here c p => exact ⟨runs, hresolve⟩
  | @down l levels c p m r q passes isOpen _ ih =>
    obtain ⟨rs, hrs⟩ := ih hresolve
    obtain ⟨t', -, hnext, -⟩ := passes.named
    have hgo := goInto_of_next hnext (within levels c) (resolve o (within levels c))
    rw [hrs] at hgo
    exact ⟨_, passes.resolve_eq.trans (viaChild_of_ok isOpen (resolveSub_of_ok hgo))⟩

/-- **The line comes to the place whatever stands there**, if it goes by the same names. -/
theorem Enters.congr (names : c'.frame.names = c.frame.names) (h : Enters o levels c p q) :
    Enters o levels c' p q := by
  induction h with
  | here c p => exact .here c' p
  | @down l levels c p m r q passes isOpen _ ih =>
    exact .down (passes.congr (names_within names levels)) isOpen (ih names)

/-- `Retakes o levels l c p m r q e`: a line comes down to a command that leaves it to its child `c`
at `r`.  The command falls back from its children; it takes the line itself, which ends at `q`, and
has the executor `e` for it. -/
structure Retakes (o : Occasion) (levels : List Level) (l : Level) (c : Command)
    (p m r q : Progress) (e : Executor) : Prop where
  comes : ∃ s, Enters o levels (l.around c) p s ∧ Passes o l c s m r
  policy : l.frame.onChildFailure = .fallBack
  executor : l.frame.executor = some e
  allowed : o.source.may l.frame.permission = true
  own : l.frame.parseOwn o m = ⟨.ok (), q, []⟩

section Retakes

variable {e : Executor} (h : Retakes o levels l c p m r q e)
include h

/-- **Who retakes a line does so whichever child with those names is inside.** -/
theorem Retakes.congr (names : c'.frame.names = c.frame.names) :
    Retakes o levels l c' p m r q e where
  comes := h.comes.imp fun _ hs => ⟨Enters.congr (by rfl) hs.1, hs.2.congr names⟩
  policy := h.policy
  executor := h.executor
  allowed := h.allowed
  own := h.own

/-- **A level that retakes a line may fall back.** -/
theorem Retakes.mayFallBack : l.frame.mayFallBack = true := by
  simp [CommandFrame.mayFallBack, h.policy, h.executor]

/-- **It is open to the source.** -/
theorem Retakes.isOpen : (!l.frame.guardsChildren || o.source.may l.frame.permission) = true := by
  rw [h.allowed, Bool.or_true]

/-- **A command is the target of a line on which its child fails.** -/
theorem Retakes.resolve_eq (hfailed : (resolve o c r).hasFailed = true) :
    ∃ runs, resolve o (within levels (l.around c)) p =
      ⟨.ok ⟨pathWithin levels (l.around c), l.around c⟩, q, runs⟩ := by
  obtain ⟨s, henters, hpasses⟩ := h.comes
  obtain ⟨why, hrec, hgo⟩ := hpasses.goInto_of_hasFailed hfailed
  have hback := l.frame.fallBack_of_parseOwn h.allowed h.own why
  have hresolve : ∃ runs, resolve o (l.around c) s = ⟨.ok ⟨[], l.around c⟩, q, runs⟩ := by
    rw [hpasses.resolve_eq,
      viaChild_of_error h.isOpen (resolveSub_of_error hgo) h.mayFallBack hrec,
      Attempt.bind_of_ok hback]
    exact ⟨_, rfl⟩
  obtain ⟨runs, hresolve⟩ := hresolve
  obtain ⟨rs, hrs⟩ := henters.resolve_eq hresolve
  rw [List.append_nil] at hrs
  exact ⟨rs, hrs⟩

/-- **A command runs its executor on a line on which its child fails.** -/
theorem Retakes.dispatch_eq {s : Progress} (hpasses : Passes o l c s m r)
    (hfailed : (dispatch o c r).hasFailed = true) :
    dispatch o (l.around c) s = ⟨CommandFrame.resultOf (e.run o.source q.context).ending, q,
      (dispatch o c r).runs.map (Run.below c.pathName) ++ [e.runAt o [] q.context]⟩ := by
  obtain ⟨why, hrec, hgo⟩ := hpasses.goInto_of_hasFailed hfailed
  have hback := l.frame.fallBack_of_parseOwn h.allowed h.own why
  rw [hpasses.dispatch_eq, viaChild_of_error h.isOpen hgo h.mayFallBack hrec,
    Attempt.bind_of_ok hback, CommandFrame.execute_of_some h.executor]
  rfl

end Retakes

/-- **A failed child leaves no trace.**  Let a line come to a command that falls back from its
children and takes the line itself, after it has left it to a child.  Put another child of the same
names in that place.  If both children fail on the line, then the line has the command as its target
in both trees, with the same bindings and the same tokens read.  And if both fail when the line is
run, then the runs of each are followed by the same run of the command's executor, on the same
bindings, and by the same runs after that; both lines end alike. -/
theorem failed_child_leaves_no_trace (o : Occasion) (levels : List Level) (l : Level)
    (c c' : Command) (line : String) (names : c'.frame.names = c.frame.names) :
    (∀ context m r q e,
      Retakes o levels l c ((within levels (l.around c)).atStart line context) m r q e →
      (resolve o c r).hasFailed = true → (resolve o c' r).hasFailed = true →
        (∃ runs, (within levels (l.around c)).parse o line context =
          ⟨.ok ⟨pathWithin levels (l.around c), l.around c⟩, q, runs⟩) ∧
        ∃ runs, (within levels (l.around c')).parse o line context =
          ⟨.ok ⟨pathWithin levels (l.around c), l.around c'⟩, q, runs⟩) ∧
    ∀ m r q e, Retakes o levels l c ((within levels (l.around c)).atStart line {}) m r q e →
      (dispatch o c r).hasFailed = true → (dispatch o c' r).hasFailed = true →
        ∃ path result last rest, path = pathWithin levels (l.around c) ∧
          (within levels (l.around c)).process o line = ⟨result, last,
            (dispatch o c r).runs.map (Run.beneath (path ++ [c.pathName])) ++
              e.runAt o path q.context :: rest⟩ ∧
          (within levels (l.around c')).process o line = ⟨result, last,
            (dispatch o c' r).runs.map (Run.beneath (path ++ [c.pathName])) ++
              e.runAt o path q.context :: rest⟩ := by
  have hnames : (l.around c').frame.names = (l.around c).frame.names := rfl
  have hstart : ∀ context, (within levels (l.around c')).atStart line context =
      (within levels (l.around c)).atStart line context := by
    intro context
    cases levels <;> rfl
  constructor
  · intro context m r q e h hfailed hfailed'
    have hresolve := (h.congr names).resolve_eq hfailed'
    rw [pathWithin_congr hnames, ← hstart] at hresolve
    exact ⟨h.resolve_eq hfailed, hresolve⟩
  · intro m r q e h hfailed hfailed'
    obtain ⟨s, henters, hpasses⟩ := h.comes
    have hrun := h.dispatch_eq hpasses hfailed
    have hrun' := (h.congr names).dispatch_eq (hpasses.congr names) hfailed'
    rw [pathName_congr names] at hrun'
    obtain ⟨result, last, rest, hroot, hroot'⟩ := henters.sameBehind hnames
      ⟨_, q, [], hrun.trans (by rw [List.append_nil]), hrun'.trans (by rw [List.append_nil])⟩
    refine ⟨_, result, last, rest, rfl, ?_, ?_⟩
    · unfold process
      rw [hroot, List.map_append, Run.map_beneath_map_below, List.append_assoc]
      simp [Executor.beneath_runAt]
    · unfold process
      rw [hstart, hroot', List.map_append, Run.map_beneath_map_below, List.append_assoc]
      simp [Executor.beneath_runAt]

/-- **A shop takes what buying refuses**: the words `buy tea` are its own, whether its child `buy`
is denied or comes to nothing when it is run. -/
theorem shop_takes_what_buying_refuses :
    let o : Occasion := ⟨.bare "tester", ⟨2024, 5, 31, 12, 34, 56, 789012, none⟩, .usual⟩
    let browse : Executor := ⟨"browse", fun _ _ => { ending := .silent }⟩
    let pay : Executor := ⟨"pay", fun _ _ => { ending := .refused "Too poor." }⟩
    let word : Parameter := .leaf { key := "word" } .text
    let shop : Level :=
      ⟨{ names := ["shop"], parameter := .all {} [word, word], executor := some browse
         onChildFailure := .fallBack }, [], []⟩
    let denied : Command := .node { names := ["buy"], permission := some "trade" } []
    let failing : Command := .node { names := ["buy"], parameter := word, executor := some pay } []
    let levels : List Level := [⟨{ splitting := .spaced }, [], []⟩]
    let line := "shop buy tea"
    let s : TokenStream := .ofTokens line [⟨"shop", 0, 4⟩, ⟨"buy", 5, 8⟩, ⟨"tea", 9, 12⟩] none
    let s₁ := s.withCursor 1 (by decide)
    let s₂ := s.withCursor 2 (by decide)
    let s₃ := s.withCursor 3 (by decide)
    let context : Context := { entries := [("word", [.text "buy", .text "tea"])] }
    failing.frame.names = denied.frame.names ∧
      (within levels (shop.around denied)).atStart line {} = ⟨s, {}⟩ ∧
      Retakes o levels shop denied ⟨s, {}⟩ ⟨s₁, {}⟩ ⟨s₂, {}⟩ ⟨s₃, context⟩ browse ∧
      (dispatch o denied ⟨s₂, {}⟩).hasFailed = true ∧
      (dispatch o failing ⟨s₂, {}⟩).hasFailed = true ∧
      ∃ path result last rest,
        (within levels (shop.around denied)).process o line = ⟨result, last,
          browse.runAt o path context :: rest⟩ ∧
        (within levels (shop.around failing)).process o line = ⟨result, last,
          pay.runAt o (path ++ [denied.pathName]) { entries := [("word", [.text "tea"])] } ::
            browse.runAt o path context :: rest⟩ := by
  intro o browse pay word shop denied failing levels line s s₁ s₂ s₃ context
  have hsplit : Splitting.spaced.split "shop buy tea" false =
      ([⟨"shop", 0, 4⟩, ⟨"buy", 5, 8⟩, ⟨"tea", 9, 12⟩], none) := rfl
  have hstart : (within levels (shop.around denied)).atStart line {} = ⟨s, {}⟩ :=
    congrArg (Progress.mk · {}) (TokenStream.ofLine_of_split hsplit)
  have hretakes : Retakes o levels shop denied ⟨s, {}⟩ ⟨s₁, {}⟩ ⟨s₂, {}⟩ ⟨s₃, context⟩ browse := by
    refine ⟨⟨⟨s₁, {}⟩, .down ⟨rfl, _, rfl, rfl, rfl, ?_⟩ rfl (.here _ _),
      ⟨rfl, _, rfl, rfl, rfl, ?_⟩⟩, rfl, rfl, rfl, rfl⟩
    · exact fun _ h => absurd h List.not_mem_nil
    · exact fun _ h => absurd h List.not_mem_nil
  have hboth := (failed_child_leaves_no_trace o levels shop denied failing line rfl).2
  rw [hstart] at hboth
  obtain ⟨path, result, last, rest, -, hdenied, hfailing⟩ := hboth _ _ _ _ hretakes rfl rfl
  have hruns : (dispatch o failing ⟨s₂, {}⟩).runs =
      [pay.runAt o [] { entries := [("word", [.text "tea"])] }] := rfl
  rw [hruns, List.map_singleton, Executor.beneath_runAt] at hfailing
  exact ⟨rfl, hstart, hretakes, rfl, rfl, path, result, last, rest, hdenied, hfailing⟩

end Command
end CommandGrammar
