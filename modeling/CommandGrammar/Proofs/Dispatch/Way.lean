/-
# The way of a line through a tree

`Command.Reaches` says which commands a line passes before a command takes it as its own: each of
them reads its flags and then finds a child by the next token.  A target that is found is reached, and
takes the line (`serves_of_resolve`), whatever the policies; so what is to be said about targets is
said about commands that a line reaches.

Finding a target and running the line both leave it to the child that is called, or take it as the
command's own (`resolveIn_eq`, `dispatchIn_eq`).
-/

import CommandGrammar.Proofs.Dispatch.Frames
import CommandGrammar.Proofs.Steps.Course

namespace CommandGrammar

/-- The run as it is seen from the parent of the first command of its path. -/
def Run.below (name : String) (x : Run) : Run := { x with path := name :: x.path }

/-- **A run below a name has the name in front of its path.** -/
@[simp] theorem Executor.below_runAt (e : Executor) (o : Occasion) (name : String)
    (path : List String) (context : Context) :
    (e.runAt o path context).below name = e.runAt o (name :: path) context := rfl

/-- A command that a line passes, and the child that it leaves the line to. -/
structure Passage where
  frame : CommandFrame
  children : List Command
  /-- Where its flags begin. -/
  before : Progress
  /-- Where its flags end. -/
  after : Progress
  /-- The token that names the child. -/
  alias_ : Token
  child : Command

/-- The names of the children that are passed to, in order. -/
def Passage.path (way : List Passage) : List String := way.map fun g => g.child.pathName

/-- Whether a source may pass a command on its way to a child. -/
def Passage.isOpenTo (g : Passage) (source : Source) : Bool :=
  !g.frame.guardsChildren || source.may g.frame.permission

namespace Command

/-- **What holds of a command whenever it holds of its children holds of every command.** -/
@[elab_as_elim]
theorem inductionOnChildren {P : Command → Prop}
    (node : ∀ f cs, (∀ c ∈ cs, P c) → P (.node f cs)) (c : Command) : P c := by
  refine Command.rec (motive_1 := P) (motive_2 := fun cs => ∀ c ∈ cs, P c) node ?_ ?_ c
  · intro c hc
    exact absurd hc List.not_mem_nil
  · intro c cs hc hcs d hd
    rcases List.mem_cons.1 hd with rfl | hd
    · exact hc
    · exact hcs d hd

/-- `Reaches o c p way d q`: from the progress `p`, the command `c` leaves the line to its children
along `way`, and the flags of `d` begin at `q`. -/
inductive Reaches (o : Occasion) : Command → Progress → List Passage → Command → Progress → Prop
  | here (c : Command) (p : Progress) : Reaches o c p [] c p
  | child {f : CommandFrame} {cs : List Command} {p q r s : Progress} {t : Token}
      {c d : Command} {way : List Passage}
      (flags : f.readFlags o cs p = ⟨.ok (), q, []⟩)
      (head : q.stream.head? = some t)
      (named : cs.find? (·.goesBy t.text) = some c)
      (next : Step.next q = ⟨.ok t.text, r, []⟩)
      (onward : Reaches o c r way d s) :
      Reaches o (.node f cs) p (⟨f, cs, p, q, t, c⟩ :: way) d s

section Reaches

variable {o : Occasion} {c d d' : Command} {p q q' : Progress} {way way' : List Passage}

/-- **A way is determined by how far it leads.** -/
theorem Reaches.unique (h : c.Reaches o p way d q) (h' : c.Reaches o p way' d' q')
    (hlen : way.length = way'.length) : way = way' ∧ d = d' ∧ q = q' := by
  induction h generalizing way' with
  | here c p =>
    cases h' with
    | here => exact ⟨rfl, rfl, rfl⟩
    | child => cases hlen
  | child flags head named next _ ih =>
    cases h' with
    | here => cases hlen
    | child flags' head' named' next' onward' =>
      -- Each part of a passage is a function of the parts before it.
      obtain ⟨-, rfl, -⟩ := Trial.mk.inj (flags.symm.trans flags')
      obtain rfl := Option.some.inj (head.symm.trans head')
      obtain rfl := Option.some.inj (named.symm.trans named')
      obtain ⟨-, rfl, -⟩ := Report.mk.inj (next.symm.trans next')
      obtain ⟨rfl, rfl, rfl⟩ := ih onward' (Nat.succ.inj hlen)
      exact ⟨rfl, rfl, rfl⟩

/-- **A way that goes on is a way.** -/
theorem Reaches.trans (h : c.Reaches o p way d q) {r : Progress} (h' : d.Reaches o q way' d' r) :
    c.Reaches o p (way ++ way') d' r := by
  induction h with
  | here c p => exact h'
  | child flags head named next _ ih => exact .child flags head named next (ih h')

/-- `c.Leads o p path way d`: from `c` at `p` the line comes along `way` to `d`; the names `path`
lead it there and nowhere else. -/
structure Leads (o : Occasion) (c : Command) (p : Progress) (path : List String)
    (way : List Passage) (d : Command) : Prop where
  reaches : ∃ q, c.Reaches o p way d q
  names : path = Passage.path way
  only : ∀ way' d' q, c.Reaches o p way' d' q → Passage.path way' = path → way' = way ∧ d' = d

/-- **A line that reaches a command is led there by the names on its way.** -/
theorem Reaches.leads (h : c.Reaches o p way d q) : c.Leads o p (Passage.path way) way d where
  reaches := ⟨q, h⟩
  names := rfl
  only way' d' q' h' hpath := by
    have hlen := congrArg List.length hpath
    rw [Passage.path, Passage.path, List.length_map, List.length_map] at hlen
    obtain ⟨hway, hd, -⟩ := h'.unique h hlen
    exact ⟨hway, hd⟩

end Reaches

/-- `d.Takes o p m q`: the flags of `d` take the line from `p` to `m`, and its own arguments take it
from there to its end at `q`. -/
structure Takes (o : Occasion) (d : Command) (p m q : Progress) : Prop where
  flags : d.frame.readFlags o d.children p = ⟨.ok (), m, []⟩
  own : d.frame.parseOwn o m = ⟨.ok (), q, []⟩
  /-- The source may run the command. -/
  allowed : d.mayUse o.source = true

variable {α : Type}

/-- What a command that its child is named in makes of the child's attempt `sub`: it checks who
passes, and with `back` it takes the line as its own if the child fails and it may. -/
def viaChild (o : Occasion) (f : CommandFrame) (sub : Attempt α)
    (back : CommandFailure → Attempt α) : Attempt α := do
  f.enterChild o
  if f.mayFallBack then sub.orElse back else sub

/-- The attempt to find a target in a child. -/
def resolveSub (o : Occasion) (c : Command) : Attempt Target := do
  let t ← c.goInto (resolve o c)
  return { t with path := c.pathName :: t.path }

/-- The child that a token names. -/
def called? (cs : List Command) (token : Option String) : Option Command :=
  token.bind fun t => cs.find? (·.goesBy t)

/-- **The first child that goes by the token is called.** -/
theorem called?_cons (c : Command) (cs : List Command) (token : Option String) :
    called? (c :: cs) token = if token.any c.goesBy then some c else called? cs token := by
  cases token with
  | none => rfl
  | some t =>
    unfold called?
    rw [Option.bind_some, List.find?_cons]
    cases h : c.goesBy t <;> simp [h]

/-- **A command finds its target in the child that is named, or is the target.** -/
theorem resolveIn_eq (o : Occasion) (f : CommandFrame) (cs : List Command) (token : Option String) :
    ∀ rest, resolveIn o f cs token rest = match called? rest token with
      | none => do
        f.enterOwn o cs
        return ⟨[], node f cs⟩
      | some c => viaChild o f (resolveSub o c) fun e => do
        f.fallBack o e
        return ⟨[], node f cs⟩
  | [] => by cases token <;> rw [resolveIn] <;> rfl
  | c :: rest => by
    rw [resolveIn, called?_cons]
    split
    · rfl
    · exact resolveIn_eq o f cs token rest

/-- **A command dispatches to the child that is named, or runs its own executor.** -/
theorem dispatchIn_eq (o : Occasion) (f : CommandFrame) (cs : List Command)
    (token : Option String) :
    ∀ rest, dispatchIn o f cs token rest = match called? rest token with
      | none => do
        f.enterOwn o cs
        f.execute o
      | some c => viaChild o f (c.goInto (dispatch o c)) fun e => do
        f.fallBack o e
        f.execute o
  | [] => by cases token <;> rw [dispatchIn] <;> rfl
  | c :: rest => by
    rw [dispatchIn, called?_cons]
    split
    · rfl
    · exact dispatchIn_eq o f cs token rest

/-- **A child goes on behind its name; if it fails, the name is unread again.** -/
theorem goInto_of_next {p r : Progress} {w : String} (h : Step.next p = ⟨.ok w, r, []⟩)
    (c : Command) (s : Attempt α) :
    c.goInto s p = match s r with
      | ⟨.ok a, q, runs⟩ => ⟨.ok a, q, runs.map (Run.below c.pathName)⟩
      | ⟨.error e, _, runs⟩ => ⟨.error e, p, runs.map (Run.below c.pathName)⟩ := by
  unfold goInto Attempt.atomic
  rw [Attempt.bind_of_ok (Attempt.ofStep_of_ok h)]
  unfold Attempt.under
  rcases s r with ⟨e | a, q, runs⟩ <;> rfl

/-- **A target that a child has found is a target of its parent.** -/
theorem resolveSub_of_ok {o : Occasion} {c : Command} {p q : Progress} {t : Target}
    {runs : List Run} (h : c.goInto (resolve o c) p = ⟨.ok t, q, runs⟩) :
    resolveSub o c p = ⟨.ok ⟨c.pathName :: t.path, t.command⟩, q, runs⟩ := by
  unfold resolveSub
  rw [Attempt.bind_of_ok h]
  exact congrArg (Trial.mk _ q) (List.append_nil runs)

/-- **A child that fails to resolve has nothing resolved below it.** -/
theorem resolveSub_of_error {o : Occasion} {c : Command} {p q : Progress} {e : CommandFailure}
    {runs : List Run} (h : c.goInto (resolve o c) p = ⟨.error e, q, runs⟩) :
    resolveSub o c p = ⟨.error e, q, runs⟩ := by
  unfold resolveSub
  rw [Attempt.bind_of_error h]

section viaChild

variable {o : Occasion} {f : CommandFrame} {sub : Attempt α} {back : CommandFailure → Attempt α}
  {p q : Progress} {runs : List Run}

/-- **A child that succeeds is the end of the way through it.** -/
theorem viaChild_of_ok (isOpen : (!f.guardsChildren || o.source.may f.permission) = true) {a : α}
    (h : sub p = ⟨.ok a, q, runs⟩) : viaChild o f sub back p = ⟨.ok a, q, runs⟩ := by
  unfold viaChild
  rw [Attempt.bind_of_ok (CommandFrame.enterChild_of_open isOpen p)]
  by_cases hback : f.mayFallBack = true
  · rw [if_pos hback, Attempt.orElse_of_ok h]
    rfl
  · rw [if_neg hback, h]
    rfl

/-- **A command that falls back goes on where its child has failed.** -/
theorem viaChild_of_error (isOpen : (!f.guardsChildren || o.source.may f.permission) = true)
    {e : CommandFailure} (h : sub p = ⟨.error e, q, runs⟩)
    (hback : f.mayFallBack = true) (hrec : e.isRecoverable = true) :
    viaChild o f sub back p = { back e q with runs := runs ++ (back e q).runs } := by
  unfold viaChild
  rw [Attempt.bind_of_ok (CommandFrame.enterChild_of_open isOpen p), if_pos hback,
    Attempt.orElse_of_error h hrec]
  rfl

/-- **Otherwise the failure of a child is that of the command.** -/
theorem viaChild_of_rethrow (isOpen : (!f.guardsChildren || o.source.may f.permission) = true)
    {e : CommandFailure} (h : sub p = ⟨.error e, q, runs⟩)
    (hback : ¬(f.mayFallBack = true ∧ e.isRecoverable = true)) :
    viaChild o f sub back p = ⟨.error e, q, runs⟩ := by
  unfold viaChild
  rw [Attempt.bind_of_ok (CommandFrame.enterChild_of_open isOpen p)]
  by_cases hf : f.mayFallBack = true
  · have hrec : e.isRecoverable = false := by simpa [hf] using hback
    rw [if_pos hf, Attempt.orElse_of_broken h hrec]
    rfl
  · rw [if_neg hf, h]
    rfl

/-- **A child's line is taken by the child, or by a command that falls back.** -/
theorem of_viaChild_ok {a : α} (h : viaChild o f sub back p = ⟨.ok a, q, runs⟩) :
    (!f.guardsChildren || o.source.may f.permission) = true ∧
      ((∃ rs, sub p = ⟨.ok a, q, rs⟩) ∨ f.mayFallBack = true ∧
        ∃ e r rs rs', sub p = ⟨.error e, r, rs⟩ ∧ back e r = ⟨.ok a, q, rs'⟩) := by
  obtain ⟨_, m, _, _, henter, -, -⟩ := Attempt.exists_of_bind_ok h
  obtain ⟨isOpen, -⟩ := CommandFrame.of_enterChild henter
  refine ⟨isOpen, ?_⟩
  rcases hs : sub p with ⟨e | b, r, rs⟩
  · by_cases hback : f.mayFallBack = true ∧ e.isRecoverable = true
    · rw [viaChild_of_error isOpen hs hback.1 hback.2] at h
      obtain ⟨hresult, hprogress, -⟩ := Trial.mk.inj h
      exact .inr ⟨hback.1, e, r, rs, (back e r).runs, rfl, by rw [← hresult, ← hprogress]⟩
    · rw [viaChild_of_rethrow isOpen hs hback] at h
      cases h
  · rw [viaChild_of_ok isOpen hs] at h
    cases h
    exact .inl ⟨_, rfl⟩

end viaChild

/-- **The child that is called is named by the token ahead.** -/
theorem of_called? {cs : List Command} {head? : Option Token} {c : Command}
    (h : called? cs (head?.map Token.text) = some c) :
    ∃ t, head? = some t ∧ cs.find? (·.goesBy t.text) = some c := by
  cases head? with
  | none => cases h
  | some t => exact ⟨t, rfl, h⟩

/-- `c.Serves o p path d q`: the line reaches `d` from `c` at `p` along a way that is open to the
source, and `d` takes it to its end at `q`. -/
def Serves (o : Occasion) (c : Command) (p : Progress) (path : List String) (d : Command)
    (q : Progress) : Prop :=
  ∃ way s m, c.Reaches o p way d s ∧ path = Passage.path way ∧ d.Takes o s m q ∧
    ∀ g ∈ way, g.isOpenTo o.source = true

section Serves

variable {o : Occasion} {c d : Command} {p m q r : Progress} {g : Passage} {path : List String}

/-- **A command serves the line that it takes.** -/
theorem Takes.serves (h : c.Takes o p m q) : c.Serves o p [] c q :=
  ⟨[], p, m, .here _ _, rfl, h, fun _ h => absurd h List.not_mem_nil⟩

/-- **A command serves the line that the child it names serves.** -/
theorem Serves.below (leaves : c.Reaches o p [g] g.child r) (isOpen : g.isOpenTo o.source = true)
    (h : g.child.Serves o r path d q) : c.Serves o p (g.child.pathName :: path) d q := by
  obtain ⟨way, s, k, hw, hpath, htakes, hopen⟩ := h
  refine ⟨g :: way, s, k, leaves.trans hw, congrArg (g.child.pathName :: ·) hpath, htakes, ?_⟩
  intro g' hg
  rcases List.mem_cons.1 hg with rfl | hg
  · exact isOpen
  · exact hopen g' hg

end Serves

section dispatch

variable {o : Occasion} {f : CommandFrame} {cs : List Command} {c : Command} {p q r : Progress}

/-- **A target is found after the flags are read.** -/
theorem exists_of_resolve_ok {t : Target} {runs : List Run}
    (h : resolve o (node f cs) p = ⟨.ok t, q, runs⟩) :
    ∃ m rs, f.readFlags o cs p = ⟨.ok (), m, []⟩ ∧
      resolveIn o f cs (m.stream.head?.map Token.text) cs m = ⟨.ok t, q, rs⟩ := by
  rw [resolve] at h
  obtain ⟨_, m, _, _, hf, h, -⟩ := Attempt.exists_of_bind_ok h
  obtain ⟨_, _, _, rs, hn, h, -⟩ := Attempt.exists_of_bind_ok h
  obtain ⟨ht, rfl, -⟩ := Trial.mk.inj hn
  cases ht
  exact ⟨m, rs, by rw [hf, (CommandFrame.quiet_readFlags o f cs).runs_eq_nil hf], h⟩

/-- **A target in a child is a target of the child.** -/
theorem exists_of_resolveSub_ok {w : String} (hnext : Step.next p = ⟨.ok w, r, []⟩) {t : Target}
    {runs : List Run} (h : resolveSub o c p = ⟨.ok t, q, runs⟩) :
    ∃ path rs, resolve o c r = ⟨.ok ⟨path, t.command⟩, q, rs⟩ ∧ t.path = c.pathName :: path := by
  obtain ⟨u, _, _, _, hgo, hret, -⟩ := Attempt.exists_of_bind_ok h
  obtain ⟨ht, rfl, -⟩ := Trial.mk.inj hret
  cases ht
  rw [goInto_of_next hnext] at hgo
  split at hgo
  · rename_i rs hres
    obtain ⟨ha, rfl, -⟩ := Trial.mk.inj hgo
    cases ha
    exact ⟨u.path, rs, hres, rfl⟩
  · cases (Trial.mk.inj hgo).1

/-- **A child that fails leaves the line where it was.** -/
theorem progress_of_goInto_error {α : Type} {w : String} (hnext : Step.next p = ⟨.ok w, r, []⟩)
    {s : Attempt α} {e : CommandFailure} {runs : List Run}
    (h : c.goInto s p = ⟨.error e, q, runs⟩) : q = p := by
  rw [goInto_of_next hnext] at h
  split at h
  · cases (Trial.mk.inj h).1
  · exact (Trial.mk.inj h).2.1.symm

end dispatch

/-- **The search for a target leaves the line where it was, too.** -/
theorem progress_of_resolveSub_error {o : Occasion} {c : Command} {p q r : Progress} {w : String}
    (hnext : Step.next p = ⟨.ok w, r, []⟩) {e : CommandFailure} {runs : List Run}
    (h : resolveSub o c p = ⟨.error e, q, runs⟩) : q = p := by
  rcases hg : c.goInto (resolve o c) p with ⟨e' | t, q', rs⟩
  · rw [resolveSub_of_error hg] at h
    rw [← (Trial.mk.inj h).2.1]
    exact progress_of_goInto_error hnext hg
  · rw [resolveSub_of_ok hg] at h
    cases (Trial.mk.inj h).1

/-- **A target serves the line and has an executor.** -/
theorem serves_of_resolve (o : Occasion) (c : Command) :
    ∀ {p q : Progress} {t : Target} {runs : List Run}, resolve o c p = ⟨.ok t, q, runs⟩ →
      c.Serves o p t.path t.command q ∧ t.command.frame.executor.isSome = true := by
  induction c using inductionOnChildren with
  | node f cs ih =>
    intro p q t runs h
    obtain ⟨m, rs, hflags, h⟩ := exists_of_resolve_ok h
    rw [resolveIn_eq] at h
    split at h
    · obtain ⟨_, _, _, _, he, hr, -⟩ := Attempt.exists_of_bind_ok h
      obtain ⟨hmay, hexec, hown⟩ := CommandFrame.of_enterOwn he
      obtain ⟨ht, rfl, -⟩ := Trial.mk.inj hr
      cases ht
      exact ⟨Takes.serves ⟨hflags, hown, hmay⟩, hexec⟩
    · rename_i d hd
      obtain ⟨t₀, hhead, hfind⟩ := of_called? hd
      obtain ⟨r, hnext⟩ := Step.next_of_head? hhead
      obtain ⟨hg, ⟨_, hsub⟩ | ⟨hfb, e, r', _, _, hsub, hback⟩⟩ := of_viaChild_ok h
      · obtain ⟨path, _, hres, hpath⟩ := exists_of_resolveSub_ok hnext hsub
        obtain ⟨hserves, hexec⟩ := ih d (List.mem_of_find?_eq_some hfind) hres
        have leaves : (node f cs).Reaches o p [⟨f, cs, p, m, t₀, d⟩] d r :=
          .child hflags hhead hfind hnext (.here d r)
        exact ⟨hpath ▸ hserves.below (g := ⟨f, cs, p, m, t₀, d⟩) leaves hg, hexec⟩
      · obtain rfl := progress_of_resolveSub_error hnext hsub
        obtain ⟨_, _, _, _, hf, hr, -⟩ := Attempt.exists_of_bind_ok hback
        obtain ⟨hmay, hown⟩ := CommandFrame.of_fallBack hf
        obtain ⟨ht, rfl, -⟩ := Trial.mk.inj hr
        cases ht
        exact ⟨Takes.serves ⟨hflags, hown, hmay⟩, (Bool.and_eq_true_iff.1 hfb).2⟩

/-- **The target of a line serves it.** -/
theorem serves_of_parse {o : Occasion} {c : Command} {line : String} {context : Context}
    {t : Target} (h : (c.parse o line context).result = .ok t) :
    c.Serves o (c.atStart line context) t.path t.command (c.parse o line context).progress := by
  unfold parse at h ⊢
  rcases hr : resolve o c (c.atStart line context) with ⟨r, q, runs⟩
  rw [hr] at h
  obtain rfl : r = .ok t := h
  exact (serves_of_resolve o c hr).1

end Command
end CommandGrammar
