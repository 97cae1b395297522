/-
# What an attempt is confined to

`Attempt.Confined I E` says of an attempt that from a stream in `I` it comes to streams in `I`, and
that it fails only with failures in `E`.  The combinators of attempts keep to that, so a command is
confined if the few places are where it reads something or fails with a problem of the line:

| place | what is asked |
| --- | --- |
| the flags of a command | confined |
| its own arguments | confined |
| the name of a child | confined |
| a missing child | a problem at the cursor is in `E` |
| denials and executors | their failures are in `E` |

Which policies, permissions and executors stand between those places does not matter: of a failed
child and a failed fallback, one is blamed (`CommandFailure.blame_eq_or`).
-/

import CommandGrammar.Proofs.Dispatch.Way

namespace CommandGrammar

/-- Whether the failure is about the words of a line. -/
def CommandFailure.isOfLine : CommandFailure → Bool
  | .unparsed _ | .broken _ => true
  | _ => false

/-- **One of two failures is blamed.** -/
theorem CommandFailure.blame_eq_or (child own : CommandFailure) :
    child.blame own = child ∨ child.blame own = own := by
  unfold blame
  split
  · exact .inr rfl
  · rename_i e f
    unfold ParseError.deepest
    rw [List.foldl_cons, List.foldl_nil]
    split
    · exact .inr rfl
    · exact .inl rfl
  · exact .inl rfl

namespace Attempt

variable {α β : Type} {I : TokenStream → Prop} {E : CommandFailure → Prop}

/-- The attempt leads from streams in `I` to streams in `I`, and fails only with failures in `E`. -/
def Confined (I : TokenStream → Prop) (E : CommandFailure → Prop) (s : Attempt α) : Prop :=
  ∀ p, I p.stream → I (s p).progress.stream ∧ ∀ e, (s p).result = .error e → E e

/-- **A result alone is confined.** -/
theorem confined_pure (a : α) : Confined I E (pure a) := fun _ hp => ⟨hp, fun _ he => nomatch he⟩

/-- **A failure is confined to its kind.** -/
theorem confined_fail {e : CommandFailure} (he : E e) : Confined I E (fail e : Attempt α) :=
  fun _ hp => ⟨hp, fun _ he' => by cases he'; exact he⟩

/-- **A step is confined if it is so by itself.** -/
theorem confined_ofStep {s : Step α} (h : ∀ p, I p.stream → I (s p).progress.stream ∧
    ∀ e, (s p).result = .error e → E (failureOf e)) : Confined I E (ofStep s) := fun p hp => by
  refine ⟨(h p hp).1, fun e he => ?_⟩
  obtain ⟨why, hwhy, rfl⟩ := exists_of_ofStep_error (s := s) (p := p)
    (show ofStep s p = ⟨.error e, _, _⟩ by rw [← he])
  exact (h p hp).2 why hwhy

/-- **Attempts one after the other are confined if each of them is.** -/
theorem Confined.bind {s : Attempt α} {next : α → Attempt β} (hs : Confined I E s)
    (hn : ∀ a, Confined I E (next a)) : Confined I E (s >>= next) := fun p hp => by
  have h := hs p hp
  rcases hsp : s p with ⟨e | a, q, runs⟩ <;> rw [hsp] at h
  · rw [bind_of_error hsp]
    exact ⟨h.1, fun e' he' => h.2 e' (by cases he'; rfl)⟩
  · rw [bind_of_ok hsp]
    exact hn a q h.1

/-- **So are an attempt and what is tried instead.** -/
theorem Confined.orElse {s : Attempt α} {other : CommandFailure → Attempt α}
    (hs : Confined I E s) (ho : ∀ e, E e → Confined I E (other e)) :
    Confined I E (s.orElse other) := fun p hp => by
  have h := hs p hp
  unfold Attempt.orElse
  split
  · rename_i e q runs hsp
    rw [hsp] at h
    split
    · exact ho e (h.2 e rfl) q h.1
    · exact h
  · exact h

/-- **So is an attempt that is undone where it fails.** -/
theorem Confined.atomic {s : Attempt α} (hs : Confined I E s) : Confined I E s.atomic :=
  fun p hp => by
  have h := hs p hp
  unfold Attempt.atomic
  split <;> rename_i hsp <;> rw [hsp] at h
  · exact h
  · exact ⟨hp, h.2⟩

/-- **So is one under a name.** -/
theorem Confined.under {s : Attempt α} (hs : Confined I E s) (name : String) :
    Confined I E (s.under name) := hs

end Attempt

/-- `c.Has d`: the command `d` is `c`, or stands somewhere below it. -/
inductive Command.Has : Command → Command → Prop
  | self (c : Command) : Has c c
  | child {c d e : Command} (mem : d ∈ c.children) (has : Has d e) : Has c e

/-- What is asked of a tree of commands and its places for it to be confined. -/
structure Command.Confines (I : TokenStream → Prop) (E : CommandFailure → Prop) (o : Occasion)
    (c : Command) : Prop where
  /-- A problem may be found at the cursor. -/
  problem : ∀ s problem, I s → E (.unparsed (s.error problem))
  /-- A command may be denied, and its executor may fail. -/
  other : ∀ e : CommandFailure, e.isOfLine = false → E e
  name : (Attempt.ofStep Step.next).Confined I E
  flags : ∀ d, c.Has d → (d.frame.readFlags o d.children).Confined I E
  own : ∀ d, c.Has d → (d.frame.parseOwn o).Confined I E

section

variable {I : TokenStream → Prop} {E : CommandFailure → Prop} {o : Occasion} {f : CommandFrame}
  {cs : List Command}

namespace CommandFrame

/-- **A permission is checked without leaving what is known of the line.** -/
theorem confined_checkPermission (h : ∀ e : CommandFailure, e.isOfLine = false → E e)
    (source : Source) : (f.checkPermission source).Confined I E := by
  unfold checkPermission
  split
  · exact Attempt.confined_pure ()
  · split
    · exact Attempt.confined_pure ()
    · exact Attempt.confined_fail (h _ rfl)

/-- **So is a child entered.** -/
theorem confined_enterChild (h : ∀ e : CommandFailure, e.isOfLine = false → E e) :
    (f.enterChild o).Confined I E := by
  unfold enterChild
  split
  · exact confined_checkPermission h _
  · exact Attempt.confined_pure ()

/-- **The own arguments are confined as their course is.** -/
theorem confined_parseOwn {C : ParseCourse} (h : C.Governs (f.parameter.parse o))
    (hC : ∀ {α : Type} (s : Step α), C.Governs s → (Attempt.ofStep s).Confined I E) :
    (f.parseOwn o).Confined I E := by
  refine hC _ (Course.governs_of_carries fun p => ?_)
  refine h.carries.bind fun _ => Course.carries_here_bind fun q _ => ?_
  split
  · dsimp only
    split
    · exact ParseCourse.carries_next.bind fun _ => ParseCourse.carries_fail _
    · exact ParseCourse.carries_fail _
  · exact Course.carries_pure ()

/-- **So is an executor run.** -/
theorem confined_execute (h : ∀ e : CommandFailure, e.isOfLine = false → E e) :
    (f.execute o).Confined I E := fun p hp => by
  unfold execute
  split
  · exact ⟨hp, fun e he => by cases he; exact h _ rfl⟩
  · rename_i x _
    refine ⟨hp, fun e he => ?_⟩
    dsimp only at he
    cases hx : (x.run o.source p.context).ending <;> rw [hx] at he <;> cases he <;> exact h _ rfl

end CommandFrame

namespace Command

/-- **Looking at the next token changes nothing.** -/
theorem confined_nextToken : nextToken.Confined I E := fun _ hp => ⟨hp, fun _ he => nomatch he⟩

namespace Confines

variable {c d : Command}

/-- **What confines a command confines its children.** -/
theorem child (h : c.Confines I E o) (hd : d ∈ c.children) : d.Confines I E o :=
  { h with
    flags := fun e he => h.flags e (.child hd he)
    own := fun e he => h.own e (.child hd he) }

/-- **It confines the reading of its own flags and arguments.** -/
theorem enterOwn (h : (node f cs).Confines I E o) : (f.enterOwn o cs).Confined I E := by
  refine (CommandFrame.confined_checkPermission h.other _).bind fun _ => ?_
  dsimp only
  split
  · refine Attempt.Confined.bind (Attempt.confined_ofStep fun p hp => ⟨hp, fun e he => ?_⟩)
      fun _ => h.own _ (.self _)
    cases he
    exact h.problem _ _ hp
  · exact h.own _ (.self _)

/-- **A command that falls back blames its child or itself.** -/
theorem fallBack (h : (node f cs).Confines I E o) {child : CommandFailure} (hchild : E child) :
    (f.fallBack o child).Confined I E := fun p hp => by
  have hown := ((CommandFrame.confined_checkPermission (f := f) h.other o.source).bind fun _ =>
    h.own _ (.self _)) p hp
  unfold CommandFrame.fallBack
  dsimp only
  split
  · rename_i e q runs hs
    have hs' : (do f.checkPermission o.source; (node f cs).frame.parseOwn o : Attempt Unit) p =
        ⟨.error e, q, runs⟩ := hs
    rw [hs'] at hown
    refine ⟨hown.1, fun e' he' => ?_⟩
    cases he'
    rcases child.blame_eq_or e with hblame | hblame <;> rw [hblame]
    · exact hchild
    · exact hown.2 e rfl
  · exact hown

/-- **It confines what is done inside it.** -/
theorem goInto {α : Type} (h : c.Confines I E o) {s : Attempt α} (hs : s.Confined I E) :
    (d.goInto s).Confined I E :=
  Attempt.Confined.atomic (h.name.bind fun _ => hs.under _)

/-- **It confines the way through a child.** -/
theorem viaChild {α : Type} (h : c.Confines I E o) {sub : Attempt α}
    {back : CommandFailure → Attempt α} (hs : sub.Confined I E)
    (hb : ∀ e, E e → (back e).Confined I E) : (viaChild o f sub back).Confined I E := by
  refine (CommandFrame.confined_enterChild h.other).bind fun _ => ?_
  split
  · exact hs.orElse hb
  · exact hs

end Confines

/-- **The child that is called is a child.** -/
theorem mem_of_called? {token : Option String} {d : Command} (h : called? cs token = some d) :
    d ∈ cs := by
  cases token with
  | none => cases h
  | some t => exact List.mem_of_find?_eq_some h

/-- **A confined tree finds its targets confined.** -/
theorem confined_resolve (c : Command) (h : c.Confines I E o) : (resolve o c).Confined I E := by
  induction c using inductionOnChildren with
  | node f cs ih =>
    rw [resolve]
    refine Attempt.Confined.bind (h.flags _ (.self _)) fun _ =>
      confined_nextToken.bind fun token => ?_
    rw [resolveIn_eq]
    split
    · exact h.enterOwn.bind fun _ => Attempt.confined_pure _
    · rename_i d hd
      have hmem := mem_of_called? hd
      have hsub := h.goInto (d := d) (ih d hmem (h.child hmem))
      exact h.viaChild (hsub.bind fun _ => Attempt.confined_pure _) fun e he =>
        (h.fallBack he).bind fun _ => Attempt.confined_pure _

/-- **A confined tree runs its lines confined.** -/
theorem confined_dispatch (c : Command) (h : c.Confines I E o) : (dispatch o c).Confined I E := by
  induction c using inductionOnChildren with
  | node f cs ih =>
    have hexecute := CommandFrame.confined_execute (I := I) (o := o) (f := f) h.other
    rw [dispatch]
    refine Attempt.Confined.bind (h.flags _ (.self _)) fun _ =>
      confined_nextToken.bind fun token => ?_
    rw [dispatchIn_eq]
    split
    · exact h.enterOwn.bind fun _ => hexecute
    · rename_i d hd
      have hmem := mem_of_called? hd
      exact h.viaChild (h.goInto (ih d hmem (h.child hmem))) fun e he =>
        (h.fallBack he).bind fun _ => hexecute

end Command

end

end CommandGrammar
