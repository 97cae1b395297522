/-
# Two runs that see the same

A step may depend on what is bound when it begins, but a grammar does so in two ways only: `onlyOne`
counts the values of its key, and a default asks whether its key has one.  So two runs of a grammar
from one place of the line come to the same as long as a relation between their contexts settles
these two questions and outlasts every binding (`Parameter.Preserves`).

Nothing else of a context is looked at: two contexts that agree on the keys that are counted will do
(`Context.AgreeOn`), and any two for a grammar without `onlyOne`.

Parsing from one place is one of the pairings of runs (`Pairing.ofContexts`), so its laws settle it.
The steps that only completing takes are gone through here.
-/

import CommandGrammar.Proofs.Steps.Bindings
import CommandGrammar.Proofs.Steps.Pairing

namespace CommandGrammar

variable {R : Context → Context → Prop} {α β : Type} {o : Occasion}

/-- Two reports that tell the same, with contexts that the relation holds between. -/
def Report.Alike (R : Context → Context → Prop) (x y : Report α) : Prop :=
  ∃ result stream asked c c', R c c' ∧ x = ⟨result, ⟨stream, c⟩, asked⟩ ∧
    y = ⟨result, ⟨stream, c'⟩, asked⟩

/-- **Reports of one result and stream are alike if their contexts are.** -/
theorem Report.Alike.mk {result : Except Stop α} {stream : TokenStream} {asked : List String}
    {c c' : Context} (h : R c c') :
    Report.Alike R (⟨result, ⟨stream, c⟩, asked⟩ : Report α) ⟨result, ⟨stream, c'⟩, asked⟩ :=
  ⟨result, stream, asked, c, c', h, rfl, rfl⟩

/-- **Reports that are alike stay so behind the same questions.** -/
theorem Report.Alike.after {x y : Report α} (h : Report.Alike R x y) (asked : List String) :
    Report.Alike R (x.after asked) (y.after asked) := by
  obtain ⟨result, stream, more, c, c', hR, rfl, rfl⟩ := h
  exact .mk hR

/-- **Reports that are alike have the same result.** -/
theorem Report.Alike.result_eq {x y : Report α} (h : Report.Alike R x y) : x.result = y.result := by
  obtain ⟨result, stream, more, c, c', hR, rfl, rfl⟩ := h
  rfl

namespace Step

/-- From a place of the line, with contexts that the relation holds between, the step reports
alike. -/
def AlikeAt (R : Context → Context → Prop) (stream : TokenStream) (s : Step α) : Prop :=
  ∀ c c', R c c' → Report.Alike R (s ⟨stream, c⟩) (s ⟨stream, c'⟩)

/-- From every place, the step does. -/
def Alike (R : Context → Context → Prop) (s : Step α) : Prop := ∀ stream, s.AlikeAt R stream

/-- **A step that only returns is alike in all contexts.** -/
theorem alike_pure (a : α) : Alike R (pure a : Step α) := fun _ _ _ h => .mk h

/-- **A stop is alike in all contexts.** -/
theorem alike_stop (e : Stop) : Alike R (Step.stop e : Step α) := fun _ _ _ h => .mk h

/-- **Going to a place is alike in all contexts.** -/
theorem alike_goTo (s : TokenStream) : Alike R (Step.goTo s) := fun _ _ _ h => .mk h

/-- **Reading a token is alike in all contexts.** -/
theorem alike_next : Alike R Step.next := fun stream _ _ h => by
  unfold Step.next
  rcases stream.next with e | ⟨t, s⟩ <;> exact .mk h

/-- **Reading a token, if there is one, is alike in all contexts.** -/
theorem alike_next? : Alike R Step.next? := fun stream _ _ h => by
  unfold Step.next?
  rcases stream.next? with _ | ⟨t, s⟩ <;> exact .mk h

/-- **Taking what is typed is alike in all contexts.** -/
theorem alike_typed : Alike R Step.typed := fun stream _ _ h => by
  unfold Step.typed
  rcases stream.next? with _ | ⟨t, s⟩ <;> exact .mk h

/-- **A look at the next token is alike in all contexts.** -/
theorem alike_peek : Alike R Step.peek := fun stream _ _ h => by
  unfold Step.peek
  rcases stream.peek with e | t <;> exact .mk h

/-- **A sequence reports alike if what it begins with does, and what follows from where that
ends.** -/
theorem AlikeAt.bind {s : Step α} {next : α → Step β} {stream : TokenStream}
    (hs : s.AlikeAt R stream)
    (hnext : ∀ a c stream' d asked, s ⟨stream, c⟩ = ⟨.ok a, ⟨stream', d⟩, asked⟩ →
      (next a).AlikeAt R stream') : (s >>= next).AlikeAt R stream := by
  intro c c' h
  obtain ⟨result, stream', asked, d, d', hR, hx, hy⟩ := hs c c' h
  rw [bind_apply, bind_apply, hx, hy]
  cases result with
  | error e => exact .mk hR
  | ok a => exact (hnext a c stream' d asked hx d d' hR).after asked

/-- **A sequence reports alike if its parts do.** -/
theorem Alike.bind {s : Step α} {next : α → Step β} (hs : s.Alike R)
    (hnext : ∀ a, (next a).Alike R) : (s >>= next).Alike R := fun stream =>
  (hs stream).bind fun a _ stream' _ _ _ => hnext a stream'

/-- **What begins by looking where it is may look at the line.** -/
theorem alike_here_bind {next : Progress → Step β}
    (h : ∀ stream c c', R c c' →
      Report.Alike R (next ⟨stream, c⟩ ⟨stream, c⟩) (next ⟨stream, c'⟩ ⟨stream, c'⟩)) :
    Alike R (Step.here >>= next) := fun stream c c' hR => h stream c c' hR

/-- **A step that is undone is alike if the step itself is.** -/
theorem AlikeAt.undone {s : Step α} {stream : TokenStream} (hs : s.AlikeAt R stream) :
    s.undone.AlikeAt R stream := by
  intro c c' h
  obtain ⟨result, stream', asked, d, d', hR, hx, hy⟩ := hs c c' h
  unfold Step.undone
  rw [hx, hy]
  exact .mk h

end Step

/-- The pairing of runs that stand at the same place of one line, with contexts that a relation
holds between. -/
def Pairing.ofContexts (R : Context → Context → Prop) : Pairing where
  lines := Eq
  contexts := R
  places := Eq
  errors := Eq
  next := by
    rintro s _ rfl
    rcases s.next_cases with ⟨h, hnext, -⟩ | ⟨hnext, -⟩
    · exact .inl ⟨_, _, _, hnext, hnext, rfl⟩
    · exact .inr ⟨hnext, hnext, rfl⟩
  remaining h := congrArg _ h
  position h := congrArg _ h
  sameTail := True
  fromHere := by
    rintro - s _ rfl
    rfl
  sameCursor := by
    rintro s _ r _ rfl rfl
    rfl
  errorAt := by
    rintro s _ i _ problem rfl rfl
    rfl
  inAttempt := by
    rintro e _ k n rfl
    rfl
  further := by
    rintro e _ f _ rfl rfl
    rfl

/-- **Reports of such runs tell the same.** -/
theorem Report.Paired.alike {x y : Report α} (h : Report.Paired (.ofContexts R) Eq x y) :
    Report.Alike R x y := by
  cases h with
  | @ok a b p q value place asked =>
    obtain ⟨p, d⟩ := p
    obtain ⟨q, d'⟩ := q
    obtain ⟨rfl, hd⟩ := place
    subst value
    exact .mk hd
  | @failed e e' p q error place asked =>
    obtain ⟨p, d⟩ := p
    obtain ⟨q, d'⟩ := q
    obtain ⟨rfl, hd⟩ := place
    subst error
    exact .mk hd
  | @broken p q b place asked =>
    obtain ⟨p, d⟩ := p
    obtain ⟨q, d'⟩ := q
    obtain ⟨rfl, hd⟩ := place
    exact .mk hd

/-- **What keeps such runs side by side reports alike.** -/
theorem Step.alike_of_paired {s : Step α} (h : Step.Paired (.ofContexts R) Eq s s) : s.Alike R :=
  fun stream c c' hR => (h ⟨stream, c⟩ ⟨stream, c'⟩ ⟨rfl, hR⟩).alike

/-- **Choosing candidates is alike in all contexts.** -/
theorem Leaf.alike_candidates (c : Choice) (word : String) : (candidates c word).Alike R :=
  Step.alike_of_paired (Pairing.paired_candidates c word)

namespace Parameter

/-- **Contexts that agree on a key that an `onlyOne` counts will do for a node.** -/
theorem preserves_agreeOn {n : Parameter} {K : String → Prop}
    (h : Modifier.onlyOne ∈ n.frame.modifiers → K n.key) : n.Preserves (Context.AgreeOn K) where
  puts v _ _ hagree := hagree.put n.key v
  defaults value _ _ hagree := hagree.withDefault n.key value
  counts hm _ _ hagree := congrArg List.length (hagree n.key (h hm))

/-- Whether an `onlyOne` inside the parameter counts the values of a key. -/
def Counts (p : Parameter) (key : String) : Prop :=
  ∃ n, p.Has n ∧ n.key = key ∧ Modifier.onlyOne ∈ n.frame.modifiers

/-- **What a child counts, its parent counts.** -/
theorem Counts.child {c p : Parameter} {key : String} (h : c.Counts key) (hc : c ∈ p.children) :
    p.Counts key := by
  obtain ⟨n, hn, hkey, hm⟩ := h
  exact ⟨n, .child hc hn, hkey, hm⟩

/-- **Two runs of a grammar come to the same, with contexts between which a relation holds that all
nodes of the grammar preserve.** -/
theorem alike_parse {p : Parameter} (h : ∀ n, p.Has n → n.Preserves R) : (p.parse o).Alike R :=
  Step.alike_of_paired (Pairing.paired_parse h fun _ _ => trivial)

end Parameter
end CommandGrammar
