/-
# Parameters keep to the course

A grammar keeps to a course that covers it: at each of its nodes, the course lets the modifiers bind
their defaults, and at a leaf, lets it bind what it reads and break off where it must.  Only the nodes that
the source may use matter (`Parameter.Reaches`): `ParseCourse.governs_parse_of_reached` is the one
induction over grammars that this takes.
-/

import CommandGrammar.Parameter.Parse
import CommandGrammar.Proofs.Steps.Leaves
import CommandGrammar.Proofs.Steps.Modifiers

namespace CommandGrammar

namespace Parameter

/-- `p.Has n`: the parameter `n` is `p`, or stands somewhere inside it. -/
inductive Has : Parameter → Parameter → Prop
  | self (p : Parameter) : Has p p
  | child {p c n : Parameter} (mem : c ∈ p.children) (has : Has c n) : Has p n

/-- **A leaf has no parameter but itself.** -/
theorem Has.of_leaf {f : Frame} {l : Leaf} {n : Parameter} (h : (leaf f l).Has n) :
    n = leaf f l := by
  cases h with
  | self => rfl
  | child mem _ => exact absurd mem List.not_mem_nil

/-- **In a composite stand the composite itself and what stands in its children.** -/
theorem Has.cases {p n : Parameter} (h : p.Has n) : n = p ∨ ∃ c ∈ p.children, c.Has n := by
  cases h with
  | self => exact .inl rfl
  | child mem has => exact .inr ⟨_, mem, has⟩

/-- `p.Reaches source n`: the parameter `n` is `p`, or stands somewhere inside it, and the source may
use it and all that it stands in. -/
inductive Reaches (source : Source) : Parameter → Parameter → Prop
  | self {p : Parameter} (may : p.mayUse source = true) : Reaches source p p
  | child {p c n : Parameter} (may : p.mayUse source = true) (mem : c ∈ p.children)
      (reaches : Reaches source c n) : Reaches source p n

/-- **What is reached stands inside.** -/
theorem Reaches.has {source : Source} {p n : Parameter} (h : p.Reaches source n) : p.Has n := by
  induction h with
  | self _ => exact .self _
  | child _ mem _ ih => exact .child mem ih

/-- **A sequence of two leaves has no parameter but itself and those two.** -/
theorem Has.of_pair {f g h : Frame} {k l : Leaf} {n : Parameter}
    (hn : (all f [leaf g k, leaf h l]).Has n) :
    n = all f [leaf g k, leaf h l] ∨ n = leaf g k ∨ n = leaf h l := by
  refine hn.cases.imp_right ?_
  rintro ⟨c, hc, hn⟩
  rcases List.mem_cons.1 hc with rfl | hc
  · exact .inl hn.of_leaf
  · exact .inr (Has.of_leaf (List.mem_singleton.1 hc ▸ hn))

/-- **What holds of a parameter whenever it holds of its children holds of every parameter.** -/
@[elab_as_elim]
theorem inductionOnChildren {P : Parameter → Prop}
    (step : ∀ p : Parameter, (∀ c ∈ p.children, P c) → P p) (p : Parameter) : P p := by
  refine Parameter.rec (motive_1 := P) (motive_2 := fun cs => ∀ c ∈ cs, P c) ?_ ?_ ?_ ?_ ?_ p
  · intro f l
    exact step _ fun c hc => absurd hc List.not_mem_nil
  · intro f cs hcs
    exact step (.all f cs) hcs
  · intro f c cs hc hcs
    refine step (.first f c cs) fun d hd => ?_
    rcases List.mem_cons.1 hd with rfl | hd
    · exact hc
    · exact hcs d hd
  · intro c hc
    exact absurd hc List.not_mem_nil
  · intro c cs hc hcs d hd
    rcases List.mem_cons.1 hd with rfl | hd
    · exact hc
    · exact hcs d hd

end Parameter

namespace ParseCourse

open Course

/-- The course lets a node of a grammar do what it does by itself. -/
structure CoversNode (C : ParseCourse) (o : Occasion) (n : Parameter) : Prop where
  defaults : ∀ m ∈ n.frame.modifiers, m.BindsIn C n.key o.source
  faults : ∀ f l, n = .leaf f l → ∀ p, C.AllowsFaults (l.fault? o.host) p
  values : ∀ f l, n = .leaf f l → f.key.isEmpty = false → ∀ p q vs asked,
    l.read o p = ⟨.ok vs, q, asked⟩ → ∀ v ∈ vs, C.binds f.key v

/-- The course lets a grammar do what its nodes do. -/
def Covers (C : ParseCourse) (o : Occasion) (p : Parameter) : Prop :=
  ∀ n, p.Has n → C.CoversNode o n

variable {C : ParseCourse} {o : Occasion} {p : Parameter}

/-- **A course that covers a parameter covers its children.** -/
theorem Covers.child (h : C.Covers o p) {c : Parameter} (hc : c ∈ p.children) : C.Covers o c :=
  fun n hn => h n (.child hc hn)

/-- **A course that lets anything be bound covers a grammar if its leaves may break off.** -/
theorem covers_of_binds (hb : ∀ key v, C.binds key v)
    (hf : ∀ f l, p.Has (.leaf f l) → ∀ q, C.AllowsFaults (l.fault? o.host) q) : C.Covers o p := by
  intro n hn
  refine ⟨?_, fun f l hl => hf f l (hl ▸ hn), fun _ _ _ _ _ _ _ _ _ v _ => hb _ v⟩
  intro m _
  cases m with
  | default v => exact hb _ v
  | defaultBy value => exact fun v _ => hb _ v
  | _ => trivial

/-- **A leaf keeps to a course that lets it break off where it must and bind what it reads.** -/
theorem allows_readAndBind {l : Leaf} {key : String} {q : Progress}
    (hfaults : C.AllowsFaults (l.fault? o.host) q)
    (hvalues : key.isEmpty = false → ∀ r vs asked, l.read o q = ⟨.ok vs, r, asked⟩ →
      ∀ v ∈ vs, C.binds key v) : C.Allows q (Parameter.readAndBind o key l q) := by
  have hl := allows_read (o := o) hfaults
  unfold Parameter.readAndBind
  rw [Step.bind_apply]
  split
  · rename_i vs r asked hr
    refine Allows.after ?_ asked
    have hqr := hl.leads_of_eq hr
    split
    · rename_i hkey
      rw [Bool.not_eq_true'] at hkey
      exact carries_putAll (hvalues hkey r vs asked hr) r hqr
    · exact carries_pure () r hqr
  · rename_i hr
    exact allows_error (hl.leads_of_eq hr) (hl.stops_of_eq hr) _

/-- **A course that covers a leaf governs its reading.** -/
theorem CoversNode.governs_readAndBind {f : Frame} {l : Leaf} (h : C.CoversNode o (.leaf f l)) :
    C.Governs (Parameter.readAndBind o f.key l) := fun q =>
  allows_readAndBind (h.faults f l rfl q) fun hkey => h.values f l rfl hkey q

/-- **A frame keeps to the course of what it holds**, which is nothing to those who may not use
it. -/
theorem governs_framed {core : Step Unit} {f : Frame}
    (h : o.source.may f.permission = true →
      C.Governs core ∧ ∀ m ∈ f.modifiers, m.BindsIn C f.key o.source) :
    C.Governs (Parameter.framed o f core) := by
  unfold Parameter.framed
  split
  · rename_i hmay
    exact (h hmay).1.chain (h hmay).2
  · exact governs_of_carries fun _ => carries_done ()

/-- **A course governs a sequence if it governs the children.** -/
theorem governs_parseAll : ∀ cs : List Parameter, (∀ c ∈ cs, C.Governs (c.parse o)) →
    C.Governs (Parameter.parseAll o cs)
  | [], _ => by
    rw [Parameter.parseAll]
    exact governs_of_carries fun _ => carries_done ()
  | c :: cs, h => by
    rw [Parameter.parseAll]
    have hc := h c List.mem_cons_self
    have hcs := governs_parseAll cs fun d hd => h d (List.mem_cons_of_mem c hd)
    exact governs_of_carries fun _ => hc.carries.bind fun _ => hcs.carries

/-- **The failure of a choice is that of one of its children.** -/
theorem allows_parseFirst : ∀ (cs : List Parameter) {best : ParseError} {q : Progress},
    (∀ c ∈ cs, C.Governs (c.parse o)) → C.stops q (.failed best) →
    C.Allows q (Parameter.parseFirst o best cs q)
  | [], best, q, _, hb => by
    rw [Parameter.parseFirst]
    exact carries_stop hb q (C.refl q)
  | c :: cs, best, q, h, hb => by
    rw [Parameter.parseFirst]
    have hc := (h c List.mem_cons_self).carries.atomic q (C.refl q)
    dsimp only
    split
    · rename_i e r asked hr
      refine Allows.after (allows_parseFirst cs (fun d hd => h d (List.mem_cons_of_mem c hd)) ?_) _
      split
      · exact hc.stops_of_eq hr
      · exact hb
    · exact hc

/-- **A course governs alternatives if it governs each of them.** -/
theorem governs_alternatives {c : Parameter} {cs : List Parameter} (hc : C.Governs (c.parse o))
    (hcs : ∀ d ∈ cs, C.Governs (d.parse o)) (f : Frame) :
    C.Governs ((Parameter.first f c cs).core o) := fun q => by
  have h := hc.carries.atomic q (C.refl q)
  unfold Parameter.core
  dsimp only
  split
  · rename_i e r asked hr
    exact (allows_parseFirst cs hcs (h.stops_of_eq hr)).after _
  · exact h

/-- **The core of a parameter keeps to the course of its children, or of its leaf.** -/
theorem governs_core_of_children
    (hleaf : ∀ f l, p = .leaf f l → C.Governs (Parameter.readAndBind o f.key l))
    (hcs : ∀ c ∈ p.children, C.Governs (c.parse o)) : C.Governs (p.core o) := by
  cases p with
  | leaf f l => exact hleaf f l rfl
  | all f cs => exact governs_of_carries fun _ => (governs_parseAll cs hcs).carries.atomic
  | first f c cs =>
    exact governs_alternatives (hcs c List.mem_cons_self)
      (fun d hd => hcs d (List.mem_cons_of_mem c hd)) f

/-- **A grammar keeps to a course that its leaves keep to**, as far as the source may use them, if
the course lets the modifiers on the way to them bind their defaults. -/
theorem governs_parse_of_reached
    (hmodifiers : ∀ n, p.Reaches o.source n → ∀ m ∈ n.frame.modifiers, m.BindsIn C n.key o.source)
    (hleaves : ∀ f l, p.Reaches o.source (.leaf f l) →
      C.Governs (Parameter.readAndBind o f.key l)) : C.Governs (p.parse o) := by
  induction p using Parameter.inductionOnChildren with
  | step p ih =>
    rw [Parameter.parse_eq_framed]
    refine governs_framed fun hmay => ⟨?_, hmodifiers p (.self hmay)⟩
    refine governs_core_of_children (fun f l hl => hleaves f l (hl ▸ .self hmay)) fun c hc => ?_
    exact ih c hc (fun n hn => hmodifiers n (.child hmay hc hn))
      fun f l hl => hleaves f l (.child hmay hc hl)

/-- **A grammar keeps to a course that covers it.** -/
theorem governs_parse (h : C.Covers o p) : C.Governs (p.parse o) :=
  governs_parse_of_reached (fun n hn => (h n hn.has).defaults)
    fun _ _ hl => (h _ hl.has).governs_readAndBind

/-- **So does its core.** -/
theorem governs_core (h : C.Covers o p) : C.Governs (p.core o) :=
  governs_core_of_children (fun _ _ hl => (h _ (hl ▸ .self p)).governs_readAndBind)
    fun _ hc => governs_parse (h.child hc)

end ParseCourse
end CommandGrammar
