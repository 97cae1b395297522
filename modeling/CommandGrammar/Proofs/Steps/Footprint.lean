/-
# The footprint of a grammar

Whatever a grammar does to a context comes down to bindings that are made one after the other
(`Context.bindAll`), all of them under keys of the grammar itself (`Parameter.HasKey`).  Undoing a
step drops the bindings that were made in it and nothing else.  So there are two sides to the
footprint:

| side | fact |
| --- | --- |
| what is written | keys keep their values and their order, and foreign keys are left alone |
| what is seen | two runs see the same if the contexts agree on the keys of the grammar |

The second side says more than that the runs come to the same result: both make the same bindings,
in the same order (`Parameter.exists_bindAll_parse`).
-/

import CommandGrammar.Host.Usual
import CommandGrammar.Proofs.Steps.Likeness
import CommandGrammar.Proofs.Steps.Onward

namespace CommandGrammar

namespace Entries

/-- **A put keeps the keys in their order.** -/
theorem map_fst_prefix_put (es : Entries) (key : String) (v : Value) :
    es.map Prod.fst <+: (es.put key v).map Prod.fst := by
  induction es with
  | nil => exact List.nil_prefix
  | cons e rest ih =>
    obtain ⟨k, vs⟩ := e
    by_cases h : k = key
    · simp [put, h]
    · simpa [put, h] using ih

/-- **A put leaves the entries of other keys as they are.** -/
theorem mem_put_of_ne {es : Entries} {key other : String} {v : Value} (h : other ≠ key)
    (vs : List Value) : (other, vs) ∈ es.put key v ↔ (other, vs) ∈ es := by
  induction es with
  | nil => simp [put, h]
  | cons e rest ih =>
    obtain ⟨k, old⟩ := e
    by_cases hk : k = key
    · subst hk
      simp [put, h]
    · simp [put, hk, ih]

end Entries

namespace Context

/-- `c.Grows K d`: the context `d` has all that `c` has, and more under keys of `K` alone. -/
structure Grows (K : String → Prop) (c d : Context) : Prop where
  /-- Every key keeps its values in front. -/
  values : ∀ key, c.values key <+: d.values key
  /-- The keys keep their order, and new ones come behind them. -/
  keys : c.entries.map Prod.fst <+: d.entries.map Prod.fst
  /-- The entries of foreign keys are the same. -/
  foreign : ∀ key, ¬ K key → ∀ vs, (key, vs) ∈ d.entries ↔ (key, vs) ∈ c.entries
  completing : d.completing = c.completing
  target : d.target = c.target

variable {K : String → Prop} {c d e : Context}

/-- **A context has grown by nothing.** -/
theorem Grows.refl (K : String → Prop) (c : Context) : c.Grows K c :=
  ⟨fun _ => List.prefix_refl _, List.prefix_refl _, fun _ _ _ => Iff.rfl, rfl, rfl⟩

/-- **Growth behind growth is growth.** -/
theorem Grows.trans (h : c.Grows K d) (h' : d.Grows K e) : c.Grows K e where
  values key := (h.values key).trans (h'.values key)
  keys := h.keys.trans h'.keys
  foreign key hkey vs := (h'.foreign key hkey vs).trans (h.foreign key hkey vs)
  completing := h'.completing.trans h.completing
  target := h'.target.trans h.target

/-- **A context grows by a value under a key that may be bound.** -/
theorem grows_put {key : String} (hkey : K key) (v : Value) (c : Context) :
    c.Grows K (c.put key v) where
  values other := by
    by_cases h : key = other
    · subst h
      rw [values_put_self]
      exact List.prefix_append _ _
    · have hsame : (c.put key v).values other = c.values other := values_put_of_ne h v c
      exact hsame ▸ List.prefix_refl _
  keys := c.entries.map_fst_prefix_put key v
  foreign other hother vs := by
    have hne : other ≠ key := fun h => hother (h ▸ hkey)
    exact Entries.mem_put_of_ne hne vs
  completing := rfl
  target := rfl

/-- The context with bindings made one after the other. -/
def bindAll (c : Context) (added : List (String × Value)) : Context :=
  added.foldl (fun c e => c.put e.1 e.2) c

/-- The values that a list of bindings holds for a key. -/
def valuesIn (added : List (String × Value)) (key : String) : List Value :=
  (added.filter fun e => e.1 = key).map Prod.snd

/-- **The last of several bindings is made on top of the others.** -/
theorem bindAll_append_singleton (c : Context) (added : List (String × Value)) (key : String)
    (v : Value) : c.bindAll (added ++ [(key, v)]) = (c.bindAll added).put key v := by
  simp [bindAll]

/-- **Bindings add their values behind those that are there.** -/
theorem values_bindAll (key : String) (added : List (String × Value)) (c : Context) :
    (c.bindAll added).values key = c.values key ++ valuesIn added key := by
  induction added generalizing c with
  | nil => simp [bindAll, valuesIn]
  | cons e rest ih =>
    obtain ⟨k, v⟩ := e
    have hrest : (c.bindAll ((k, v) :: rest)).values key =
        (c.put k v).values key ++ valuesIn rest key := ih (c.put k v)
    by_cases h : k = key
    · subst h
      simp [hrest, values_put_self, valuesIn]
    · simp [hrest, values_put_of_ne h, valuesIn, h]

/-- **Bindings under keys of `K` let a context grow under keys of `K`.** -/
theorem grows_bindAll {added : List (String × Value)} (h : ∀ e ∈ added, K e.1) (c : Context) :
    c.Grows K (c.bindAll added) := by
  induction added generalizing c with
  | nil => exact .refl K c
  | cons e rest ih =>
    have hhead : c.Grows K (c.put e.1 e.2) := grows_put (h e List.mem_cons_self) e.2 c
    have htail := ih (fun x hx => h x (List.mem_cons_of_mem e hx)) (c.put e.1 e.2)
    exact hhead.trans htail

/-- `BothBind K c c' d d'`: the same bindings, all under keys of `K`, have made `d` of `c` and `d'`
of `c'`. -/
def BothBind (K : String → Prop) (c c' d d' : Context) : Prop :=
  ∃ added, (∀ e ∈ added, K e.1) ∧ d = c.bindAll added ∧ d' = c'.bindAll added

variable {c' d' : Context}

/-- **Two contexts have both bound nothing.** -/
theorem BothBind.refl (K : String → Prop) (c c' : Context) : BothBind K c c' c c' :=
  ⟨[], by simp, rfl, rfl⟩

/-- **Both may bind one more value.** -/
theorem BothBind.put (h : BothBind K c c' d d') {key : String} (hkey : K key) (v : Value) :
    BothBind K c c' (d.put key v) (d'.put key v) := by
  obtain ⟨added, hadded, rfl, rfl⟩ := h
  refine ⟨added ++ [(key, v)], ?_, ?_, ?_⟩
  · intro e he
    rcases List.mem_append.1 he with he | he
    · exact hadded e he
    · rw [List.mem_singleton.1 he]
      exact hkey
  · rw [bindAll_append_singleton]
  · rw [bindAll_append_singleton]

/-- **Contexts that agree on `K` go on to agree on it.** -/
theorem BothBind.agreeOn (h : BothBind K c c' d d') (hagree : c.AgreeOn K c') : d.AgreeOn K d' := by
  obtain ⟨added, -, rfl, rfl⟩ := h
  intro key hkey
  rw [values_bindAll, values_bindAll, hagree key hkey]

/-- **Both may bind the same default, where they agreed at first.** -/
theorem BothBind.withDefault (h : BothBind K c c' d d') (hagree : c.AgreeOn K c') {key : String}
    (hkey : K key) (value : Option Value) :
    BothBind K c c' (d.withDefault key value) (d'.withDefault key value) := by
  have hvalues : d.values key = d'.values key := h.agreeOn hagree key hkey
  have hhas : d.has key = d'.has key := by rw [has, has, hvalues]
  unfold Context.withDefault
  rw [hhas]
  cases d'.has key with
  | true => exact h
  | false =>
    cases value with
    | none => exact h
    | some v => exact h.put hkey v

end Context

namespace Parameter

open Context

/-- The keys of a parameter and of all that stands inside it. -/
def HasKey (p : Parameter) (key : String) : Prop := ∃ n, p.Has n ∧ n.key = key

/-- **What a node of a grammar binds and asks for is settled by contexts that agree on the keys of
the grammar.** -/
theorem preserves_bothBind {p n : Parameter} (hn : p.Has n) {c c' : Context}
    (h : c.AgreeOn p.HasKey c') : n.Preserves (BothBind p.HasKey c c') where
  puts v _ _ hboth := hboth.put ⟨n, hn, rfl⟩ v
  defaults value _ _ hboth := hboth.withDefault h ⟨n, hn, rfl⟩ value
  counts _ _ _ hboth := by rw [hboth.agreeOn h n.key ⟨n, hn, rfl⟩]

/-- **Two runs make the same bindings, under keys of the grammar**, if the contexts they begin with
agree on these keys. -/
theorem exists_bindAll_parse (o : Occasion) (p : Parameter) (s : TokenStream) {c c' : Context}
    (h : c.AgreeOn p.HasKey c') :
    ∃ result stream asked added, (∀ e ∈ added, p.HasKey e.1) ∧
      p.parse o ⟨s, c⟩ = ⟨result, ⟨stream, c.bindAll added⟩, asked⟩ ∧
      p.parse o ⟨s, c'⟩ = ⟨result, ⟨stream, c'.bindAll added⟩, asked⟩ := by
  have halike : (p.parse o).Alike (BothBind p.HasKey c c') :=
    alike_parse fun n hn => preserves_bothBind hn h
  obtain ⟨result, stream, asked, d, d', ⟨added, hadded, rfl, rfl⟩, hrun, hrun'⟩ :=
    halike s c c' (.refl _ c c')
  exact ⟨result, stream, asked, added, hadded, hrun, hrun'⟩

/-- **A grammar writes and sees nothing but its own keys.**  Whatever a run comes to, it has moved
onward in its line, and the context has grown under the keys of the grammar alone.  And whatever
else is bound, a run from a context that agrees on these keys comes to the same result at the same
place of the line, and adds the same values. -/
theorem writes_and_sees_own_keys (o : Occasion) (p : Parameter) (s : TokenStream) (c : Context) :
    (⟨s, c⟩ : Progress).Onward (p.parse o ⟨s, c⟩).progress ∧
    c.Grows p.HasKey (p.parse o ⟨s, c⟩).progress.context ∧
    ∀ c', c.AgreeOn p.HasKey c' →
      (p.parse o ⟨s, c'⟩).result = (p.parse o ⟨s, c⟩).result ∧
      (p.parse o ⟨s, c'⟩).progress.stream = (p.parse o ⟨s, c⟩).progress.stream ∧
      ∀ key, ∃ more,
        (p.parse o ⟨s, c⟩).progress.context.values key = c.values key ++ more ∧
        (p.parse o ⟨s, c'⟩).progress.context.values key = c'.values key ++ more := by
  refine ⟨onward_parse o p ⟨s, c⟩, ?_, ?_⟩
  · obtain ⟨_, _, _, added, hadded, hrun, -⟩ :=
      exists_bindAll_parse o p s (show c.AgreeOn p.HasKey c from fun _ _ => rfl)
    rw [hrun]
    exact grows_bindAll hadded c
  · intro c' hagree
    obtain ⟨result, stream, _, added, -, hrun, hrun'⟩ := exists_bindAll_parse o p s hagree
    rw [hrun, hrun']
    refine ⟨rfl, rfl, fun key => ⟨valuesIn added key, ?_, ?_⟩⟩
    · exact values_bindAll key added c
    · exact values_bindAll key added c'

/-- **A key that a grammar does not have makes no difference to it**: `yes` binds an answer and, by
default, a reason, behind a flag that is bound already just as without it. -/
theorem flag_makes_no_difference_to_answer :
    let o : Occasion := ⟨.trusted "tester", ⟨2024, 5, 31, 12, 34, 56, 789012, none⟩, .usual⟩
    let p : Parameter := .all {}
      [.leaf { key := "sure", modifiers := [.onlyOne] } .truth,
        .leaf { key := "reason", modifiers := [.default (.text "none"), .optional] } .text]
    let s : TokenStream := .ofLine .spaced "yes"
    let flagged : Context := { entries := [("quiet", [.truth true])] }
    ({} : Context).AgreeOn p.HasKey flagged ∧
      (p.parse o ⟨s, flagged⟩).result = (p.parse o ⟨s, {}⟩).result ∧
      (p.parse o ⟨s, flagged⟩).progress.stream = (p.parse o ⟨s, {}⟩).progress.stream ∧
      (p.parse o ⟨s, flagged⟩).progress.context.keys = ["quiet", "sure", "reason"] := by
  intro o p s flagged
  have hagree : ({} : Context).AgreeOn p.HasKey flagged := by
    rintro key ⟨n, hn, rfl⟩
    rcases Has.of_pair hn with rfl | rfl | rfl <;> rfl
  obtain ⟨-, -, hsame⟩ := writes_and_sees_own_keys o p s {}
  obtain ⟨hresult, hstream, -⟩ := hsame flagged hagree
  exact ⟨hagree, hresult, hstream, by decide +kernel⟩

end Parameter
end CommandGrammar
