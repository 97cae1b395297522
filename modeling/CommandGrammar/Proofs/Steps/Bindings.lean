/-
# What binding does to the values of a key

A grammar changes a context in two ways: values are put under a key, behind those that are there, and
a default is put under a key that has none.  Neither touches another key, and both come to the same in
two contexts that agree on a key (`AgreeOn`).
-/

import CommandGrammar.Proofs.Steps.Modifiers

namespace CommandGrammar
namespace Context

variable {key : String}

/-- **A bound value is appended to those under its key.** -/
theorem values_put_self (key : String) (v : Value) (c : Context) :
    (c.put key v).values key = c.values key ++ [v] := c.entries.values_put_self key v

/-- **A value under another key leaves those under this one.** -/
theorem values_put_of_ne {other : String} (h : other ≠ key) (v : Value) (c : Context) :
    (c.put other v).values key = c.values key := c.entries.values_put_of_ne v h

/-- **Several bound values are appended in their order.** -/
theorem values_putAll_self (key : String) (vs : List Value) (c : Context) :
    (c.putAll key vs).values key = c.values key ++ vs := by
  unfold putAll
  induction vs generalizing c with
  | nil => exact (List.append_nil _).symm
  | cons v vs ih =>
    rw [List.foldl_cons, ih, values_put_self, List.append_assoc]
    rfl

/-- **Several values under another key leave those under this one.** -/
theorem values_putAll_of_ne {other : String} (h : other ≠ key) (vs : List Value) (c : Context) :
    (c.putAll other vs).values key = c.values key := by
  unfold putAll
  induction vs generalizing c with
  | nil => rfl
  | cons v vs ih => exact (ih _).trans (c.values_put_of_ne h v)

/-- **A default is bound under a key that has no value.** -/
theorem values_withDefault_self (key : String) (value : Option Value) (c : Context) :
    (c.withDefault key value).values key =
      if (c.values key).isEmpty then value.toList else c.values key := by
  unfold withDefault has
  cases hc : c.values key with
  | cons v vs =>
    show c.values key = _
    rw [hc]
    rfl
  | nil =>
    cases value with
    | none => exact hc
    | some v =>
      show (c.put key v).values key = _
      rw [values_put_self, hc]
      rfl

/-- **A default under another key leaves the values under this one.** -/
theorem values_withDefault_of_ne {other : String} (h : other ≠ key) (value : Option Value)
    (c : Context) : (c.withDefault other value).values key = c.values key := by
  unfold withDefault
  cases c.has other with
  | true => rfl
  | false =>
    cases value with
    | none => rfl
    | some v => exact c.values_put_of_ne h v

/-- **A default changes neither the mode nor the target of a parse.** -/
theorem withDefault_same (key : String) (value : Option Value) (c : Context) :
    (c.withDefault key value).completing = c.completing ∧
      (c.withDefault key value).target = c.target := by
  unfold withDefault
  cases c.has key with
  | true => exact ⟨rfl, rfl⟩
  | false =>
    cases value with
    | none => exact ⟨rfl, rfl⟩
    | some v => exact ⟨rfl, rfl⟩

/-- **A switch binds what a default of `true` does.** -/
theorem mark_eq_withDefault (c : Context) (key : String) :
    c.mark key = c.withDefault key (some (.truth true)) := rfl

/-- **A marked key has its values, or else the value `true`.** -/
theorem values_mark_self (key : String) (c : Context) :
    (c.mark key).values key = if c.has key then c.values key else [.truth true] := by
  rw [mark_eq_withDefault, values_withDefault_self]
  cases hvalues : c.values key <;> simp [has, hvalues]

/-- **A mark under another key leaves the values under this one.** -/
theorem values_mark_of_ne {other : String} (h : other ≠ key) (c : Context) :
    (c.mark other).values key = c.values key := by
  rw [mark_eq_withDefault]
  exact c.values_withDefault_of_ne h _

/-- **Keys that are marked have the value `true`**, unless they had values before. -/
theorem values_foldl_mark (key : String) (keys : List String) (c : Context) :
    (keys.foldl mark c).values key =
      if key ∈ keys ∧ c.has key = false then [.truth true] else c.values key := by
  induction keys generalizing c with
  | nil => simp
  | cons k keys ih =>
    rw [List.foldl_cons, ih]
    by_cases hk : k = key
    · subst hk
      rw [values_mark_self]
      cases hhas : c.has k <;> simp [has_mark]
    · have hsame : (c.mark k).values key = c.values key := values_mark_of_ne hk c
      simp [has, hsame, Ne.symm hk]

/-- **Marks change neither the mode nor the target of a parse.** -/
theorem foldl_mark_same (keys : List String) (c : Context) :
    (keys.foldl mark c).completing = c.completing ∧ (keys.foldl mark c).target = c.target := by
  induction keys generalizing c with
  | nil => exact ⟨rfl, rfl⟩
  | cons k keys ih =>
    have hmark := withDefault_same k (some (.truth true)) c
    exact ⟨(ih _).1.trans hmark.1, (ih _).2.trans hmark.2⟩

/-- **A key that has a value keeps one.** -/
theorem has_put_of_has {c : Context} (h : c.has key = true) (other : String) (v : Value) :
    (c.put other v).has key = true := by
  by_cases hkey : other = key
  · subst hkey
    exact has_put_self c other v
  · rwa [has, values_put_of_ne hkey]

/-- **A key that is present stays so under further marks.** -/
theorem has_mark_of_has {c : Context} (h : c.has key = true) (other : String) :
    (c.mark other).has key = true := by
  unfold mark
  split
  · exact h
  · exact has_put_of_has h other _

/-- **A default makes a value of none.** -/
theorem length_values_withDefault_le (c : Context) (key : String) (value : Option Value) :
    ((c.withDefault key value).values key).length ≤ max 1 (c.values key).length := by
  rw [values_withDefault_self]
  split
  · have hone : value.toList.length ≤ 1 := by
      cases value with
      | none => exact Nat.zero_le 1
      | some v => exact Nat.le_refl 1
    exact Nat.le_trans hone (Nat.le_max_left _ _)
  · exact Nat.le_max_right _ _

/-- **A default does not change what has several values.** -/
theorem withDefault_of_several {c : Context} (h : 1 < (c.values key).length)
    (value : Option Value) : c.withDefault key value = c := by
  have hhas : c.has key = true := by
    unfold has
    cases hc : c.values key with
    | nil => rw [hc] at h; cases h
    | cons v vs => rfl
  unfold withDefault
  rw [hhas]
  rfl

/-- Under some keys, two contexts have the same values. -/
def AgreeOn (K : String → Prop) (c c' : Context) : Prop := ∀ key, K key → c.values key = c'.values key

/-- **Contexts that agree do so with one more value in both.** -/
theorem AgreeOn.put {K : String → Prop} {c c' : Context} (h : c.AgreeOn K c') (other : String)
    (v : Value) : (c.put other v).AgreeOn K (c'.put other v) := by
  intro key hkey
  by_cases hother : other = key
  · subst hother
    rw [values_put_self, values_put_self, h other hkey]
  · rw [values_put_of_ne hother, values_put_of_ne hother, h key hkey]

/-- **Contexts that agree do so with the same default in both.** -/
theorem AgreeOn.withDefault {K : String → Prop} {c c' : Context} (h : c.AgreeOn K c')
    (other : String) (value : Option Value) :
    (c.withDefault other value).AgreeOn K (c'.withDefault other value) := by
  intro key hkey
  by_cases hother : other = key
  · subst hother
    rw [values_withDefault_self, values_withDefault_self, h other hkey]
  · rw [values_withDefault_of_ne hother, values_withDefault_of_ne hother, h key hkey]

end Context
end CommandGrammar
