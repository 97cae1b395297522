/-
# Owners of names

Things that are defined own names, and a name leads to its owner.  Two ways lead there: the list of
the things is searched for the first that owns the name, or a table is filled with a pair for each
name and asked for it.  They agree where no two things own one name, and then neither depends on the
order in which the things were defined.

| fact | used for |
| --- | --- |
| things that share a name are the same | a search, a table |
| what alone satisfies a search is found by it | the first owner |
| a table that gives one value to a key has that value | the last owner |
-/

import CommandGrammar.Caseless
import Mathlib.Data.List.Nodup
import Mathlib.Data.List.Pairwise

namespace CommandGrammar

variable {α β : Type}

/-- **Things that share a name are the same**, if what they own is kept apart. -/
theorem eq_of_shared {xs : List α} {names : α → List β}
    (apart : xs.Pairwise fun x y => (names x).Disjoint (names y)) {x y : α} (hx : x ∈ xs)
    (hy : y ∈ xs) {n : β} (hxn : n ∈ names x) (hyn : n ∈ names y) : x = y := by
  have : Std.Symm fun x y => (names x).Disjoint (names y) := ⟨fun _ _ h n hn hn' => h hn' hn⟩
  by_contra hne
  have hdisjoint : (names x).Disjoint (names y) := apart.forall hx hy hne
  exact hdisjoint hxn hyn

/-- **If nothing else satisfies a search, it finds what does.** -/
theorem find?_of_unique {xs : List α} {P : α → Bool} {x : α} (hx : x ∈ xs) (hP : P x = true)
    (unique : ∀ y ∈ xs, P y = true → y = x) : xs.find? P = some x := by
  cases hfind : xs.find? P with
  | none => exact absurd hP (List.find?_eq_none.1 hfind x hx)
  | some y =>
    have hy : y ∈ xs := List.mem_of_find?_eq_some hfind
    rw [unique y hy (List.find?_some hfind)]

namespace Caseless

/-- **A value for one key leaves the other keys alone.** -/
theorem lookup_assign_of_ne {key other : String} (h : other ≠ key) (v : α)
    (es : List (String × α)) : (assign key v es).lookup other = es.lookup other := by
  induction es with
  | nil => simp [assign, h]
  | cons e rest ih =>
    obtain ⟨k, old⟩ := e
    by_cases hk : k = key
    · subst hk
      have hb : (other == k) = false := beq_eq_false_iff_ne.2 h
      simp [assign, List.lookup_cons, hb]
    · simp [assign, hk, List.lookup_cons, ih]

/-- **A table has the value that every pair of a key gives to it.** -/
theorem lookup_foldl_assign (fold : String → String) {items : List (String × α)} {key : String}
    {v : α} (same : ∀ e ∈ items, fold e.1 = key → e.2 = v) (table : List (String × α))
    (given : (∃ e ∈ items, fold e.1 = key) ∨ table.lookup key = some v) :
    (items.foldl (fun t e => assign (fold e.1) e.2 t) table).lookup key = some v := by
  induction items generalizing table with
  | nil =>
    rcases given with ⟨e, he, -⟩ | htable
    · cases he
    · exact htable
  | cons e rest ih =>
    refine ih (fun d hd => same d (List.mem_cons_of_mem e hd)) _ ?_
    by_cases hkey : fold e.1 = key
    · have hv : e.2 = v := same e List.mem_cons_self hkey
      refine .inr ?_
      show (assign (fold e.1) e.2 table).lookup key = some v
      rw [hkey, hv, lookup_assign_self]
    · rcases given with ⟨d, hd, hdkey⟩ | htable
      · rcases List.mem_cons.1 hd with rfl | hd
        · exact absurd hdkey hkey
        · exact .inl ⟨d, hd, hdkey⟩
      · exact .inr ((lookup_assign_of_ne (Ne.symm hkey) e.2 table).trans htable)

/-- **A table that ignores case has the value that every pair of a key in any case gives to it.** -/
theorem find?_ofList {items : List (String × α)} {key : String} {v : α}
    (given : ∃ e ∈ items, Text.lowercase e.1 = Text.lowercase key)
    (same : ∀ e ∈ items, Text.lowercase e.1 = Text.lowercase key → e.2 = v) :
    (ofList items).find? key = some v := by
  have hentries : ∀ (es : List (String × α)) (t : Caseless α),
      (es.foldl (fun t e => t.insert e.1 e.2) t).entries =
        es.foldl (fun t e => assign (Text.lowercase e.1) e.2 t) t.entries := by
    intro es
    induction es with
    | nil => exact fun t => rfl
    | cons e rest ih => exact fun t => ih (t.insert e.1 e.2)
  unfold find? ofList
  rw [hentries]
  exact lookup_foldl_assign Text.lowercase same _ (.inl given)

end Caseless
end CommandGrammar
