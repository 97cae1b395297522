/-
# Which candidates can be reached

A name that is typed in full selects the first candidate that equals it, ignoring case, so a
candidate is shadowed by an earlier one that differs from it in case only.  A beginning of a name is
completed as a pattern, so it offers the name unless it has operators in it; if it has, it is up to
the pattern that they make.

| typed | candidates | result |
| --- | --- | --- |
| `FOO` | `foo`, `FOO` | the value of `foo` |
| `v1.` | `v1.2` | offers `v1.2`, the point being any character |
| `foo(` | `foo(1)` | offers `foo(1)`, as this is no pattern |
| `a+b` | `a+b` | offers nothing, as the plus repeats the letter before it |

`Choice.Reaches` is what holds of all names (`candidates_are_reached`), and the first and the last
line of the table are why it is not more (`not_every_candidate_is_reached`).
-/

import CommandGrammar.Host.Usual
import CommandGrammar.Proofs.Patterns.Choosing
import CommandGrammar.Proofs.Patterns.Literals
import Mathlib.Data.List.Nodup

namespace CommandGrammar

open Text

/-- **In a list without repetitions nothing before an item is like it.** -/
theorem ne_of_nodup_map {α : Type} {f : α → String} {before after : List α} {x : α}
    (h : ((before ++ x :: after).map f).Nodup) : ∀ y ∈ before, f x ≠ f y := by
  intro y hy heq
  rw [List.map_append, List.map_cons, List.nodup_append] at h
  exact h.2.2 (f y) (List.mem_map_of_mem hy) (f x) List.mem_cons_self heq.symm

/-- **Among names without repetitions each is found with its value.** -/
theorem lookup_of_mem {items : List (String × Value)} {name : String} {v : Value}
    (h : (items.map Prod.fst).Nodup) (hmem : (name, v) ∈ items) : items.lookup name = some v := by
  obtain ⟨before, after, rfl⟩ := List.append_of_mem hmem
  exact List.lookup_eq_some_iff.2 ⟨before, after, rfl, fun y hy =>
    bne_iff_ne.2 (ne_of_nodup_map h y hy)⟩

/-- **So is each member of an enumeration.** -/
theorem find?_of_mem {members : List Member} {m : Member} (h : (members.map Member.name).Nodup)
    (hmem : m ∈ members) : members.find? (·.name == m.name) = some m := by
  obtain ⟨before, after, rfl⟩ := List.append_of_mem hmem
  refine List.find?_eq_some_iff_append.2 ⟨beq_self_eq_true m.name, before, after, rfl, ?_⟩
  intro y hy
  rw [Bool.not_eq_true', beq_eq_false_iff_ne]
  exact (ne_of_nodup_map h y hy).symm

/-- **A list without repetitions is left as it is.** -/
theorem distinctFrom_of_nodup : ∀ (seen : List String) {names : List String}, names.Nodup →
    (∀ name ∈ names, name ∉ seen) → distinctFrom seen names = names
  | _, [], _, _ => rfl
  | seen, name :: names, hnodup, hseen => by
    obtain ⟨hname, hnames⟩ := List.nodup_cons.1 hnodup
    have hnew : ¬ seen.contains name = true := fun h =>
      hseen name List.mem_cons_self (List.contains_iff_mem.1 h)
    rw [distinctFrom, if_neg hnew, distinctFrom_of_nodup (name :: seen) hnames]
    intro other hother hmem
    rcases List.mem_cons.1 hmem with rfl | hmem
    · exact hname hother
    · exact hseen other (List.mem_cons_of_mem name hother) hmem

namespace Pattern

/-- **A token selects alone the first candidate that equals it, ignoring case.** -/
theorem select_of_first (h : Host) {token first : String} {before after : List String}
    (hfirst : lowercase first = lowercase token)
    (hbefore : ∀ name ∈ before, lowercase name ≠ lowercase token) :
    select h token (before ++ first :: after) = .ok [first] := by
  have hfind : (before ++ first :: after).find? (fun c => lowercase c == lowercase token) =
      some first := by
    refine List.find?_eq_some_iff_append.2 ⟨beq_iff_eq.2 hfirst, before, after, rfl, ?_⟩
    intro name hname
    rw [Bool.not_eq_true', beq_eq_false_iff_ne]
    exact hbefore name hname
  unfold select
  rw [hfind]

/-- **A text begins with each of its beginnings.** -/
theorem beginsAlike_self_append : ∀ cs rest : List Char, beginsAlike cs (cs ++ rest) = true
  | [], rest => by cases rest <;> rfl
  | c :: cs, rest => by
    rw [List.cons_append, beginsAlike, Folding.full.same_self, beginsAlike_self_append cs rest]
    rfl

/-- **Characters that operate on nothing else match themselves.** -/
theorem run_units : ∀ (cs rest before : List Char) (captures : List (Nat × List Char)),
    (run (rowOf (cs.map unitOf).reverse) some ⟨before, cs ++ rest, captures⟩).isSome = true
  | [], _, _, _ => rfl
  | c :: cs, rest, before, captures => by
    rw [List.map_cons, List.reverse_cons, run_rowOf_append]
    have hunit : run (unitOf c) (run (rowOf (cs.map unitOf).reverse) some)
        ⟨before, c :: cs ++ rest, captures⟩ =
        run (rowOf (cs.map unitOf).reverse) some ⟨c :: before, cs ++ rest, captures⟩ := by
      unfold unitOf
      split
      · rename_i hdot
        subst hdot
        rfl
      · rw [run_literal]
        exact if_pos (Folding.full.same_self c.toNat)
    rw [hunit]
    exact run_units cs rest _ _

end Pattern

open Pattern

namespace Choice

/-- `c.Lists items`: the candidates of a choice are listed with their values. -/
structure Lists (c : Choice) (items : List (String × Value)) : Prop where
  supply : ∀ token, c.supply token = items.map Prod.fst
  value : ∀ name v, (name, v) ∈ items → c.value name = .ok v

/-- **A choice among names without repetitions lists them with their values.** -/
theorem lists_ofList {items : List (String × Value)} (h : (items.map Prod.fst).Nodup)
    (showUsage : Bool) : (ofList items showUsage).Lists items where
  supply := fun _ => distinctFrom_of_nodup [] h fun _ _ => List.not_mem_nil
  value := by
    intro name v hmem
    have hlookup : lookupLast items name = some v := by
      refine lookup_of_mem ?_ (List.mem_reverse.2 hmem)
      rw [List.map_reverse]
      exact List.nodup_reverse.2 h
    unfold ofList
    dsimp only
    rw [hlookup]

/-- **The members of an enumeration are listed**, if they are no data with items of their own. -/
theorem lists_ofMembers {e : Enumeration} (h : (e.members.map Member.name).Nodup)
    (hitems : e.ownItems = false) :
    (ofMembers e).Lists (e.members.map fun m => (m.name, .member m)) where
  supply := fun _ => by
    rw [List.map_map]
    rfl
  value := by
    intro name v hmem
    obtain ⟨m, hm, heq⟩ := List.mem_map.1 hmem
    obtain ⟨rfl, rfl⟩ := Prod.mk.inj heq
    unfold ofMembers
    dsimp only
    rw [hitems, find?_of_mem h hm]
    rfl

/-- `c.Gives o token v`: of a token a choice makes one value, and binds its parts: nothing for
nothing, each of several, and the value itself for any other. -/
def Gives (c : Choice) (o : Occasion) (token : String) (v : Value) : Prop :=
  ∀ (f : Frame) (p : Progress) (s : TokenStream), p.stream.next = .ok (token, s) →
    ∃ asked, (Parameter.leaf f (.choice c)).core o p = ⟨.ok (), ⟨s,
      if f.key.isEmpty then p.context else p.context.putAll f.key v.parts⟩, asked⟩

/-- `c.Offers o p name`: a choice completes the word being typed with a name, maybe among others. -/
def Offers (c : Choice) (o : Occasion) (p : Progress) (name : String) : Prop :=
  ∃ words, ((Leaf.choice c).complete o p).result = .ok words ∧ name ∈ words

/-- What holds of the candidates of a choice on an occasion, whatever their names. -/
structure Reaches (c : Choice) (items : List (String × Value)) (o : Occasion) : Prop where
  /-- A name gives the value of the first candidate that equals it, ignoring case. -/
  first : ∀ name ∈ items.map Prod.fst, ∃ before first v after,
    items = before ++ (first, v) :: after ∧ lowercase first = lowercase name ∧
    (∀ x ∈ before, lowercase x.1 ≠ lowercase name) ∧ c.Gives o name v
  /-- It gives its own value if no earlier candidate equals it, ignoring case. -/
  own : ∀ before name v after, items = before ++ (name, v) :: after →
    (∀ x ∈ before, lowercase x.1 ≠ lowercase name) → c.Gives o name v
  /-- A beginning without operators offers the name. -/
  plain : ∀ name ∈ items.map Prod.fst, ∀ p typed, Leaf.IsTyping p typed →
    typed.toList <+: name.toList → (∀ ch ∈ typed.toList, ch = '.' ∨ ch ∉ meaningful) →
    c.Offers o p name
  /-- So does a beginning that is no pattern. -/
  malformed : ∀ name ∈ items.map Prod.fst, ∀ p typed, Leaf.IsTyping p typed →
    typed.toList <+: name.toList → read o.host (anchoredText typed) = .error .malformed →
    c.Offers o p name
  /-- A beginning that is a pattern offers the name exactly if the name matches it. -/
  pattern : ∀ name ∈ items.map Prod.fst, ∀ p typed, Leaf.IsTyping p typed → ∀ node,
    read o.host (anchoredText typed) = .ok node →
    (c.Offers o p name ↔ node.matchesAtStart name = true)

variable {o : Occasion} {c : Choice} {items : List (String × Value)} {p : Progress}
  {name typed : String}

/-- **The first listed candidate that equals a token, ignoring case, gives its value.** -/
theorem Lists.gives {before after : List (String × Value)} {first token : String} {v : Value}
    (h : c.Lists (before ++ (first, v) :: after)) (hfirst : lowercase first = lowercase token)
    (hbefore : ∀ x ∈ before, lowercase x.1 ≠ lowercase token) : c.Gives o token v := by
  intro f p s hnext
  have hselect : select o.host token (c.supply token) = .ok [first] := by
    rw [h.supply, List.map_append, List.map_cons]
    refine select_of_first o.host hfirst fun other hother => ?_
    obtain ⟨x, hx, rfl⟩ := List.mem_map.1 hother
    exact hbefore x hx
  have hvalue : [first].mapM c.value = .ok [v] := by
    rw [List.mapM_cons, h.value first v (List.mem_append_right _ List.mem_cons_self)]
    rfl
  obtain ⟨bound, asked, hbound, -, hcore⟩ :=
    (Leaf.chooses_of_select (l := .choice c) rfl hselect).binds f p s [v] hnext
      (List.cons_ne_nil _ _) hvalue
  rw [hbound v rfl] at hcore
  exact ⟨asked, hcore⟩

/-- **A candidate is offered if it matches the pattern of the word being typed.** -/
theorem Lists.offers_iff (h : c.Lists items) (hname : name ∈ items.map Prod.fst)
    (htyping : Leaf.IsTyping p typed) {pattern : Anchored}
    (hpattern : ofToken o.host typed = .ok pattern) :
    c.Offers o p name ↔ pattern.node.matchesAtStart name = true := by
  have hcomplete : ((Leaf.choice c).complete o p).result =
      .ok (pattern.filter (c.supply typed)) := Leaf.completeChoice_of_ofToken htyping hpattern
  have hfilter : name ∈ pattern.filter (c.supply typed) ↔
      pattern.node.matchesAtStart name = true := by
    rw [h.supply]
    exact List.mem_filter.trans (and_iff_right hname)
  rw [← hfilter]
  constructor
  · rintro ⟨words, hwords, hmem⟩
    rw [hcomplete] at hwords
    exact Except.ok.inj hwords ▸ hmem
  · exact fun hmem => ⟨_, hcomplete, hmem⟩

/-- **What is listed is reached.** -/
theorem Lists.reaches (h : c.Lists items) : c.Reaches items o where
  first := by
    intro name hname
    obtain ⟨y, hy, rfl⟩ := List.mem_map.1 hname
    have hfound : (items.find? fun x => lowercase x.1 == lowercase y.1).isSome = true :=
      List.find?_isSome.2 ⟨y, hy, beq_self_eq_true _⟩
    obtain ⟨⟨first, v⟩, hfind⟩ := Option.isSome_iff_exists.1 hfound
    obtain ⟨hfirst, before, after, rfl, hbefore⟩ := List.find?_eq_some_iff_append.1 hfind
    have hfirst : lowercase first = lowercase y.1 := beq_iff_eq.1 hfirst
    have hbefore : ∀ x ∈ before, lowercase x.1 ≠ lowercase y.1 := fun x hx => by
      simpa using hbefore x hx
    exact ⟨before, first, v, after, rfl, hfirst, hbefore, h.gives hfirst hbefore⟩
  own := by
    rintro before name v after rfl hbefore
    exact h.gives rfl hbefore
  plain := by
    intro name hname p typed htyping hprefix hplain
    obtain ⟨rest, hrest⟩ := hprefix
    refine (h.offers_iff hname htyping (ofToken_of_plain hplain)).2 ?_
    unfold Node.matchesAtStart Place.start
    rw [run_rowOf_append, ← hrest]
    exact run_units typed.toList rest [] []
  malformed := by
    intro name hname p typed htyping hprefix hread
    obtain ⟨rest, hrest⟩ := hprefix
    have hpattern : ofToken o.host typed = .ok (beginsWith typed) := by
      unfold ofToken
      rw [hread]
    refine (h.offers_iff hname htyping hpattern).2 ?_
    rw [matchesAtStart_beginsWith, ← hrest]
    exact beginsAlike_self_append typed.toList rest
  pattern := by
    intro name hname p typed htyping node hread
    have hpattern : ofToken o.host typed = .ok ⟨anchoredText typed, node⟩ := by
      unfold ofToken
      rw [hread]
    exact h.offers_iff hname htyping hpattern

end Choice

/-- **Candidates are reached by their names and beginnings**, of a list and of the members of an
enumeration alike, as far as `Choice.Reaches` says; the members must be no data with items of their
own, in which names are not looked up. -/
theorem candidates_are_reached (o : Occasion) :
    (∀ (items : List (String × Value)) (showUsage : Bool), (items.map Prod.fst).Nodup →
      (Choice.ofList items showUsage).Reaches items o) ∧
    ∀ e : Enumeration, (e.members.map Member.name).Nodup → e.ownItems = false →
      (Choice.ofMembers e).Reaches (e.members.map fun m => (m.name, .member m)) o :=
  ⟨fun _ showUsage h => (Choice.lists_ofList h showUsage).reaches,
    fun _ h hitems => (Choice.lists_ofMembers h hitems).reaches⟩

/-- The names `foo` and `FOO` are reached as far as possible, and so is a member `RED`. -/
theorem shadowed_names_are_reached :
    let o : Occasion := ⟨.bare "tester", ⟨2024, 5, 31, 12, 34, 56, 789012, none⟩, .usual⟩
    (Choice.ofList [("foo", .integer 1), ("FOO", .integer 2)] true).Reaches
      [("foo", .integer 1), ("FOO", .integer 2)] o ∧
    (Choice.ofMembers ⟨"Color", [⟨"Color", "RED", "1"⟩], false⟩).Reaches
      [("RED", .member ⟨"Color", "RED", "1"⟩)] o := by
  intro o
  exact ⟨(candidates_are_reached o).1 _ true (by decide),
    (candidates_are_reached o).2 ⟨"Color", [⟨"Color", "RED", "1"⟩], false⟩ (by decide) rfl⟩

/-- **Not every candidate is reached by its name, nor by all beginnings of it**: `FOO` behind `foo`
gives the value of `foo`, and `a+b` does not offer `a+b`. -/
theorem not_every_candidate_is_reached :
    let o : Occasion := ⟨.bare "tester", ⟨2024, 5, 31, 12, 34, 56, 789012, none⟩, .usual⟩
    (¬ ∀ items : List (String × Value), (items.map Prod.fst).Nodup →
      (∀ x ∈ items, x.1 ≠ "") → ∀ name v, (name, v) ∈ items →
        (Choice.ofList items true).Gives o name v) ∧
    ¬ ∀ items : List (String × Value), (items.map Prod.fst).Nodup →
      (∀ x ∈ items, x.1 ≠ "") → ∀ name ∈ items.map Prod.fst, ∀ p typed,
        Leaf.IsTyping p typed → typed.toList <+: name.toList →
        (Choice.ofList items true).Offers o p name := by
  intro o
  constructor
  · intro h
    let items : List (String × Value) := [("foo", .integer 1), ("FOO", .integer 2)]
    have hdistinct : (items.map Prod.fst).Nodup := by decide
    have hown : (Choice.ofList items true).Gives o "FOO" (.integer 2) :=
      h items hdistinct (by decide) "FOO" _ (by simp [items])
    have hlists : (Choice.ofList items true).Lists ([] ++ items) :=
      Choice.lists_ofList hdistinct true
    have hfirst : (Choice.ofList items true).Gives o "FOO" (.integer 1) :=
      hlists.gives (by decide +kernel) (by simp)
    let p : Progress := .ofStream (.ofTokens "FOO" [⟨"FOO", 0, 3⟩] none)
    obtain ⟨asked, hcore⟩ := hown { key := "c" } p _ rfl
    obtain ⟨asked', hcore'⟩ := hfirst { key := "c" } p _ rfl
    rw [hcore'] at hcore
    have hvalues := congrArg (fun r => r.progress.context.values "c") hcore
    cases hvalues
  · intro h
    let items : List (String × Value) := [("a+b", .integer 1)]
    have hdistinct : (items.map Prod.fst).Nodup := by decide
    let p : Progress := .ofStream (.ofTokens "a+b" [⟨"a+b", 0, 3⟩] none)
    have htyping : Leaf.IsTyping p "a+b" := .token rfl
    have hoffers := h items hdistinct (by decide) "a+b" (by simp [items]) p "a+b" htyping
      (List.prefix_refl _)
    have hno := ((Choice.lists_ofList hdistinct true).reaches.pattern "a+b" (by simp [items]) p
      "a+b" htyping _ rfl).1 hoffers
    cases hno

end CommandGrammar
