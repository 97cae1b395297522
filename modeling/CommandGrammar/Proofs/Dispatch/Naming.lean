/-
# The names of children

A line leaves a command for the first child that goes by its next token.  A command that is put
together as a draft has no two children that go by one name, so each of them is found by each of its
names (`WellNamed.child?_of_mem`); and as a name has no blank in it, it can be a token.

| law | kept by a draft because |
| --- | --- |
| `typable` | a name that is empty or has a blank is refused |
| `apart` | a name in lowercase that is taken is refused |
-/

import CommandGrammar.Command.Definition

namespace CommandGrammar

open Text

namespace Command

/-- Whether a child may go by a name: it is not empty, and no character of it is a blank. -/
def isChildName (n : String) : Bool := !(n.isEmpty || n.toList.any isBlank)

/-- Children that each go by names of their own. -/
structure WellNamed (cs : List Command) : Prop where
  typable : ∀ c ∈ cs, ∀ n ∈ c.frame.names, isChildName n = true
  apart : cs.Pairwise fun c d => ∀ n ∈ d.frame.names, c.goesBy n = false

variable {c d : Command} {n : String}

/-- **A command goes by each of its names.** -/
theorem goesBy_of_mem (h : n ∈ c.frame.names) : c.goesBy n = true :=
  List.any_eq_true.2 ⟨n, h, beq_self_eq_true _⟩

/-- **A command that is named has these names.** -/
@[simp] theorem names_named (names : List String) (c : Command) :
    (c.named names).frame.names = names := by
  cases c
  rfl

/-- **A child is found by each of its names.** -/
theorem WellNamed.child?_of_mem (h : WellNamed c.children) (hd : d ∈ c.children)
    (hn : n ∈ d.frame.names) : c.child? n = some d := by
  obtain ⟨before, after, hcs⟩ := List.append_of_mem hd
  have apart := h.apart
  rw [hcs, List.pairwise_append] at apart
  have hbefore : before.find? (·.goesBy n) = none := List.find?_eq_none.2 fun b hb => by
    simp [apart.2.2 b hb d List.mem_cons_self n hn]
  have hgoes : d.goesBy n = true := goesBy_of_mem hn
  unfold child?
  rw [hcs, List.find?_append, hbefore]
  simp [hgoes]

/-- **One more child, whose names lead to none so far, leaves the children well named.** -/
theorem WellNamed.append {cs : List Command} {names : List String} (h : WellNamed cs)
    (good : ∀ n ∈ names, isChildName n = true ∧ ∀ b ∈ cs, b.goesBy n = false) (c : Command) :
    WellNamed (cs ++ [c.named names]) := by
  constructor
  · intro b hb n hn
    rcases List.mem_append.1 hb with hb | hb
    · exact h.typable b hb n hn
    · rw [List.mem_singleton.1 hb, names_named] at hn
      exact (good n hn).1
  · refine List.pairwise_append.2 ⟨h.apart, List.pairwise_singleton _ _, fun b hb x hx n hn => ?_⟩
    rw [List.mem_singleton.1 hx, names_named] at hn
    exact (good n hn).2 b hb

end Command

namespace CommandDraft

open Command

variable {d d' : CommandDraft}

/-- **Names have no problem exactly if children may go by them and none is taken.** -/
theorem nameProblem?_eq_none {taken names : List String} : nameProblem? taken names = none ↔
    ∀ n ∈ names, isChildName n = true ∧ lowercase n ∉ taken := by
  induction names with
  | nil => simp [nameProblem?]
  | cons n names ih =>
    unfold nameProblem?
    by_cases hname : isChildName n = true
    · have hgood : (n.isEmpty || n.toList.any isBlank) = false := by
        simpa only [isChildName, Bool.not_eq_true'] using hname
      by_cases htaken : lowercase n ∈ taken
      · simp [hgood, htaken]
      · simp [hgood, htaken, ih, hname]
    · have hbad : (n.isEmpty || n.toList.any isBlank) = true := by
        simpa only [isChildName, Bool.not_eq_true', Bool.not_eq_false] using hname
      simp [hbad, hname]

/-- **A name that is not taken is the name of no child so far.** -/
theorem goesBy_of_not_taken {c : Command} {n : String} (hc : c ∈ d.children)
    (h : lowercase n ∉ d.taken) : c.goesBy n = false := by
  refine List.any_eq_false.2 fun m hm heq => h ?_
  rw [← eq_of_beq heq]
  refine mem_distinctFrom.2 ⟨List.mem_flatMap.2 ⟨c, hc, ?_⟩, List.not_mem_nil⟩
  exact List.mem_map_of_mem hm

/-- **A child is added exactly if it is a command, and its names have no problem.** -/
theorem newChild_eq_ok {taken names : List String} {child : Given Command} {c : Command} :
    newChild taken child names = .ok c ↔ ∃ b, child = .fitting b ∧ names ≠ [] ∧
      nameProblem? taken names = none ∧ c = b.named names := by
  constructor
  · intro h
    unfold newChild at h
    split at h
    · cases h
    · rename_i b
      split at h
      · cases h
      · rename_i hempty
        split at h
        · cases h
        · rename_i hnames
          have hne : names ≠ [] := by simpa using hempty
          exact ⟨b, rfl, hne, hnames, (Except.ok.inj h).symm⟩
  · rintro ⟨b, rfl, hne, hnames, rfl⟩
    have hempty : names.isEmpty = false := by simpa using hne
    simp [newChild, hempty, hnames]

/-- **A command that is new has no children that could share a name.** -/
theorem wellNamed_ofSettings (s : Settings) : WellNamed (ofSettings s).children where
  typable _ h := absurd h List.not_mem_nil
  apart := .nil

/-- **One more child leaves the children well named.** -/
theorem wellNamed_addChild {child : Given Command} {names : List String}
    (h : WellNamed d.children) (hadd : d.addChild child names = .ok d') :
    WellNamed d'.children := by
  obtain ⟨c, hnames, rfl⟩ : ∃ c : Command, nameProblem? d.taken names = none ∧
      d' = d.push (c.named names) := by
    unfold addChild at hadd
    cases hnew : newChild d.taken child names with
    | error e =>
      rw [hnew] at hadd
      cases hadd
    | ok b =>
      rw [hnew] at hadd
      obtain ⟨c, -, -, hnames, rfl⟩ := newChild_eq_ok.1 hnew
      exact ⟨c, hnames, (Except.ok.inj hadd).symm⟩
  refine h.append (fun n hn => ?_) c
  obtain ⟨hname, hnew⟩ := nameProblem?_eq_none.1 hnames n hn
  exact ⟨hname, fun b hb => goesBy_of_not_taken hb hnew⟩

/-- **A command that is built has well named children.** -/
theorem wellNamed_build {c : Command} (h : WellNamed d.children) (hbuild : d.build = .ok c) :
    WellNamed c.children := by
  rw [children_build hbuild]
  exact h

end CommandDraft
end CommandGrammar
