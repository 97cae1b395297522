/-
# The names of the children of a draft

However children are added to a draft, by calls of which any may fail, each of their names leads to
the child that goes by it, in any spelling that is the same in lowercase (`names_lead_to_children`).
A call can do two things only (`ChildCall.run_cases`):

| call | what is left |
| --- | --- |
| one that fails | what was there before |
| one that adds a child | one child more, whose names were not taken, and its names in the register |

A name is held against the children so far, but not against the other names of its own call.  So a
call can give a name twice, as `sub` and `SUB`, and the two are one name of the child
(`name_is_given_twice`).  No other pair of names of a command is the same.
-/

import CommandGrammar.Command.Children
import CommandGrammar.Proofs.Dispatch.Naming
import CommandGrammar.Proofs.Registers.Owners

namespace CommandGrammar

open Text

namespace Command

variable {c d : Command} {n : String} {cs : List Command}

/-- What the names of a child are compared by. -/
def nameKeys (c : Command) : List String := c.frame.names.map lowercase

/-- **A command goes by the lowered forms of the names it is given.** -/
@[simp] theorem nameKeys_named (names : List String) (c : Command) :
    (c.named names).nameKeys = names.map lowercase := by
  simp [nameKeys]

/-- **A command goes by a name whose lowered form is one of its own.** -/
theorem goesBy_iff : c.goesBy n = true ↔ lowercase n ∈ c.nameKeys := by
  simp [goesBy, nameKeys]

/-- **A child is listed under each of its names.** -/
theorem mem_byName : (n, d) ∈ c.byName ↔ d ∈ c.children ∧ n ∈ d.frame.names := by
  simp [byName]

/-- **Well named children share no name**, in whatever case. -/
theorem WellNamed.disjoint (h : WellNamed cs) :
    cs.Pairwise fun c d => c.nameKeys.Disjoint d.nameKeys := by
  refine h.apart.imp fun {c d} hapart key hc hd => ?_
  obtain ⟨n, hn, rfl⟩ := List.mem_map.1 hd
  have hgoes : c.goesBy n = true := goesBy_iff.2 hc
  rw [hapart n hn] at hgoes
  cases hgoes

/-- **Well named children that share a name are the same.** -/
theorem WellNamed.eq_of_key (h : WellNamed cs) (hc : c ∈ cs) (hd : d ∈ cs)
    (hcn : lowercase n ∈ c.nameKeys) (hdn : lowercase n ∈ d.nameKeys) : c = d :=
  eq_of_shared h.disjoint hc hd hcn hdn

/-- **The names of well named children are all apart exactly if those of each child are.** -/
theorem WellNamed.nodup_iff (h : WellNamed cs) :
    (cs.flatMap nameKeys).Nodup ↔ ∀ c ∈ cs, c.nameKeys.Nodup := by
  rw [List.nodup_flatMap]
  exact and_iff_left h.disjoint

/-- **A name leads to its child in any spelling**, in the table and in a search. -/
theorem WellNamed.leads (h : WellNamed c.children) (hd : d ∈ c.children)
    (hn : n ∈ d.frame.names) {spelling : String} (hspelling : lowercase spelling = lowercase n) :
    c.childTable.find? spelling = some d ∧ c.child? spelling = some d := by
  have hkey : lowercase spelling ∈ d.nameKeys := hspelling ▸ List.mem_map_of_mem hn
  constructor
  · refine Caseless.find?_ofList ⟨(n, d), mem_byName.2 ⟨hd, hn⟩, hspelling.symm⟩ ?_
    rintro ⟨m, b⟩ he hm
    obtain ⟨hb, hbm⟩ := mem_byName.1 he
    have hbkey : lowercase spelling ∈ b.nameKeys := hm ▸ List.mem_map_of_mem hbm
    exact h.eq_of_key hb hd hbkey hkey
  · refine find?_of_unique hd (goesBy_iff.2 hkey) fun b hb hgoes => ?_
    exact h.eq_of_key hb hd (goesBy_iff.1 hgoes) hkey

end Command

namespace ChildCall

open Command CommandDraft

/-- **A call that adds a child leaves all as it was and fails**, or what it is given is a command
under names that are not taken, and the child and its names are there. -/
theorem run_cases (call : ChildCall) (r : Registered CommandDraft) :
    (∃ e, call.run r = .error e r ∧
        ∀ c, call.child.given = .ok (.fitting c) →
          newChild r.taken (.fitting c) call.names = .error e) ∨
      ∃ c : Command, call.child.given = .ok (.fitting c) ∧ call.names ≠ [] ∧
        (∀ n ∈ call.names, isChildName n = true ∧ lowercase n ∉ r.taken) ∧
        call.run r = .ok () ⟨r.made.push (c.named call.names),
          r.taken ++ call.names.map lowercase⟩ := by
  obtain ⟨child, names⟩ := call
  cases hgiven : child.given with
  | error e =>
    refine .inl ⟨e, ?_, by simp⟩
    simp only [run, hgiven]
    rfl
  | ok given =>
    have hrun : (⟨child, names⟩ : ChildCall).run r = (do
        let c ← MonadExcept.ofExcept (newChild r.taken given names)
        Registered.enter c.nameKeys (·.push c) : Defining CommandDraft Unit) r := by
      simp only [run, hgiven]
      rfl
    cases hnew : newChild r.taken given names with
    | error e =>
      refine .inl ⟨e, by rw [hrun, hnew]; rfl, fun c hc => ?_⟩
      rw [← Except.ok.inj hc, hnew]
    | ok b =>
      obtain ⟨c, rfl, hne, hnames, rfl⟩ := newChild_eq_ok.1 hnew
      refine .inr ⟨c, rfl, hne, nameProblem?_eq_none.1 hnames, ?_⟩
      rw [hrun, hnew, ← nameKeys_named names c]
      rfl

/-- **A call adds a child exactly if it is given a command, and names that can be typed and are not
taken.**  What a name of the call is besides does not matter. -/
theorem run_eq_ok (call : ChildCall) (r : Registered CommandDraft) :
    (∃ r', call.run r = .ok () r') ↔ (∃ c, call.child.given = .ok (.fitting c)) ∧
      call.names ≠ [] ∧ ∀ n ∈ call.names, isChildName n = true ∧ lowercase n ∉ r.taken := by
  constructor
  · rintro ⟨r', hok⟩
    rcases call.run_cases r with ⟨e, hrun, -⟩ | ⟨c, hgiven, hne, hnames, -⟩
    · rw [hrun] at hok
      cases hok
    · exact ⟨⟨c, hgiven⟩, hne, hnames⟩
  · rintro ⟨⟨c, hgiven⟩, hne, hnames⟩
    rcases call.run_cases r with ⟨e, -, hfails⟩ | ⟨_, -, -, -, hrun⟩
    · have hnew : newChild r.taken (.fitting c) call.names = .ok (c.named call.names) :=
        newChild_eq_ok.2 ⟨c, rfl, hne, nameProblem?_eq_none.2 hnames, rfl⟩
      rw [hfails c hgiven] at hnew
      cases hnew
    · exact ⟨_, hrun⟩

/-- **Adding a command by a call is adding it to the draft**, if the register holds the names of its
children. -/
theorem run_eq_addChild (d : CommandDraft) (c : Command) (names : List String) :
    (⟨.finished c, names⟩ : ChildCall).run ⟨d, d.taken⟩ =
      match d.addChild (.fitting c) names with
      | .ok d' => .ok () ⟨d', d.taken ++ names.map lowercase⟩
      | .error e => .error e ⟨d, d.taken⟩ := by
  rcases run_cases ⟨.finished c, names⟩ ⟨d, d.taken⟩ with
    ⟨e, hrun, hnew⟩ | ⟨b, hb, hne, hnames, hrun⟩
  · rw [hrun, addChild, hnew c rfl]
    rfl
  · obtain rfl := Given.fitting.inj (Except.ok.inj hb)
    have hnew : newChild d.taken (.fitting c) names = .ok (c.named names) :=
      newChild_eq_ok.2 ⟨c, rfl, hne, nameProblem?_eq_none.2 hnames, rfl⟩
    rw [hrun, addChild, hnew]
    rfl

end ChildCall

namespace CommandDraft

open Command

/-- The draft that calls make of one without children, and its register. -/
def defined (frame : CommandFrame) (parameters : List Parameter) (calls : List ChildCall) :
    Registered CommandDraft :=
  (⟨{ frame, parameters }, []⟩ : Registered CommandDraft).afterAll (calls.map ChildCall.run)

/-- **The register holds the names of the children, and the children are well named**, whatever
calls have been made and whichever of them have failed. -/
theorem wellNamed_defined (frame : CommandFrame) (parameters : List Parameter)
    (calls : List ChildCall) :
    (defined frame parameters calls).taken =
        (defined frame parameters calls).made.children.flatMap nameKeys ∧
      WellNamed (defined frame parameters calls).made.children := by
  refine Registered.afterAll_induction
    (P := fun r : Registered CommandDraft =>
      r.taken = r.made.children.flatMap nameKeys ∧ WellNamed r.made.children) ⟨rfl, ?_⟩ ?_
  · exact ⟨by simp, .nil⟩
  · intro run hrun r ⟨htaken, hr⟩
    obtain ⟨call, -, rfl⟩ := List.mem_map.1 hrun
    unfold Registered.after
    rcases call.run_cases r with ⟨e, h, -⟩ | ⟨c, -, -, hnames, h⟩ <;> rw [h]
    · exact ⟨htaken, hr⟩
    · refine ⟨by simp [push, htaken], hr.append (fun n hn => ⟨(hnames n hn).1, fun b hb => ?_⟩) c⟩
      -- A name that a child goes by is in the register.
      have hnew : lowercase n ∉ r.made.children.flatMap nameKeys := htaken ▸ (hnames n hn).2
      by_contra hgoes
      rw [Bool.not_eq_false, goesBy_iff] at hgoes
      exact hnew (List.mem_flatMap.2 ⟨b, hb, hgoes⟩)

/-- **Each name leads to its child.**  A call that fails leaves all as it was, and a call fails
exactly if it is given no command, no name, a name that cannot be typed, or one that an earlier
child goes by.  And whatever calls are made, the children of a command that is built share no name
in any case; the names of all of them are apart exactly if no child has a name twice; and each name,
in any spelling, leads to its child and no other. -/
theorem names_lead_to_children (frame : CommandFrame) (parameters : List Parameter)
    (calls : List ChildCall) :
    (∀ (call : ChildCall) (r r' : Registered CommandDraft) (e : DefinitionError),
      call.run r = .error e r' → r' = r) ∧
    let r := defined frame parameters calls
    (∀ call : ChildCall, (∃ r', call.run r = .ok () r') ↔
      (∃ c, call.child.given = .ok (.fitting c)) ∧ call.names ≠ [] ∧
        ∀ n ∈ call.names, isChildName n = true ∧
          ∀ d ∈ r.made.children, ∀ m ∈ d.frame.names, lowercase m ≠ lowercase n) ∧
    ∀ c, r.made.build = .ok c →
      c.children.Pairwise (fun d d' => d.nameKeys.Disjoint d'.nameKeys) ∧
      ((c.children.flatMap nameKeys).Nodup ↔ ∀ d ∈ c.children, d.nameKeys.Nodup) ∧
      ∀ d ∈ c.children, ∀ n ∈ d.frame.names, ∀ spelling, lowercase spelling = lowercase n →
        c.childTable.find? spelling = some d ∧ c.child? spelling = some d := by
  refine ⟨fun call r r' e h => ?_, ?_⟩
  · rcases call.run_cases r with ⟨e', hrun, -⟩ | ⟨c, -, -, -, hrun⟩ <;> rw [hrun] at h
    · exact (EStateM.Result.error.inj h).2.symm
    · cases h
  · obtain ⟨htaken, hnamed⟩ := wellNamed_defined frame parameters calls
    intro r
    constructor
    · intro call
      have hnew : ∀ n, lowercase n ∉ r.taken ↔
          ∀ d ∈ r.made.children, ∀ m ∈ d.frame.names, lowercase m ≠ lowercase n := by
        intro n
        rw [htaken]
        simp [r, nameKeys]
      rw [call.run_eq_ok r]
      simp only [hnew]
    · intro c hbuild
      have hc : WellNamed c.children := wellNamed_build hnamed hbuild
      exact ⟨hc.disjoint, hc.nodup_iff, fun d hd n hn spelling hspelling =>
        hc.leads hd hn hspelling⟩

/-- **A name in capitals leads to its child**, and the two calls that fail in between leave nothing:
`GIVE` is taken, and `two words` has a blank. -/
theorem name_in_capitals_leads_to_child :
    let run : Executor := ⟨"run", fun _ _ => { ending := .silent }⟩
    let draft : ChildPart := .draft { frame := { executor := some run } }
    let calls : List ChildCall :=
      [⟨draft, ["Give", "g"]⟩, ⟨draft, ["take", "GIVE"]⟩, ⟨draft, ["two words"]⟩, ⟨draft, ["say"]⟩]
    let r := defined {} [] calls
    r.made.children.map (·.frame.names) = [["Give", "g"], ["say"]] ∧
      lowercase "gIVE" = lowercase "Give" ∧
      ∃ c, r.made.build = .ok c ∧ ∃ d ∈ c.children, d.frame.names = ["Give", "g"] ∧
        c.child? "gIVE" = some d := by
  intro run draft calls r
  have hnames : r.made.children.map (·.frame.names) = [["Give", "g"], ["say"]] := by
    decide +kernel
  have hcapitals : lowercase "gIVE" = lowercase "Give" := by decide +kernel
  obtain ⟨d, hd, hgive⟩ : ∃ d ∈ r.made.children, d.frame.names = ["Give", "g"] :=
    List.mem_map.1 (hnames ▸ List.mem_cons_self)
  obtain ⟨c, hbuild⟩ : ∃ c, r.made.build = .ok c := by
    have hchildren : r.made.children.isEmpty = false :=
      List.isEmpty_eq_false_iff.2 (List.ne_nil_of_mem hd)
    simp [build, hchildren]
  have hc : d ∈ c.children := children_build hbuild ▸ hd
  have hleads := (names_lead_to_children {} [] calls).2.2 c hbuild
  exact ⟨hnames, hcapitals, c, hbuild, d, hc, hgive,
    (hleads.2.2 d hc "Give" (by simp [hgive]) "gIVE" hcapitals).2⟩

/-- **A call can give a name twice**: `sub` and `SUB` are the same name in lowercase, and the call
that gives both adds the child. -/
theorem name_is_given_twice :
    let run : Executor := ⟨"run", fun _ _ => { ending := .silent }⟩
    let call : ChildCall := ⟨.finished (.node { executor := some run } []), ["sub", "SUB"]⟩
    let r := defined {} [] [call]
    ¬ (call.names.map lowercase).Nodup ∧ (∃ r', call.run ⟨{}, []⟩ = .ok () r') ∧
      ∃ c, r.made.build = .ok c ∧ ¬ (c.children.flatMap nameKeys).Nodup := by
  intro run call r
  have htwice : ¬ (call.names.map lowercase).Nodup := by decide +kernel
  have hfine : ∀ n ∈ call.names, isChildName n = true ∧ lowercase n ∉ ([] : List String) := by
    decide +kernel
  have hruns : ∃ r', call.run ⟨{}, []⟩ = .ok () r' :=
    (call.run_eq_ok ⟨{}, []⟩).2 ⟨⟨_, rfl⟩, by simp [call], hfine⟩
  have hchildren : (r.made.children.flatMap nameKeys) = ["sub", "sub"] := by decide +kernel
  have hsome : r.made.children.isEmpty = false := by
    refine List.isEmpty_eq_false_iff.2 fun hnone => ?_
    rw [hnone] at hchildren
    cases hchildren
  obtain ⟨c, hbuild⟩ : ∃ c, r.made.build = .ok c := by simp [build, hsome]
  refine ⟨htwice, hruns, c, hbuild, ?_⟩
  rw [children_build hbuild, hchildren]
  decide

end CommandDraft
end CommandGrammar
