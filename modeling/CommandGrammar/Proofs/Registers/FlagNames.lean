/-
# The names of flags

However a set of flags is put together, by calls of which any may fail, each of its names leads to
the flag that has it.  A call can do three things only (`FlagCall.run_cases`):

| call | what is left |
| --- | --- |
| one that fails | what was there before |
| one that adds a flag | one flag more, whose names were not taken, and its names in the register |
| any other | the same flags and names |

So the register holds the names of the set, no more and no less, and a name that is new to the
register is new to the set.  Names are entered as they are compared: short ones as they are, long
ones in lowercase.  A flag has one long name at most, so no call brings two long names that differ
in case only.
-/

import CommandGrammar.Command.Definition
import CommandGrammar.Flag.Definition
import CommandGrammar.Proofs.Registers.Owners

namespace CommandGrammar

open Text

namespace Flag

/-- The long names of a flag. -/
def longs (f : Flag) : List String := f.names.filter fun n => !isShort n

/-- **A long name is looked up in small letters.** -/
theorem nameKey_of_long {n : String} (h : isShort n = false) : nameKey n = lowercase n := by
  simp [nameKey, h]

/-- **The short names of a flag are its names of one letter.** -/
theorem mem_shorts {f : Flag} {n : String} : n ∈ f.shorts ↔ n ∈ f.names ∧ isShort n = true :=
  List.mem_filter

/-- **The long names of a flag are all its others.** -/
theorem mem_longs {f : Flag} {n : String} : n ∈ f.longs ↔ n ∈ f.names ∧ isShort n = false := by
  simp [longs]

/-- Whether a name can be typed behind its dashes: it is not empty, has no blank and no `=`, and
does not go on with a dash. -/
def Typable (n : String) : Prop := Flags.isName n = true ∧ n.toList.head? ≠ some '-'

/-- A flag under names that none of the taken ones is the same as. -/
structure Fresh (taken : List String) (f : Flag) : Prop where
  typable : ∀ n ∈ f.names, Typable n
  apart : f.names.Nodup
  oneLong : f.longs.length ≤ 1
  new : ∀ n ∈ f.names, nameKey n ∉ taken

end Flag

namespace Flags

open CommandGrammar.Flag

/-- **A name without its dashes can be typed.** -/
theorem typable_stripped {spec : String} (h : isName (stripped spec) = true) :
    Typable (stripped spec) := by
  refine ⟨h, fun hhead => ?_⟩
  unfold stripped at hhead
  rw [String.toList_ofList] at hhead
  have hdash := List.head?_dropWhile_not (· == '-') spec.toList
  rw [hhead] at hdash
  simp at hdash

/-- **Names that are taken over are typable, new, and told apart.** -/
theorem newNames_ok {taken names all : List String} {specs : List (Given String)}
    (h : newNames taken names specs = .ok all)
    (good : ∀ n ∈ names, Typable n ∧ nameKey n ∉ taken) (apart : names.Nodup) :
    (∀ n ∈ all, Typable n ∧ nameKey n ∉ taken) ∧ all.Nodup := by
  fun_induction newNames taken names specs with
  | case1 names =>
    obtain rfl := Except.ok.inj h
    exact ⟨good, apart⟩
  | case2 => cases h
  | case3 => cases h
  | case4 => cases h
  | case5 names spec specs name hname hnew ih =>
    rw [Bool.or_eq_true, not_or, List.contains_iff_mem, List.contains_iff_mem] at hnew
    refine ih h (fun n hn => ?_) ?_
    · rcases List.mem_append.1 hn with hn | hn
      · exact good n hn
      · obtain rfl := List.mem_singleton.1 hn
        exact ⟨typable_stripped (by simpa using hname), hnew.1⟩
    · refine List.nodup_append.2 ⟨apart, List.nodup_singleton name, fun a ha b hb heq => ?_⟩
      rw [List.mem_singleton.1 hb] at heq
      exact hnew.2 (heq ▸ ha)

/-- **A new flag is fresh.** -/
theorem fresh_of_newFlag {taken : List String} {role : FlagRole} {specs : List (Given String)}
    {f : Flag} (h : newFlag taken role specs = .ok f) : f.Fresh taken := by
  unfold newFlag at h
  cases hnames : newNames taken [] specs with
  | error e =>
    rw [hnames] at h
    cases h
  | ok all =>
    obtain ⟨hgood, hapart⟩ := newNames_ok hnames (by simp) List.nodup_nil
    rw [hnames] at h
    cases all with
    | nil => cases h
    | cons key others =>
      dsimp only [Bind.bind, Except.bind] at h
      split at h
      · cases h
      · rename_i hlong
        obtain rfl := Except.ok.inj h
        exact {
          typable := fun n hn => (hgood n hn).1
          apart := hapart
          oneLong := Nat.le_of_not_lt hlong
          new := fun n hn => (hgood n hn).2 }

/-- **Adding a flag fails before anything is changed**, or the flag and its names are there. -/
theorem register_cases (role : FlagRole) (specs : List (Given String)) (r : Registered Flags) :
    (∃ e, newFlag r.taken role specs = .error e ∧ register role specs r = .error e r) ∨
      ∃ f, newFlag r.taken role specs = .ok f ∧
        register role specs r = .ok () ⟨r.made.push f, r.taken ++ f.names.map nameKey⟩ := by
  have hrun : register role specs r = (do
      let f ← MonadExcept.ofExcept (newFlag r.taken role specs)
      Registered.enter (f.names.map nameKey) (·.push f) : Defining Flags Unit) r := rfl
  cases hnew : newFlag r.taken role specs with
  | error e =>
    refine .inl ⟨e, rfl, ?_⟩
    rw [hrun, hnew]
    rfl
  | ok f =>
    refine .inr ⟨f, rfl, ?_⟩
    rw [hrun, hnew]
    rfl

/-- A set of flags in which each name is the name of one flag. -/
structure Unambiguous (fs : Flags) : Prop where
  typable : ∀ f ∈ fs.flags, ∀ n ∈ f.names, Typable n
  shorts : (fs.flags.flatMap Flag.shorts).Nodup
  longs : ((fs.flags.flatMap Flag.longs).map lowercase).Nodup
  oneLong : ∀ f ∈ fs.flags, f.longs.length ≤ 1

section

variable {fs : Flags} {f g : Flag} {n : String}

/-- **A name is taken if some flag has one with the same key.** -/
theorem mem_taken : n ∈ fs.taken ↔ ∃ f ∈ fs.flags, ∃ m ∈ f.names, nameKey m = n := by
  simp [taken]

/-- **A flag is listed under each of its names.** -/
theorem mem_byName : (n, f) ∈ fs.byName ↔ f ∈ fs.flags ∧ n ∈ f.names := by
  simp [byName]

/-- **One more flag takes its own names.** -/
@[simp] theorem taken_push (fs : Flags) (f : Flag) :
    (fs.push f).taken = fs.taken ++ f.names.map nameKey := by
  simp [taken, push]

/-- **A fresh flag leaves a set unambiguous.** -/
theorem Unambiguous.push (h : fs.Unambiguous) (hf : f.Fresh fs.taken) :
    (fs.push f).Unambiguous := by
  have hmem : ∀ g ∈ (fs.push f).flags, g ∈ fs.flags ∨ g = f := by simp [Flags.push]
  have hflat : ∀ names : Flag → List String,
      (fs.push f).flags.flatMap names = fs.flags.flatMap names ++ names f := by
    simp [Flags.push]
  -- A name of the set is in the register as it is compared, so a new name is another one.
  have hold : ∀ g ∈ fs.flags, ∀ m ∈ g.names, ∀ n ∈ f.names, nameKey m ≠ nameKey n :=
    fun g hg m hm n hn heq => hf.new n hn (mem_taken.2 ⟨g, hg, m, hm, heq⟩)
  constructor
  · intro g hg
    rcases hmem g hg with hg | rfl
    · exact h.typable g hg
    · exact hf.typable
  · rw [hflat, List.nodup_append]
    refine ⟨h.shorts, hf.apart.filter _, fun m hm n hn heq => ?_⟩
    obtain ⟨g, hg, hm⟩ := List.mem_flatMap.1 hm
    rw [mem_shorts] at hm hn
    have hkeys : nameKey m = nameKey n := by rw [heq]
    exact hold g hg m hm.1 n hn.1 hkeys
  · rw [hflat, List.map_append, List.nodup_append]
    have hone : (f.longs.map lowercase).Nodup := by
      match hlongs : f.longs, hf.oneLong with
      | [], _ => exact List.nodup_nil
      | [n], _ => exact List.nodup_singleton _
    refine ⟨h.longs, hone, fun a ha b hb heq => ?_⟩
    obtain ⟨m, hm, rfl⟩ := List.mem_map.1 ha
    obtain ⟨n, hn, rfl⟩ := List.mem_map.1 hb
    obtain ⟨g, hg, hm⟩ := List.mem_flatMap.1 hm
    rw [mem_longs] at hm hn
    have hkeys : nameKey m = nameKey n := by rw [nameKey_of_long hm.2, nameKey_of_long hn.2, heq]
    exact hold g hg m hm.1 n hn.1 hkeys
  · intro g hg
    rcases hmem g hg with hg | rfl
    · exact h.oneLong g hg
    · exact hf.oneLong

/-- **Flags that share a short name are the same.** -/
theorem Unambiguous.eq_of_short (h : fs.Unambiguous) (hf : f ∈ fs.flags) (hg : g ∈ fs.flags)
    (hfn : n ∈ f.shorts) (hgn : n ∈ g.shorts) : f = g :=
  eq_of_shared (List.nodup_flatMap.1 h.shorts).2 hf hg hfn hgn

/-- **Flags whose long names agree in lowercase are the same.** -/
theorem Unambiguous.eq_of_long (h : fs.Unambiguous) (hf : f ∈ fs.flags) (hg : g ∈ fs.flags)
    {m : String} (hfn : n ∈ f.longs) (hgm : m ∈ g.longs) (hnm : lowercase m = lowercase n) :
    f = g := by
  have hlongs : (fs.flags.flatMap fun f => f.longs.map lowercase).Nodup := by
    rw [← List.map_flatMap]
    exact h.longs
  have hgn : lowercase n ∈ g.longs.map lowercase := hnm ▸ List.mem_map_of_mem hgm
  exact eq_of_shared (List.nodup_flatMap.1 hlongs).2 hf hg (List.mem_map_of_mem hfn) hgn

/-- **A short name leads to its flag**, in a search and in the table. -/
theorem Unambiguous.short_leads (h : fs.Unambiguous) (hf : f ∈ fs.flags) (hn : n ∈ f.shorts) :
    (∀ c : Char, n = c.toString → fs.short? c = some f) ∧ fs.shortTable.lookup n = some f := by
  constructor
  · rintro c rfl
    refine find?_of_unique hf (List.contains_iff_mem.2 hn) fun g hg hgn => ?_
    exact h.eq_of_short hg hf (List.contains_iff_mem.1 hgn) hn
  · refine Caseless.lookup_foldl_assign id ?_ [] (.inl ⟨(n, f), ?_, rfl⟩)
    · rintro ⟨m, g⟩ he rfl
      obtain ⟨he, hshort⟩ := List.mem_filter.1 he
      obtain ⟨hg, hm⟩ := mem_byName.1 he
      exact h.eq_of_short hg hf (mem_shorts.2 ⟨hm, hshort⟩) hn
    · obtain ⟨hn, hshort⟩ := mem_shorts.1 hn
      exact List.mem_filter.2 ⟨mem_byName.2 ⟨hf, hn⟩, hshort⟩

/-- **A long name leads to its flag in any spelling**, in a search and in the table. -/
theorem Unambiguous.long_leads (h : fs.Unambiguous) (hf : f ∈ fs.flags) (hn : n ∈ f.longs)
    {spelling : String} (hspelling : lowercase spelling = lowercase n) :
    fs.long? spelling = some f ∧ fs.longTable.find? spelling = some f := by
  constructor
  · refine find?_of_unique hf ?_ fun g hg hgn => ?_
    · obtain ⟨hn, hlong⟩ := mem_longs.1 hn
      exact List.any_eq_true.2 ⟨n, hn, by simp [hlong, hspelling]⟩
    · obtain ⟨m, hm, hlong⟩ := List.any_eq_true.1 hgn
      simp only [Bool.and_eq_true, Bool.not_eq_true', beq_iff_eq] at hlong
      exact h.eq_of_long hg hf (mem_longs.2 ⟨hm, hlong.1⟩) hn (by rw [hlong.2, hspelling])
  · refine Caseless.find?_ofList ⟨(n, f), ?_, hspelling.symm⟩ ?_
    · obtain ⟨hn, hlong⟩ := mem_longs.1 hn
      exact List.mem_filter.2 ⟨mem_byName.2 ⟨hf, hn⟩, by simp [hlong]⟩
    · rintro ⟨m, g⟩ he hkey
      obtain ⟨he, hlong⟩ := List.mem_filter.1 he
      obtain ⟨hg, hm⟩ := mem_byName.1 he
      have hlong : Flag.isShort m = false := by simpa using hlong
      have hsame : lowercase n = lowercase m := by rw [← hspelling, ← hkey]
      exact h.eq_of_long hg hf (mem_longs.2 ⟨hm, hlong⟩) hn hsame

end

end Flags

namespace FlagCall

open Flags

/-- **A call on a set of flags leaves all as it was and fails, adds a fresh flag, or leaves the
flags as they are.** -/
theorem run_cases (call : FlagCall) (r : Registered Flags) :
    (∃ e, call.run r = .error e r) ∨
      (∃ f : Flag, f.Fresh r.taken ∧
        call.run r = .ok () ⟨r.made.push f, r.taken ++ f.names.map Flag.nameKey⟩) ∨
      ∃ fs : Flags, fs.flags = r.made.flags ∧ call.run r = .ok () ⟨fs, r.taken⟩ := by
  have hregister : ∀ role specs, (∃ e, register role specs r = .error e r) ∨
      ∃ f : Flag, f.Fresh r.taken ∧
        register role specs r = .ok () ⟨r.made.push f, r.taken ++ f.names.map Flag.nameKey⟩ := by
    intro role specs
    rcases register_cases role specs r with ⟨e, -, hrun⟩ | ⟨f, hnew, hrun⟩
    · exact .inl ⟨e, hrun⟩
    · exact .inr ⟨f, fresh_of_newFlag hnew, hrun⟩
  cases call with
  | switch permission specs =>
    exact (hregister (.switch permission) specs).imp_right .inl
  | valued value specs =>
    cases hvalue : value.flagValue with
    | error e =>
      refine .inl ⟨e, ?_⟩
      simp only [run, hvalue]
      rfl
    | ok p =>
      have hrun : (valued value specs).run r = register (.valued p) specs r := by
        simp only [run, hvalue]
        rfl
      rw [hrun]
      exact (hregister (.valued p) specs).imp_right .inl
  | treatShort policy => exact .inr (.inr ⟨{ r.made with unknownShort := policy }, rfl, rfl⟩)
  | treatLong policy => exact .inr (.inr ⟨{ r.made with unknownLong := policy }, rfl, rfl⟩)
  | anchor anchored => exact .inr (.inr ⟨{ r.made with anchored := anchored }, rfl, rfl⟩)

end FlagCall

namespace Flags

open CommandGrammar.Flag

/-- The set that calls make of an empty one, and its register. -/
def defined (s : Settings) (calls : List FlagCall) : Registered Flags :=
  (⟨ofSettings s, []⟩ : Registered Flags).afterAll (calls.map FlagCall.run)

/-- **The register holds the names of the set, and the set is unambiguous**, whatever calls have
been made and whichever of them have failed. -/
theorem unambiguous_defined (s : Settings) (calls : List FlagCall) :
    (defined s calls).taken = (defined s calls).made.taken ∧
      (defined s calls).made.Unambiguous := by
  refine Registered.afterAll_induction
    (P := fun r : Registered Flags => r.taken = r.made.taken ∧ r.made.Unambiguous) ⟨rfl, ?_⟩ ?_
  · exact ⟨by simp [ofSettings], by simp [ofSettings], by simp [ofSettings], by simp [ofSettings]⟩
  · intro run hrun r ⟨htaken, hr⟩
    obtain ⟨call, -, rfl⟩ := List.mem_map.1 hrun
    unfold Registered.after
    rcases call.run_cases r with ⟨e, h⟩ | ⟨f, hfresh, h⟩ | ⟨fs, hflags, h⟩ <;> rw [h]
    · exact ⟨htaken, hr⟩
    · refine ⟨?_, hr.push (htaken ▸ hfresh)⟩
      rw [htaken]
      exact (taken_push r.made f).symm
    · constructor
      · rw [htaken]
        unfold taken
        rw [hflags]
      · obtain ⟨htypable, hshorts, hlongs, honeLong⟩ := hr
        rw [← hflags] at htypable hshorts hlongs honeLong
        exact ⟨htypable, hshorts, hlongs, honeLong⟩

/-- **Adding a flag by a call is adding it to the set**, if the register holds the names of the
set. -/
theorem register_eq_add (fs : Flags) (role : FlagRole) (specs : List (Given String)) :
    register role specs ⟨fs, fs.taken⟩ = match fs.add role specs with
      | .ok gs => .ok () ⟨gs, gs.taken⟩
      | .error e => .error e ⟨fs, fs.taken⟩ := by
  rcases register_cases role specs ⟨fs, fs.taken⟩ with ⟨e, hnew, hrun⟩ | ⟨f, hnew, hrun⟩
  · rw [hrun, add, hnew]
    rfl
  · rw [hrun, add, hnew, ← taken_push]
    rfl

/-- **Each name leads to its flag.**  A call that fails leaves all as it was.  And whatever calls
are made, short names are told apart as they are and long ones in lowercase, no flag has two long
names, and every name of a flag, a long one in any spelling, leads to that flag and no other. -/
theorem names_lead_to_their_flags (s : Settings) (calls : List FlagCall) :
    (∀ (call : FlagCall) (r r' : Registered Flags) (e : DefinitionError),
      call.run r = .error e r' → r' = r) ∧
    let fs := (defined s calls).made
    (fs.flags.flatMap Flag.shorts).Nodup ∧ ((fs.flags.flatMap Flag.longs).map lowercase).Nodup ∧
      ∀ f ∈ fs.flags, f.longs.length ≤ 1 ∧ ∀ n ∈ f.names,
        (isShort n = true → fs.shortTable.lookup n = some f ∧
          ∀ c : Char, n = c.toString → fs.short? c = some f) ∧
        (isShort n = false → ∀ spelling, lowercase spelling = lowercase n →
          fs.longTable.find? spelling = some f ∧ fs.long? spelling = some f) := by
  refine ⟨fun call r r' e h => ?_, ?_⟩
  · rcases call.run_cases r with ⟨e', hrun⟩ | ⟨f, -, hrun⟩ | ⟨fs, -, hrun⟩ <;> rw [hrun] at h
    · exact (EStateM.Result.error.inj h).2.symm
    · cases h
    · cases h
  · have hall := (unambiguous_defined s calls).2
    refine ⟨hall.shorts, hall.longs, fun f hf => ⟨hall.oneLong f hf, fun n hn => ⟨?_, ?_⟩⟩⟩
    · intro hshort
      have hleads := hall.short_leads hf (mem_shorts.2 ⟨hn, hshort⟩)
      exact ⟨hleads.2, hleads.1⟩
    · intro hlong spelling hspelling
      have hleads := hall.long_leads hf (mem_longs.2 ⟨hn, hlong⟩) hspelling
      exact ⟨hleads.2, hleads.1⟩

/-- **A name in capitals leads to its flag**, and the two calls that fail in between leave nothing:
`quiet` is taken, and `all` and `any` are two long names. -/
theorem name_in_capitals_leads_to_flag :
    let count : Parameter := .leaf { key := "count" } .integer
    let calls : List FlagCall :=
      [.switch none [.fitting "-q", .fitting "--Quiet"], .switch none [.fitting "quiet"],
        .switch (some "admin") [.fitting "a", .fitting "all", .fitting "any"],
        .valued (.finished count) [.fitting "a", .fitting "A", .fitting "count"]]
    let fs := (defined {} calls).made
    fs.flags.map Flag.names = [["q", "Quiet"], ["a", "A", "count"]] ∧
      isShort "Quiet" = false ∧ lowercase "QUIET" = lowercase "Quiet" ∧
      ∃ f ∈ fs.flags, f.names = ["q", "Quiet"] ∧ fs.longTable.find? "QUIET" = some f := by
  intro count calls fs
  have hnames : fs.flags.map Flag.names = [["q", "Quiet"], ["a", "A", "count"]] := by
    decide +kernel
  have hlong : isShort "Quiet" = false := by decide +kernel
  have hcapitals : lowercase "QUIET" = lowercase "Quiet" := by decide +kernel
  obtain ⟨f, hf, hquiet⟩ : ∃ f ∈ fs.flags, f.names = ["q", "Quiet"] :=
    List.mem_map.1 (hnames ▸ List.mem_cons_self)
  have hleads := ((names_lead_to_their_flags {} calls).2.2.2 f hf).2 "Quiet" (by simp [hquiet])
  exact ⟨hnames, hlong, hcapitals, f, hf, hquiet, (hleads.2 hlong "QUIET" hcapitals).1⟩

end Flags
end CommandGrammar
