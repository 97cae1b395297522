/-
# A command is composed of its children

A child takes its line the same way whether it is typed to the child or, behind the child's name, to
its parent.  On both lines the child is resolved from the same words and the same bindings: the rest
of a quoted line does not depend on the plain word before it (`TokenStream.moved_behind_word`), and
what a command makes of a line moves along with it (`Command.moves_resolve`).

| the child alone | its parent, on the name and the line |
| --- | --- |
| a target | the same target, below the child |
| a line that does not match | an error of the same kind, later by the name and a blank |
| a denial | a denial of the same permission |
-/

import CommandGrammar.Host.Usual
import CommandGrammar.Proofs.Dispatch.Naming
import CommandGrammar.Proofs.Moving.Commands
import CommandGrammar.Proofs.Moving.Splitting

namespace CommandGrammar

open Text

/-- **A name of a child that has no quote and no backslash is a plain word.** -/
theorem Splitting.all_isPlain_of_isChildName {n : String} (h : Command.isChildName n = true)
    (unquoted : ∀ ch ∈ n.toList, isQuote ch = false ∧ ch ≠ '\\') :
    n ≠ "" ∧ n.toList.all isPlain = true := by
  obtain ⟨hne, hblank⟩ : n ≠ "" ∧ ∀ ch ∈ n.toList, isBlank ch = false := by
    simpa [Command.isChildName] using h
  refine ⟨hne, List.all_eq_true.2 fun ch hch => ?_⟩
  simp [isPlain, hblank ch hch, unquoted ch hch]

namespace Command

section named

variable {o : Occasion} {c d : Command} {p q r : Progress} {t : Token} {runs : List Run}
  (noFlags : d.frame.flags = none)
  (isOpen : (!d.frame.guardsChildren || o.source.may d.frame.permission) = true)
  (head : p.stream.head? = some t) (named : d.child? t.text = some c)
  (next : Step.next p = ⟨.ok t.text, r, []⟩)
include noFlags head named

/-- **A line that begins with the name of a child is left to the child.** -/
theorem resolve_of_named : resolve o d p =
    viaChild o d.frame (resolveSub o c) (fun e => do
      d.frame.fallBack o e
      return ⟨[], d⟩) p := by
  cases d with
  | node f cs =>
    have hflags : f.readFlags o cs p = ⟨.ok (), p, []⟩ := by
      unfold CommandFrame.readFlags
      rw [show f.flags = none from noFlags]
      rfl
    have hcalled : called? cs (p.stream.head?.map Token.text) = some c := by
      rw [head]
      exact named
    rw [resolve, Attempt.bind_of_ok hflags]
    change resolveIn o f cs (p.stream.head?.map Token.text) cs p = _
    rw [resolveIn_eq, hcalled]
    rfl

include isOpen next

/-- **What a child finds behind its name, its parent finds.** -/
theorem resolve_of_named_ok {target : Target} (h : resolve o c r = ⟨.ok target, q, runs⟩) :
    ∃ rs, resolve o d p = ⟨.ok ⟨c.pathName :: target.path, target.command⟩, q, rs⟩ := by
  have hgo := goInto_of_next next c (resolve o c)
  rw [h] at hgo
  rw [resolve_of_named noFlags head named, viaChild_of_ok isOpen (resolveSub_of_ok hgo)]
  exact ⟨_, rfl⟩

/-- **If a child fails behind its name, a parent that does not fall back fails alike.** -/
theorem resolve_of_named_error {e : CommandFailure} (hback : d.frame.mayFallBack = false)
    (h : resolve o c r = ⟨.error e, q, runs⟩) : ∃ rs, resolve o d p = ⟨.error e, p, rs⟩ := by
  have hgo := goInto_of_next next c (resolve o c)
  rw [h] at hgo
  rw [resolve_of_named noFlags head named,
    viaChild_of_rethrow isOpen (resolveSub_of_error hgo) (by simp [hback])]
  exact ⟨_, rfl⟩

end named

/-- **Behind a plain word and a blank a line begins as the rest of it does alone.** -/
theorem exists_behind_word {d c : Command} {a : String} (rest : String) (context : Context)
    (hne : a ≠ "") (hplain : a.toList.all Splitting.isPlain = true)
    (quoted : d.frame.splitting = .quoted) (quoted' : c.frame.splitting = .quoted) :
    ∃ t r, t.text = a ∧ (d.atStart (a ++ " " ++ rest) context).stream.head? = some t ∧
      Step.next (d.atStart (a ++ " " ++ rest) context) = ⟨.ok t.text, r, []⟩ ∧
      (c.atStart rest context).Moved (a ++ " ") r := by
  obtain ⟨t, r, rfl, hhead, hnext, hmoved⟩ := TokenStream.moved_behind_word rest hne hplain
  unfold atStart
  rw [quoted, quoted']
  refine ⟨t, ⟨r, context⟩, rfl, hhead, ?_, [t], hmoved, rfl⟩
  unfold Step.next
  dsimp only
  rw [hnext]

/-- **Dispatch is compositional.**  Let a command without flags be one that the source may run, and
let `a` be a name of one of its children, without quotes and backslashes; both split their lines at
blanks outside quotes.  If the child finds a target for a line, the command finds the same target
for `a`, a blank and that line, and binds the same.  And if the command rethrows what its children
fail with, it fails where the child does, and alike: an error is of the same kind, and stands later
by the length of `a` and one. -/
theorem parse_behind_name (o : Occasion) {d c : Command} {a : String} (rest : String)
    (context : Context) (noFlags : d.frame.flags = none)
    (allowed : o.source.may d.frame.permission = true) (wellNamed : WellNamed d.children)
    (child : c ∈ d.children) (named : a ∈ c.frame.names)
    (unquoted : ∀ ch ∈ a.toList, Splitting.isQuote ch = false ∧ ch ≠ '\\')
    (quoted : d.frame.splitting = .quoted) (quoted' : c.frame.splitting = .quoted) :
    (∀ t, (c.parse o rest context).result = .ok t →
      (d.parse o (a ++ " " ++ rest) context).result = .ok ⟨c.pathName :: t.path, t.command⟩ ∧
      (d.parse o (a ++ " " ++ rest) context).progress.context =
        (c.parse o rest context).progress.context) ∧
    (d.frame.onChildFailure = .rethrow → ∀ why, (c.parse o rest context).result = .error why →
      match why with
      | .unparsed e => ∃ e', (d.parse o (a ++ " " ++ rest) context).result = .error (.unparsed e') ∧
          e'.kind = e.kind ∧ e'.raw = a ++ " " ++ e.raw ∧ e'.position = e.position + (a.length + 1)
      | why => (d.parse o (a ++ " " ++ rest) context).result = .error why) := by
  obtain ⟨hne, hplain⟩ := Splitting.all_isPlain_of_isChildName
    (wellNamed.typable c child a named) unquoted
  obtain ⟨t, r, rfl, head, next, hmoved⟩ :=
    exists_behind_word rest context hne hplain quoted quoted'
  have hfind : d.child? t.text = some c := wellNamed.child?_of_mem child named
  have isOpen : (!d.frame.guardsChildren || o.source.may d.frame.permission) = true := by
    rw [allowed, Bool.or_true]
  -- The child resolves its line behind the name as it does alone, moved by the name and a blank.
  have hrun := moves_resolve o c _ _ hmoved
  unfold parse
  generalize resolve o c (c.atStart rest context) = alone at hrun
  generalize hbehind : resolve o c r = behind at hrun
  cases hrun with
  | ok target place runs =>
    refine ⟨fun _ h => ?_, fun _ _ h => (by cases h)⟩
    cases h
    obtain ⟨_, hd⟩ := resolve_of_named_ok noFlags isOpen head hfind next hbehind
    rw [hd]
    exact ⟨rfl, place.context_eq.symm⟩
  | error failure place runs =>
    refine ⟨fun _ h => (by cases h), fun hpolicy why h => ?_⟩
    cases h
    have hback : d.frame.mayFallBack = false := by
      rw [CommandFrame.mayFallBack, hpolicy]
      rfl
    obtain ⟨_, hd⟩ := resolve_of_named_error noFlags isOpen head hfind next hback hbehind
    rw [hd]
    cases failure with
    | unparsed error =>
      refine ⟨_, rfl, error.kind, error.raw, ?_⟩
      rw [error.position, String.length_append]
      rfl
    | denied permission => rfl
    | broken b => rfl

/-- **A shop takes what its child takes**: the words `Get tea` are to the shop what `tea` is to its
child `buy`; and where the child misses a word, the shop misses it, later by four. -/
theorem shop_gets_what_buying_takes :
    let o : Occasion :=
      ⟨.holding "tester" ["trade"], ⟨2024, 5, 31, 12, 34, 56, 789012, none⟩, .usual⟩
    let pay : Executor := ⟨"pay", fun _ _ => { ending := .silent }⟩
    let buy : Command := .node
      { names := ["buy", "Get"], parameter := .leaf { key := "thing" } .text
        executor := some pay } []
    let shop : Command := .node { permission := some "trade" } [buy]
    let bought : Context := { entries := [("thing", [.text "tea"])] }
    o.source.may shop.frame.permission = true ∧ WellNamed shop.children ∧
      (buy.parse o "tea" {}).result = .ok ⟨[], buy⟩ ∧
      (shop.parse o "Get tea" {}).result = .ok ⟨["buy"], buy⟩ ∧
      (shop.parse o "Get tea" {}).progress.context = bought ∧
      ∃ e e', (buy.parse o "" {}).result = .error (.unparsed e) ∧ e.position = 0 ∧
        (shop.parse o "Get " {}).result = .error (.unparsed e') ∧ e'.kind = e.kind ∧
        e'.position = 4 := by
  intro o pay buy shop bought
  have wellNamed : WellNamed shop.children := by
    refine ⟨fun c hc => ?_, List.pairwise_singleton _ _⟩
    rw [List.mem_singleton.1 hc]
    decide
  have unquoted : ∀ ch ∈ "Get".toList, Splitting.isQuote ch = false ∧ ch ≠ '\\' := by
    simp [Splitting.isQuote]
  have hshop := fun rest => parse_behind_name o (d := shop) (c := buy) (a := "Get") rest {} rfl rfl
    wellNamed List.mem_cons_self (by decide) unquoted rfl rfl
  have hline : buy.atStart "tea" {} = ⟨.ofTokens "tea" [⟨"tea", 0, 3⟩] none, {}⟩ :=
    congrArg (Progress.mk · {}) (TokenStream.ofLine_of_plain (by decide) (by decide))
  have hempty : buy.atStart "" {} = ⟨.ofTokens "" [] none, {}⟩ :=
    congrArg (Progress.mk · {}) TokenStream.ofLine_empty
  have hbuy : (buy.parse o "tea" {}).result = .ok ⟨[], buy⟩ ∧
      (buy.parse o "tea" {}).progress.context = bought := by
    unfold parse
    rw [hline]
    exact ⟨rfl, rfl⟩
  have hnothing : ∃ e, (buy.parse o "" {}).result = .error (.unparsed e) ∧ e.position = 0 := by
    unfold parse
    rw [hempty]
    exact ⟨_, rfl, rfl⟩
  have hname : buy.pathName = "buy" := by decide +kernel
  have htyped : "Get" ++ " " ++ "tea" = "Get tea" := by decide
  obtain ⟨hresult, hcontext⟩ := (hshop "tea").1 _ hbuy.1
  rw [hname, htyped] at hresult
  obtain ⟨e, he, hposition⟩ := hnothing
  obtain ⟨e', he', hkind, -, hposition'⟩ := (hshop "").2 rfl _ he
  have hbound := hcontext.trans hbuy.2
  refine ⟨rfl, wellNamed, hbuy.1, hresult, hbound, e, e', he, hposition, he', hkind, ?_⟩
  rw [hposition', hposition]
  rfl

end Command
end CommandGrammar
