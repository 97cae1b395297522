/-
# Parameters that a source may not use

A source without the permission of a parameter passes over it: the parameter succeeds, reads nothing
and binds nothing.  What that comes to depends on where the parameter stands.

| inside | the forbidden child |
| --- | --- |
| `all` | is as if it were not there (`parseAll_prunedAll`) |
| `first` | succeeds, so that no alternative behind it is tried |

So deleting what a source may not use (`Parameter.pruned`) changes nothing for that source, as long
as no choice has alternatives of both kinds (`Parameter.mixesNone`).
-/

import CommandGrammar.Host.Usual
import CommandGrammar.Proofs.Steps.Parameters
import CommandGrammar.Proofs.Steps.Undoing

namespace CommandGrammar

/-- **Nothing, and then a step, is that step.** -/
theorem Step.done_andThen {α β : Type} (a : α) (next : α → Step β) :
    (Step.done a).andThen next = next a := rfl

namespace Parameter

mutual

/-- The parameter without what a source may not use, at every depth.  Where all children are
forbidden, they stay. -/
def pruned (source : Source) : Parameter → Parameter
  | leaf f l => leaf f l
  | all f cs =>
    match prunedAll source cs with
    | [] => all f cs
    | d :: ds => all f (d :: ds)
  | first f c cs =>
    if c.mayUse source then first f (pruned source c) (prunedAll source cs)
    else
      match prunedAll source cs with
      | [] => first f c cs
      | d :: ds => first f d ds

/-- Those of the parameters that a source may use, each of them pruned. -/
def prunedAll (source : Source) : List Parameter → List Parameter
  | [] => []
  | c :: cs =>
    if c.mayUse source then pruned source c :: prunedAll source cs else prunedAll source cs

end

mutual

/-- Whether the alternatives of each choice that a source gets to are all open to it, or all
forbidden. -/
def mixesNone (source : Source) : Parameter → Bool
  | leaf _ _ => true
  | all _ cs => allMixNone source cs
  | first _ c cs => cs.all (fun d => d.mayUse source == c.mayUse source) &&
      ((!c.mayUse source || mixesNone source c) && allMixNone source cs)

/-- Whether this holds of all parameters in a list that the source may use. -/
def allMixNone (source : Source) : List Parameter → Bool
  | [] => true
  | c :: cs => (!c.mayUse source || mixesNone source c) && allMixNone source cs

end

section

variable {o : Occasion} {source : Source} {p c : Parameter} {cs : List Parameter} {f : Frame}

/-- **No child mixes alternatives if none of those that may be used does.** -/
theorem allMixNone_iff : allMixNone source cs = true ↔
    ∀ c ∈ cs, c.mayUse source = true → c.mixesNone source = true := by
  induction cs with
  | nil => simp [allMixNone]
  | cons c cs ih =>
    simp only [allMixNone, Bool.and_eq_true, ih, List.forall_mem_cons]
    cases c.mayUse source <;> simp

/-- **Alternatives are unmixed if all may be used or none, and no child mixes any.** -/
theorem mixesNone_first_iff : (first f c cs).mixesNone source = true ↔
    (∀ d ∈ cs, d.mayUse source = c.mayUse source) ∧ allMixNone source (c :: cs) = true := by
  simp [mixesNone, allMixNone]

/-- **The children of a grammar without mixed choices have none.** -/
theorem mixesNone_of_mem (h : p.mixesNone source = true) (hc : c ∈ p.children)
    (usable : c.mayUse source = true) : c.mixesNone source = true := by
  cases p with
  | leaf f l => exact absurd hc List.not_mem_nil
  | all f cs =>
    rw [mixesNone] at h
    exact allMixNone_iff.1 h c hc usable
  | first f d ds => exact allMixNone_iff.1 (mixesNone_first_iff.1 h).2 c hc usable

/-- **A usable child stays, pruned itself.** -/
theorem prunedAll_cons_of_usable (h : c.mayUse source = true) :
    prunedAll source (c :: cs) = pruned source c :: prunedAll source cs := by
  rw [prunedAll, if_pos h]

/-- **A forbidden child goes.** -/
theorem prunedAll_cons_of_forbidden (h : c.mayUse source = false) :
    prunedAll source (c :: cs) = prunedAll source cs := by
  rw [prunedAll, if_neg (by simp [h])]

/-- **Nothing is left if everything is forbidden.** -/
theorem prunedAll_eq_nil (h : ∀ d ∈ cs, d.mayUse source = false) : prunedAll source cs = [] := by
  induction cs with
  | nil => rw [prunedAll]
  | cons c cs ih =>
    rw [prunedAll_cons_of_forbidden (h c List.mem_cons_self)]
    exact ih fun d hd => h d (List.mem_cons_of_mem c hd)

/-- **In a sequence, a forbidden child is as if it were not there.** -/
theorem parseAll_prunedAll
    (ih : ∀ d ∈ cs, d.mayUse o.source = true → (d.pruned o.source).parse o = d.parse o) :
    parseAll o (prunedAll o.source cs) = parseAll o cs := by
  induction cs with
  | nil => rw [prunedAll]
  | cons c cs ihcs =>
    have hrest := ihcs fun d hd => ih d (List.mem_cons_of_mem c hd)
    cases hc : c.mayUse o.source with
    | true =>
      rw [prunedAll_cons_of_usable hc, parseAll, parseAll, ih c List.mem_cons_self hc, hrest]
    | false =>
      rw [prunedAll_cons_of_forbidden hc, parseAll, parse_of_not_mayUse hc, Step.done_andThen,
        hrest]

/-- **Alternatives that are all open are tried as they were.** -/
theorem parseFirst_prunedAll (usable : ∀ d ∈ cs, d.mayUse o.source = true)
    (ih : ∀ d ∈ cs, (d.pruned o.source).parse o = d.parse o) (best : ParseError) :
    parseFirst o best (prunedAll o.source cs) = parseFirst o best cs := by
  induction cs generalizing best with
  | nil => rw [prunedAll]
  | cons c cs ihcs =>
    have hrest := ihcs (fun d hd => usable d (List.mem_cons_of_mem c hd))
      (fun d hd => ih d (List.mem_cons_of_mem c hd))
    funext s
    rw [prunedAll_cons_of_usable (usable c List.mem_cons_self), parseFirst_cons, parseFirst_cons,
      ih c List.mem_cons_self]
    simp only [hrest]

/-- **A forbidden parameter is as if it were not there.**  The grammar without all that the source
may not use comes to the same result, reads the same tokens and binds the same values, as long as no
choice has both alternatives that the source may use and others. -/
theorem parse_pruned (h : p.mixesNone o.source = true) :
    (p.pruned o.source).parse o = p.parse o := by
  induction p using inductionOnChildren with
  | step p ih =>
    have hchild : ∀ d ∈ p.children, d.mayUse o.source = true →
        (d.pruned o.source).parse o = d.parse o :=
      fun d hd usable => ih d hd (mixesNone_of_mem h hd usable)
    cases p with
    | leaf f l => rw [pruned]
    | all f cs =>
      have hall : parseAll o (prunedAll o.source cs) = parseAll o cs := parseAll_prunedAll hchild
      rw [pruned]
      split
      · rfl
      · rename_i hpruned
        rw [hpruned] at hall
        rw [parse, parse, hall]
    | first f c cs =>
      have hsame := (mixesNone_first_iff.1 h).1
      rw [pruned]
      cases hc : c.mayUse o.source with
      | true =>
        rw [hc] at hsame
        have hothers := parseFirst_prunedAll hsame
          (fun d hd => hchild d (List.mem_cons_of_mem c hd) (hsame d hd))
        rw [if_pos rfl, parse, parse, hchild c List.mem_cons_self hc]
        simp only [hothers]
      | false =>
        rw [hc] at hsame
        rw [prunedAll_eq_nil hsame, if_neg Bool.false_ne_true]

end

/-- **A word is read as if the secret before it were not there.** -/
theorem word_is_read_without_secret :
    let o : Occasion := ⟨.bare "tester", ⟨2024, 5, 31, 12, 34, 56, 789012, none⟩, .usual⟩
    let secret : Parameter := .leaf { key := "secret", permission := some "admin" } .integer
    let sure : Parameter := .leaf { key := "sure" } .truth
    let word : Parameter := .leaf { key := "word" } .text
    let p : Parameter := .all {} [secret, .first {} sure [word]]
    let s : Progress := .ofStream (.ofLine .spaced "hello")
    p.mixesNone o.source = true ∧ p.pruned o.source = .all {} [.first {} sure [word]] ∧
      (p.parse o s).result = .ok () ∧
      (p.parse o s).progress.context.entries = [("word", [.text "hello"])] ∧
      (p.pruned o.source).parse o = p.parse o := by
  exact ⟨rfl, rfl, rfl, rfl, parse_pruned rfl⟩

/-- **A forbidden alternative decides a choice**: the number is passed over, and the word behind it
is not read; without the number it is. -/
theorem forbidden_alternative_decides_choice :
    let o : Occasion := ⟨.bare "tester", ⟨2024, 5, 31, 12, 34, 56, 789012, none⟩, .usual⟩
    let secret : Parameter := .leaf { key := "secret", permission := some "admin" } .integer
    let word : Parameter := .leaf { key := "word" } .text
    let p : Parameter := .first {} secret [word]
    let s : Progress := .ofStream (.ofLine .spaced "hello")
    p.pruned o.source = .first {} word [] ∧
      (p.parse o s).result = .ok () ∧ (p.parse o s).progress.stream.cursor = 0 ∧
      (p.parse o s).progress.context.entries = [] ∧
      ((p.pruned o.source).parse o s).result = .ok () ∧
      ((p.pruned o.source).parse o s).progress.stream.cursor = 1 ∧
      ((p.pruned o.source).parse o s).progress.context.entries = [("word", [.text "hello"])] := by
  exact ⟨rfl, rfl, rfl, rfl, rfl, rfl, rfl⟩

end Parameter
end CommandGrammar
