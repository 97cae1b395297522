/-
# Ordered choice, and how parts are grouped

A choice without modifiers comes to what its first alternative comes to that succeeds when it is run
alone; if all fail, it reports the deepest of their failures and leaves no trace.  So it does not
matter how the parts of a grammar are grouped:

| written | is the same as |
| --- | --- |
| `all (as ++ all bs :: cs)` | `all (as ++ bs ++ cs)` |
| `first (as ++ first bs :: cs)` | `first (as ++ bs ++ cs)` |

if the group inside has no modifiers and asks for no permission.  `Parameter.Regrouped` is the least
equivalence that allows this wherever such a group stands in a grammar.
-/

import CommandGrammar.Host.Usual
import CommandGrammar.Proofs.Laws.Combining

namespace CommandGrammar

/-- The frame has no modifiers and asks for no permission. -/
structure Frame.IsPlain (f : Frame) : Prop where
  modifiers : f.modifiers = []
  permission : f.permission = none

namespace Parameter

variable {o : Occasion} {s : Progress} {f g : Frame} {c d p q : Parameter} {cs : List Parameter}

/-- **For those who may use it, a parameter is its modifiers around its core.** -/
theorem parse_of_mayUse (h : p.mayUse o.source = true) :
    p.parse o = Modifier.chain p.key o.source p.frame.modifiers (p.core o) := by
  rw [parse_eq_framed]
  exact if_pos h

/-- **A usable parameter without modifiers is what is inside.** -/
theorem parse_of_modifiers_nil (hm : p.frame.modifiers = []) (h : p.mayUse o.source = true) :
    p.parse o = p.core o := by
  rw [parse_of_mayUse h, hm]
  rfl

/-- **In a plain frame, a parameter is its core.** -/
theorem parse_of_isPlain (o : Occasion) (h : p.frame.IsPlain) : p.parse o = p.core o := by
  have hmay : p.mayUse o.source = true := by
    rw [mayUse, h.permission]
    rfl
  exact parse_of_modifiers_nil h.modifiers hmay

/-- **Parameters in order are the first ones in order, and then the others.** -/
theorem parseAll_append (o : Occasion) (as bs : List Parameter) :
    parseAll o (as ++ bs) = (parseAll o as).andThen fun _ => parseAll o bs := by
  induction as with
  | nil =>
    rw [List.nil_append, parseAll]
    rfl
  | cons a as ih => rw [List.cons_append, parseAll, parseAll, ih, Step.andThen_assoc]

/-- **Alternatives behind a failure are tried as in a choice.** -/
theorem foldl_orElse_parse {x : Step Unit} {e : ParseError} {asked : List String}
    (hx : x s = ⟨.error (.failed e), s, asked⟩) :
    (cs.map (parse o)).foldl Step.orElse x s = (parseFirst o e cs s).after asked := by
  induction cs generalizing x e asked with
  | nil =>
    rw [parseFirst]
    exact hx.trans (congrArg (Report.mk _ s) (List.append_nil asked).symm)
  | cons c cs ih =>
    rw [parseFirst_cons, List.map_cons, List.foldl_cons]
    rcases hc : c.parse o s with ⟨(f | b) | ⟨⟩, q, more⟩
    · rw [ih (Step.orElse_of_both_failed hx hc), Step.atomic_of_error hc, ← Report.after_after]
      rfl
    · rw [Step.foldl_orElse_of_broken (Step.orElse_of_second_broken hx hc), Step.atomic_of_error hc]
      rfl
    · rw [Step.foldl_orElse_of_ok (Step.orElse_of_second_ok hx hc), Step.atomic_of_ok hc]
      rfl

/-- **A choice is the first of its alternatives.** -/
theorem core_first_eq_firstOf (o : Occasion) (f : Frame) (c : Parameter) (cs : List Parameter) :
    (first f c cs).core o = Step.firstOf (c.parse o) (cs.map (parse o)) := by
  funext s
  rw [core_first, Step.firstOf]
  rcases hc : c.parse o s with ⟨(e | b) | ⟨⟩, q, asked⟩
  · have hatomic := Step.atomic_of_error hc
    rw [foldl_orElse_parse hatomic, hatomic]
  · have hatomic := Step.atomic_of_error hc
    rw [Step.foldl_orElse_of_broken hatomic, hatomic]
  · have hatomic := Step.atomic_of_ok hc
    rw [Step.foldl_orElse_of_ok hatomic, hatomic]

/-- Grammars that differ in how their parts are grouped. -/
inductive Regrouped : Parameter → Parameter → Prop
  /-- A plain sequence inside a sequence is its children. -/
  | sequence (f : Frame) {g : Frame} (plain : g.IsPlain) (before inner after : List Parameter) :
      Regrouped (all f (before ++ all g inner :: after)) (all f (before ++ inner ++ after))
  /-- A plain choice at the front of a choice is its alternatives. -/
  | front (f : Frame) {g : Frame} (plain : g.IsPlain) (c : Parameter)
      (inner after : List Parameter) :
      Regrouped (first f (first g c inner) after) (first f c (inner ++ after))
  /-- So is one behind other alternatives. -/
  | behind (f : Frame) {g : Frame} (plain : g.IsPlain) (c d : Parameter)
      (before inner after : List Parameter) :
      Regrouped (first f c (before ++ first g d inner :: after))
        (first f c (before ++ d :: inner ++ after))
  | inSequence (f : Frame) {c d : Parameter} (h : Regrouped c d) (before after : List Parameter) :
      Regrouped (all f (before ++ c :: after)) (all f (before ++ d :: after))
  | inFront (f : Frame) {c d : Parameter} (h : Regrouped c d) (after : List Parameter) :
      Regrouped (first f c after) (first f d after)
  | inBehind (f : Frame) {c d : Parameter} (h : Regrouped c d) (a : Parameter)
      (before after : List Parameter) :
      Regrouped (first f a (before ++ c :: after)) (first f a (before ++ d :: after))
  | refl (p : Parameter) : Regrouped p p
  | symm {p q : Parameter} (h : Regrouped p q) : Regrouped q p
  | trans {p q r : Parameter} (h : Regrouped p q) (h' : Regrouped q r) : Regrouped p r

/-- **A sequence inside a sequence is undone with it.** -/
theorem atomic_parseAll_sequence (plain : g.IsPlain) (before inner after : List Parameter) :
    (parseAll o (before ++ all g inner :: after)).atomic =
      (parseAll o (before ++ inner ++ after)).atomic := by
  have hinner : (all g inner).parse o = (parseAll o inner).atomic := parse_of_isPlain o plain
  calc (parseAll o (before ++ all g inner :: after)).atomic
      = ((parseAll o before).andThen fun _ =>
          (parseAll o inner).atomic.andThen fun _ => parseAll o after).atomic := by
        rw [parseAll_append, parseAll, hinner]
    _ = ((parseAll o before).andThen fun _ =>
          ((parseAll o inner).atomic.andThen fun _ => parseAll o after).atomic).atomic :=
        (Step.atomic_andThen_atomic _ _).symm
    _ = ((parseAll o before).andThen fun _ =>
          ((parseAll o inner).andThen fun _ => parseAll o after).atomic).atomic := by
        rw [Step.atomic_atomic_andThen]
    _ = ((parseAll o before).andThen fun _ =>
          (parseAll o inner).andThen fun _ => parseAll o after).atomic :=
        Step.atomic_andThen_atomic _ _
    _ = (parseAll o (before ++ inner ++ after)).atomic := by
        rw [List.append_assoc, parseAll_append, parseAll_append]

/-- **Sequences with the same children parse alike.** -/
theorem parse_all_congr {as bs : List Parameter} (f : Frame)
    (h : (parseAll o as).atomic = (parseAll o bs).atomic) :
    (all f as).parse o = (all f bs).parse o := by
  rw [parse, parse, h]

/-- **Choices with the same alternatives parse alike.** -/
theorem parse_first_congr {as bs : List Parameter} (f : Frame)
    (h : Step.firstOf (c.parse o) (as.map (parse o)) =
      Step.firstOf (d.parse o) (bs.map (parse o))) :
    (first f c as).parse o = (first f d bs).parse o := by
  rw [parse_eq_framed, parse_eq_framed, core_first_eq_firstOf, core_first_eq_firstOf, h]
  rfl

/-- **How the parts of a grammar are grouped makes no difference to it.** -/
theorem Regrouped.parse_eq (h : Regrouped p q) : q.parse o = p.parse o := by
  induction h with
  | sequence f plain before inner after =>
    exact parse_all_congr f (atomic_parseAll_sequence plain before inner after).symm
  | @front f g plain c inner after =>
    have hinner : (first g c inner).parse o = Step.firstOf (c.parse o) (inner.map (parse o)) :=
      (parse_of_isPlain (p := first g c inner) o plain).trans (core_first_eq_firstOf o g c inner)
    refine parse_first_congr f ?_
    rw [hinner, Step.firstOf_firstOf, List.map_append]
  | @behind f g plain c d before inner after =>
    have hinner : (first g d inner).parse o = Step.firstOf (d.parse o) (inner.map (parse o)) :=
      (parse_of_isPlain (p := first g d inner) o plain).trans (core_first_eq_firstOf o g d inner)
    refine parse_first_congr f ?_
    rw [List.map_append, List.map_append, List.map_cons, List.map_append, List.map_cons, hinner,
      Step.firstOf_append_firstOf]
  | inSequence f _ before after ih =>
    refine parse_all_congr f ?_
    rw [parseAll_append, parseAll_append, parseAll, parseAll, ih]
  | inFront f _ after ih =>
    refine parse_first_congr f ?_
    rw [ih]
  | inBehind f _ a before after ih =>
    refine parse_first_congr f ?_
    rw [List.map_append, List.map_append, List.map_cons, List.map_cons, ih]
  | refl p => rfl
  | symm _ ih => exact ih.symm
  | trans _ _ ih ih' => exact ih'.trans ih

/-- **Alternatives that fail make way for the first one that succeeds.** -/
theorem parse_first_of_found (hm : f.modifiers = []) (hmay : o.source.may f.permission = true)
    {before after : List Parameter}
    (hsplit : c :: cs = before ++ d :: after)
    (hbefore : ∀ b ∈ before, ∃ e, (b.parse o s).result = .error (.failed e))
    (hd : (d.parse o s).result = .ok ()) :
    ((first f c cs).parse o s).result = .ok () ∧
      ((first f c cs).parse o s).progress = (d.parse o s).progress := by
  rw [parse_of_modifiers_nil (p := first f c cs) hm hmay, core_first_eq_firstOf, Step.firstOf]
  cases before with
  | nil =>
    obtain ⟨rfl, rfl⟩ := List.cons.inj hsplit
    have hatomic := Step.atomic_of_ok (Report.eq_of_result hd)
    rw [Step.foldl_orElse_of_ok hatomic]
    exact ⟨rfl, rfl⟩
  | cons b before =>
    obtain ⟨rfl, rfl⟩ := List.cons.inj hsplit
    obtain ⟨⟨e, he⟩, hbefore⟩ := List.forall_mem_cons.1 hbefore
    have hatomic := Step.atomic_of_error (Report.eq_of_result he)
    have hfails : ∀ x ∈ before.map (parse o), ∃ e, (x s).result = .error (.failed e) :=
      List.forall_mem_map.2 hbefore
    obtain ⟨all, hall⟩ := Step.foldl_orElse_of_found hatomic hfails (Report.eq_of_result hd)
      (after.map (parse o))
    rw [List.append_eq, List.map_append, List.map_cons, hall]
    exact ⟨rfl, rfl⟩

/-- **If all alternatives fail, the deepest failure is reported, and no trace is left.** -/
theorem parse_first_of_failures (hm : f.modifiers = []) (hmay : o.source.may f.permission = true)
    {es : List ParseError}
    (hfail : (c :: cs).map (fun d => (d.parse o s).result) = es.map fun e => .error (.failed e)) :
    ((first f c cs).parse o s).progress = s ∧
      ∃ before e after, es = before ++ e :: after ∧
        ((first f c cs).parse o s).result = .error (.failed e) ∧
        (∀ e' ∈ before, e'.position < e.position) ∧ ∀ e' ∈ after, e'.position ≤ e.position := by
  rw [parse_of_modifiers_nil (p := first f c cs) hm hmay, core_first_eq_firstOf, Step.firstOf]
  cases es with
  | nil => cases hfail
  | cons e es =>
    obtain ⟨he, hes⟩ := List.cons.inj hfail
    have hatomic := Step.atomic_of_error (Report.eq_of_result he)
    have hmap : (cs.map (parse o)).map (fun t => (t s).result) =
        es.map fun e => .error (.failed e) := by
      rw [List.map_map]
      exact hes
    obtain ⟨all, hall⟩ := Step.foldl_orElse_of_failures hatomic hmap
    obtain ⟨before, after, hsplit, hbefore, hafter⟩ := ParseError.exists_deepest e es
    rw [hall]
    exact ⟨rfl, before, _, after, hsplit, rfl, hbefore, hafter⟩

/-- **A choice is ordered, and how sequences and choices are grouped makes no difference.**  For
those who may use it, a choice without modifiers is its first alternative that succeeds when each of
them is run alone from the place of the choice.  If all of them fail, it leaves everything as it was
and reports the failure that stands furthest, the earliest one on a tie.  And a sequence inside a
sequence, or a choice inside a choice, may be replaced by its children wherever it stands. -/
theorem choice_is_ordered_and_grouping_immaterial (o : Occasion) :
    (∀ f c cs s, f.modifiers = [] → o.source.may f.permission = true →
      (∀ before d after, c :: cs = before ++ d :: after →
        (∀ b ∈ before, ∃ e, (b.parse o s).result = .error (.failed e)) →
        (d.parse o s).result = .ok () →
        ((first f c cs).parse o s).result = .ok () ∧
          ((first f c cs).parse o s).progress = (d.parse o s).progress) ∧
      ∀ es : List ParseError,
        (c :: cs).map (fun d => (d.parse o s).result) = es.map (fun e => .error (.failed e)) →
        ((first f c cs).parse o s).progress = s ∧
          ∃ before e after, es = before ++ e :: after ∧
            ((first f c cs).parse o s).result = .error (.failed e) ∧
            (∀ e' ∈ before, e'.position < e.position) ∧
            ∀ e' ∈ after, e'.position ≤ e.position) ∧
    ∀ p q, Regrouped p q → q.parse o = p.parse o := by
  refine ⟨fun f c cs s hm hmay => ⟨?_, ?_⟩, fun p q h => h.parse_eq⟩
  · intro before d after hsplit hbefore hd
    exact parse_first_of_found hm hmay hsplit hbefore hd
  · intro es hfail
    exact parse_first_of_failures hm hmay hfail

/-- **Of a number, a pair and a word, `x y` is the word**: the number fails at once and the pair
behind its first word.  Without the word, the choice reports the failure of the pair.  It makes no
difference whether the pair stands in a choice of its own. -/
theorem word_behind_number_and_pair :
    let o : Occasion := ⟨.trusted "tester", ⟨2024, 5, 31, 12, 34, 56, 789012, none⟩, .usual⟩
    let number : Parameter := .leaf { key := "n" } .integer
    let pair : Parameter := .all {} [.leaf { key := "s" } .text, .leaf { key := "m" } .integer]
    let word : Parameter := .leaf { key := "w" } .text
    let s : Progress := .ofStream (.ofLine .spaced "x y")
    (((first {} number [pair, word]).parse o s).result = .ok () ∧
      ((first {} number [pair, word]).parse o s).progress.context.entries = [("w", [.text "x"])]) ∧
    (((first {} number [pair]).parse o s).progress = s ∧
      ((first {} number [pair]).parse o s).result =
        .error (.failed ⟨.notAnInteger "y", "x y", 2⟩)) ∧
    (first {} number [first {} pair [], word]).parse o =
      (first {} number [pair, word]).parse o := by
  intro o number pair word s
  obtain ⟨hchoice, hgroups⟩ := choice_is_ordered_and_grouping_immaterial o
  have hnumber : (number.parse o s).result = .error (.failed ⟨.notAnInteger "x", "x y", 0⟩) := by
    subst s
    rfl
  have hpair : (pair.parse o s).result = .error (.failed ⟨.notAnInteger "y", "x y", 2⟩) := by
    subst s
    rfl
  have hword : (word.parse o s).result = .ok () := rfl
  obtain ⟨hfound, -⟩ := hchoice {} number [pair, word] s rfl rfl
  obtain ⟨-, hfailed⟩ := hchoice {} number [pair] s rfl rfl
  refine ⟨?_, ?_, ?_⟩
  · have hbefore : ∀ b ∈ [number, pair], ∃ e, (b.parse o s).result = .error (.failed e) :=
      List.forall_mem_cons.2 ⟨⟨_, hnumber⟩, List.forall_mem_singleton.2 ⟨_, hpair⟩⟩
    obtain ⟨hresult, hprogress⟩ := hfound [number, pair] word [] rfl hbefore hword
    rw [hprogress]
    exact ⟨hresult, rfl⟩
  · have hfailures : [number, pair].map (fun d => (d.parse o s).result) =
        [⟨.notAnInteger "x", "x y", 0⟩, ⟨.notAnInteger "y", "x y", 2⟩].map
          fun e => .error (.failed e) := by
      rw [List.map_cons, List.map_singleton, hnumber, hpair]
      rfl
    obtain ⟨hprogress, before, e, after, hes, hresult, hbefore, hafter⟩ := hfailed _ hfailures
    refine ⟨hprogress, ?_⟩
    -- Were it the number's failure, the pair's would not stand further.
    obtain _ | ⟨_, _ | ⟨_, before⟩⟩ := before
    · obtain ⟨rfl, rfl⟩ := List.cons.inj hes
      exact absurd (hafter _ List.mem_cons_self) (by decide)
    · obtain ⟨-, hes⟩ := List.cons.inj hes
      obtain ⟨rfl, -⟩ := List.cons.inj hes
      exact hresult
    · cases before <;> cases hes
  · exact (hgroups _ _ (.behind {} ⟨rfl, rfl⟩ number pair [] [] [word])).symm

end Parameter
end CommandGrammar
