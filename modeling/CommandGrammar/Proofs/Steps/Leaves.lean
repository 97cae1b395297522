/-
# Leaves keep to the course

A leaf reads tokens and fails where one of them begins, so it keeps to every course, up to the words
that break it off.  `Leaf.fault?` tells which words do, and that is all that reading a leaf can
break off with:

| leaf | words that break it off |
| --- | --- |
| `duration` | counts with letters that name no unit |
| `choice` | a pattern that cannot be judged, unless it is the name of a candidate |
| `choice` | any that selects candidates, if these cannot be looked up |
| `selector` | without its sigil, those of its choice |
-/

import CommandGrammar.Leaf.Reading
import CommandGrammar.Proofs.Steps.Course

namespace CommandGrammar

/-- Whether the first of the candidates without a value is one that cannot be looked up. -/
def Choice.isMisused (c : Choice) : List String → Bool
  | [] => false
  | name :: rest =>
    match c.value name with
    | .ok _ => c.isMisused rest
    | .error .misused => true
    | .error (.refused _) => false

/-- What a choice breaks off with when it reads a word. -/
def Choice.fault? (h : Host) (c : Choice) (word : String) : Option Breakdown :=
  match Pattern.select h word (c.supply word) with
  | .error fault => some (Leaf.breakdownOf fault)
  | .ok names => if c.isMisused names then some .lookupMisused else none

/-- What a leaf breaks off with when it reads a word. -/
def Leaf.fault? (h : Host) : Leaf → String → Option Breakdown
  | .duration, word =>
    match Duration.read word with
    | .error (.unknownUnit letters) => some (.unknownUnit letters)
    | _ => none
  | .choice c, word => c.fault? h word
  | .selector s, word => if Text.beginsWith s.sigil word then none else s.choice.fault? h word
  | _, _ => none

/-- **A leaf of one token reads the value of that token.** -/
theorem Leaf.of_readToken_ok {read : String → Except Problem Value} {p q : Progress}
    {vs : List Value} {asked : List String} (h : readToken read p = ⟨.ok vs, q, asked⟩) :
    ∃ t v xs, Step.token p = ⟨.ok t, q, xs⟩ ∧ read t.1 = .ok v ∧ vs = [v] := by
  obtain ⟨⟨t, i⟩, r, xs, ys, htoken, hread, -⟩ := Step.exists_of_bind_ok h
  dsimp only at hread
  cases hv : read t with
  | error problem =>
    rw [hv] at hread
    cases hread
  | ok v =>
    rw [hv] at hread
    cases hread
    exact ⟨_, v, xs, htoken, hv, rfl⟩

/-- **Candidates that cannot be looked up break a reading off.** -/
theorem Leaf.valuesOf_of_isMisused {c : Choice} (i : Int) (p : Progress) : ∀ {names : List String},
    c.isMisused names = true →
    valuesOf c i names p = ⟨.error (.broken .lookupMisused), p, []⟩
  | [], h => by cases h
  | name :: rest, h => by
    unfold Choice.isMisused at h
    unfold valuesOf
    cases hv : c.value name with
    | ok v =>
      rw [hv] at h
      exact Step.bind_of_error (valuesOf_of_isMisused i p h) _
    | error why =>
      rw [hv] at h
      cases why with
      | refused reason => cases h
      | misused => rfl

namespace ParseCourse

open Course

variable {C : ParseCourse} {p : Progress}

/-- The course lets a parse break off as `fault?` does for the token that is ahead. -/
def AllowsFaults (C : ParseCourse) (fault? : String → Option Breakdown) (p : Progress) : Prop :=
  ∀ t b, p.stream.head? = some t → fault? t.text = some b → C.stops p (.broken b)

/-- **Every course governs the reading of a token as a value.** -/
theorem governs_readToken (read : String → Except Problem Value) :
    C.Governs (Leaf.readToken read) := fun p => by
  refine allows_token_bind fun t _ => ?_
  dsimp only
  split
  · exact carries_pure _
  · exact carries_failAt _

/-- **Every course governs the reading of the tokens that are left.** -/
theorem governs_restTokens : ∀ n, C.Governs (Leaf.restTokens n)
  | 0 => governs_of_carries fun _ => carries_pure _
  | n + 1 => governs_of_carries fun p => carries_here_bind fun q _ => by
    split
    · exact carries_next.bind fun _ => (governs_restTokens n).carries.bind fun _ => carries_pure _
    · exact carries_pure _

/-- **Every course governs the reading of the words of a literal.** -/
theorem governs_readWords : ∀ words, C.Governs (Leaf.readWords words)
  | [] => governs_of_carries fun _ => carries_pure _
  | w :: rest => fun p => by
    refine allows_token_bind fun t _ => ?_
    dsimp only
    split
    · exact (governs_readWords rest).carries
    · exact carries_failAt _

/-- **Candidates are given their values**, unless they cannot be looked up. -/
theorem carries_valuesOf (c : Choice) : ∀ names,
    (c.isMisused names = true → C.stops p (.broken .lookupMisused)) →
    C.Carries p (Leaf.valuesOf c p.stream.position names)
  | [], _ => carries_pure _
  | name :: rest, h => by
    unfold Leaf.valuesOf
    unfold Choice.isMisused at h
    cases hv : c.value name with
    | ok v =>
      rw [hv] at h
      exact (carries_valuesOf c rest h).bind fun _ => carries_pure _
    | error why =>
      cases why with
      | refused reason => exact carries_failAt _
      | misused =>
        rw [hv] at h
        exact carries_stop (h rfl)

/-- **The candidates of a word are those of the supply.** -/
theorem exists_candidates_eq (c : Choice) (word : String) (q : Progress) :
    ∃ asked, Leaf.candidates c word q = ⟨.ok (c.supply word), q, asked⟩ := by
  unfold Leaf.candidates
  cases c.reported <;> exact ⟨_, rfl⟩

/-- **A choice keeps to a course that lets it break off where it must.** -/
theorem allows_readChoice {host : Host} {c : Choice} (h : C.AllowsFaults (c.fault? host) p) :
    C.Allows p (Leaf.readChoice host c p) := by
  refine allows_token_bind fun t ht => ?_
  intro q hq
  obtain ⟨asked, hnames⟩ := exists_candidates_eq c t.text q
  dsimp only
  rw [Step.bind_apply, hnames]
  refine Allows.after ?_ asked
  have hfault := h t
  unfold Choice.fault? at hfault
  rcases hsel : Pattern.select host t.text (c.supply t.text) with fault | _ | ⟨name, names⟩
  · rw [hsel] at hfault
    exact carries_stop (hfault _ ht rfl) q hq
  · exact carries_failAt _ q hq
  · rw [hsel] at hfault
    exact ((carries_valuesOf c _ fun hm => hfault _ ht (if_pos hm)).bind fun _ =>
      carries_pure _) q hq

/-- **So does a selector.** -/
theorem allows_readSelector {o : Occasion} {s : Selector}
    (h : C.AllowsFaults ((Leaf.selector s).fault? o.host) p) :
    C.Allows p (Leaf.readSelector o s p) := by
  refine allows_peek_bind fun t ht => ?_
  split
  · refine allows_token_bind fun t' _ => ?_
    dsimp only
    split
    · exact carries_failAt _
    · exact carries_failAt _
    · split
      · exact carries_failAt _
      · exact carries_pure _
  · rename_i hs
    refine allows_readChoice fun t' b ht' hb => ?_
    obtain rfl := Option.some.inj (ht.symm.trans ht')
    refine h t b ht ?_
    show (if Text.beginsWith s.sigil t.text then none else s.choice.fault? o.host t.text) = some b
    rw [if_neg hs]
    exact hb

/-- **A course allows a duration if it allows its breakdowns.** -/
theorem allows_readDuration {host : Host} (h : C.AllowsFaults (Leaf.duration.fault? host) p) :
    C.Allows p (Leaf.readDuration p) := by
  refine allows_token_bind fun t ht => ?_
  have hfault := h t
  unfold Leaf.fault? at hfault
  dsimp only at hfault ⊢
  split
  · exact carries_pure _
  · rename_i letters hr
    rw [hr] at hfault
    exact carries_stop (hfault _ ht rfl)
  · exact carries_failAt _

/-- **A leaf keeps to a course that lets it break off where it must.** -/
theorem allows_read {o : Occasion} {l : Leaf} (h : C.AllowsFaults (l.fault? o.host) p) :
    C.Allows p (l.read o p) := by
  cases l <;> unfold Leaf.read
  case text => exact (carries_next.bind fun _ => carries_pure _) p (C.refl p)
  case integer | real | truth | moment => exact governs_readToken _ p
  case nothing => exact carries_pure _ p (C.refl p)
  case restJoined =>
    refine (carries_next.bind fun _ => carries_here_bind fun q _ => ?_) p (C.refl p)
    exact (governs_restTokens _).carries.bind fun _ => carries_pure _
  case restRaw =>
    refine (carries_here_bind fun q _ => carries_next.bind fun _ => carries_here_bind fun r _ => ?_)
      p (C.refl p)
    exact (governs_restTokens _).carries.bind fun _ => carries_pure _
  case duration => exact allows_readDuration h
  case literal v words =>
    exact ((governs_readWords words).carries.bind fun _ => carries_pure _) p (C.refl p)
  case choice c => exact allows_readChoice h
  case selector s => exact allows_readSelector h

end ParseCourse
end CommandGrammar
