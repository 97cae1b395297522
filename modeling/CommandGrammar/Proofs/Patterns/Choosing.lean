/-
# From the selected candidates to the values

A choice reads one token and asks its supply once; the rest depends on which candidates the token
selects.  If it selects none, the token is reported where it begins (`readChoice_of_none`).  If not,
their values are read in the order of the candidates (`readChoice_of_values`), and all of them are
bound; of a single value its parts are, which are none if it is nothing.  A candidate without a
value is refused, which is a failure of another kind.  `Leaf.Chooses` is all of this as one property
of a leaf; a selector has it for tokens without its sigil.
-/

import CommandGrammar.Proofs.Breakdowns.Typing

namespace CommandGrammar

/-- The choice that judges a token: the choice itself, or a selector's for a token without the
sigil. -/
def Leaf.choiceFor? (l : Leaf) (token : String) : Option Choice :=
  match l with
  | .choice c => some c
  | .selector s => if Text.beginsWith s.sigil token then none else some s.choice
  | _ => none

namespace Leaf

variable {c : Choice} {l : Leaf} {t : String} {p : Progress} {s : TokenStream}

/-- **Candidates have values if the first of them and the others do.** -/
theorem of_mapM_cons_ok {name : String} {rest : List String} {vs : List Value}
    (h : (name :: rest).mapM c.value = .ok vs) :
    ∃ v more, c.value name = .ok v ∧ rest.mapM c.value = .ok more ∧ vs = v :: more := by
  rw [List.mapM_cons] at h
  cases hv : c.value name with
  | error why =>
    rw [hv] at h
    cases h
  | ok v =>
    rw [hv] at h
    cases hmore : rest.mapM c.value with
    | error why =>
      rw [hmore] at h
      cases h
    | ok more =>
      rw [hmore] at h
      cases h
      exact ⟨v, more, rfl, rfl, rfl⟩

/-- **If not, it is for the first of them or for the others.** -/
theorem of_mapM_cons_error {name : String} {rest : List String} {why : NoValue}
    (h : (name :: rest).mapM c.value = .error why) :
    c.value name = .error why ∨ ∃ v, c.value name = .ok v ∧ rest.mapM c.value = .error why := by
  rw [List.mapM_cons] at h
  cases hv : c.value name with
  | error other =>
    rw [hv] at h
    cases h
    exact .inl rfl
  | ok v =>
    rw [hv] at h
    cases hmore : rest.mapM c.value with
    | error other =>
      rw [hmore] at h
      cases h
      exact .inr ⟨v, rfl, rfl⟩
    | ok more =>
      rw [hmore] at h
      cases h

/-- **Selected candidates are read as their values.** -/
theorem valuesOf_of_mapM (c : Choice) (position : Int) (p : Progress) :
    ∀ {names : List String} {vs : List Value}, names.mapM c.value = .ok vs →
      valuesOf c position names p = ⟨.ok vs, p, []⟩
  | [], _, h => by
    cases h
    rfl
  | name :: rest, vs, h => by
    obtain ⟨v, more, hv, hmore, rfl⟩ := of_mapM_cons_ok h
    unfold valuesOf
    rw [hv]
    dsimp only
    rw [Step.bind_of_ok (valuesOf_of_mapM c position p hmore)]
    rfl

/-- **A candidate without a value is refused where the token begins.** -/
theorem exists_valuesOf_of_mapM_error (c : Choice) (position : Int) (p : Progress) :
    ∀ {names : List String} {reason : String}, names.mapM c.value = .error (.refused reason) →
      ∃ name ∈ names, c.value name = .error (.refused reason) ∧ valuesOf c position names p =
        ⟨.error (.failed ⟨.badValue name reason, p.stream.raw, position⟩), p, []⟩
  | [], _, h => by cases h
  | name :: rest, reason, h => by
    unfold valuesOf
    rcases of_mapM_cons_error h with hv | ⟨v, hv, hrest⟩
    · refine ⟨name, List.mem_cons_self, hv, ?_⟩
      rw [hv]
      rfl
    · obtain ⟨other, hother, hnone, hread⟩ := exists_valuesOf_of_mapM_error c position p hrest
      refine ⟨other, List.mem_cons_of_mem name hother, hnone, ?_⟩
      rw [hv]
      dsimp only
      rw [Step.bind_of_error hread]

/-- **Candidates break a reading off if the first without a value cannot be looked up.** -/
theorem isMisused_of_mapM : ∀ {names : List String}, names.mapM c.value = .error .misused →
    c.isMisused names = true
  | [], h => by cases h
  | name :: rest, h => by
    unfold Choice.isMisused
    rcases of_mapM_cons_error h with hv | ⟨v, hv, hrest⟩
    · rw [hv]
    · rw [hv]
      exact isMisused_of_mapM hrest

/-- **A token is read where the next one is known.** -/
theorem token_of_next (hnext : p.stream.next = .ok (t, s)) :
    Step.token p = ⟨.ok (t, p.stream.position), ⟨s, p.context⟩, []⟩ := by
  unfold Step.token
  rw [hnext]

/-- **The token ahead is told where the next one is known.** -/
theorem peek_of_next (hnext : p.stream.next = .ok (t, s)) : Step.peek p = ⟨.ok t, p, []⟩ := by
  unfold Step.peek
  rw [p.stream.peek_eq_map_next, hnext]
  rfl

/-- **Reading a token leaves the line as it is.** -/
theorem raw_of_next (hnext : p.stream.next = .ok (t, s)) : s.raw = p.stream.raw := by
  rcases p.stream.next_cases with ⟨_, hn, -⟩ | ⟨hn, -⟩
  · cases hn.symm.trans hnext
    rfl
  · cases hn.symm.trans hnext

section

variable {h : Host}

/-- **A token that selects nothing is reported where it begins.** -/
theorem readChoice_of_none (hnext : p.stream.next = .ok (t, s))
    (hselect : Pattern.select h t (c.supply t) = .ok []) :
    (readChoice h c p).result =
      .error (.failed ⟨.noMatch t, p.stream.raw, p.stream.position⟩) := by
  obtain ⟨asked, hnames⟩ := ParseCourse.exists_candidates_eq c t ⟨s, p.context⟩
  unfold readChoice
  rw [Step.bind_of_ok (token_of_next hnext)]
  dsimp only
  rw [Step.bind_of_ok hnames, hselect, ← raw_of_next hnext]
  rfl

/-- **A token that selects candidates is read as their values.** -/
theorem readChoice_of_chosen {chosen : List String} (hnext : p.stream.next = .ok (t, s))
    (hselect : Pattern.select h t (c.supply t) = .ok chosen) (hne : chosen ≠ []) :
    ∃ asked, readChoice h c p = ((valuesOf c p.stream.position chosen >>= fun vs =>
      pure (bindable vs)) ⟨s, p.context⟩).after asked := by
  obtain ⟨asked, hnames⟩ := ParseCourse.exists_candidates_eq c t ⟨s, p.context⟩
  refine ⟨asked, ?_⟩
  unfold readChoice
  rw [Step.bind_of_ok (token_of_next hnext), Report.after_nil]
  dsimp only
  rw [Step.bind_of_ok hnames, hselect]
  cases chosen with
  | nil => exact absurd rfl hne
  | cons name rest => rfl

/-- **All values are bound**, and of a single one its parts. -/
theorem readChoice_of_values {chosen : List String} {vs : List Value}
    (hnext : p.stream.next = .ok (t, s)) (hselect : Pattern.select h t (c.supply t) = .ok chosen)
    (hne : chosen ≠ []) (hvs : chosen.mapM c.value = .ok vs) :
    ∃ asked, readChoice h c p = ⟨.ok (bindable vs), ⟨s, p.context⟩, asked⟩ := by
  obtain ⟨asked, hread⟩ := readChoice_of_chosen hnext hselect hne
  rw [Step.bind_of_ok (valuesOf_of_mapM c _ _ hvs), Report.after_nil] at hread
  exact ⟨asked ++ [], hread⟩

/-- **The first selected candidate without a value is refused.** -/
theorem exists_readChoice_of_refused {chosen : List String} {reason : String}
    (hnext : p.stream.next = .ok (t, s)) (hselect : Pattern.select h t (c.supply t) = .ok chosen)
    (hvs : chosen.mapM c.value = .error (.refused reason)) :
    ∃ name ∈ chosen, c.value name = .error (.refused reason) ∧ (readChoice h c p).result =
      .error (.failed ⟨.badValue name reason, p.stream.raw, p.stream.position⟩) := by
  have hne : chosen ≠ [] := by
    rintro rfl
    cases hvs
  obtain ⟨asked, hread⟩ := readChoice_of_chosen hnext hselect hne
  obtain ⟨name, hname, hnone, hvalues⟩ :=
    exists_valuesOf_of_mapM_error c p.stream.position ⟨s, p.context⟩ hvs
  refine ⟨name, hname, hnone, ?_⟩
  rw [hread, Step.bind_of_error hvalues, ← raw_of_next hnext]
  rfl

/-- **A reading breaks off where selected candidates cannot be looked up.** -/
theorem result_readChoice_of_misused {chosen : List String}
    (hnext : p.stream.next = .ok (t, s)) (hselect : Pattern.select h t (c.supply t) = .ok chosen)
    (hvs : chosen.mapM c.value = .error .misused) :
    (readChoice h c p).result = .error (.broken .lookupMisused) := by
  have hne : chosen ≠ [] := by
    rintro rfl
    cases hvs
  obtain ⟨asked, hread⟩ := readChoice_of_chosen hnext hselect hne
  rw [hread, Step.bind_of_error (valuesOf_of_isMisused _ _ (isMisused_of_mapM hvs))]
  rfl

end

/-- **Of one value the parts are bound, and more values as they are.** -/
theorem bindable_cases (vs : List Value) :
    (∀ v, vs = [v] → bindable vs = v.parts) ∧ (vs.length ≠ 1 → bindable vs = vs) := by
  constructor
  · rintro v rfl
    rfl
  · intro hne
    match vs with
    | [] | _ :: _ :: _ => rfl
    | [v] => exact absurd rfl hne

/-- **A choice or a selector reads a token as the choice that judges it.** -/
theorem read_of_choiceFor? (o : Occasion) (hleaf : l.choiceFor? t = some c)
    (hnext : p.stream.next = .ok (t, s)) : l.read o p = readChoice o.host c p := by
  cases l with
  | choice d =>
    cases hleaf
    rfl
  | selector sel =>
    unfold choiceFor? at hleaf
    dsimp only at hleaf
    split at hleaf
    · cases hleaf
    · rename_i hsigil
      cases hleaf
      show readSelector o sel p = _
      unfold readSelector
      rw [Step.bind_of_ok (peek_of_next hnext), Report.after_nil, if_neg hsigil]
  | _ => cases hleaf

/-- **A leaf binds what it reads**, unless its key is empty. -/
theorem readAndBind_of_ok {o : Occasion} {q : Progress} {vs : List Value} {asked : List String}
    (hread : l.read o p = ⟨.ok vs, q, asked⟩) (key : String) :
    ∃ asked', Parameter.readAndBind o key l p =
      ⟨.ok (), ⟨q.stream, if key.isEmpty then q.context else q.context.putAll key vs⟩, asked'⟩ := by
  unfold Parameter.readAndBind
  rw [Step.bind_of_ok hread]
  cases key.isEmpty with
  | true => exact ⟨_, rfl⟩
  | false => exact ⟨_, rfl⟩

/-- **A leaf fails where its reading fails.** -/
theorem result_readAndBind (o : Occasion) (key : String) (l : Leaf) (p : Progress) :
    (Parameter.readAndBind o key l p).result = (l.read o p).result.map fun _ => () := by
  rcases hread : l.read o p with ⟨e | vs, q, asked⟩
  · unfold Parameter.readAndBind
    rw [Step.bind_of_error hread]
    rfl
  · obtain ⟨asked', hbind⟩ := readAndBind_of_ok hread key
    rw [hbind]
    rfl

/-- `l.Chooses c t chosen o`: of the token `t`, which selects the candidates `chosen` of `c`, a leaf
makes their values. -/
structure Chooses (l : Leaf) (c : Choice) (t : String) (chosen : List String) (o : Occasion) :
    Prop where
  /-- The values are bound in the order of the candidates; of a single one its parts are. -/
  binds : ∀ (f : Frame) (p : Progress) (s : TokenStream) (vs : List Value),
    p.stream.next = .ok (t, s) → chosen ≠ [] → chosen.mapM c.value = .ok vs →
    ∃ bound asked, (∀ v, vs = [v] → bound = v.parts) ∧ (vs.length ≠ 1 → bound = vs) ∧
      (Parameter.leaf f l).core o p =
        ⟨.ok (), ⟨s, if f.key.isEmpty then p.context else p.context.putAll f.key bound⟩, asked⟩
  /-- A candidate without a value is refused. -/
  refuses : ∀ (f : Frame) (p : Progress) (s : TokenStream) (reason : String),
    p.stream.next = .ok (t, s) → chosen.mapM c.value = .error (.refused reason) →
    ∃ name ∈ chosen, c.value name = .error (.refused reason) ∧
      ((Parameter.leaf f l).core o p).result =
        .error (.failed ⟨.badValue name reason, p.stream.raw, p.stream.position⟩)
  /-- Candidates that cannot be looked up break the parse off. -/
  breaks : ∀ (f : Frame) (p : Progress) (s : TokenStream),
    p.stream.next = .ok (t, s) → chosen.mapM c.value = .error .misused →
    ((Parameter.leaf f l).core o p).result = .error (.broken .lookupMisused)
  /-- If nothing is selected, this is reported where the token begins. -/
  fails : ∀ (f : Frame) (p : Progress) (s : TokenStream),
    p.stream.next = .ok (t, s) → chosen = [] → ((Parameter.leaf f l).core o p).result =
      .error (.failed ⟨.noMatch t, p.stream.raw, p.stream.position⟩)

/-- **What a token selects is what a leaf makes values of.** -/
theorem chooses_of_select {o : Occasion} {chosen : List String} (hleaf : l.choiceFor? t = some c)
    (hselect : Pattern.select o.host t (c.supply t) = .ok chosen) : l.Chooses c t chosen o where
  binds := by
    intro f p s vs hnext hne hvs
    obtain ⟨asked, hchoice⟩ := readChoice_of_values hnext hselect hne hvs
    rw [← read_of_choiceFor? o hleaf hnext] at hchoice
    obtain ⟨asked', hbind⟩ := readAndBind_of_ok hchoice f.key
    exact ⟨_, asked', (bindable_cases vs).1, (bindable_cases vs).2, hbind⟩
  refuses := by
    intro f p s reason hnext hvs
    obtain ⟨name, hname, hnone, hread⟩ := exists_readChoice_of_refused hnext hselect hvs
    refine ⟨name, hname, hnone, ?_⟩
    show (Parameter.readAndBind o f.key l p).result = _
    rw [result_readAndBind, read_of_choiceFor? o hleaf hnext, hread]
    rfl
  breaks := by
    intro f p s hnext hvs
    show (Parameter.readAndBind o f.key l p).result = _
    rw [result_readAndBind, read_of_choiceFor? o hleaf hnext,
      result_readChoice_of_misused hnext hselect hvs]
    rfl
  fails := by
    intro f p s hnext hnone
    rw [hnone] at hselect
    show (Parameter.readAndBind o f.key l p).result = _
    rw [result_readAndBind, read_of_choiceFor? o hleaf hnext, readChoice_of_none hnext hselect]
    rfl

/-- **That no candidate matches is reported exactly if none is selected.** -/
theorem Chooses.noMatchingChoice_iff {o : Occasion} {chosen : List String}
    (h : l.Chooses c t chosen o) (f : Frame) (hnext : p.stream.next = .ok (t, s)) :
    (∃ e, ((Parameter.leaf f l).core o p).result = .error (.failed e) ∧
      e.kind = .noMatchingChoice ∧ e.position = p.stream.position) ↔ chosen = [] := by
  constructor
  · rintro ⟨e, he, hkind, -⟩
    refine Classical.byContradiction fun hne => ?_
    cases hvs : chosen.mapM c.value with
    | ok vs =>
      obtain ⟨bound, asked, -, -, hcore⟩ := h.binds f p s vs hnext hne hvs
      rw [hcore] at he
      cases he
    | error why =>
      cases why with
      | refused reason =>
        obtain ⟨name, -, -, hcore⟩ := h.refuses f p s reason hnext hvs
        rw [hcore] at he
        cases he
        cases hkind
      | misused =>
        rw [h.breaks f p s hnext hvs] at he
        cases he
  · intro hnone
    exact ⟨_, h.fails f p s hnext hnone, rfl, rfl⟩

/-- `IsTyping p t`: the word being typed is `t`, the token ahead or, at the end, the empty word. -/
inductive IsTyping (p : Progress) : String → Prop
  | token {t : String} {s : TokenStream} (ahead : p.stream.next = .ok (t, s)) : IsTyping p t
  | nothing (ended : p.stream.hasNext = false) : IsTyping p ""

/-- **The word that is being typed is read as such.** -/
theorem IsTyping.typed_eq (h : IsTyping p t) : ∃ s, Step.typed p = ⟨.ok t, ⟨s, p.context⟩, []⟩ := by
  unfold Step.typed TokenStream.next?
  cases h with
  | token ahead =>
    unfold TokenStream.next at ahead
    split at ahead
    · cases ahead
      rename_i hcursor
      rw [dif_pos hcursor]
      exact ⟨_, rfl⟩
    · cases ahead
  | nothing ended =>
    have hcursor : ¬ p.stream.cursor < p.stream.tokens.length := fun hlt => by
      simp [TokenStream.hasNext, hlt] at ended
    rw [dif_neg hcursor]
    exact ⟨p.stream, rfl⟩

/-- **A choice or a selector completes a word as the choice that judges it.** -/
theorem complete_of_choiceFor? (o : Occasion) (hleaf : l.choiceFor? t = some c)
    (htyping : IsTyping p t) : l.complete o p = completeChoice o.host c p := by
  cases l with
  | choice d =>
    cases hleaf
    rfl
  | selector sel =>
    unfold choiceFor? at hleaf
    dsimp only at hleaf
    split at hleaf
    · cases hleaf
    · rename_i hsigil
      cases hleaf
      rw [Course.complete_selector]
      cases htyping with
      | nothing ended => rw [if_neg (by rw [ended]; decide)]
      | token ahead =>
        split
        · rw [Step.bind_of_ok (peek_of_next ahead), Report.after_nil, if_neg hsigil]
        · rfl
  | _ => cases hleaf

/-- **A choice completes a word with the candidates that it matches as a pattern.** -/
theorem completeChoice_of_ofToken {h : Host} {pattern : Pattern.Anchored} (htyping : IsTyping p t)
    (hpattern : Pattern.ofToken h t = .ok pattern) :
    (completeChoice h c p).result = .ok (pattern.filter (c.supply t)) := by
  obtain ⟨s, htyped⟩ := htyping.typed_eq
  obtain ⟨asked, hnames⟩ := ParseCourse.exists_candidates_eq c t ⟨s, p.context⟩
  unfold completeChoice
  rw [Step.bind_of_ok htyped, Report.after_nil, hpattern]
  dsimp only
  rw [Step.bind_of_ok hnames]
  rfl

end Leaf
end CommandGrammar
