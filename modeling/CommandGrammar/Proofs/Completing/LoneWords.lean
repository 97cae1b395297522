/-
# Outlooks come true

A grammar that is given a lone word, or an empty rest of a line, comes to what its outlook says.  This
is so for grammars of truth values, literals and fixed choices (`Leaf.Fixed`) that the source may
use, as long as no `onlyOne` counts more values than the one that a word stands for: a default that
is bound somewhere else, or the values of a word that is several (`Parameter.Tidy`).
-/

import CommandGrammar.Proofs.Completing.Fates
import CommandGrammar.Proofs.Patterns.Choosing
import CommandGrammar.Proofs.Steps.Likeness

namespace CommandGrammar

variable {w key : String} {o : Occasion} {s : TokenStream} {context : Context}

namespace Context

/-- As long as the word is left, nothing is bound under the key; once it is read, at most one value
is. -/
def Frugal (c : Context) (key : String) (ahead : Bool) : Prop :=
  (c.values key).length ≤ if ahead then 0 else 1

/-- **What is frugal binds at most one value.** -/
theorem Frugal.length_le_one {c : Context} {ahead : Bool} (h : c.Frugal key ahead) :
    (c.values key).length ≤ 1 := by
  unfold Frugal at h
  cases ahead with
  | false => exact h
  | true => exact Nat.le_trans h (Nat.zero_le 1)

/-- **What is frugal stays so when the word is read and nothing is bound.** -/
theorem Frugal.stillLeft {c c' : Context} {ahead : Bool} (h : c.Frugal key ahead) (read : Bool)
    (hc : c'.values key = c.values key) : c'.Frugal key (stillLeft ahead read) := by
  unfold Frugal
  rw [hc]
  cases read with
  | false => exact h
  | true => exact h.length_le_one

end Context

namespace TokenStream.Shows

/-- **The last word is read, and nothing is left behind it.** -/
theorem token_of_word (h : s.Shows w true) (c : Context) :
    Step.token ⟨s, c⟩ = ⟨.ok (w, s.position), ⟨s.skipAll, c⟩, []⟩ := by
  cases h with
  | word lone text _ =>
    subst text
    unfold Step.token
    rcases s.next_cases with ⟨hc, hn, hhead⟩ | ⟨-, hhead⟩
    · obtain rfl := Option.some.inj (lone.head?.symm.trans hhead)
      have hstream : s.withCursor (s.cursor + 1) hc = s.skipAll := by
        unfold TokenStream.skipAll
        congr 1
        exact lone.length_eq.symm
      dsimp only
      rw [hn, hstream]
    · cases lone.head?.symm.trans hhead

/-- **With nothing left, reading a word fails for want of it.** -/
theorem token_of_nothing (h : s.Shows w false) (c : Context) :
    Step.token ⟨s, c⟩ =
      ⟨.error (.failed ⟨.notEnoughArguments, s.raw, s.raw.length⟩), ⟨s, c⟩, []⟩ := by
  unfold Step.token
  rcases s.next_cases with ⟨hc, hn, hhead⟩ | ⟨hn, -⟩
  · have hnext := h.hasNext
    unfold TokenStream.hasNext at hnext
    rw [decide_eq_true hc] at hnext
    cases hnext
  · dsimp only
    rw [hn, TokenStream.endError, h.pending]

end TokenStream.Shows

/-- Whether the candidates of a choice are the same for all words, and none is refused. -/
structure Choice.Fixed (c : Choice) : Prop where
  supply : ∀ u v, c.supply u = c.supply v
  value : ∀ u, ∀ name ∈ c.supply u, ∀ reason, c.value name ≠ .error (.refused reason)

/-- Whether a leaf takes fixed words: a truth value, a literal or a choice of fixed candidates. -/
def Leaf.Fixed : Leaf → Prop
  | truth => True
  | literal _ words => words ≠ []
  | choice c => c.Fixed
  | _ => False

namespace Choice

/-- **A list of names with values is fixed.** -/
theorem fixed_ofList (items : List (String × Value)) (showUsage : Bool) :
    (ofList items showUsage).Fixed where
  supply _ _ := rfl
  value u name h reason hrefused := by
    obtain ⟨e, he, rfl⟩ := List.mem_map.1 (Text.mem_distinctFrom.1 h).1
    dsimp only [ofList] at hrefused
    cases hv : lookupLast items e.1 with
    | some v =>
      rw [hv] at hrefused
      cases hrefused
    | none =>
      have hno := List.lookup_eq_none_iff.1 hv e (List.mem_reverse.2 he)
      exact absurd hno (by simp)

/-- **So are the members of an enumeration**, whether or not they can be looked up. -/
theorem fixed_ofMembers (e : Enumeration) : (ofMembers e).Fixed where
  supply _ _ := rfl
  value u name h reason hrefused := by
    obtain ⟨m, hm, rfl⟩ := List.mem_map.1 h
    dsimp only [ofMembers] at hrefused
    split at hrefused
    · cases hrefused
    · cases hfound : e.members.find? (·.name == m.name) with
      | some k =>
        rw [hfound] at hrefused
        cases hrefused
      | none =>
        have hno := List.find?_eq_none.1 hfound m hm
        exact absurd (beq_self_eq_true _) hno

/-- **Candidates of which none is refused have values**, unless they cannot be looked up. -/
theorem exists_mapM_of_not_isMisused {c : Choice} : ∀ {names : List String},
    (∀ name ∈ names, ∀ reason, c.value name ≠ .error (.refused reason)) →
    c.isMisused names = false → ∃ vs, names.mapM c.value = .ok vs
  | [], _, _ => ⟨[], rfl⟩
  | name :: names, h, hmisused => by
    unfold isMisused at hmisused
    rw [List.mapM_cons]
    cases hv : c.value name with
    | ok v =>
      rw [hv] at hmisused
      obtain ⟨vs, hvs⟩ := exists_mapM_of_not_isMisused
        (fun n hn => h n (List.mem_cons_of_mem name hn)) hmisused
      exact ⟨v :: vs, by rw [hvs]; rfl⟩
    | error why =>
      cases why with
      | refused reason => exact absurd hv (h name List.mem_cons_self reason)
      | misused =>
        rw [hv] at hmisused
        cases hmisused

end Choice

namespace Leaf

/-- What a leaf of fixed words may come to: it reads the word, as many values as it stands for, or it
fails as its outlook says. -/
def Ends (l : Leaf) (o : Occasion) (w : String) (ahead : Bool) (s : TokenStream) (c : Context)
    (r : Report (List Value)) : Prop :=
  (l.outlook o w ahead = .reads ∧ ahead = true ∧ ∃ vs asked,
    r = ⟨.ok vs, ⟨s.skipAll, c⟩, asked⟩ ∧ (1 < vs.length ↔ l.several o w = true)) ∨
  ∃ e q asked, r = ⟨.error e, q, asked⟩ ∧
    ∀ B, (l.outlook o w ahead).Comes B s ⟨.error e, q, asked⟩

/-- **With nothing left, what begins by reading lacks a word.** -/
theorem ends_of_nothing {l : Leaf} (hs : s.Shows w false) (c : Context)
    (next : String × Int → Step (List Value)) (hl : l.outlook o w false = .lacks) :
    l.Ends o w false s c ((Step.token >>= next) ⟨s, c⟩) := by
  rw [Step.bind_of_error (hs.token_of_nothing c)]
  exact .inr ⟨_, _, _, rfl, fun B => by rw [hl]; exact ⟨_, _, _, rfl, rfl, rfl⟩⟩

/-- **A truth value reads its word or is reported where the word begins.** -/
theorem read_truth (hs : s.Shows w true) (c : Context) : truth.read o ⟨s, c⟩ =
    match truthOf? w with
    | some b => ⟨.ok [.truth b], ⟨s.skipAll, c⟩, []⟩
    | none => ⟨.error (.failed (s.skipAll.errorAt s.position (.notABoolean w))),
        ⟨s.skipAll, c⟩, []⟩ := by
  show (Step.token >>= _) _ = _
  rw [Step.bind_of_ok (hs.token_of_word c)]
  dsimp only
  cases truthOf? w <;> rfl

/-- **A truth value ends as its outlook says.** -/
theorem ends_truth (hs : s.Shows w true) (c : Context) :
    truth.Ends o w true s c (truth.read o ⟨s, c⟩) := by
  have hfate : truth.outlook o w true = if (truthOf? w).isSome then .reads else .refuses := rfl
  unfold Ends
  rw [read_truth hs c, hfate]
  cases truthOf? w with
  | some b => exact .inl ⟨rfl, rfl, _, _, rfl, by simp [several]⟩
  | none => exact .inr ⟨_, _, _, rfl, fun B => ⟨_, _, _, rfl, hs.position_lt⟩⟩

/-- **With nothing left, the words of a literal are lacking.** -/
theorem readWords_of_nothing (hs : s.Shows w false) (c : Context) (u : String)
    (rest : List String) : readWords (u :: rest) ⟨s, c⟩ =
      ⟨.error (.failed ⟨.notEnoughArguments, s.raw, s.raw.length⟩), ⟨s, c⟩, []⟩ :=
  Step.bind_of_error (hs.token_of_nothing c) _

/-- **A literal ends as its outlook says.** -/
theorem ends_literal (hs : s.Shows w true) (c : Context) (v : Value) (u : String)
    (rest : List String) : (literal v (u :: rest)).Ends o w true s c
      ((literal v (u :: rest)).read o ⟨s, c⟩) := by
  have hwords : readWords (u :: rest) ⟨s, c⟩ = (if sameWord w u then readWords rest
      else Step.failAt s.position (.literalExpected u w)) ⟨s.skipAll, c⟩ := by
    show (Step.token >>= _) _ = _
    rw [Step.bind_of_ok (hs.token_of_word c)]
    rfl
  have hfate : (literal v (u :: rest)).outlook o w true =
    if sameWord w u then if rest.isEmpty then .reads else .lacks else .refuses := rfl
  show Ends _ o w true s c ((readWords (u :: rest) >>= fun _ => pure (bindable [v])) ⟨s, c⟩)
  unfold Ends
  rw [hfate]
  cases hsame : sameWord w u with
  | false =>
    rw [hsame] at hwords
    rw [Step.bind_of_error hwords]
    exact .inr ⟨_, _, _, rfl, fun B => ⟨_, _, _, rfl, hs.position_lt⟩⟩
  | true =>
    rw [hsame] at hwords
    cases rest with
    | nil =>
      rw [Step.bind_of_ok hwords]
      exact .inl ⟨rfl, rfl, v.parts, _, rfl, decide_eq_true_iff.symm⟩
    | cons r rest =>
      rw [Step.bind_of_error (hwords.trans (readWords_of_nothing hs.skipAll c r rest))]
      exact .inr ⟨_, _, _, rfl, fun B => ⟨_, _, _, rfl, rfl, rfl⟩⟩

/-- **So does a choice of fixed candidates.** -/
theorem ends_choice {choices : Choice} (hfixed : choices.Fixed) (hs : s.Shows w true) (c : Context) :
    (choice choices).Ends o w true s c ((choice choices).read o ⟨s, c⟩) := by
  obtain ⟨asked, hnames⟩ := ParseCourse.exists_candidates_eq choices w ⟨s.skipAll, c⟩
  show Ends _ o w true s c ((Step.token >>= _) _)
  unfold Ends several
  rw [outlook_choice, Step.bind_of_ok (hs.token_of_word c)]
  dsimp only
  rw [Step.bind_of_ok hnames]
  rcases hselect : Pattern.select o.host w (choices.supply w) with fault | _ | ⟨name, names⟩
  · exact .inr ⟨_, _, _, rfl, fun B => ⟨_, _, _, rfl⟩⟩
  · exact .inr ⟨_, _, _, rfl, fun B => ⟨_, _, _, rfl, hs.position_lt⟩⟩
  · dsimp only
    cases hmisused : choices.isMisused (name :: names) with
    | true =>
      rw [Step.bind_of_error (valuesOf_of_isMisused s.position ⟨s.skipAll, c⟩ hmisused)]
      exact .inr ⟨_, _, _, rfl, fun B => ⟨_, _, _, rfl⟩⟩
    | false =>
      obtain ⟨vs, hvs⟩ := Choice.exists_mapM_of_not_isMisused
        (fun n hn => hfixed.value w n (Pattern.mem_of_mem_select hselect hn)) hmisused
      rw [Step.bind_of_ok (valuesOf_of_mapM choices s.position ⟨s.skipAll, c⟩ hvs), hvs]
      exact .inl ⟨rfl, rfl, bindable vs, _, rfl, decide_eq_true_iff.symm⟩

/-- **A leaf of fixed words ends as its outlook says.** -/
theorem ends_read {l : Leaf} (hl : l.Fixed) {ahead : Bool} (hs : s.Shows w ahead) (c : Context) :
    l.Ends o w ahead s c (l.read o ⟨s, c⟩) := by
  cases l with
  | truth =>
    cases ahead with
    | false => exact ends_of_nothing hs c _ rfl
    | true => exact ends_truth hs c
  | literal v words =>
    cases words with
    | nil => exact absurd rfl hl
    | cons u rest =>
      cases ahead with
      | false =>
        show Ends _ o w false s c ((readWords (u :: rest) >>= fun _ => pure (bindable [v])) ⟨s, c⟩)
        rw [Step.bind_of_error (readWords_of_nothing hs c u rest)]
        exact .inr ⟨_, _, _, rfl, fun B => ⟨_, _, _, rfl, rfl, rfl⟩⟩
      | true => exact ends_literal hs c v u rest
  | choice choices =>
    cases ahead with
    | false => exact ends_of_nothing hs c _ rfl
    | true => exact ends_choice hl hs c
  | _ => exact hl.elim

end Leaf

namespace Parameter

variable {p : Parameter}

/-- Whether a node may bind more than the one value that the word stands for: it has a default, or
the word is several values there. -/
def Doubles (o : Occasion) (w : String) (n : Parameter) : Prop :=
  n.several o w = true ∨ ∃ m ∈ n.frame.modifiers, m.BindsDefault

/-- Whether a node inside the parameter may do so under a key. -/
def DoublesIn (o : Occasion) (w : String) (p : Parameter) (key : String) : Prop :=
  ∃ n, p.Has n ∧ n.key = key ∧ n.Doubles o w

/-- **What is doubled in a child is doubled in the parameter.** -/
theorem DoublesIn.child {c : Parameter} (h : c.DoublesIn o w key) (hc : c ∈ p.children) :
    p.DoublesIn o w key := by
  obtain ⟨n, hn, hkey, hm⟩ := h
  exact ⟨n, .child hc hn, hkey, hm⟩

/-- What a node must be for `onlyOne` to count at most one value for the word: under a key that it
counts, no default and no word that is several is bound inside it, in front of it in a sequence, or
in an earlier run. -/
structure Tidy (o : Occasion) (w : String) (n : Parameter) : Prop where
  inside : Modifier.onlyOne ∈ n.frame.modifiers → ∀ c ∈ n.children, ¬ c.DoublesIn o w n.key
  repeats : ∀ k, Modifier.repeated k ∈ n.frame.modifiers → ∀ key, n.Counts key →
    ¬ n.DoublesIn o w key
  sequence : ∀ f cs, n = all f cs →
    cs.Pairwise fun b c => ∀ key, c.Counts key → ¬ b.DoublesIn o w key

/-- What a node of a grammar of fixed words is: it is for the source to use, it completes by itself,
its repetitions run at least once, and if it is a leaf, it takes fixed words. -/
structure Fixed (o : Occasion) (n : Parameter) : Prop where
  usable : n.mayUse o.source = true
  completer : n.frame.completer = none
  positive : ∀ k, Modifier.repeated k ∈ n.frame.modifiers → 0 < k
  leaf : ∀ f l, n = .leaf f l → l.Fixed

/-- The bindings are frugal under every key that an `onlyOne` inside the parameter counts. -/
def Frugal (p : Parameter) (ahead : Bool) (c : Context) : Prop :=
  ∀ key, p.Counts key → c.Frugal key ahead

/-- The bindings stay frugal under every key that nothing inside the parameters doubles. -/
def Keeps (o : Occasion) (w : String) (ps : List Parameter) (ahead : Bool) (c : Context)
    (read : Bool) (c' : Context) : Prop :=
  ∀ key, (∀ p ∈ ps, ¬ p.DoublesIn o w key) → c.Frugal key ahead →
    c'.Frugal key (stillLeft ahead read)

/-- **Parameters one after the other have the outlook of a sequence.** -/
theorem fits_parseAll : ∀ cs : List Parameter,
    (∀ c ∈ cs, (c.parse o).Fits w c.Frugal (Keeps o w [c]) (c.outlook o w)) →
    (cs.Pairwise fun b c => ∀ key, c.Counts key → ¬ b.DoublesIn o w key) →
    (parseAll o cs).Fits w (fun ahead context => ∀ c ∈ cs, c.Frugal ahead context) (Keeps o w cs)
      (allOutlook o w cs)
  | [], _, _ => fun ahead stream _ context _ => by
    rw [parseAll, allOutlook]
    exact ⟨context, [], rfl, fun _ _ h => h⟩
  | c :: cs, hfits, hpairs => by
    intro ahead stream hs context hfrugal
    rw [List.pairwise_cons] at hpairs
    have hrest := fits_parseAll cs (fun d hd => hfits d (List.mem_cons_of_mem c hd)) hpairs.2
    have hc := hfits c List.mem_cons_self ahead stream hs context (hfrugal c List.mem_cons_self)
    -- The first child doubles nothing that an `onlyOne` behind it counts.
    have hkeep : ∀ read c', Keeps o w [c] ahead context read c' →
        ∀ d ∈ cs, d.Frugal (stillLeft ahead read) c' := fun read c' hB d hd key hkey =>
      hB key (fun p hp => List.mem_singleton.1 hp ▸ hpairs.1 d hd key hkey)
        (hfrugal d (List.mem_cons_of_mem c hd) key hkey)
    have hboth : ∀ read c', Keeps o w [c] ahead context read c' → ∀ read' c'',
        Keeps o w cs (stillLeft ahead read) c' read' c'' →
        Keeps o w (c :: cs) ahead context (read || read') c'' := by
      intro read c' hB read' c'' hB' key hkey h
      have hfirst := hB key (fun p hp => List.mem_singleton.1 hp ▸ hkey c List.mem_cons_self) h
      rw [← stillLeft_stillLeft]
      exact hB' key (fun p hp => hkey p (List.mem_cons_of_mem c hp)) hfirst
    rw [parseAll, allOutlook]
    show Fate.Comes _ stream ((c.parse o >>= fun _ => parseAll o cs) ⟨stream, context⟩) _
    unfold Outlook.andThen
    obtain ⟨hx, hnext, c', asked, hr, hB⟩ | ⟨hx, c', asked, hr, hB⟩ | ⟨hx, e, q, asked, hr, hfail⟩ |
      ⟨hx, b, q, asked, hr⟩ := hc.cases
    · rw [Step.bind_of_ok hr, hx]
      exact ((hrest false _ hs.skipAll c' (hkeep true c' hB)).behindWord hnext hs.skipAll.hasNext
        (hboth true c' hB false)).after asked
    · rw [Step.bind_of_ok hr, hx]
      exact ((hrest ahead stream hs c' (hkeep false c' hB)).imp fun read =>
        hboth false c' hB read _).after asked
    · have hfails := hfail (Keeps o w (c :: cs) ahead context) e rfl rfl q asked
      rw [Step.bind_of_error hr]
      rcases hx with hx | hx <;> rw [hx] at hfails ⊢ <;> exact hfails
    · rw [Step.bind_of_error hr, hx]
      exact ⟨b, q, asked, rfl⟩

/-- **Of two failures, the one further on is reported**, which lacks a word if one of them does. -/
theorem comes_furthest {f g : Fate} {e e' : ParseError} {B : Bool → Context → Prop} {q q' : Progress}
    {asked asked' : List String} (he : f.Comes B s ⟨.error (.failed e), q, asked⟩)
    (he' : g.Comes B s ⟨.error (.failed e'), q', asked'⟩) :
    (f.orElse g).Comes B s
      ⟨.error (.failed (if e'.position > e.position then e' else e)), q, asked⟩ := by
  rw [Fate.comes_failed_iff] at he he' ⊢
  rcases he with ⟨rfl, hkind, hplace⟩ | ⟨rfl, hplace⟩ <;>
    rcases he' with ⟨rfl, hkind', hplace'⟩ | ⟨rfl, hplace'⟩
  · rw [if_neg (by omega)]
    exact .inl ⟨rfl, hkind, hplace⟩
  · rw [if_neg (by omega)]
    exact .inl ⟨rfl, hkind, hplace⟩
  · rw [if_pos (by omega)]
    exact .inl ⟨rfl, hkind', hplace'⟩
  · split
    · exact .inr ⟨rfl, hplace'⟩
    · exact .inr ⟨rfl, hplace⟩

/-- **Alternatives that are tried after a failure have the outlook of a choice.** -/
theorem comes_parseFirst {ahead : Bool} {B : Bool → Context → Prop} : ∀ (cs : List Parameter)
    (best : ParseError) (f : Fate),
    (∀ c ∈ cs, ((c.outlook o w) ahead).Comes B s (c.parse o ⟨s, context⟩)) →
    f.Comes B s ⟨.error (.failed best), ⟨s, context⟩, []⟩ →
    (f.orElse (someOutlook o w cs ahead)).Comes B s
      (parseFirst o best cs ⟨s, context⟩)
  | [], best, f, _, hbest => by
    rw [parseFirst, someOutlook, Fate.orElse_refuses]
    exact hbest
  | c :: cs, best, f, hfits, hbest => by
    have hf : f = .lacks ∨ f = .refuses :=
      (Fate.comes_failed_iff.1 hbest).imp And.left And.left
    rw [parseFirst, someOutlook]
    dsimp only [Outlook.orElse]
    obtain ⟨hx, hnext, c', asked, hr, hB⟩ | ⟨hx, c', asked, hr, hB⟩ | ⟨hx, e, q, asked, hr, hfail⟩ |
      ⟨hx, b, q, asked, hr⟩ := (hfits c List.mem_cons_self).atomic.cases <;> rw [hr]
    · rcases hf with rfl | rfl <;> rw [hx] <;> exact ⟨hnext, c', asked, rfl, hB⟩
    · rcases hf with rfl | rfl <;> rw [hx] <;> exact ⟨c', asked, rfl, hB⟩
    · rw [← Fate.orElse_assoc]
      exact (comes_parseFirst cs _ _ (fun d hd => hfits d (List.mem_cons_of_mem c hd))
        (comes_furthest hbest (hfail _ e rfl rfl ⟨s, context⟩ []))).after asked
    · rcases hf with rfl | rfl <;> rw [hx] <;> exact ⟨b, _, asked, rfl⟩

/-- **A choice has the outlook of its alternatives.** -/
theorem comes_alternatives {ahead : Bool} {B : Bool → Context → Prop} (f : Frame) (c : Parameter)
    (cs : List Parameter)
    (h : ∀ d ∈ c :: cs, (d.outlook o w ahead).Comes B s (d.parse o ⟨s, context⟩)) :
    (someOutlook o w (c :: cs) ahead).Comes B s
      ((first f c cs).core o ⟨s, context⟩) := by
  rw [someOutlook]
  dsimp only [Outlook.orElse, core]
  obtain ⟨hx, hnext, c', asked, hr, hB⟩ | ⟨hx, c', asked, hr, hB⟩ | ⟨hx, e, q, asked, hr, hfail⟩ |
    ⟨hx, b, q, asked, hr⟩ := (h c List.mem_cons_self).atomic.cases <;> rw [hr]
  · rw [hx]
    exact ⟨hnext, c', asked, rfl, hB⟩
  · rw [hx]
    exact ⟨c', asked, rfl, hB⟩
  · exact (comes_parseFirst cs e _ (fun d hd => h d (List.mem_cons_of_mem c hd))
      (hfail _ e rfl rfl ⟨s, context⟩ [])).after asked
  · rw [hx]
    exact ⟨b, q, asked, rfl⟩

/-- What is bound under the key of a parameter whose `onlyOne` counts it: several values if a word is
read that is several, and otherwise at most one. -/
def Counted (o : Occasion) (w : String) (p : Parameter) (read : Bool) (c : Context) : Prop :=
  Modifier.onlyOne ∈ p.frame.modifiers →
    (1 < (c.values p.key).length ↔ read = true ∧ p.several o w = true)

/-- **One value is no more than `onlyOne` allows.** -/
theorem counted_of_le_one {read : Bool} {c : Context} (hone : (c.values p.key).length ≤ 1)
    (hread : read = false ∨ p.several o w = false) : p.Counted o w read c := fun _ => by
  refine iff_of_false (Nat.not_lt.2 hone) ?_
  rintro ⟨hr, hs⟩
  rcases hread with h | h
  · exact Bool.noConfusion (hr.symm.trans h)
  · exact Bool.noConfusion (hs.symm.trans h)

/-- What the bindings inside the modifiers of a parameter are like before and after. -/
def Watched (o : Occasion) (w : String) (p : Parameter) (ahead : Bool) (c : Context)
    (read : Bool) (c' : Context) : Prop :=
  p.Counted o w read c' ∧ Keeps o w [p] ahead c read c'

/-- **What an `onlyOne` counts in a tidy grammar stays settled through its modifiers.** -/
theorem Tidy.watches (h : p.Tidy o w) :
    Modifier.Watches p.key (p.several o w) p.frame.modifiers p.Frugal (p.Watched o w) where
  spare ahead c hc :=
    ⟨fun hm => counted_of_le_one (hc p.key ⟨p, .self p, rfl, hm⟩).length_le_one (.inl rfl) hm,
      fun _ _ hkey => hkey⟩
  default m hm hdefault value ahead c read c' hB := by
    obtain ⟨hcounted, hkeeps⟩ := hB
    refine ⟨fun hone => Iff.trans ⟨fun hmany => ?_, fun hmany => ?_⟩ (hcounted hone),
      fun key hkey hc => ?_⟩
    · have := c'.length_values_withDefault_le p.key value
      omega
    · rwa [Context.withDefault_of_several hmany]
    · -- Under its own key, a parameter with a default doubles.
      have hne : p.key ≠ key := fun hp =>
        hkey p List.mem_cons_self ⟨p, .self p, hp, .inr ⟨m, hm, hdefault⟩⟩
      unfold Context.Frugal
      rw [c'.values_withDefault_of_ne hne]
      exact hkeeps key hkey hc
  again n hn ahead c read c' hA hB := by
    have hcounted : ∀ key, p.Counts key → ∀ q ∈ [p], ¬ q.DoublesIn o w key :=
      fun key hkey q hq => List.mem_singleton.1 hq ▸ h.repeats n hn key hkey
    refine ⟨fun key hkey => hB.2 key (hcounted key hkey) (hA key hkey), fun read' c'' hB' => ?_⟩
    have hkeeps : Keeps o w [p] ahead c (read || read') c'' := fun key hkey hc => by
      rw [← stillLeft_stillLeft]
      exact hB'.2 key hkey (hB.2 key hkey hc)
    refine ⟨fun hm => ?_, hkeeps⟩
    have hp : p.Counts p.key := ⟨p, .self p, rfl, hm⟩
    refine counted_of_le_one (hkeeps p.key (hcounted _ hp) (hA _ hp)).length_le_one (.inr ?_) hm
    exact Bool.of_not_eq_true fun hseveral =>
      h.repeats n hn p.key hp ⟨p, .self p, rfl, .inl hseveral⟩
  count hm _ _ _ _ hB := hB.1 hm

/-- **A usable parameter is run inside its modifiers.** -/
theorem framed_of_mayUse (h : p.mayUse o.source = true) (core : Step Unit) :
    framed o p.frame core = Modifier.chain p.key o.source p.frame.modifiers core := if_pos h

/-- **A leaf of fixed words has its outlook when it binds what it reads.** -/
theorem fits_readAndBind {f : Frame} {l : Leaf} (hl : l.Fixed) :
    (readAndBind o f.key l).Fits w (leaf f l).Frugal ((leaf f l).Watched o w) (l.outlook o w) := by
  intro ahead stream hs context hfrugal
  have hnone : Modifier.onlyOne ∈ f.modifiers → context.Frugal f.key ahead :=
    fun hm => hfrugal f.key ⟨leaf f l, .self _, rfl, hm⟩
  show Fate.Comes _ stream ((l.read o >>= fun vs => if !f.key.isEmpty then Step.putAll f.key vs
    else pure ()) ⟨stream, context⟩) _
  rcases Leaf.ends_read hl hs context with ⟨hx, rfl, vs, asked, hr, hmany⟩ | ⟨e, q, asked, hr, hx⟩
  · rw [Step.bind_of_ok hr, hx]
    have hone : ∀ key, context.Frugal key true → context.values key = [] :=
      fun key h => List.length_eq_zero_iff.1 (Nat.le_zero.1 h)
    cases hkey : f.key.isEmpty with
    | true =>
      have hseveral : (leaf f l).several o w = false := by rw [several, hkey]; rfl
      exact ⟨hs.hasNext, context, _, rfl,
        fun hm => counted_of_le_one (hnone hm).length_le_one (.inr hseveral) hm,
        fun key _ hc => hc.stillLeft true rfl⟩
    | false =>
      have hseveral : (leaf f l).several o w = l.several o w := by rw [several, hkey]; rfl
      refine ⟨hs.hasNext, context.putAll f.key vs, _, rfl, fun hm => ?_, fun key hkeep hc => ?_⟩
      · show 1 < ((context.putAll f.key vs).values f.key).length ↔ _
        rw [context.values_putAll_self f.key vs, hone _ (hnone hm), List.nil_append, hmany, hseveral]
        simp only [true_and]
      · by_cases hown : f.key = key
        · subst hown
          have hsingle : ¬ 1 < vs.length := fun h =>
            hkeep _ List.mem_cons_self ⟨_, .self _, rfl, .inl (hseveral.trans (hmany.1 h))⟩
          unfold Context.Frugal
          rw [context.values_putAll_self f.key vs, hone _ hc, List.nil_append]
          exact Nat.not_lt.1 hsingle
        · exact hc.stillLeft true (Context.values_putAll_of_ne hown vs context)
  · rw [Step.bind_of_error hr]
    exact hx _

/-- **The core of a composite has the outlook of its children together.** -/
theorem fits_composite (htidy : p.Tidy o w) (hleaf : ∀ f l, p ≠ leaf f l)
    (ih : ∀ c ∈ p.children, (c.parse o).Fits w c.Frugal (Keeps o w [c]) (c.outlook o w)) :
    (p.core o).Fits w p.Frugal (p.Watched o w) (p.coreOutlook o w) := by
  intro ahead stream hs context hfrugal
  have hchild : ∀ c ∈ p.children, c.Frugal ahead context :=
    fun c hc key hkey => hfrugal key (hkey.child hc)
  have hcomes : (p.coreOutlook o w ahead).Comes (Keeps o w p.children ahead context) stream
      (p.core o ⟨stream, context⟩) := by
    cases p with
    | leaf f l => exact absurd rfl (hleaf f l)
    | all f cs =>
      exact (fits_parseAll cs ih (htidy.sequence f cs rfl) ahead stream hs context hchild).atomic
    | first f c cs =>
      refine comes_alternatives f c cs fun d hd => ?_
      refine (ih d hd ahead stream hs context (hchild d hd)).imp fun read hB key hkey => ?_
      exact hB key fun q hq => List.mem_singleton.1 hq ▸ hkey d hd
  refine hcomes.imp fun read hB => ⟨fun hm => ?_, fun key hkey => ?_⟩
  · have hone := hB p.key (htidy.inside hm) (hfrugal p.key ⟨p, .self p, rfl, hm⟩)
    refine counted_of_le_one hone.length_le_one (.inr ?_) hm
    cases p with
    | leaf f l => exact absurd rfl (hleaf f l)
    | _ => rfl
  · exact hB key fun c hc hdoubles => hkey p List.mem_cons_self (hdoubles.child hc)

/-- **A grammar of fixed words comes to what its outlook says.** -/
theorem fits_parse (p : Parameter) (hfixed : ∀ n, p.Has n → n.Fixed o)
    (htidy : ∀ n, p.Has n → n.Tidy o w) :
    (p.parse o).Fits w p.Frugal (Keeps o w [p]) (p.outlook o w) := by
  induction p using inductionOnChildren with
  | step p ih =>
    have hp := htidy p (.self p)
    have hchild : ∀ c ∈ p.children, (c.parse o).Fits w c.Frugal (Keeps o w [c]) (c.outlook o w) :=
      fun c hc => ih c hc (fun n hn => hfixed n (.child hc hn)) fun n hn => htidy n (.child hc hn)
    have hcore : (p.core o).Fits w p.Frugal (p.Watched o w) (p.coreOutlook o w) := by
      cases p with
      | leaf f l => exact fits_readAndBind ((hfixed _ (.self _)).leaf f l rfl)
      | all f cs => exact fits_composite hp (fun _ _ => Parameter.noConfusion) hchild
      | first f c cs => exact fits_composite hp (fun _ _ => Parameter.noConfusion) hchild
    have hchain := hp.watches.fits_chain hcore o.source _ fun m hm => hm
    intro ahead stream hs context hfrugal
    rw [parse_eq_framed, framed_of_mayUse (hfixed p (.self p)).usable, outlook_eq]
    exact (hchain ahead stream hs context hfrugal).imp fun _ hB => hB.2

end Parameter

end CommandGrammar
