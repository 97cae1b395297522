/-
# Unknown names that are marked

Flags may bind `true` under the unknown names that they come to, instead of dropping them.  The two
policies read a line alike, token by token, and what they have bound differs in those names alone
(`Flags.markedUnder_parse`):

| key | values, if unknown names are marked |
| --- | --- |
| an unknown name that has values without the marks | the same |
| an unknown name without values | `true`, once |
| any other key | the same |

For this no parameter of a flag may bind under such a name: one that counts its values, or asks
whether it has any, would see the mark.

On the way `Context.MarkedAtMost` holds between the two contexts, in which some of the names are
marked already; in the end all of them are bound.
-/

import CommandGrammar.Proofs.Flags.UnknownNames
import CommandGrammar.Proofs.Steps.Footprint

namespace CommandGrammar

open Text

namespace Context

variable {N : String → Prop} {c d c' d' : Context} {key : String}

/-- The context `d` is `c` with `true` under some more keys of `N`. -/
structure MarkedAtMost (N : String → Prop) (c d : Context) : Prop where
  values : ∀ key, d.values key = c.values key ∨
    N key ∧ c.has key = false ∧ d.values key = [.truth true]
  completing : d.completing = c.completing
  target : d.target = c.target

/-- The context `d` is `c` with `true` under every key of `N` that has no value. -/
structure MarkedUnder (N : String → Prop) (c d : Context) : Prop where
  marked : ∀ key, N key → d.values key = if c.has key then c.values key else [.truth true]
  others : ∀ key, ¬ N key → d.values key = c.values key
  completing : d.completing = c.completing
  target : d.target = c.target

namespace MarkedAtMost

/-- **Nothing is marked between bindings and themselves.** -/
theorem refl (N : String → Prop) (c : Context) : c.MarkedAtMost N c :=
  ⟨fun _ => .inl rfl, rfl, rfl⟩

/-- **Under any other key the values are the same.** -/
theorem values_eq (h : c.MarkedAtMost N d) (hkey : ¬ N key) : d.values key = c.values key :=
  (h.values key).resolve_right fun hmark => hkey hmark.1

/-- **What is bound under one key, alike in both, leaves the marks as they are.** -/
theorem update (h : c.MarkedAtMost N d) (key : String) (same : d'.values key = c'.values key)
    (left : ∀ {other}, key ≠ other → c'.values other = c.values other)
    (right : ∀ {other}, key ≠ other → d'.values other = d.values other)
    (completing : d'.completing = c'.completing) (target : d'.target = c'.target) :
    c'.MarkedAtMost N d' where
  values other := by
    by_cases hother : key = other
    · subst hother
      exact .inl same
    · have hc := left hother
      rw [hc, right hother, has, hc]
      exact h.values other
  completing := completing
  target := target

/-- **Binding a value under any other key keeps it so.** -/
theorem put (h : c.MarkedAtMost N d) (hkey : ¬ N key) (v : Value) :
    (c.put key v).MarkedAtMost N (d.put key v) := by
  refine h.update key ?_ (values_put_of_ne · v c) (values_put_of_ne · v d) h.completing
    h.target
  rw [values_put_self, values_put_self, h.values_eq hkey]

/-- **So does a default under any other key.** -/
theorem withDefault (h : c.MarkedAtMost N d) (hkey : ¬ N key) (value : Option Value) :
    (c.withDefault key value).MarkedAtMost N (d.withDefault key value) := by
  have hc := withDefault_same key value c
  have hd := withDefault_same key value d
  refine h.update key ?_ (values_withDefault_of_ne · value c)
    (values_withDefault_of_ne · value d) ?_ ?_
  · rw [values_withDefault_self, values_withDefault_self, h.values_eq hkey]
  · rw [hc.1, hd.1, h.completing]
  · rw [hc.2, hd.2, h.target]

/-- **A key that is marked in both has the same values**, also if it was marked in one already. -/
theorem mark (h : c.MarkedAtMost N d) (key : String) :
    (c.mark key).MarkedAtMost N (d.mark key) := by
  have hc := foldl_mark_same [key] c
  have hd := foldl_mark_same [key] d
  refine h.update key ?_ (values_mark_of_ne · c) (values_mark_of_ne · d) ?_ ?_
  · rw [values_mark_self, values_mark_self]
    rcases h.values key with hsame | ⟨-, hfree, hmarked⟩
    · rw [has, has, hsame]
    · rw [has, hmarked, hfree]
      rfl
  · exact hd.1.trans (h.completing.trans hc.1.symm)
  · exact hd.2.trans (h.target.trans hc.2.symm)

/-- **One more key of `N` may be marked.** -/
theorem mark_right (h : c.MarkedAtMost N d) (hkey : N key) : c.MarkedAtMost N (d.mark key) where
  values other := by
    by_cases hother : key = other
    · subst hother
      rw [values_mark_self]
      cases hd : d.has key with
      | true => exact h.values key
      | false =>
        rcases h.values key with hsame | ⟨-, hfree, -⟩
        · refine .inr ⟨hkey, ?_, rfl⟩
          rwa [has, hsame] at hd
        · exact .inr ⟨hkey, hfree, rfl⟩
    · rw [values_mark_of_ne hother]
      exact h.values other
  completing := (foldl_mark_same [key] d).1.trans h.completing
  target := (foldl_mark_same [key] d).2.trans h.target

/-- **If all keys of `N` have values, all of them are marked.** -/
theorem markedUnder (h : c.MarkedAtMost N d) (bound : ∀ key, N key → d.has key = true) :
    c.MarkedUnder N d where
  marked key hkey := by
    rcases h.values key with hsame | ⟨-, hfree, hmarked⟩
    · have hc : c.has key = true := by
        rw [has, ← hsame]
        exact bound key hkey
      rw [if_pos hc, hsame]
    · rw [hfree, hmarked]
      rfl
  others key hkey := h.values_eq hkey
  completing := h.completing
  target := h.target

end MarkedAtMost

/-- **A node that binds under another key goes on alike.** -/
theorem preserves_markedAtMost {n : Parameter} (hkey : ¬ N n.key) :
    n.Preserves (MarkedAtMost N) where
  puts v _ _ h := h.put hkey v
  defaults value _ _ h := h.withDefault hkey value
  counts _ _ _ h := by rw [h.values_eq hkey]

end Context
namespace Flags

section runs

variable {N : String → Prop} {o : Occasion} {fs : Flags} {t : Token} {before before' : Progress}
  {a b : UnknownFlagPolicy}

/-- The runs of flags that go side by side: at the same place of one line, with keys of `N` marked
in the second one. -/
def marking (N : String → Prop) : Pairing := .ofContexts (Context.MarkedAtMost N)

/-- The policy `a` is `b`, or drops what `b` marks. -/
def Drops (a b : UnknownFlagPolicy) : Prop := a = b ∨ a = .drop ∧ b = .mark

/-- **Marking a key on both sides keeps them paired.** -/
theorem paired_marking_mark (key : String) :
    Step.Paired (marking N) Eq (Step.mark key) (Step.mark key) := fun p p' hp =>
  .ok (p := ⟨p.stream, p.context.mark key⟩) (q := ⟨p'.stream, p'.context.mark key⟩) rfl
    ⟨hp.lines, Context.MarkedAtMost.mark hp.contexts key⟩ []

/-- **An unknown name is treated alike**, but for its mark. -/
theorem paired_marking_handle {name : String} (h : Drops a b) (hname : b = .mark → N name)
    (hbefore : (marking N).At before before') :
    Step.Paired (marking N) Eq (a.handle name t before) (b.handle name t before') := by
  rcases h with rfl | ⟨rfl, rfl⟩
  · cases a with
    | refuse => exact Pairing.paired_failAt (M := marking N) rfl _
    | keep =>
      exact Pairing.paired_bind (Pairing.paired_backTo hbefore) fun _ _ _ => Pairing.paired_pure rfl
    | drop => exact Pairing.paired_pure rfl
    | mark =>
      exact Pairing.paired_bind (paired_marking_mark name) fun _ _ _ => Pairing.paired_pure rfl
  · intro p p' hp
    exact .ok (M := marking N) (p := p) (q := ⟨p'.stream, p'.context.mark name⟩) rfl
      ⟨hp.lines, Context.MarkedAtMost.mark_right hp.contexts (hname rfl)⟩ []

variable {f : Flag} {param : Parameter} (apart : ∀ key, param.HasKey key → ¬ N key)

include apart

/-- **A parameter without marked keys reads alike.** -/
theorem paired_marking_param :
    Step.Paired (marking N) Eq (param.parse o) (param.parse o) :=
  Pairing.paired_parse
    (fun n hn => Context.preserves_markedAtMost (apart n.key ⟨n, hn, rfl⟩)) fun _ _ => trivial

/-- **So does reading an attached value on both sides.** -/
theorem paired_marking_attached (v : Token) :
    Step.Paired (marking N) Eq (readAttached o f param v) (readAttached o f param v) := by
  intro p p' hp
  have hstream : p.stream = p'.stream := hp.lines
  have hwhole := paired_readWhole (paired_marking_param (o := o) apart) f
  rw [readAttached_apply, readAttached_apply, ← hstream]
  have hline : (marking N).lines (.ofTokens p.stream.raw [v] none)
      (.ofTokens p.stream.raw [v] none) := rfl
  exact Pairing.paired_within (M := marking N) hline hwhole rfl rfl p p' hp

end runs

section flags

variable {N : String → Prop} {o : Occasion} {fs : Flags} {t : Token} {before before' : Progress}
  {a b : UnknownFlagPolicy} (hshort : Drops a fs.unknownShort) (hlong : Drops b fs.unknownLong)
  (apart : ∀ f param, fs.HasValue o f param → ∀ key, param.HasKey key → ¬ N key)

include apart

include hlong in
/-- **A long name, known or not, keeps both sides paired up to the marks.** -/
theorem paired_marking_readLong (hname : fs.unknownLong = .mark →
      usable o (fs.long? (longName t.text)) = none → N (longName t.text))
    (hbefore : (marking N).At before before') :
    Step.Paired (marking N) Eq
      (readLong o { fs with unknownShort := a, unknownLong := b } t before)
      (readLong o fs t before') := by
  have hfind : ∀ name, { fs with unknownShort := a, unknownLong := b }.long? name =
      fs.long? name := fun _ => rfl
  have hraw : before.stream = before'.stream := hbefore.lines
  rw [longName] at hname
  unfold readLong
  simp only [hfind, hraw]
  cases known : usable o
      (fs.long? (String.ofList ((t.text.toList.drop 2).takeWhile (· != '=')))) with
  | none => exact paired_marking_handle hlong (hname · known) hbefore
  | some f =>
    obtain ⟨hf, hmay⟩ := of_usable known
    dsimp only
    cases hparam : f.parameter? with
    | none =>
      cases ((t.text.toList.drop 2).dropWhile (· != '=')).tail? with
      | none =>
        exact Pairing.paired_bind (paired_marking_mark f.key) fun _ _ _ => Pairing.paired_pure rfl
      | some inline =>
        refine Pairing.paired_bind (V := fun _ _ => True) ?_ fun _ _ _ => Pairing.paired_pure rfl
        exact Pairing.paired_failAt (M := marking N) rfl _
    | some param =>
      have hkeys := apart f param ⟨mem_of_long? hf, hmay, hparam⟩
      cases ((t.text.toList.drop 2).dropWhile (· != '=')).tail? with
      | none =>
        exact Pairing.paired_bind (paired_marking_param hkeys) fun _ _ _ => Pairing.paired_pure rfl
      | some inline =>
        exact Pairing.paired_bind (paired_marking_attached hkeys _) fun _ _ _ =>
          Pairing.paired_pure rfl

include hshort in
/-- **So do the letters of a bundle.** -/
theorem paired_marking_readLetters (hbefore : (marking N).At before before') :
    ∀ (letters : List Char) (index : Nat),
      (fs.unknownShort = .mark → ∀ x ∈ fs.unknownLetters o letters, N x.toString) →
      Step.Paired (marking N) Eq
        (readLetters o { fs with unknownShort := a, unknownLong := b } t before index letters)
        (readLetters o fs t before' index letters)
  | [], index, _ => Pairing.paired_pure rfl
  | letter :: rest, index, hnames => by
    have hfind : { fs with unknownShort := a, unknownLong := b }.short? letter = fs.short? letter :=
      rfl
    have hraw : before.stream = before'.stream := hbefore.lines
    unfold unknownLetters at hnames
    unfold readLetters
    simp only [hfind, hraw]
    cases known : usable o (fs.short? letter) with
    | none =>
      rw [known] at hnames
      have hhandle := paired_marking_handle (t := t) hshort
        (fun hmark => hnames hmark letter List.mem_cons_self) hbefore
      refine Pairing.paired_bind hhandle fun found found' hfound => ?_
      subst hfound
      cases found with
      | false => exact Pairing.paired_pure rfl
      | true =>
        exact paired_marking_readLetters hbefore rest (index + 1) fun hmark x hx =>
          hnames hmark x (List.mem_cons_of_mem letter hx)
    | some f =>
      obtain ⟨hf, hmay⟩ := of_usable known
      rw [known] at hnames
      dsimp only at hnames ⊢
      cases hparam : f.parameter? with
      | none =>
        rw [takesValue_of_none hparam, if_neg Bool.false_ne_true] at hnames
        exact Pairing.paired_bind (paired_marking_mark f.key) fun _ _ _ =>
          paired_marking_readLetters hbefore rest (index + 1) hnames
      | some param =>
        have hkeys := apart f param ⟨mem_of_short? hf, hmay, hparam⟩
        cases hrest : rest.isEmpty with
        | true =>
          exact Pairing.paired_bind (paired_marking_param hkeys) fun _ _ _ =>
            Pairing.paired_pure rfl
        | false =>
          exact Pairing.paired_bind (paired_marking_attached hkeys _) fun _ _ _ =>
            Pairing.paired_pure rfl

include hshort hlong in
/-- **A token is read alike**, but for the marks of its unknown names. -/
theorem paired_marking_readOne {p p' : Progress} (hp : (marking N).At p p')
    (hnames : ∀ t, p'.stream.head? = some t → looksLikeFlag t.text = true →
      fs.unknownPolicy t.text = .mark → ∀ name ∈ fs.unknownNames o t.text, N name) :
    Report.Paired (marking N) Eq
      (readOne o { fs with unknownShort := a, unknownLong := b } p) (readOne o fs p') := by
  have hstream : p.stream = p'.stream := hp.lines
  rw [readOne_eq, readOne_eq, hstream]
  cases hhead : p'.stream.head? with
  | none => exact .ok rfl hp []
  | some t =>
    dsimp only
    cases hlooks : looksLikeFlag t.text with
    | false => exact .ok rfl hp []
    | true =>
      have hall := hnames t hhead hlooks
      unfold unknownPolicy unknownNames at hall
      refine Pairing.paired_bind Pairing.paired_next (fun _ _ _ => ?_) p p' hp
      cases hdashes : Text.beginsWith "--" t.text with
      | true =>
        rw [if_pos hdashes, if_pos hdashes] at hall
        refine paired_marking_readLong hlong apart (fun hmark hnone => ?_) hp
        refine hall hmark _ ?_
        rw [hnone]
        exact List.mem_cons_self
      | false =>
        rw [hdashes] at hall
        refine paired_marking_readLetters hshort apart hp _ 0 fun hmark x hx => ?_
        exact hall hmark _ (List.mem_map_of_mem hx)

end flags

section loop

variable {N : String → Prop} {o : Occasion} {fs : Flags} {p q r : Progress} {key : String}
  {a b : UnknownFlagPolicy}

/-- The key is an unknown name of a token that the reading of flags comes to from `p` on, and such
names are marked. -/
def Marks (o : Occasion) (fs : Flags) (p : Progress) (key : String) : Prop :=
  ∃ kept m t, fs.Comes o p kept m ∧ m.stream.head? = some t ∧ looksLikeFlag t.text = true ∧
    fs.unknownPolicy t.text = .mark ∧ key ∈ fs.unknownNames o t.text

/-- **What is marked behind a flag is marked on the way.** -/
theorem Marks.flag {t : Token} {asked : List String} (head : p.stream.head? = some t)
    (one : readOne o fs p = ⟨.ok true, q, asked⟩) (h : fs.Marks o q key) : fs.Marks o p key := by
  obtain ⟨kept, m, u, hcomes, hu⟩ := h
  exact ⟨kept, m, u, .flag head one hcomes, hu⟩

/-- **What marks a key behind a token that is kept does so in front of it.** -/
theorem Marks.keep {t : Token} {asked : List String} (free : fs.anchored = false)
    (head : p.stream.head? = some t) (one : readOne o fs p = ⟨.ok false, p, asked⟩)
    (next : Step.next p = ⟨.ok t.text, q, []⟩) (h : fs.Marks o q key) : fs.Marks o p key := by
  obtain ⟨kept, m, u, hcomes, hu⟩ := h
  exact ⟨t :: kept, m, u, .keep free head one next hcomes, hu⟩

/-- **The loop reads a line alike**, but for the marks. -/
theorem paired_marking_readAnywhere (free : fs.anchored = false) (hshort : Drops a fs.unknownShort)
    (hlong : Drops b fs.unknownLong)
    (apart : ∀ f param, fs.HasValue o f param → ∀ key, param.HasKey key → ¬ N key) :
    ∀ (n : Nat) (kept : List Token) {p p' : Progress}, (marking N).At p p' →
      (∀ key, fs.Marks o p' key → N key) →
      Report.Paired (marking N) Eq
        (readAnywhere o { fs with unknownShort := a, unknownLong := b } (fun _ => false) n kept p)
        (readAnywhere o fs (fun _ => false) n kept p')
  | 0, kept, p, p', hp, _ => .ok rfl hp []
  | n + 1, kept, p, p', hp, hnames => by
    have hstream : p.stream = p'.stream := hp.lines
    have hone := paired_marking_readOne hshort hlong apart hp
      fun t hhead hlooks hmark name hname =>
        hnames name ⟨[], p', t, .start p', hhead, hlooks, hmark, hname⟩
    rw [readAnywhere_succ, readAnywhere_succ, hstream]
    -- Both loops see the same token, read it alike, and go on from places that differ in marks.
    cases hhead : p'.stream.head? with
    | none => exact .ok rfl hp []
    | some t =>
      dsimp only
      rw [Bool.and_false, if_neg Bool.false_ne_true, if_neg Bool.false_ne_true, Step.bind_apply,
        Step.bind_apply]
      rcases hread : readOne o fs p' with ⟨e | found, q', asked⟩
      · rw [hread] at hone
        generalize readOne o { fs with unknownShort := a, unknownLong := b } p = x at hone ⊢
        cases hone with
        | failed error place => exact .failed error place _
        | broken b place => exact .broken b place _
      · rw [hread] at hone
        generalize readOne o { fs with unknownShort := a, unknownLong := b } p = x at hone ⊢
        cases hone with
        | @ok found' _ q _ value place =>
          subst value
          refine Report.Paired.after ?_ asked
          cases found' with
          | true =>
            exact paired_marking_readAnywhere free hshort hlong apart n kept place fun key hkey =>
              hnames key (.flag hhead hread hkey)
          | false =>
            obtain rfl := of_readOne_false hread
            obtain ⟨r', hnext'⟩ := Step.next_of_head? hhead
            have hnext := Pairing.paired_next q q' place
            rw [hnext'] at hnext
            rw [if_neg Bool.false_ne_true, if_neg Bool.false_ne_true, Step.bind_of_ok hnext',
              Step.bind_apply]
            generalize Step.next q = x at hnext ⊢
            cases hnext with
            | ok _ place' =>
              refine Report.Paired.after ?_ []
              exact paired_marking_readAnywhere free hshort hlong apart n _ place' fun key hkey =>
                hnames key (.keep free hhead hread hnext' hkey)

end loop

section bound

variable {o : Occasion} {fs : Flags} {p q r : Progress} {key : String} {t : Token}

/-- The course of a parse in which no key loses its values. -/
def keepsBound : ParseCourse where
  leads p q := ∀ key, p.context.has key = true → q.context.has key = true
  stops _ _ := True
  binds _ _ := True
  refl _ _ h := h
  trans h h' key hkey := h' key (h key hkey)
  back _ _ := trivial
  next _ _ _ h := h
  put _ key v _ _ h := Context.has_put_of_has h key v
  atEnd _ _ := trivial
  fails _ _ := trivial
  reworded _ _ := trivial

/-- **A parse takes no binding back.** -/
theorem governs_keepsBound (o : Occasion) (param : Parameter) :
    keepsBound.Governs (param.parse o) :=
  ParseCourse.governs_parse
    (ParseCourse.covers_of_binds (fun _ _ => trivial) fun _ _ _ _ _ _ _ _ => trivial)

/-- **Reading an attached value takes no binding back.** -/
theorem has_readAttached (f : Flag) (param : Parameter) (v : Token)
    (h : p.context.has key = true) :
    (readAttached o f param v p).progress.context.has key = true := by
  rw [readAttached_apply]
  exact (governs_readWhole (governs_keepsBound o param) f ⟨_, p.context⟩).1 key h

/-- **Neither does a step with a result put behind it.** -/
theorem has_bind_pure {s : Step Unit} (h : (s p).progress.context.has key = true) (b : Bool) :
    ((s >>= fun _ => pure b) p).progress.context.has key = true := by
  rw [Step.bind_apply]
  rcases hs : s p with ⟨e | u, q, asked⟩ <;> rwa [hs] at h

/-- **A flag takes no values from what is bound.** -/
theorem governs_readOne_keepsBound : keepsBound.Governs (readOne o fs) :=
  governs_readOne_of_binds (fun _ _ => trivial) (fun _ _ => trivial)
    fun hcontext key h => by rwa [hcontext]

/-- **All unknown letters are bound**, if such letters are marked. -/
theorem has_readLetters {before : Progress} (marks : fs.unknownShort = .mark) :
    ∀ {letters : List Char} {index : Nat} {p : Progress},
      (p.context.has key = true ∨ key ∈ (fs.unknownLetters o letters).map Char.toString) →
        (readLetters o fs t before index letters p).progress.context.has key = true
  | [], index, p, h => by
    rcases h with h | h
    · exact h
    · cases h
  | letter :: rest, index, p, h => by
    unfold unknownLetters at h
    cases known : usable o (fs.short? letter) with
    | none =>
      rw [known] at h
      have hmark : UnknownFlagPolicy.handle letter.toString t before .mark p =
          ⟨.ok true, ⟨p.stream, p.context.mark letter.toString⟩, []⟩ := rfl
      rw [readLetters_unknown known, marks, Step.bind_of_ok hmark, if_pos rfl]
      refine has_readLetters marks ?_
      rcases h with h | h
      · exact .inl (Context.has_mark_of_has h _)
      · rw [List.map_cons] at h
        rcases List.mem_cons.1 h with rfl | h
        · exact .inl (Context.has_mark _ _)
        · exact .inr h
    | some f =>
      rw [known] at h
      dsimp only at h
      cases hparam : f.parameter? with
      | none =>
        rw [takesValue_of_none hparam, if_neg Bool.false_ne_true] at h
        have hmark : Step.mark f.key p = ⟨.ok (), ⟨p.stream, p.context.mark f.key⟩, []⟩ := rfl
        rw [readLetters_switch known hparam, Step.bind_of_ok hmark]
        exact has_readLetters marks (h.imp_left fun h => Context.has_mark_of_has h _)
      | some param =>
        rw [takesValue_of_some hparam, if_pos rfl] at h
        have hhas : p.context.has key = true := by simpa using h
        by_cases hrest : rest = []
        · subst hrest
          rw [readLetters_last known hparam]
          exact has_bind_pure ((governs_keepsBound o param p).1 key hhas) true
        · rw [readLetters_attached known hparam hrest]
          exact has_bind_pure (has_readAttached f param _ hhas) true

/-- **A token binds its unknown names**, if they are marked, and is read. -/
theorem of_readOne_marked (hhead : p.stream.head? = some t) (hlooks : looksLikeFlag t.text = true)
    (marks : fs.unknownPolicy t.text = .mark) (hkey : key ∈ fs.unknownNames o t.text) :
    (readOne o fs p).progress.context.has key = true ∧
      ∀ b q asked, readOne o fs p = ⟨.ok b, q, asked⟩ → b = true := by
  obtain ⟨r, hnext⟩ := Step.next_of_head? hhead
  unfold unknownPolicy at marks
  cases hdashes : beginsWith "--" t.text with
  | true =>
    have hnone := usable_of_unknownNames hdashes (List.ne_nil_of_mem hkey)
    unfold unknownNames at hkey
    rw [if_pos hdashes] at marks hkey
    rw [hnone, Option.isNone_none, if_pos rfl, List.mem_singleton] at hkey
    rw [readOne_of_unknown_long hhead hlooks hnext hdashes hnone, marks, hkey]
    refine ⟨Context.has_mark _ _, fun b q asked h => ?_⟩
    cases h
    rfl
  | false =>
    unfold unknownNames at hkey
    rw [hdashes, if_neg Bool.false_ne_true] at marks hkey
    rw [readOne_of_short hhead hlooks hnext hdashes]
    refine ⟨has_readLetters marks (.inr hkey), fun b q asked h => ?_⟩
    refine found_of_readLetters ?_ h
    rw [marks]
    decide

/-- **Every name that is marked on the way is bound in the end.** -/
theorem has_of_marks (h : fs.Marks o p key) :
    (fs.parse o (fun _ => false) p).progress.context.has key = true := by
  obtain ⟨kept, m, t, hcomes, hhead, hlooks, marks, hkey⟩ := h
  obtain ⟨hhas, hfound⟩ := of_readOne_marked hhead hlooks marks hkey
  obtain ⟨asked, hline⟩ := exists_parse_of_comes hcomes
  rw [hline]
  show (fs.parse o (fun _ => false) m).progress.context.has key = true
  rw [parse_of_found hhead (fun _ => rfl) hfound, Step.bind_apply]
  rcases hread : readOne o fs m with ⟨e | b, q, xs⟩
  · rwa [hread] at hhas
  · rw [hread] at hhas
    exact (governs_parse governs_readOne_keepsBound (fun _ _ h => h) _ q).1 key hhas

end bound

/-- **Marking unknown names is dropping them, and binding `true` under them.**  Wherever flags mark
unknown names, they might drop them as well: what they read and keep is the same, and the names are
bound once, unless they have values without the marks. -/
theorem markedUnder_parse {o : Occasion} {fs : Flags} {p : Progress} {a b : UnknownFlagPolicy}
    (free : fs.anchored = false) (hshort : Drops a fs.unknownShort) (hlong : Drops b fs.unknownLong)
    (apart : ∀ f param, fs.HasValue o f param → ∀ key, param.HasKey key → ¬ fs.Marks o p key) :
    Report.Alike (Context.MarkedUnder (fs.Marks o p))
      ({ fs with unknownShort := a, unknownLong := b }.parse o (fun _ => false) p)
      (fs.parse o (fun _ => false) p) := by
  have hfree : { fs with unknownShort := a, unknownLong := b }.anchored = false := free
  have hbound : ∀ key, fs.Marks o p key → _ := fun key hkey => has_of_marks hkey
  obtain ⟨result, stream, asked, c, d, hR, hx, hy⟩ :=
    (paired_marking_readAnywhere free hshort hlong apart p.stream.unread.length []
      ⟨rfl, Context.MarkedAtMost.refl _ p.context⟩ fun _ h => h).alike
  rw [parse_of_free free o _ (rounds_iff.2 rfl), hy] at hbound ⊢
  rw [parse_of_free hfree o _ (rounds_iff.2 rfl), hx]
  exact .mk (hR.markedUnder hbound)

end Flags
end CommandGrammar
