/-
# What breaks a completion off

A completion comes to a list of words, unless a leaf breaks it off.  The flags of a command are asked
first: they complete the last word, or they leave a stream for its arguments and its children, and
that stream says no other words than the line (`FlagCompletion.SaysOnly`).
-/

import CommandGrammar.Proofs.Breakdowns.Typing

namespace CommandGrammar

section

variable {W : String → Prop} {F : Breakdown → Prop} {o : Occasion} {p q : Progress}

/-- The completers of the values of flags come to words. -/
def Flags.CompletersReturn (fs : Flags) : Prop :=
  ∀ f ∈ fs.flags, ∀ param, f.parameter? = some param → param.CompletersReturn

/-- The stream that flags leave says only words. -/
def FlagCompletion.SaysOnly (W : String → Prop) (c : FlagCompletion) : Prop :=
  ∀ s, c.rest = some s → s.SaysOnly W none

/-- What the walk over flags goes on with says only words. -/
def Flags.Walk.SaysOnly (W : String → Prop) : Flags.Walk → Prop
  | .ended c => c.SaysOnly W
  | .over kept _ => ∀ t ∈ kept, W t.text

namespace Flags

variable {fs : Flags}

/-- **A usable flag with a parameter is one that has a value.** -/
theorem exists_hasValue_of_usable {f? : Option Flag} {param : Parameter}
    (hmem : ∀ f, f? = some f → f ∈ fs.flags)
    (h : (usable o f?).bind Flag.parameter? = some param) : ∃ f, fs.HasValue o f param := by
  obtain ⟨f, hf, hparam⟩ := Option.bind_eq_some_iff.1 h
  obtain ⟨hsome, hmay⟩ := of_usable hf
  exact ⟨f, hmem f hsome, hmay, hparam⟩

/-- **The parameter that is awaited is that of a usable flag.** -/
theorem exists_hasValue_of_awaitedBy {text : String} {param : Parameter}
    (h : fs.awaitedBy o text = some param) : ∃ f, fs.HasValue o f param := by
  refine exists_hasValue_of_usable (fun f hf => ?_) h
  split at hf
  · exact mem_of_long? hf
  · dsimp only at hf
    split at hf
    · obtain ⟨c, -, hc⟩ := Option.bind_eq_some_iff.1 hf
      exact mem_of_short? hc
    · cases hf

/-- **So is the one that is awaited behind the last flag.** -/
theorem exists_hasValue_of_awaited {atLast : Bool} {text : String} {param : Parameter}
    (h : (if atLast then fs.awaitedBy o text else none) = some param) :
    ∃ f, fs.HasValue o f param := by
  split at h
  · exact exists_hasValue_of_awaitedBy h
  · cases h

/-- **The last word that is left is the flags' own if it has a dash and is no number.** -/
theorem of_ownWord {skips : Bool} {left : List Token} {t : Token}
    (h : (if skips then none else left.getLast?.filter fun t =>
      Text.beginsWith "-" t.text && !isNegativeNumber t.text) = some t) :
    t ∈ left ∧ Text.beginsWith "-" t.text = true ∧ isNegativeNumber t.text = false := by
  split at h
  · cases h
  · obtain ⟨hlast, hform⟩ := Option.filter_eq_some_iff.1 h
    rw [Bool.and_eq_true_iff, Bool.not_eq_true'] at hform
    exact ⟨List.mem_of_getLast? hlast, hform⟩

/-- **A word that begins with two dashes and has an equals sign has the form of a flag.** -/
theorem looksLikeFlag_of_inline {text : String} (hdash : Text.beginsWith "-" text = true)
    (hnumber : isNegativeNumber text = false) (hinline : (text.toList.drop 2).contains '=' = true) :
    looksLikeFlag text = true := by
  have hlong : 2 < text.length := by
    rw [← String.length_toList]
    refine Nat.lt_of_not_le fun h => ?_
    rw [List.drop_eq_nil_of_le h] at hinline
    cases hinline
  have hne : (text != "--") = true := by
    rw [bne_iff_ne]
    rintro rfl
    cases hinline
  unfold looksLikeFlag
  rw [decide_eq_true (Nat.le_of_lt hlong), hdash, hne, hnumber]
  rfl

/-- **Flags complete a word that has a dash, or break off as a leaf of a value must.** -/
theorem carries_completeWord (hW : ClosedUnderValues W) (hk : fs.CompletersReturn)
    (hf : fs.FaultsIn (Leaf.BreaksTyping o.host) W F) {t : Token} (ht : W t.text)
    (hdash : Text.beginsWith "-" t.text = true) (hnumber : isNegativeNumber t.text = false) :
    (Course.typing W F).Carries p (fs.completeWord o t) := by
  unfold completeWord
  dsimp only
  split
  · rename_i hinline
    split
    · exact Course.carries_pure _
    · rename_i param hparam
      obtain ⟨f, hflag⟩ := exists_hasValue_of_usable (fun _ => mem_of_long?) hparam
      have hcomplete := Course.governs_completeParameter (o := o) param
        (hk f hflag.mem param hflag.reads) (hf f hflag.mem param hflag.reads)
      have hlooks := looksLikeFlag_of_inline hdash hnumber (Bool.and_eq_true_iff.1 hinline).2
      refine Course.carries_here_bind fun q _ => Course.Carries.bind (fun r hr => ?_) fun _ =>
        Course.carries_pure _
      -- The value is completed as a line of its own, and it is a word.
      refine ⟨hr, fun e he _ => (hcomplete _).2 e he ⟨fun v hv => ?_, rfl⟩⟩
      obtain rfl := List.mem_singleton.1 hv
      refine hW _ _ ht hlooks ?_
      rw [String.toList_ofList]
      exact (List.drop_suffix 1 _).trans ((List.dropWhile_suffix _).trans (List.drop_suffix 2 _))
  · exact Course.carries_pure _

/-- **A flag that cannot be read yet does no harm.** -/
theorem governs_tryOne (hW : ClosedUnderValues W)
    (hf : fs.FaultsIn (Leaf.BreaksTyping o.host) W F) :
    (Course.typing W F).Governs (fs.tryOne o) := fun p => by
  have hone := governs_readOne (o := o) none hW (fun f hm param hp =>
    (hf f hm param hp).reading) p
  unfold tryOne
  split
  · exact Course.allows_ok id _ _
  · rename_i hnot
    rcases hx : readOne o fs p with ⟨e | b, q, asked⟩
    · rw [hx] at hnot
      cases e with
      | failed e => exact absurd rfl (hnot e q asked)
      | broken b =>
        exact Course.allows_error (Course.leads_typing (hone.leads_of_eq hx))
          (Course.stops_typing (hone.stops_of_eq hx)) _
    · exact Course.allows_ok (Course.leads_typing (hone.leads_of_eq hx)) _ _

/-- **What is not read as a flag is left as it was.** -/
theorem of_tryOne_false {asked : List String} (h : fs.tryOne o p = ⟨.ok false, q, asked⟩) :
    q = p := by
  unfold tryOne at h
  split at h
  · exact (Report.mk.inj h).2.1.symm
  · exact of_readOne_false h

/-- **A flag that is tried successfully is read.** -/
theorem readOne_of_tryOne_true {asked : List String} (h : fs.tryOne o p = ⟨.ok true, q, asked⟩) :
    readOne o fs p = ⟨.ok true, q, asked⟩ := by
  unfold tryOne at h
  split at h
  · cases h
  · exact h

/-- **One round of the walk looks at one word.** -/
theorem walk_succ (o : Occasion) (fs : Flags) (stopAt : String → Bool) (n : Nat) (kept : List Token)
    (started : Bool) (p : Progress) :
    fs.walk o stopAt (n + 1) kept started p = match p.stream.unread with
      | t :: next :: more =>
        if kept.isEmpty && stopAt t.text then
          ⟨.ok (.ended ⟨some (.ofTokens p.stream.raw (t :: next :: more) none), none⟩), p, []⟩
        else
          match if looksLikeFlag t.text && more.isEmpty then fs.awaitedBy o t.text else none with
          | some value =>
            (Step.next >>= fun _ => value.complete o >>= fun words =>
              pure (.ended ⟨none, some words⟩)) p
          | none =>
            (fs.tryOne o >>= fun found =>
              if found then fs.walk o stopAt n kept started
              else if fs.anchored then pure (.over kept true)
              else Step.next >>= fun _ => fs.walk o stopAt n (kept ++ [t]) true) p
      | _ => ⟨.ok (.over kept started), p, []⟩ := by
  show (Step.here >>= _) p = _
  rw [Step.here_bind]
  rcases p.stream.unread with _ | ⟨t, _ | ⟨next, more⟩⟩
  · rfl
  · rfl
  · dsimp only
    cases kept.isEmpty && stopAt t.text
    · cases if looksLikeFlag t.text && more.isEmpty then fs.awaitedBy o t.text else none <;> rfl
    · rfl

/-- How a walk goes on from the word ahead of `p` that comes to a result at `q`: it is over, or it
goes on with one word less to count. -/
inductive WalkRound (o : Occasion) (fs : Flags) (stopAt : String → Bool) (n : Nat)
    (kept : List Token) (started : Bool) (p : Progress) : Walk → Progress → Prop
  | ended : WalkRound o fs stopAt n kept started p (.over kept started) p
  | stopped {t next : Token} {more : List Token} (ahead : p.stream.unread = t :: next :: more)
      (stop : (kept.isEmpty && stopAt t.text) = true) :
      WalkRound o fs stopAt n kept started p
        (.ended ⟨some (.ofTokens p.stream.raw (t :: next :: more) none), none⟩) p
  | value {t next : Token} {more : List Token} {param : Parameter} {r q : Progress}
      {words asked : List String} (ahead : p.stream.unread = t :: next :: more)
      (reads : (if looksLikeFlag t.text && more.isEmpty then fs.awaitedBy o t.text else none) =
        some param)
      (read : Step.next p = ⟨.ok t.text, r, []⟩)
      (completes : param.complete o r = ⟨.ok words, q, asked⟩) :
      WalkRound o fs stopAt n kept started p (.ended ⟨none, some words⟩) q
  | flag {t next : Token} {more : List Token} {m q : Progress} {w : Walk}
      {asked asked' : List String}
      (ahead : p.stream.unread = t :: next :: more)
      (goesOn : (kept.isEmpty && stopAt t.text) = false)
      (reads :
        (if looksLikeFlag t.text && more.isEmpty then fs.awaitedBy o t.text else none) = none)
      (one : fs.tryOne o p = ⟨.ok true, m, asked⟩)
      (rest : fs.walk o stopAt n kept started m = ⟨.ok w, q, asked'⟩) :
      WalkRound o fs stopAt n kept started p w q
  | anchored (bound : fs.anchored = true) :
      WalkRound o fs stopAt n kept started p (.over kept true) p
  | keep {t next : Token} {more : List Token} {r q : Progress} {w : Walk}
      {asked asked' : List String}
      (ahead : p.stream.unread = t :: next :: more)
      (goesOn : (kept.isEmpty && stopAt t.text) = false)
      (reads :
        (if looksLikeFlag t.text && more.isEmpty then fs.awaitedBy o t.text else none) = none)
      (one : fs.tryOne o p = ⟨.ok false, p, asked⟩) (free : fs.anchored = false)
      (read : Step.next p = ⟨.ok t.text, r, []⟩)
      (rest : fs.walk o stopAt n (kept ++ [t]) true r = ⟨.ok w, q, asked'⟩) :
      WalkRound o fs stopAt n kept started p w q

/-- **A walk that does not break off goes on as its first round tells.** -/
theorem walkRound_of_walk {stopAt : String → Bool} {n : Nat} {kept : List Token} {started : Bool}
    {w : Walk} {asked : List String}
    (h : fs.walk o stopAt (n + 1) kept started p = ⟨.ok w, q, asked⟩) :
    fs.WalkRound o stopAt n kept started p w q := by
  rw [walk_succ] at h
  split at h
  · rename_i t next more ahead
    obtain ⟨r, hnext⟩ := Step.next_of_head? (TokenStream.head?_of_unread ahead)
    split at h
    · rename_i hstop
      cases h
      exact .stopped ahead hstop
    · rename_i hgoes
      split at h
      · rename_i param hreads
        rw [Step.bind_of_ok hnext, Report.after_nil] at h
        obtain ⟨words, m, _, _, hwords, hret, -⟩ := Step.exists_of_bind_ok h
        obtain ⟨hw, rfl, -⟩ := Report.mk.inj hret
        cases hw
        exact .value ahead hreads hnext hwords
      · rename_i hreads
        obtain ⟨found, m, _, _, htry, hmore, -⟩ := Step.exists_of_bind_ok h
        cases found with
        | true => exact .flag ahead (Bool.eq_false_iff.2 hgoes) hreads htry hmore
        | false =>
          obtain rfl := of_tryOne_false htry
          rw [if_neg Bool.false_ne_true] at hmore
          split at hmore
          · rename_i hbound
            obtain ⟨hw, rfl, -⟩ := Report.mk.inj hmore
            cases hw
            exact .anchored hbound
          · rename_i hfree
            rw [Step.bind_of_ok hnext, Report.after_nil] at hmore
            exact .keep ahead (Bool.eq_false_iff.2 hgoes) hreads htry (Bool.eq_false_iff.2 hfree)
              hnext hmore
  · cases h
    exact .ended

/-- **The walk over flags breaks off as a leaf of a value must, or goes on with words.** -/
theorem yields_walk (hW : ClosedUnderValues W) (hk : fs.CompletersReturn)
    (hf : fs.FaultsIn (Leaf.BreaksTyping o.host) W F) (stopAt : String → Bool) :
    ∀ (n : Nat) (kept : List Token) (started : Bool) (p : Progress),
      p.stream.SaysOnly W none → (∀ t ∈ kept, W t.text) →
      (Course.typing W F).Yields p (Walk.SaysOnly W) (fs.walk o stopAt n kept started p)
  | 0, kept, started, p, hp, hkept => by
    exact .of_ok id hkept _
  | n + 1, kept, started, p, hp, hkept => by
    rw [walk_succ]
    split
    · rename_i t next more hunread
      have hwords : ∀ u ∈ t :: next :: more, W u.text := fun u hu =>
        hp.words u (List.mem_of_mem_drop (hunread ▸ hu))
      have hhead := TokenStream.head?_of_unread hunread
      obtain ⟨r, hnext⟩ := Step.next_of_head? hhead
      have hr : (Course.typing W F).leads p r := fun hp =>
        hp.of_onward (Progress.unread_of_next hhead hnext).2
      split
      · refine .of_ok id (fun s hs => ?_) _
        cases hs
        exact ⟨hwords, rfl⟩
      · split
        · rename_i value hvalue
          obtain ⟨f, hflag⟩ := exists_hasValue_of_awaited hvalue
          have hcomplete := Course.governs_completeParameter (o := o) value
            (hk f hflag.mem value hflag.reads) (hf f hflag.mem value hflag.reads)
          rw [Step.bind_of_ok hnext, Report.after_nil]
          refine .back hr (Course.Yields.bind (hcomplete r) fun words s asked _ hrs => ?_)
          exact .of_ok hrs (fun s hs => nomatch hs) _
        · refine Course.Yields.bind (governs_tryOne hW hf p) fun found s asked hs hps => ?_
          cases found with
          | true => exact (yields_walk hW hk hf stopAt n kept started s (hps hp) hkept).back hps
          | false =>
            obtain rfl := of_tryOne_false hs
            rw [if_neg Bool.false_ne_true]
            split
            · exact .of_ok id hkept _
            · rw [Step.bind_of_ok hnext, Report.after_nil]
              refine (yields_walk hW hk hf stopAt n _ true r (hr hp) fun u hu => ?_).back hr
              rcases List.mem_append.1 hu with hu | hu
              · exact hkept u hu
              · obtain rfl := List.mem_singleton.1 hu
                exact hwords u List.mem_cons_self
    · exact .of_ok id hkept _

/-- **Flags complete the word being typed, or leave a stream that says only words.** -/
theorem yields_complete (hW : ClosedUnderValues W) (hk : fs.CompletersReturn)
    (hf : fs.FaultsIn (Leaf.BreaksTyping o.host) W F) (stopAt : String → Bool)
    (hp : p.stream.SaysOnly W none) :
    (Course.typing W F).Yields p (FlagCompletion.SaysOnly W) (fs.complete o stopAt p) := by
  show (Course.typing W F).Yields p _ ((Step.here >>= _) p)
  rw [Step.here_bind]
  have hwalk := yields_walk (o := o) hW hk hf stopAt p.stream.unread.length [] false p hp
    (fun _ h => absurd h List.not_mem_nil)
  refine Course.Yields.bind hwalk.1 fun walk q asked hq hpq => ?_
  have hsays : walk.SaysOnly W := hwalk.2 walk (by rw [hq])
  rcases walk with c | ⟨kept, started⟩
  · exact Course.Yields.of_ok (a := c) hpq hsays []
  · dsimp only
    rw [Step.here_bind]
    have hleft : ∀ t ∈ q.stream.unread, W t.text := fun t ht =>
      (hpq hp).words t (List.mem_of_mem_drop ht)
    obtain ⟨own, hown⟩ : ∃ own, own = if started && fs.anchored then none else
        q.stream.unread.getLast?.filter fun t =>
          Text.beginsWith "-" t.text && !isNegativeNumber t.text := ⟨_, rfl⟩
    rw [← hown]
    cases own with
    | some t =>
      obtain ⟨hmem, hdash, hnumber⟩ := of_ownWord hown.symm
      have hword := carries_completeWord (o := o) hW hk hf (hleft t hmem) hdash hnumber (p := p) q hpq
      refine Course.Yields.bind hword fun words s asked _ hps => ?_
      exact Course.Yields.of_ok hps (fun s hs => nomatch hs) []
    | none =>
      show (Course.typing W F).Yields p _ ((if fs.anchored then _ else _ : Step FlagCompletion) q)
      split
      · exact Course.Yields.of_ok hpq (fun s hs => nomatch hs) []
      · refine Course.Yields.of_ok hpq (fun s hs => ?_) []
        cases hs
        refine ⟨fun t ht => ?_, rfl⟩
        rcases List.mem_append.1 ht with ht | ht
        · exact hsays t ht
        · exact hleft t ht

end Flags

/-- The completers of all grammars of a command come to words. -/
def Command.CompletersReturn (c : Command) : Prop :=
  ∀ param, c.HasGrammar param → param.CompletersReturn

namespace CommandFrame

variable {f : CommandFrame}

/-- **The flags of a command complete a word, or break off as a leaf of a value must.** -/
theorem governs_completeFlags {cs : List Command} (hW : ClosedUnderValues W)
    (hk : ∀ fs, f.flags = some fs → fs.CompletersReturn)
    (hf : ∀ fs, f.flags = some fs → fs.FaultsIn (Leaf.BreaksTyping o.host) W F) :
    (Course.typing W F).Governs (f.completeFlags o cs) := by
  unfold completeFlags
  split
  · exact Course.governs_of_carries fun _ => Course.carries_pure _
  · rename_i fs hfs
    refine fun p => Course.allows_of_saysOnly fun hp => ?_
    have hyields := Flags.yields_complete (o := o) hW (hk fs hfs) (hf fs hfs)
      (fun t => cs.any (·.goesBy t)) hp
    rcases hc : fs.complete o (fun t => cs.any (·.goesBy t)) p with ⟨e | c, q, asked⟩
    · rw [Step.bind_of_error hc]
      exact Course.allows_error (hyields.1.leads_of_eq hc) (hyields.1.stops_of_eq hc) _
    · rw [Step.bind_of_ok hc]
      refine Course.Allows.after ?_ asked
      have hsays : c.SaysOnly W := hyields.2 c (by rw [hc])
      rcases c with ⟨_ | s, words⟩
      · exact Course.allows_ok (hyields.1.leads_of_eq hc) words []
      · exact Course.allows_ok (fun _ => hsays s rfl) words []

/-- **So do its own parameters.** -/
theorem governs_completeOwn (hk : f.parameter.CompletersReturn)
    (hf : f.parameter.FaultsIn (Leaf.BreaksTyping o.host) W F) :
    (Course.typing W F).Governs (f.completeOwn o) := by
  unfold completeOwn
  split
  · exact Course.governs_completeParameter f.parameter hk hf
  · exact Course.governs_of_carries fun _ => Course.carries_pure _

end CommandFrame

namespace Command

/-- **A child completes behind its name.** -/
theorem allows_completeIn {f : CommandFrame} {t : Token} (hhead : p.stream.head? = some t)
    (hown : (Course.typing W F).Governs (f.completeOwn o)) : ∀ cs : List Command,
    (∀ c ∈ cs, (Course.typing W F).Governs (c.complete o)) →
    (Course.typing W F).Allows p (completeIn o f t.text cs p)
  | [], _ => by
    rw [completeIn]
    exact (hown p).bind fun _ => Course.carries_pure _
  | c :: cs, h => by
    rw [completeIn]
    split
    · split
      · exact Course.allows_next_bind hhead (h c List.mem_cons_self).carries
      · exact Course.allows_ok id _ _
    · exact allows_completeIn hhead hown cs fun d hd => h d (List.mem_cons_of_mem c hd)

/-- **A command completes the word being typed, or breaks off as one of its leaves must.** -/
theorem governs_complete (hW : ClosedUnderValues W) (c : Command) (hk : c.CompletersReturn)
    (hf : c.FaultsIn (Leaf.BreaksTyping o.host) W F) :
    (Course.typing W F).Governs (c.complete o) := by
  induction c using inductionOnChildren with
  | node f cs ih =>
    have hvalues : ∀ fs, f.flags = some fs → fs.CompletersReturn :=
      fun fs hfs k hmem param hparam => hk param (.value hfs hmem hparam)
    have hflags : (Course.typing W F).Governs (f.completeFlags o cs) :=
      CommandFrame.governs_completeFlags hW hvalues fun fs hfs => hf.flags hfs
    have hown := CommandFrame.governs_completeOwn (o := o) (hk _ (.own (.node f cs))) hf.own
    have hchildren : ∀ d ∈ cs, (Course.typing W F).Governs (d.complete o) := fun d hd =>
      ih d hd (fun param hparam => hk param (.child hd hparam)) (hf.child hd)
    rw [complete]
    refine Course.governs_of_carries fun p => hflags.carries.bind fun words => ?_
    split
    · exact Course.carries_pure _
    · refine Course.carries_here_of_allows fun q _ => ?_
      dsimp only
      rcases hunread : q.stream.unread with _ | ⟨t, _ | ⟨u, more⟩⟩
      · exact (hown q).bind fun _ => Course.carries_pure _
      · exact (hown q).bind fun _ => Course.carries_pure _
      · exact allows_completeIn (TokenStream.head?_of_unread hunread) hown cs hchildren

end Command

end
end CommandGrammar
