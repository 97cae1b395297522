/-
# What breaks a line off

A parse breaks off only at a leaf, and only with what that leaf makes of a word of the line.  So the
words of a line (`IsWordOf`) and the leaves of a command (`Command.HasLeaf`) bound what may happen,
whatever grammar, flags, policies and executors stand around the leaf.

The words of a line are its tokens; the end of a token that has the form of a flag counts as well,
for it may be the value of that flag.
-/

import CommandGrammar.Proofs.Dispatch.Confining
import CommandGrammar.Proofs.Flags.Sifting

namespace CommandGrammar

/-- Whether a text is one of the tokens, or the end of one that has the form of a flag. -/
def IsWordOf (tokens : List Token) (word : String) : Prop :=
  ∃ t ∈ tokens, t.text = word ∨ looksLikeFlag t.text = true ∧ word.toList <:+ t.text.toList

namespace Command

/-- A grammar that a command, or a command below it, reads arguments or the values of flags by. -/
inductive HasGrammar : Command → Parameter → Prop
  | own (c : Command) : HasGrammar c c.frame.parameter
  | value {c : Command} {fs : Flags} {f : Flag} {param : Parameter}
      (flags : c.frame.flags = some fs) (mem : f ∈ fs.flags)
      (reads : f.parameter? = some param) : HasGrammar c param
  | child {c d : Command} {param : Parameter} (mem : d ∈ c.children) (has : HasGrammar d param) :
      HasGrammar c param

/-- A leaf of a grammar of a command. -/
def HasLeaf (c : Command) (l : Leaf) : Prop := ∃ param f, c.HasGrammar param ∧ param.Has (.leaf f l)

/-- **A leaf of a child is a leaf of the command.** -/
theorem HasLeaf.child {c d : Command} {l : Leaf} (h : d.HasLeaf l) (hd : d ∈ c.children) :
    c.HasLeaf l := by
  obtain ⟨param, f, hparam, hleaf⟩ := h
  exact ⟨param, f, .child hd hparam, hleaf⟩

end Command

/-- Every token of the stream is a word, and `ending` stands at its end. -/
structure TokenStream.SaysOnly (W : String → Prop) (ending : Option ParseError) (s : TokenStream) :
    Prop where
  words : ∀ t ∈ s.tokens, W t.text
  pending : s.pending = ending

section

variable {W : String → Prop} {ending : Option ParseError} {F : Breakdown → Prop} {o : Occasion}
  {p q r : Progress}

/-- **Reading on leaves the words as they are.** -/
theorem TokenStream.SaysOnly.of_onward (h : p.stream.SaysOnly W ending) (hpq : p.Onward q) :
    q.stream.SaysOnly W ending :=
  ⟨by rw [hpq.tokens]; exact h.words, by rw [hpq.pending]; exact h.pending⟩

/-- **The token ahead is a word.** -/
theorem TokenStream.SaysOnly.head {s : TokenStream} {t : Token} (h : s.SaysOnly W ending)
    (ht : s.head? = some t) : W t.text := h.words t (List.mem_of_getElem? ht)

/-- The course of a parse that reads only words, and breaks off only for a reason in `F`. -/
def ParseCourse.words (W : String → Prop) (ending : Option ParseError) (F : Breakdown → Prop) :
    ParseCourse where
  leads p q := p.stream.SaysOnly W ending → q.stream.SaysOnly W ending
  stops p e := p.stream.SaysOnly W ending → ∀ b, e = .broken b → F b
  binds _ _ := True
  refl _ := id
  trans h h' hp := h' (h hp)
  back h he hp := he (h hp)
  next p h hp := hp.of_onward (p.onward_next h)
  put p key v _ hp := hp.of_onward (p.onward_put key v)
  atEnd _ _ _ _ hb := nomatch hb
  fails _ _ _ _ hb := nomatch hb
  reworded _ _ _ _ hb := nomatch hb

/-- A leaf breaks off with `b` when it reads the word. -/
def Leaf.BreaksReading (h : Host) (l : Leaf) (word : String) (b : Breakdown) : Prop :=
  l.fault? h word = some b

/-- The leaves of a grammar break off at words, as `Breaks` tells, only for a reason in `F`. -/
def Parameter.FaultsIn (Breaks : Leaf → String → Breakdown → Prop) (W : String → Prop)
    (F : Breakdown → Prop) (param : Parameter) : Prop :=
  ∀ f l, param.Has (.leaf f l) → ∀ w b, W w → Breaks l w b → F b

/-- The grammars of the values of flags do. -/
def Flags.FaultsIn (Breaks : Leaf → String → Breakdown → Prop) (W : String → Prop)
    (F : Breakdown → Prop) (fs : Flags) : Prop :=
  ∀ f ∈ fs.flags, ∀ param, f.parameter? = some param → param.FaultsIn Breaks W F

/-- All grammars of a command do. -/
def Command.FaultsIn (Breaks : Leaf → String → Breakdown → Prop) (W : String → Prop)
    (F : Breakdown → Prop) (c : Command) : Prop :=
  ∀ l, c.HasLeaf l → ∀ w b, W w → Breaks l w b → F b

namespace Command

variable {Breaks : Leaf → String → Breakdown → Prop} {c : Command}

/-- **The parameter of a command has the faults of the command.** -/
theorem FaultsIn.own (h : c.FaultsIn Breaks W F) : c.frame.parameter.FaultsIn Breaks W F :=
  fun f l hl => h l ⟨c.frame.parameter, f, .own c, hl⟩

/-- **So have its flags.** -/
theorem FaultsIn.flags (h : c.FaultsIn Breaks W F) {fs : Flags} (hfs : c.frame.flags = some fs) :
    fs.FaultsIn Breaks W F :=
  fun _ hk param hparam f l hl => h l ⟨param, f, .value hfs hk hparam, hl⟩

/-- **So have its children.** -/
theorem FaultsIn.child (h : c.FaultsIn Breaks W F) {d : Command} (hd : d ∈ c.children) :
    d.FaultsIn Breaks W F := fun l hl => h l (hl.child hd)

end Command

/-- **The words cover a grammar if its leaves break off at words only for a reason in `F`.** -/
theorem ParseCourse.covers_words {param : Parameter}
    (h : param.FaultsIn (Leaf.BreaksReading o.host) W F) :
    (ParseCourse.words W ending F).Covers o param := by
  refine ParseCourse.covers_of_binds (fun _ _ => trivial) ?_
  intro f l hl q t b ht hfault hq c hc
  cases hc
  exact h f l hl t.text b (hq.head ht) hfault

/-- **So the grammar keeps to the words.** -/
theorem ParseCourse.governs_words {param : Parameter} (ending : Option ParseError)
    (h : param.FaultsIn (Leaf.BreaksReading o.host) W F) :
    (ParseCourse.words W ending F).Governs (param.parse o) :=
  ParseCourse.governs_parse (ParseCourse.covers_words h)

/-- The end of a word that has the form of a flag is a word. -/
def ClosedUnderValues (W : String → Prop) : Prop :=
  ∀ w v : String, W w → looksLikeFlag w = true → v.toList <:+ w.toList → W v

/-- **The value attached to a flag of a line is a word of the line.** -/
theorem closedUnderValues_isWordOf (tokens : List Token) : ClosedUnderValues (IsWordOf tokens) := by
  rintro w v ⟨t, ht, rfl | ⟨hlooks, hw⟩⟩ hflag hv
  · exact ⟨t, ht, .inr ⟨hflag, hv⟩⟩
  · exact ⟨t, ht, .inr ⟨hlooks, hv.trans hw⟩⟩

namespace Flags

variable {fs : Flags}

/-- **The value attached to a flag keeps to the words if it is one.** -/
theorem allows_readAttached {f : Flag} {param : Parameter} {v : Token}
    (h : param.FaultsIn (Leaf.BreaksReading o.host) W F)
    (hp : p.stream.SaysOnly W ending) (hv : W v.text) :
    (ParseCourse.words W ending F).Allows p (readAttached o f param v p) := by
  have hinner := governs_readWhole (ParseCourse.governs_words (o := o) none h) f
  -- Inside, the value is the whole line; outside, the stream stays where it is.
  have hvalue : ∀ raw, (TokenStream.ofTokens raw [v] none).SaysOnly W none := by
    refine fun raw => ⟨fun t ht => ?_, rfl⟩
    obtain rfl := List.mem_singleton.1 ht
    exact hv
  exact ⟨fun _ => hp, fun e he _ => (hinner _).2 e he (hvalue _)⟩

/-- **A flag keeps to the words.** -/
theorem governs_readOne (ending : Option ParseError) (hW : ClosedUnderValues W)
    (h : fs.FaultsIn (Leaf.BreaksReading o.host) W F) :
    (ParseCourse.words W ending F).Governs (readOne o fs) := fun p => by
  rcases reading_of_readOne o fs p with hfalse | ⟨t, r, hhead, hlooks, hnext, hread⟩
  · rw [hfalse]
    exact Course.allows_ok id _ _
  · have hr : (ParseCourse.words W ending F).leads p r := fun hp =>
      hp.of_onward (Progress.unread_of_next hhead hnext).2
    generalize readOne o fs p = x at hread ⊢
    cases hread with
    | marked keys => exact Course.allows_ok hr true []
    | unfit keys problem =>
      refine Course.allows_error hr ?_ []
      intro _ b hb
      cases hb
    | @value keys f param flag =>
      have hparam := ParseCourse.governs_words (o := o) ending
        (h f flag.mem param flag.reads)
      exact (hparam.carries.bind fun _ => Course.carries_pure true) _ hr
    | @attached keys f param flag index inside =>
      have hread : p.stream.SaysOnly W ending →
          (ParseCourse.words W ending F).Allows (r.markAll keys)
            ((readAttached o f param (t.valueFrom r.stream.raw index) >>= fun _ => pure true)
              (r.markAll keys)) := fun hp => by
        have hv : W (t.valueFrom r.stream.raw index).text :=
          hW _ _ (hp.head hhead) hlooks (t.valueFrom_suffix _ index)
        have hvalue := allows_readAttached (o := o) (f := f) (h f flag.mem param flag.reads)
          (p := r.markAll keys) (hr hp) hv
        exact hvalue.bind fun _ => Course.carries_pure true
      exact ⟨fun hp => (hread hp).1 (hr hp), fun e he hp => (hread hp).2 e he (hr hp)⟩

/-- **So does the reading of all flags.** -/
theorem governs_parse_words (ending : Option ParseError) (hW : ClosedUnderValues W)
    (h : fs.FaultsIn (Leaf.BreaksReading o.host) W F) (stopAt : String → Bool) :
    (ParseCourse.words W ending F).Governs (fs.parse o stopAt) :=
  governs_parse (governs_readOne ending hW h) (fun _ hp => ⟨hp.words, hp.pending⟩) stopAt

end Flags

/-- An attempt that reads only words, and breaks off only for a reason in `F`. -/
def Attempt.Keeps {α : Type} (W : String → Prop) (ending : Option ParseError)
    (F : Breakdown → Prop) (s : Attempt α) : Prop :=
  ∀ p, p.stream.SaysOnly W ending → (s p).progress.stream.SaysOnly W ending ∧
    ∀ b, (s p).result = .error (.broken b) → F b

namespace Attempt

/-- The failure is no breakdown but for a reason in `F`. -/
def BreaksIn (F : Breakdown → Prop) (e : CommandFailure) : Prop := ∀ b, e = .broken b → F b

/-- **A failure that is not of the line is no breakdown.** -/
theorem breaksIn_of_other {e : CommandFailure} (h : e.isOfLine = false) : BreaksIn F e := by
  rintro b rfl
  cases h

/-- **Keeping to the words is being confined to them.** -/
theorem keeps_iff_confined {α : Type} {s : Attempt α} :
    s.Keeps W ending F ↔ s.Confined (TokenStream.SaysOnly W ending) (BreaksIn F) := by
  refine forall_congr' fun p => imp_congr_right fun _ => and_congr_right fun _ => ?_
  exact ⟨fun h e he b hb => h b (hb ▸ he), fun h b hb => h _ hb b rfl⟩

/-- **A step that keeps to the words is confined to them.** -/
theorem confined_words {α : Type} (s : Step α) (h : (ParseCourse.words W ending F).Governs s) :
    (ofStep s).Confined (TokenStream.SaysOnly W ending) (BreaksIn F) := by
  refine confined_ofStep fun p hp => ⟨(h p).1 hp, fun e he b hb => ?_⟩
  cases e with
  | failed e => cases hb
  | broken b' =>
    cases hb
    exact (h p).2 _ he hp b rfl

end Attempt

/-- **The flags of a command leave a stream that says only words.** -/
theorem CommandFrame.confined_readFlags_words {f : CommandFrame} {cs : List Command}
    (hW : ClosedUnderValues W)
    (h : ∀ fs, f.flags = some fs → fs.FaultsIn (Leaf.BreaksReading o.host) W F) :
    (f.readFlags o cs).Confined (TokenStream.SaysOnly W ending) (Attempt.BreaksIn F) := by
  unfold readFlags
  split
  · exact Attempt.confined_pure ()
  · rename_i fs hfs
    refine Attempt.confined_words _ fun p => ?_
    have hparse := Flags.governs_parse_words (o := o) ending hW (h fs hfs)
      fun t => cs.any (·.goesBy t)
    rcases hp : fs.parse o (fun t => cs.any (·.goesBy t)) p with ⟨e | s?, q, asked⟩
    · rw [Step.bind_of_error hp]
      have := hparse p
      rw [hp] at this
      exact Course.allows_error this.1 (this.2 e rfl) asked
    · rw [Step.bind_of_ok hp]
      refine Course.Allows.after ?_ asked
      cases s? with
      | none => exact Course.allows_ok ((hparse p).leads_of_eq hp) () []
      | some s =>
        obtain ⟨taken, kept, rfl, hsift⟩ := Flags.sifts_of_parse hp
        refine Course.allows_ok (fun hsays => ⟨fun t ht => ?_, hsays.pending⟩) () []
        exact hsays.words t (List.mem_of_mem_drop (hsift.sublist.subset ht))

/-- **The own arguments of a command do.** -/
theorem CommandFrame.confined_parseOwn_words {f : CommandFrame}
    (h : f.parameter.FaultsIn (Leaf.BreaksReading o.host) W F) :
    (f.parseOwn o).Confined (TokenStream.SaysOnly W ending) (Attempt.BreaksIn F) :=
  confined_parseOwn (ParseCourse.governs_words ending h) Attempt.confined_words

namespace Command

/-- **A command somewhere below has the faults of the command on top.** -/
theorem FaultsIn.has {Breaks : Leaf → String → Breakdown → Prop} {c d : Command}
    (h : c.FaultsIn Breaks W F) (hd : c.Has d) : d.FaultsIn Breaks W F := by
  induction hd with
  | self => exact h
  | child mem _ ih => exact ih (h.child mem)

/-- **Running a line keeps to the words**, if the leaves of the command break off at words only for
a reason in `F`. -/
theorem keeps_dispatch (hW : ClosedUnderValues W) (c : Command)
    (h : c.FaultsIn (Leaf.BreaksReading o.host) W F) : (dispatch o c).Keeps W ending F :=
  Attempt.keeps_iff_confined.2 (confined_dispatch c {
    problem := fun _ _ _ _ hb => nomatch hb
    other := fun _ he => Attempt.breaksIn_of_other he
    name := Attempt.confined_words _ (Course.governs_of_carries fun _ => ParseCourse.carries_next)
    flags := fun _ hd => CommandFrame.confined_readFlags_words hW fun _ hfs => (h.has hd).flags hfs
    own := fun _ hd => CommandFrame.confined_parseOwn_words (h.has hd).own })

end Command

end

end CommandGrammar
