/-
# Every name of a flag is recognised

What names a flag may have is said where it is defined, and what has the form of a flag is said
where a line is read, each without the other.  They fit together but for one kind of name: a name
that is a single digit looks like a negative number with its dash, and numbers are no flags.

| name | typed | recognised by |
| --- | --- | --- |
| one character, no digit | `-x` | its letter |
| a digit | `-5` | nothing: it is a number |
| longer | `--name` | the text up to a `=`, of which it has none |

So a flag can be given by every other name, alone or followed by its value
(`Flags.every_name_is_recognised`): the flag does what it is for, which no later flag undoes, and
its token is not among those that the arguments are read from.  This holds of anchored flags and of
free ones, as calls can make a set either.
-/

import CommandGrammar.Host.Usual
import CommandGrammar.Proofs.Flags.Switches
import CommandGrammar.Proofs.Registers.FlagNames
import CommandGrammar.Proofs.Steps.Footprint

namespace CommandGrammar

open Text

/-- The course of a parse that only adds to the context. -/
def ParseCourse.growing : ParseCourse where
  leads p q := p.context.Grows (fun _ => True) q.context
  stops _ _ := True
  binds _ _ := True
  refl p := .refl _ p.context
  trans h h' := h.trans h'
  back _ _ := trivial
  next p _ := .refl _ p.context
  put p _ v _ := Context.grows_put trivial v p.context
  atEnd _ _ := trivial
  fails _ _ := trivial
  reworded _ _ := trivial

/-- **A dash and one character are a number exactly if the character is a digit.** -/
theorem isNegativeNumber_lone (c : Char) :
    isNegativeNumber ("-" ++ c.toString) = isDecimalDigit c := by
  have htoken : ("-" ++ c.toString).toList = ['-', c] := by simp
  have hnewline : isDecimalDigit '\n' = false := by decide +kernel
  have hpoint : isDecimalDigit '.' = false := by decide +kernel
  unfold isNegativeNumber
  rw [htoken]
  by_cases hc : c = '\n'
  · subst hc
    rw [hnewline]
    rfl
  · have hkept : withoutNewline [c] = [c] := by simp [withoutNewline, hc]
    show isUnsignedNumber (withoutNewline [c]) = _
    rw [hkept]
    cases hdigit : isDecimalDigit c with
    | true => simp [isUnsignedNumber, hdigit]
    | false =>
      by_cases hp : c = '.'
      · subst hp
        decide +kernel
      · simp [isUnsignedNumber, hdigit, hp]

namespace Flag

/-- Whether a name is a single digit. -/
def isDigitName (n : String) : Bool :=
  match n.toList with
  | [c] => isDecimalDigit c
  | _ => false

/-- What a flag does when its name stands alone: a switch marks its key, and any other flag reads
the value that follows. -/
def take (o : Occasion) (f : Flag) : Step Unit :=
  match f.parameter? with
  | none => Step.mark f.key
  | some param => param.parse o

/-- **A short name is one character.** -/
theorem exists_letter {n : String} (h : isShort n = true) : ∃ c : Char, n = c.toString := by
  have hlength : n.toList.length = 1 := by
    rw [String.length_toList]
    simpa [isShort] using h
  obtain ⟨c, hc⟩ := List.length_eq_one_iff.1 hlength
  exact ⟨c, String.toList_inj.1 (by simp [hc])⟩

/-- **A name of one character is a digit if the character is.** -/
theorem isDigitName_letter (c : Char) : isDigitName c.toString = isDecimalDigit c := by
  simp [isDigitName]

end Flag

namespace Flags

variable {o : Occasion} {fs : Flags} {stopAt : String → Bool} {p q r m : Progress} {t : Token}
  {f : Flag} {n : String} {s? : Option TokenStream} {asked : List String}

/-- **A name in a set without ambiguity names its flag**, if it is no digit. -/
theorem Unambiguous.names (h : fs.Unambiguous) (hf : f ∈ fs.flags) (hn : n ∈ f.names)
    (hdigit : Flag.isDigitName n = false) : fs.Names f (Flag.dashed n) none := by
  obtain ⟨hname, hhead⟩ := h.typable f hf n hn
  rw [isName, Bool.and_eq_true, Bool.not_eq_true', List.all_eq_true] at hname
  cases hshort : Flag.isShort n with
  | true =>
    obtain ⟨c, rfl⟩ := Flag.exists_letter hshort
    have hletter : fs.short? c = some f :=
      (h.short_leads hf (Flag.mem_shorts.2 ⟨hn, hshort⟩)).1 c rfl
    have hdash : c ≠ '-' := by simpa using hhead
    rw [Flag.isDigitName_letter] at hdigit
    rw [Flag.dashed, if_pos hshort]
    exact .letter hletter hdash (isNegativeNumber_lone c ▸ hdigit)
  | false =>
    have hlong : fs.long? n = some f := (h.long_leads hf (Flag.mem_longs.2 ⟨hn, hshort⟩) rfl).1
    have hplain : '=' ∉ n.toList := fun hmem => by
      have hgood := hname.2 '=' hmem
      simp at hgood
    have hsome : n ≠ "" := by simpa using hname.1
    rw [Flag.dashed, hshort, if_neg Bool.false_ne_true]
    exact .long hlong hplain hsome

/-- **A digit with its dash is no flag.** -/
theorem looksLikeFlag_of_digit (hdigit : Flag.isDigitName n = true) :
    looksLikeFlag (Flag.dashed n) = false := by
  have hshort : Flag.isShort n = true := by
    unfold Flag.isDigitName at hdigit
    split at hdigit
    · rename_i c hc
      rw [Flag.isShort, ← String.length_toList, hc]
      rfl
    · cases hdigit
  obtain ⟨c, rfl⟩ := Flag.exists_letter hshort
  rw [Flag.isDigitName_letter] at hdigit
  rw [Flag.dashed, if_pos hshort]
  exact looksLikeFlag_of_isNegativeNumber ((isNegativeNumber_lone c).trans hdigit)

/-- **A word that only names a flag lets the flag do what it is for.** -/
theorem Names.readOne_alone (mayUse : f.mayUse o.source = true) (hhead : p.stream.head? = some t)
    (hnext : Step.next p = ⟨.ok t.text, r, []⟩) (names : fs.Names f t.text none) :
    readOne o fs p = (f.take o >>= fun _ => pure true) r := by
  have huse := usable_of_mayUse mayUse
  unfold Flag.take
  cases hparam : f.parameter? with
  | some param => exact names.readOne_behind mayUse hparam hhead hnext
  | none =>
    generalize hword : t.text = word at names
    cases names with
    | @long name long typed named =>
      have hlist : t.text.toList = '-' :: '-' :: name.toList := by rw [hword]; simp
      have hbody : dropped 2 t.text = name := by simp [dropped, hlist]
      have hplain : '=' ∉ t.text.toList := by simp [hlist, typed]
      have known : usable o (fs.long? (dropped 2 t.text)) = some f := by rw [hbody, long, huse]
      rw [readOne_of_looks hhead (looksLikeFlag_of_dashes hlist (by simpa using named)) hnext,
        if_pos (beginsWith_dashes hlist)]
      exact readLong_switch hplain known hparam
    | @letter letter short typed number =>
      have hlist : t.text.toList = ['-', letter] := by rw [hword]; simp
      have hlooks := looksLikeFlag_of_letter hlist typed (hword ▸ number)
      have known : usable o (fs.short? letter) = some f := by rw [short, huse]
      rw [readOne_of_looks hhead hlooks hnext, beginsWith_dash hlist typed,
        if_neg Bool.false_ne_true, hlist, List.drop_succ_cons, List.drop_zero,
        readLetters_switch known hparam]
      rfl

/-- The tokens that the arguments are read from, if flags have ended at `m` and given `s?`. -/
def leftover (s? : Option TokenStream) (m : Progress) : List Token := (s?.getD m.stream).unread

/-- **Flags add to the context, and leave only tokens of the line.** -/
theorem grows_of_parse (h : fs.parse o stopAt p = ⟨.ok s?, m, asked⟩) :
    p.context.Grows (fun _ => True) m.context ∧
      (leftover s? m).Sublist p.stream.unread := by
  constructor
  · have hone : ParseCourse.growing.Governs (readOne o fs) :=
      governs_readOne_of_binds (fun _ _ => trivial) (fun _ _ => trivial) fun hcontext => by
        show Context.Grows _ _ _
        rw [hcontext]
        exact .refl _ _
    have hall := (governs_parse hone (fun p => .refl _ p.context) stopAt) p
    exact hall.leads_of_eq h
  · have hsifts := sifts_of_parse h
    cases s? with
    | none =>
      obtain ⟨-, taken, hsift⟩ := hsifts
      exact hsift.sublist
    | some s =>
      obtain ⟨taken, kept, rfl, hsift⟩ := hsifts
      exact hsift.sublist

/-- **Where nothing is left, flags come to an end at once.** -/
theorem parse_of_nothing (o : Occasion) (fs : Flags) (stopAt : String → Bool)
    (h : p.stream.unread = []) :
    ∃ s?, fs.parse o stopAt p = ⟨.ok s?, p, []⟩ ∧ leftover s? p = [] := by
  cases hanchored : fs.anchored with
  | true =>
    refine ⟨none, ?_, h⟩
    rw [parse_of_anchored_eq hanchored, h]
    rfl
  | false =>
    have hrounds : fs.Rounds o stopAt [] p ⟨.ok [], p, []⟩ :=
      .ended (TokenStream.head?_of_unread_nil h)
    exact ⟨_, parse_of_free hanchored o stopAt hrounds, rfl⟩

/-- The flag `f` is recognised in the token `t` at `p`, and what it is for has led to `q`. -/
structure Recognised (o : Occasion) (fs : Flags) (stopAt : String → Bool) (t : Token)
    (p q : Progress) (asked : List String) : Prop where
  /-- The flags go on from where the flag ends. -/
  goesOn : fs.parse o stopAt p = (fs.parse o stopAt q).after asked
  /-- The token and what the flag has read are passed. -/
  passed : ∃ values, p.stream.unread = t :: (values ++ q.stream.unread)
  /-- In the end, what the flag has bound is bound, and nothing that is passed is left. -/
  kept : ∀ s? m asked, fs.parse o stopAt p = ⟨.ok s?, m, asked⟩ →
    q.context.Grows (fun _ => True) m.context ∧ (leftover s? m).Sublist q.stream.unread
  /-- If nothing follows, this is the end. -/
  ends : q.stream.unread = [] →
    ∃ s?, fs.parse o stopAt p = ⟨.ok s?, q, asked⟩ ∧ leftover s? q = []

/-- **A flag that is read is recognised.** -/
theorem recognised_of_readOne (hhead : p.stream.head? = some t)
    (goesOn : fs.anchored = false → stopAt t.text = false)
    (hone : readOne o fs p = ⟨.ok true, q, asked⟩) :
    fs.Recognised o stopAt t p q asked := by
  have hline := parse_of_flag hhead goesOn hone
  refine ⟨hline, ?_, fun s? m xs hend => ?_, fun hnothing => ?_⟩
  · obtain ⟨-, u, values, hunread, -⟩ := of_readOne_true hone
    obtain ⟨more, hmore⟩ := TokenStream.unread_of_head? hhead
    obtain rfl : t = u := (List.cons.inj (hmore.symm.trans hunread)).1
    exact ⟨values, hunread⟩
  · rw [hline] at hend
    obtain ⟨hresult, hprogress, -⟩ := Report.mk.inj hend
    exact grows_of_parse (congrArg₂ (Report.mk · · _) hresult hprogress)
  · obtain ⟨s?, hparse, hleft⟩ := parse_of_nothing o fs stopAt hnothing
    refine ⟨s?, ?_, hleft⟩
    rw [hline, hparse]
    exact congrArg (Report.mk _ _) (List.append_nil asked)

/-- **Every name of a flag is recognised**, but for digits.  Whatever calls have made a set of
flags, and whichever of its flags a source may use: if a name of the flag stands ahead with its
dashes, the flag marks its key or reads its value, and is recognised wherever that succeeds.  A name
that is a digit is a number with its dash, and is left. -/
theorem every_name_is_recognised (s : Settings) (calls : List FlagCall) (o : Occasion)
    (stopAt : String → Bool) (hf : f ∈ (defined s calls).made.flags) (hn : n ∈ f.names)
    (mayUse : f.mayUse o.source = true) (hhead : p.stream.head? = some t)
    (typed : t.text = Flag.dashed n)
    (goesOn : (defined s calls).made.anchored = false → stopAt t.text = false) :
    let fs := (defined s calls).made
    (Flag.isDigitName n = true → readOne o fs p = ⟨.ok false, p, []⟩) ∧
    (Flag.isDigitName n = false → ∃ r, Step.next p = ⟨.ok t.text, r, []⟩ ∧
      (f.parameter? = none → fs.Recognised o stopAt t p (r.markAll [f.key]) [] ∧
        (r.markAll [f.key]).context.has f.key = true) ∧
      ∀ param, f.parameter? = some param → ∀ q asked, param.parse o r = ⟨.ok (), q, asked⟩ →
        fs.Recognised o stopAt t p q asked) := by
  intro fs
  have hall : fs.Unambiguous := (unambiguous_defined s calls).2
  constructor
  · intro hdigit
    exact readOne_of_word hhead (typed ▸ looksLikeFlag_of_digit hdigit)
  · intro hdigit
    obtain ⟨r, hnext⟩ := Step.next_of_head? hhead
    have hnames : fs.Names f t.text none := typed ▸ hall.names hf hn hdigit
    have hone := hnames.readOne_alone mayUse hhead hnext
    have htakes : ∀ q asked, f.take o r = ⟨.ok (), q, asked⟩ →
        fs.Recognised o stopAt t p q asked := by
      intro q asked htake
      refine recognised_of_readOne hhead goesOn ?_
      rw [hone, Step.bind_of_ok htake]
      exact congrArg (Report.mk _ _) (List.append_nil asked)
    refine ⟨r, hnext, fun hswitch => ⟨htakes _ _ ?_, ?_⟩, fun param hparam q asked hread => ?_⟩
    · unfold Flag.take
      rw [hswitch]
      rfl
    · exact Context.has_mark r.context f.key
    · refine htakes q asked ?_
      unfold Flag.take
      rwa [hparam]

/-- **A name in a line is recognised with its value**: `--Note hi` binds `hi`, and nothing is
left. -/
theorem long_name_is_recognised :
    let o : Occasion := ⟨.bare "tester", ⟨2024, 5, 31, 12, 34, 56, 789012, none⟩, .usual⟩
    let note : Parameter := .leaf { key := "note" } .text
    let calls : List FlagCall := [.valued (.finished note) [.fitting "n", .fitting "--Note"]]
    let fs := (defined {} calls).made
    let p : Progress := .ofStream (.ofLine .spaced "--Note hi")
    fs.flags = [⟨"n", ["Note"], .valued note⟩] ∧ Flag.isDigitName "Note" = false ∧
      ∃ s? q, fs.parse o (fun _ => false) p = ⟨.ok s?, q, []⟩ ∧ leftover s? q = [] ∧
        q.context.entries = [("note", [.text "hi"])] := by
  intro o note calls fs p
  have hflags : fs.flags = [⟨"n", ["Note"], .valued note⟩] := rfl
  have hdigit : Flag.isDigitName "Note" = false := by decide
  have hhead : p.stream.head? = some ⟨"--Note", 0, 6⟩ := rfl
  have hname : "Note" ∈ Flag.names ⟨"n", ["Note"], .valued note⟩ := by decide
  obtain ⟨r, hnext, -, hreads⟩ := (every_name_is_recognised {} calls o (fun _ => false)
    (hflags ▸ List.mem_cons_self) hname rfl hhead (by decide) fun _ => rfl).2 hdigit
  obtain rfl : (Step.next p).progress = r := congrArg Report.progress hnext
  have hread : note.parse o (Step.next p).progress = _ := rfl
  obtain ⟨s?, hparse, hleft⟩ := (hreads note rfl _ _ hread).ends rfl
  exact ⟨hflags, hdigit, s?, _, hparse, hleft, rfl⟩

/-- **A name that is a digit is accepted, and is not recognised**: `-5` is left as it is. -/
theorem digit_is_not_recognised :
    let o : Occasion := ⟨.bare "tester", ⟨2024, 5, 31, 12, 34, 56, 789012, none⟩, .usual⟩
    let fs := (defined {} [.switch none [.fitting "5"]]).made
    let p : Progress := .ofStream (.ofLine .spaced "-5")
    fs.flags = [⟨"5", [], .switch none⟩] ∧ Flag.mayUse ⟨"5", [], .switch none⟩ o.source = true ∧
      p.stream.unread.map Token.text = [Flag.dashed "5"] ∧
      ∃ s? q, fs.parse o (fun _ => false) p = ⟨.ok s?, q, []⟩ ∧
        (leftover s? q).map Token.text = ["-5"] ∧ q.context.has "5" = false :=
  ⟨rfl, rfl, by decide, _, _, rfl, by decide, by decide⟩

end Flags
end CommandGrammar
