/-
# The first flag of a line

If a flag stands at the head of a line, reading the flags of the line is reading that flag, and then
reading the flags of what it leaves (`Flags.parse_of_flag`).  This is so for anchored flags and for
free ones, as the flag does not end the flags.

What the flag does is told by its token, if its name is known:

| token | what is read |
| --- | --- |
| `--name`, `-x` | a value from the tokens that follow |
| `--name=value`, `-xvalue` | the end of the token, as a value of its own |

The token must have the form of a flag.  One that begins with two dashes has it if anything follows
them; one that begins with a single dash may be a negative number, too.
-/

import CommandGrammar.Proofs.Flags.Sifting

namespace CommandGrammar

open Text

section form

variable {token : String} {rest : List Char}

/-- **What goes on behind two dashes is no number.** -/
theorem isNegativeNumber_of_dashes (h : token.toList = '-' :: '-' :: rest) :
    isNegativeNumber token = false := by
  have hkept : ∃ more, withoutNewline ('-' :: rest) = '-' :: more := by
    unfold withoutNewline
    split
    · rename_i hlast
      cases rest with
      | nil => cases hlast
      | cons c cs => exact ⟨_, rfl⟩
    · exact ⟨rest, rfl⟩
  obtain ⟨more, hmore⟩ := hkept
  unfold isNegativeNumber
  rw [h]
  show isUnsignedNumber (withoutNewline ('-' :: rest)) = false
  rw [hmore]
  rfl

/-- **A dash and more has the form of a flag**, unless it is a number or two dashes alone. -/
theorem looksLikeFlag_of_dash {c : Char} (h : token.toList = '-' :: c :: rest)
    (hdashes : token ≠ "--") (hnumber : isNegativeNumber token = false) :
    looksLikeFlag token = true := by
  have hlength : 2 ≤ token.length := by
    rw [← String.length_toList, h]
    exact Nat.le_add_left 2 rest.length
  have hdash : beginsWith "-" token = true := by
    unfold beginsWith
    rw [h]
    rfl
  unfold looksLikeFlag
  rw [decide_eq_true hlength, hdash, bne_iff_ne.2 hdashes, hnumber]
  rfl

/-- **Two dashes with something behind them have the form of a flag.** -/
theorem looksLikeFlag_of_dashes (h : token.toList = '-' :: '-' :: rest) (hrest : rest ≠ []) :
    looksLikeFlag token = true := by
  refine looksLikeFlag_of_dash h ?_ (isNegativeNumber_of_dashes h)
  rintro rfl
  exact hrest (List.cons.inj (List.cons.inj h).2).2.symm

/-- **So has one dash with something behind it, if this is no number.** -/
theorem looksLikeFlag_of_letter {c : Char} (h : token.toList = '-' :: c :: rest) (hc : c ≠ '-')
    (hnumber : isNegativeNumber token = false) : looksLikeFlag token = true := by
  refine looksLikeFlag_of_dash h ?_ hnumber
  rintro rfl
  exact hc (List.cons.inj (List.cons.inj h).2).1.symm

end form

namespace Flags

variable {o : Occasion} {fs : Flags} {stopAt : String → Bool} {p q r : Progress} {t : Token}

section parse

/-- **Where nothing is ahead, no flag is read.** -/
theorem readOne_of_head?_none (h : p.stream.head? = none) :
    readOne o fs p = ⟨.ok false, p, []⟩ := by
  rw [readOne_eq, h]

/-- **A token that does not have the form of a flag is none.** -/
theorem readOne_of_word (hhead : p.stream.head? = some t) (looks : looksLikeFlag t.text = false) :
    readOne o fs p = ⟨.ok false, p, []⟩ := by
  rw [readOne_eq, hhead]
  dsimp only
  rw [looks, if_neg Bool.false_ne_true]

/-- **The rounds at the head of a line are as many as its flags**, if enough are counted. -/
theorem readHead_eq_of_le : ∀ (n m : Nat) (p : Progress), p.stream.unread.length ≤ n →
    p.stream.unread.length ≤ m → readHead o fs n p = readHead o fs m p
  | n, 0, p, hn, hm | 0, n, p, hm, hn => by
    have hhead : p.stream.head? = none :=
      TokenStream.head?_of_unread_nil (List.eq_nil_of_length_eq_zero (Nat.le_zero.1 hm))
    cases n with
    | zero => rfl
    | succ n =>
      unfold readHead
      rw [Step.bind_of_ok (readOne_of_head?_none hhead)]
      rfl
  | n + 1, m + 1, p, hn, hm => by
    unfold readHead
    rcases hone : readOne o fs p with ⟨e | found, q, asked⟩
    · rw [Step.bind_of_error hone, Step.bind_of_error hone]
    · rw [Step.bind_of_ok hone, Step.bind_of_ok hone]
      cases found with
      | false => rfl
      | true =>
        have hless := unread_length_of_readOne_true hone
        exact congrArg (Report.after asked) (readHead_eq_of_le n m q (by omega) (by omega))

/-- **Anchored flags are read at the head of the line.** -/
theorem parse_of_anchored_eq (anchored : fs.anchored = true) (p : Progress) :
    fs.parse o stopAt p =
      (readHead o fs p.stream.unread.length >>= fun _ => pure none) p := by
  unfold parse
  rw [Step.here_bind, anchored, if_pos rfl]

/-- **The flags of a line are its first flag and the flags of what that leaves.** -/
theorem parse_of_flag (hhead : p.stream.head? = some t)
    (goesOn : fs.anchored = false → stopAt t.text = false) {asked : List String}
    (hone : readOne o fs p = ⟨.ok true, q, asked⟩) :
    fs.parse o stopAt p = (fs.parse o stopAt q).after asked := by
  have hless := unread_length_of_readOne_true hone
  cases hanchored : fs.anchored with
  | true =>
    obtain ⟨n, hn⟩ : ∃ n, p.stream.unread.length = n + 1 := Nat.exists_eq_add_one.2 (by omega)
    have hhead : readHead o fs (n + 1) p =
        (readHead o fs q.stream.unread.length q).after asked := by
      rw [← readHead_eq_of_le n _ q (by omega) (Nat.le_refl _)]
      exact Step.bind_of_ok hone _
    rw [parse_of_anchored_eq hanchored, parse_of_anchored_eq hanchored, hn, Step.bind_apply,
      Step.bind_apply, hhead]
    rcases readHead o fs q.stream.unread.length q with ⟨e | u, m, more⟩
    · rfl
    · exact congrArg (Report.mk _ _) (List.append_assoc asked more [])
  | false =>
    have hon := (of_readOne_true hone).1
    have hrest := rounds_readAnywhere o fs stopAt _ [] q (Nat.le_refl _)
    have hall : fs.Rounds o stopAt [] p _ := .flag hhead (goesOn hanchored) hone hrest
    rw [parse_of_free hanchored o stopAt hall, parse_of_free hanchored o stopAt hrest, hon.raw,
      hon.pending]
    rfl

/-- **If the first flag cannot be read, the flags cannot.** -/
theorem parse_of_flag_error (hhead : p.stream.head? = some t)
    (goesOn : fs.anchored = false → stopAt t.text = false) {e : Stop} {asked : List String}
    (hone : readOne o fs p = ⟨.error e, q, asked⟩) :
    fs.parse o stopAt p = ⟨.error e, q, asked⟩ := by
  cases hanchored : fs.anchored with
  | true =>
    obtain ⟨more, hunread⟩ := TokenStream.unread_of_head? hhead
    have hfirst : readHead o fs (more.length + 1) p = ⟨.error e, q, asked⟩ :=
      Step.bind_of_error hone _
    rw [parse_of_anchored_eq hanchored, hunread, List.length_cons, Step.bind_of_error hfirst]
  | false =>
    have hall : fs.Rounds o stopAt [] p _ := .failed hhead (goesOn hanchored) hone
    rw [parse_of_free hanchored o stopAt hall]
    rfl

/-- **The flags of a line are its first token and the flags of what that leaves**, if the token
is not left itself. -/
theorem parse_of_found (hhead : p.stream.head? = some t)
    (goesOn : fs.anchored = false → stopAt t.text = false)
    (found : ∀ b q asked, readOne o fs p = ⟨.ok b, q, asked⟩ → b = true) :
    fs.parse o stopAt p = (readOne o fs >>= fun _ => fs.parse o stopAt) p := by
  rw [Step.bind_apply]
  rcases hread : readOne o fs p with ⟨e | b, q, asked⟩
  · rw [parse_of_flag_error hhead goesOn hread]
  · obtain rfl := found b q asked hread
    rw [parse_of_flag hhead goesOn hread]

end parse

/-- The word names the flag: by its long name or by a letter, and with a value that is attached to
it if there is one. -/
inductive Names (fs : Flags) (f : Flag) : String → Option String → Prop
  | long {name : String} (long : fs.long? name = some f) (typed : '=' ∉ name.toList)
      (named : name ≠ "") : Names fs f ("--" ++ name) none
  | longValue {name : String} (long : fs.long? name = some f) (typed : '=' ∉ name.toList)
      (v : String) : Names fs f ("--" ++ name ++ "=" ++ v) (some v)
  | letter {letter : Char} (short : fs.short? letter = some f) (typed : letter ≠ '-')
      (number : isNegativeNumber ("-" ++ letter.toString) = false) :
      Names fs f ("-" ++ letter.toString) none
  | letterValue {letter : Char} (short : fs.short? letter = some f) (typed : letter ≠ '-')
      {v : String} (number : isNegativeNumber ("-" ++ letter.toString ++ v) = false) :
      Names fs f ("-" ++ letter.toString ++ v) (some v)

section words

variable {f : Flag} {param : Parameter}

/-- **What has the form of a flag is read by its name or by its letters.** -/
theorem readOne_of_looks (hhead : p.stream.head? = some t) (hlooks : looksLikeFlag t.text = true)
    (hnext : Step.next p = ⟨.ok t.text, r, []⟩) :
    readOne o fs p = (if beginsWith "--" t.text then readLong o fs t p
      else readLetters o fs t p 0 (t.text.toList.drop 1)) r := by
  rw [readOne_eq, hhead]
  dsimp only
  rw [if_pos hlooks, Step.bind_of_ok hnext, Report.after_nil]

/-- **A flag that the source may use is usable.** -/
theorem usable_of_mayUse (mayUse : f.mayUse o.source = true) : usable o (some f) = some f := by
  unfold usable
  rw [Option.filter_some, if_pos mayUse]

/-- **Two dashes in front make a name.** -/
theorem beginsWith_dashes {text : String} {rest : List Char}
    (h : text.toList = '-' :: '-' :: rest) : beginsWith "--" text = true := by
  unfold beginsWith
  rw [h]
  rfl

/-- **One dash in front makes letters.** -/
theorem beginsWith_dash {text : String} {c : Char} {rest : List Char}
    (h : text.toList = '-' :: c :: rest) (hc : c ≠ '-') : beginsWith "--" text = false := by
  unfold beginsWith
  rw [h]
  simp [List.isPrefixOf, hc.symm]

/-- **The name of a long flag ends at the `=`**, or with the word. -/
theorem name_append {name rest : List Char} (typed : '=' ∉ name)
    (hrest : rest.head?.all (· == '=') = true) :
    (name ++ rest).takeWhile (· != '=') = name ∧ (name ++ rest).dropWhile (· != '=') = rest := by
  have hname : ∀ c ∈ name, (c != '=') = true := fun c hc =>
    bne_iff_ne.2 fun heq => typed (heq ▸ hc)
  rw [List.takeWhile_append_of_pos hname, List.dropWhile_append_of_pos hname]
  cases rest with
  | nil => exact ⟨List.append_nil name, rfl⟩
  | cons c rest =>
    obtain rfl : c = '=' := beq_iff_eq.1 hrest
    exact ⟨List.append_nil name, rfl⟩

section

variable (mayUse : f.mayUse o.source = true) (reads : f.parameter? = some param)
  (hhead : p.stream.head? = some t) (hnext : Step.next p = ⟨.ok t.text, r, []⟩)

include mayUse reads hhead hnext

/-- **A word that only names a flag is followed by the value.** -/
theorem Names.readOne_behind (names : fs.Names f t.text none) :
    readOne o fs p = (param.parse o >>= fun _ => pure true) r := by
  have huse := usable_of_mayUse mayUse
  generalize hword : t.text = word at names
  cases names with
  | @long name long typed named =>
    have hlist : t.text.toList = '-' :: '-' :: name.toList := by rw [hword]; simp
    obtain ⟨hname, hrest⟩ :=
      name_append typed (show ([] : List Char).head?.all (· == '=') = true from rfl)
    rw [List.append_nil] at hname hrest
    rw [readOne_of_looks hhead (looksLikeFlag_of_dashes hlist (by simpa using named)) hnext,
      if_pos (beginsWith_dashes hlist)]
    unfold readLong
    simp only [hlist, List.drop_succ_cons, List.drop_zero, hname, hrest, String.ofList_toList, long,
      huse, reads, List.tail?_nil]
  | @letter letter short typed number =>
    have hlist : t.text.toList = ['-', letter] := by rw [hword]; simp
    have hlooks := looksLikeFlag_of_letter hlist typed (hword ▸ number)
    rw [readOne_of_looks hhead hlooks hnext, beginsWith_dash hlist typed,
      if_neg Bool.false_ne_true, hlist, List.drop_succ_cons, List.drop_zero]
    unfold readLetters
    simp only [short, huse, reads, List.isEmpty_nil, if_true]

/-- **A word with a value at its end gives the value to the flag.** -/
theorem Names.exists_readOne_attached {v : String} (names : fs.Names f t.text (some v))
    (value : v ≠ "") : ∃ index, t.text.toList.drop index = v.toList ∧
      readOne o fs p =
        (readAttached o f param (t.valueFrom p.stream.raw index) >>= fun _ => pure true) r := by
  have huse := usable_of_mayUse mayUse
  generalize hword : t.text = word at names
  cases names with
  | @longValue name long typed =>
    have hlist : t.text.toList = '-' :: '-' :: (name.toList ++ '=' :: v.toList) := by
      rw [hword]
      simp
    obtain ⟨hname, hrest⟩ :=
      name_append typed (show ('=' :: v.toList).head?.all (· == '=') = true from rfl)
    have hdrop : t.text.toList.drop (3 + name.length) = v.toList := by
      rw [hlist, ← String.length_toList, Nat.add_comm, List.drop_succ_cons, List.drop_succ_cons,
        ← List.drop_drop, List.drop_left]
      rfl
    refine ⟨3 + name.length, by rw [← hdrop, hword], ?_⟩
    rw [readOne_of_looks hhead (looksLikeFlag_of_dashes hlist (by simp)) hnext,
      if_pos (beginsWith_dashes hlist), Token.valueFrom, hdrop]
    unfold readLong
    simp only [hlist, List.drop_succ_cons, List.drop_zero, hname, hrest, String.ofList_toList, long,
      huse, reads, List.tail?_cons]
  | @letterValue letter short typed _ number =>
    have hlist : t.text.toList = '-' :: letter :: v.toList := by rw [hword]; simp
    have hlooks := looksLikeFlag_of_letter hlist typed (hword ▸ number)
    have hdrop : t.text.toList.drop 2 = v.toList := by rw [hlist]; rfl
    have hsome : v.toList.isEmpty = false := by simpa using value
    refine ⟨2, by rw [← hdrop, hword], ?_⟩
    rw [readOne_of_looks hhead hlooks hnext, beginsWith_dash hlist typed,
      if_neg Bool.false_ne_true, Token.valueFrom, hdrop, hlist, List.drop_succ_cons, List.drop_zero]
    unfold readLetters
    simp only [short, huse, reads, hsome, Bool.false_eq_true, if_false]

end

end words

end Flags
end CommandGrammar
