/-
# Unknown names among flags

A token that looks like a flag may have names that are unknown: no flag has them, or the source may
not use the flag that has.  A long token has one name; in a bundle of letters the names end where
the first flag takes a value.  The set of flags says what becomes of such names, for long tokens and
for letters apart:

| policy | the token |
| --- | --- |
| `drop` | is read as what is left of it without them (`Flags.alike_of_unknown_dropped`) |
| `keep` | is kept as it is, and binds nothing (`Flags.parse_of_unknown_kept`) |
| `mark` | binds `true` under each of them, besides what it does with `drop` |

What is left of a bundle is a token of its own, in a line that is shorter; so the lines are compared
up to the offsets in their errors.
-/

import CommandGrammar.Proofs.Flags.Bundles

namespace CommandGrammar

open Text

namespace Flags

section definitions

variable (o : Occasion) (fs : Flags)

/-- What becomes of the unknown names of a token. -/
def unknownPolicy (token : String) : UnknownFlagPolicy :=
  if beginsWith "--" token then fs.unknownLong else fs.unknownShort

/-- The name of a long flag: what stands behind the dashes, up to an `=`. -/
def longName (token : String) : String :=
  String.ofList ((token.toList.drop 2).takeWhile (· != '='))

/-- The unknown ones of the letters that are names. -/
def unknownLetters : List Char → List Char
  | [] => []
  | letter :: rest =>
    match usable o (fs.short? letter) with
    | none => letter :: unknownLetters rest
    | some f => if f.takesValue then [] else unknownLetters rest

/-- The letters without the unknown ones; the value of a flag stays as it is. -/
def knownLetters : List Char → List Char
  | [] => []
  | letter :: rest =>
    match usable o (fs.short? letter) with
    | none => knownLetters rest
    | some f => if f.takesValue then letter :: rest else letter :: knownLetters rest

/-- The flag of the letters that takes the rest of them for its value, and that value. -/
def attached? : List Char → Option (Char × List Char)
  | [] => none
  | letter :: rest =>
    match usable o (fs.short? letter) with
    | none => attached? rest
    | some f =>
      if f.takesValue then if rest.isEmpty then none else some (letter, rest) else attached? rest

/-- The unknown names of a token that looks like a flag. -/
def unknownNames (token : String) : List String :=
  if beginsWith "--" token then
    if (usable o (fs.long? (longName token))).isNone then [longName token] else []
  else (unknownLetters o fs (token.toList.drop 1)).map Char.toString

/-- The words that are left of a token without its unknown names: one, or none. -/
def leftOf (token : String) : List String :=
  if beginsWith "--" token then
    if (usable o (fs.long? (longName token))).isNone then [] else [token]
  else
    match knownLetters o fs (token.toList.drop 1) with
    | [] => []
    | letters => [String.ofList ('-' :: letters)]

/-- If the letters of the token `t` end with a value that may be taken as it was typed, the line of
`t` goes on from this value as the line of `u` does from its end. -/
def SaidAlike (raw : String) (t : Token) (raw' : String) (u : Token) : Prop :=
  ∀ letter v, attached? o fs (t.text.toList.drop 1) = some (letter, v) → fs.TakesLine letter →
    lineFrom raw t v.length = lineFrom raw' u v.length

end definitions

variable {o : Occasion} {fs : Flags} {t u : Token} {before before' p q r : Progress}

section letters

variable {letter : Char} {letters rest : List Char} {index : Nat} {f : Flag} {param : Parameter}

/-- **A flag without a parameter takes no value.** -/
theorem takesValue_of_none (reads : f.parameter? = none) : f.takesValue = false := by
  rw [Flag.takesValue, reads]
  rfl

/-- **A flag with a parameter takes one.** -/
theorem takesValue_of_some (reads : f.parameter? = some param) : f.takesValue = true := by
  rw [Flag.takesValue, reads]
  rfl

/-- **An unknown letter is left to its policy.** -/
theorem readLetters_unknown (unknown : usable o (fs.short? letter) = none) :
    readLetters o fs t before index (letter :: rest) =
      (fs.unknownShort.handle letter.toString t before >>= fun found =>
        if found then readLetters o fs t before (index + 1) rest else pure false) := by
  rw [readLetters, unknown]

/-- **A dropped letter is passed over.** -/
theorem readLetters_dropped (drops : fs.unknownShort = .drop)
    (unknown : usable o (fs.short? letter) = none) :
    readLetters o fs t before index (letter :: rest) =
      readLetters o fs t before (index + 1) rest := by
  rw [readLetters_unknown unknown, drops]
  funext p
  have hdrop : UnknownFlagPolicy.handle letter.toString t before .drop p = ⟨.ok true, p, []⟩ := rfl
  rw [Step.bind_of_ok hdrop, if_pos rfl, Report.after_nil]

/-- **Letters are read**, if unknown ones are not kept and none of them fails. -/
theorem found_of_readLetters (reads : fs.unknownShort ≠ .keep) :
    ∀ {letters : List Char} {index : Nat} {p q : Progress} {b : Bool} {asked : List String},
      readLetters o fs t before index letters p = ⟨.ok b, q, asked⟩ → b = true
  | [], index, p, q, b, asked, h => by
    cases h
    rfl
  | letter :: rest, index, p, q, b, asked, h => by
    cases known : usable o (fs.short? letter) with
    | none =>
      rw [readLetters_unknown known] at h
      obtain ⟨found, m, _, _, hhandle, hmore, -⟩ := Step.exists_of_bind_ok h
      cases found with
      | true => exact found_of_readLetters reads hmore
      | false =>
        cases hpolicy : fs.unknownShort with
        | keep => exact absurd hpolicy reads
        | refuse => rw [hpolicy] at hhandle; cases hhandle
        | drop => rw [hpolicy] at hhandle; cases hhandle
        | mark => rw [hpolicy] at hhandle; cases hhandle
    | some f =>
      cases hparam : f.parameter? with
      | none =>
        rw [readLetters_switch known hparam] at h
        obtain ⟨_, _, _, _, -, hmore, -⟩ := Step.exists_of_bind_ok h
        exact found_of_readLetters reads hmore
      | some param =>
        by_cases hrest : rest = []
        · subst hrest
          rw [readLetters_last known hparam] at h
          obtain ⟨_, _, _, _, -, hpure, -⟩ := Step.exists_of_bind_ok h
          cases hpure
          rfl
        · rw [readLetters_attached known hparam hrest] at h
          obtain ⟨_, _, _, _, -, hpure, -⟩ := Step.exists_of_bind_ok h
          cases hpure
          rfl

/-- **Letters with an unknown one are left as they were**, if unknown ones are kept. -/
theorem readLetters_kept (keeps : fs.unknownShort = .keep) : ∀ {letters : List Char} {index : Nat}
    (p : Progress), unknownLetters o fs letters ≠ [] →
      readLetters o fs t before index letters p = ⟨.ok false, before, []⟩
  | [], index, p, h => absurd rfl h
  | letter :: rest, index, p, h => by
    cases known : usable o (fs.short? letter) with
    | none =>
      rw [readLetters_unknown known, keeps]
      rfl
    | some f =>
      unfold unknownLetters at h
      rw [known] at h
      cases hparam : f.parameter? with
      | none =>
        dsimp only at h
        rw [takesValue_of_none hparam, if_neg Bool.false_ne_true] at h
        have hmark : Step.mark f.key p = ⟨.ok (), ⟨p.stream, p.context.mark f.key⟩, []⟩ := rfl
        rw [readLetters_switch known hparam, Step.bind_of_ok hmark,
          readLetters_kept keeps _ h]
        rfl
      | some param =>
        dsimp only at h
        rw [takesValue_of_some hparam, if_pos rfl] at h
        exact absurd rfl h

/-- **Letters that are all unknown are passed over**, if they are dropped. -/
theorem readLetters_of_none_known (drops : fs.unknownShort = .drop) :
    ∀ {letters : List Char} {index : Nat} (p : Progress), knownLetters o fs letters = [] →
      readLetters o fs t before index letters p = ⟨.ok true, p, []⟩
  | [], index, p, h => rfl
  | letter :: rest, index, p, h => by
    unfold knownLetters at h
    cases known : usable o (fs.short? letter) with
    | none =>
      rw [known] at h
      rw [readLetters_dropped drops known]
      exact readLetters_of_none_known drops p h
    | some f =>
      rw [known] at h
      dsimp only at h
      split at h
      · cases h
      · cases h

end letters

section lines

variable {front front' : String} {stream s s' : TokenStream}

/-- **Letters without the unknown ones are read as all of them**, if unknown ones are dropped; so
is what follows. -/
theorem alike_of_letters_dropped (drops : fs.unknownShort = .drop) (hs : stream.Follows front [] s)
    (hs' : stream.Follows front' [] s') (ht : t.start < s.raw.length) (hu : u.start < s'.raw.length)
    (hraw : before.stream.raw = s.raw) (hraw' : before'.stream.raw = s'.raw) :
    ∀ {letters : List Char} {index index' : Nat} {c : Context},
      t.text.toList.drop (index + 1) = letters →
      u.text.toList.drop (index' + 1) = knownLetters o fs letters →
      (∀ letter v, attached? o fs letters = some (letter, v) → fs.TakesLine letter →
        lineFrom s.raw t v.length = lineFrom s'.raw u v.length) →
      ParsedAlike
        ((readLetters o fs t before index letters >>= fun _ => fs.parse o (fun _ => false)) ⟨s, c⟩)
        ((readLetters o fs u before' index' (knownLetters o fs letters) >>= fun _ =>
          fs.parse o (fun _ => false)) ⟨s', c⟩)
  | [], index, index', c, _, _, _ => alike_parse _ hs.moved hs'.moved c
  | letter :: rest, index, index', c, hletters, hleft, said => by
    have hrest : t.text.toList.drop (index + 1 + 1) = rest := by
      rw [← List.tail_drop, hletters, List.tail_cons]
    unfold knownLetters at hleft ⊢
    unfold attached? at said
    cases known : usable o (fs.short? letter) with
    | none =>
      rw [known] at hleft said
      rw [readLetters_dropped drops known]
      exact alike_of_letters_dropped drops hs hs' ht hu hraw hraw' hrest hleft said
    | some f =>
      rw [known] at hleft said
      dsimp only at hleft said ⊢
      cases reads : f.parameter? with
      | none =>
        rw [takesValue_of_none reads, if_neg Bool.false_ne_true] at hleft said ⊢
        have hmark : ∀ s : TokenStream,
            Step.mark f.key ⟨s, c⟩ = ⟨.ok (), ⟨s, c.mark f.key⟩, []⟩ := fun _ => rfl
        have hmore : u.text.toList.drop (index' + 1 + 1) = knownLetters o fs rest := by
          rw [← List.tail_drop, hleft, List.tail_cons]
        rw [readLetters_switch known reads, readLetters_switch known reads,
          bind_bind_of_ok (hmark s), bind_bind_of_ok (hmark s'), Report.after_nil, Report.after_nil]
        exact alike_of_letters_dropped drops hs hs' ht hu hraw hraw' hrest hmore said
      | some param =>
        rw [takesValue_of_some reads, if_pos rfl] at hleft said ⊢
        refine alike_value known reads hs hs' ht hu hraw hraw' hletters hleft (fun hne htakes => ?_) c
        refine said letter rest ?_ htakes
        rw [if_neg (mt List.isEmpty_iff.1 hne)]

end lines

/-- **An unknown name of a long token is its only one.** -/
theorem usable_of_unknownNames {token : String} (hlong : beginsWith "--" token = true)
    (unknown : fs.unknownNames o token ≠ []) : usable o (fs.long? (longName token)) = none := by
  unfold unknownNames at unknown
  rw [if_pos hlong] at unknown
  cases h : usable o (fs.long? (longName token)) with
  | none => rfl
  | some f =>
    rw [h] at unknown
    exact absurd rfl unknown

section token

variable (hhead : p.stream.head? = some t) (hlooks : looksLikeFlag t.text = true)
  (hnext : Step.next p = ⟨.ok t.text, r, []⟩)

include hhead hlooks hnext

/-- **What has one dash is read by its letters.** -/
theorem readOne_of_short (hshort : beginsWith "--" t.text = false) :
    readOne o fs p = readLetters o fs t p 0 (t.text.toList.drop 1) r := by
  rw [readOne_of_looks hhead hlooks hnext, hshort, if_neg Bool.false_ne_true]

/-- **A long flag with an unknown name is left to its policy.** -/
theorem readOne_of_unknown_long (hlong : beginsWith "--" t.text = true)
    (unknown : usable o (fs.long? (longName t.text)) = none) :
    readOne o fs p = fs.unknownLong.handle (longName t.text) t p r := by
  rw [longName] at unknown
  rw [readOne_of_looks hhead hlooks hnext, if_pos hlong]
  unfold readLong
  dsimp only
  rw [unknown]
  rfl

/-- **A token with unknown names is left as it was**, if such tokens are kept. -/
theorem readOne_of_unknown_kept (unknown : fs.unknownNames o t.text ≠ [])
    (keeps : fs.unknownPolicy t.text = .keep) : readOne o fs p = ⟨.ok false, p, []⟩ := by
  unfold unknownPolicy at keeps
  cases hlong : beginsWith "--" t.text with
  | true =>
    rw [if_pos hlong] at keeps
    have hnone := usable_of_unknownNames hlong unknown
    rw [readOne_of_unknown_long hhead hlooks hnext hlong hnone, keeps]
    rfl
  | false =>
    unfold unknownNames at unknown
    rw [hlong, if_neg Bool.false_ne_true] at unknown keeps
    rw [readOne_of_short hhead hlooks hnext hlong]
    refine readLetters_kept keeps r fun h => unknown ?_
    rw [h]
    rfl

end token

section

variable {m m' : Progress} {kept : List Token} {ts : List Token} {front front' : String}
  {stream : TokenStream}

/-- **A short token is read as the token of its known letters**, if the unknown ones are dropped; so
is what follows. -/
theorem alike_of_short_dropped {s s' : TokenStream} {u : Token} (drops : fs.unknownShort = .drop)
    (looks : looksLikeFlag t.text = true) (short : beginsWith "--" t.text = false)
    (looks' : looksLikeFlag u.text = true) (short' : beginsWith "--" u.text = false)
    (left : u.text.toList.drop 1 = fs.knownLetters o (t.text.toList.drop 1))
    (ahead : stream.Follows front [t] s) (ahead' : stream.Follows front' [u] s')
    (said : fs.SaidAlike o s.raw t s'.raw u) (c : Context) :
    ParsedAlike (fs.parse o (fun _ => false) ⟨s, c⟩) (fs.parse o (fun _ => false) ⟨s', c⟩) := by
  obtain ⟨r, hnext, hline, hbehind⟩ := ahead.next c
  obtain ⟨r', hnext', hline', hbehind'⟩ := ahead'.next c
  have hone : readOne o fs ⟨s, c⟩ = _ := readOne_of_short ahead.head? looks hnext short
  have hone' : readOne o fs ⟨s', c⟩ = _ := readOne_of_short ahead'.head? looks' hnext' short'
  have hpolicy : fs.unknownShort ≠ .keep := by
    rw [drops]
    decide
  have hfound : ∀ b q asked, readOne o fs ⟨s, c⟩ = ⟨.ok b, q, asked⟩ → b = true :=
    fun b q asked h => found_of_readLetters hpolicy (hone ▸ h)
  have hfound' : ∀ b q asked, readOne o fs ⟨s', c⟩ = ⟨.ok b, q, asked⟩ → b = true :=
    fun b q asked h => found_of_readLetters hpolicy (hone' ▸ h)
  have ht : t.start < r.raw.length := by
    rw [hline]
    exact ahead.begins t List.mem_cons_self
  have hu : u.start < r'.raw.length := by
    rw [hline']
    exact ahead'.begins u List.mem_cons_self
  rw [← hline, ← hline'] at said
  have hraw : (Progress.mk s c).stream.raw = r.raw := hline.symm
  have hraw' : (Progress.mk s' c).stream.raw = r'.raw := hline'.symm
  have halike := alike_of_letters_dropped (c := c) drops hbehind hbehind' ht hu hraw hraw'
    (show t.text.toList.drop (0 + 1) = t.text.toList.drop 1 from rfl) left said
  rw [Step.bind_apply, Step.bind_apply, ← left] at halike
  rw [parse_of_found ahead.head? (fun _ => rfl) hfound,
    parse_of_found ahead'.head? (fun _ => rfl) hfound',
    Step.bind_apply, Step.bind_apply, hone, hone']
  exact halike

/-- **A token is read as what is left of it without its unknown names**, if they are dropped; so is
what follows. -/
theorem alike_of_unknown_dropped (hlooks : looksLikeFlag t.text = true)
    (unknown : fs.unknownNames o t.text ≠ []) (drops : fs.unknownPolicy t.text = .drop)
    (left : Token.texts ts = fs.leftOf o t.text)
    (starts : ∀ w ∈ fs.leftOf o t.text, ∀ letter ∈ w.toList[1]?, startsFlag letter = true)
    (ahead : stream.Follows front [t] m.stream) (ahead' : stream.Follows front' ts m'.stream)
    (sameContext : m'.context = m.context)
    (said : ∀ u ∈ ts, fs.SaidAlike o m.stream.raw t m'.stream.raw u) :
    ParsedAlike (fs.parse o (fun _ => false) m) (fs.parse o (fun _ => false) m') := by
  obtain ⟨s, c⟩ := m
  obtain ⟨s', c'⟩ := m'
  obtain rfl : c' = c := sameContext
  obtain ⟨s₁, hnext, hline, hbehind⟩ := ahead.next c'
  have hgone : ts = [] → readOne o fs ⟨s, c'⟩ = ⟨.ok true, ⟨s₁, c'⟩, []⟩ →
      ParsedAlike (fs.parse o (fun _ => false) ⟨s, c'⟩) (fs.parse o (fun _ => false) ⟨s', c'⟩) := by
    rintro rfl hone
    rw [parse_of_flag ahead.head? (fun _ => rfl) hone]
    exact alike_parse _ hbehind.moved ahead'.moved c'
  unfold unknownPolicy at drops
  unfold leftOf at left starts
  -- Of a long name nothing is left; of a bundle, the letters that are known.
  cases hlong : beginsWith "--" t.text with
  | true =>
    rw [if_pos hlong] at drops left
    have hnone := usable_of_unknownNames hlong unknown
    rw [hnone, Option.isNone_none, if_pos rfl] at left
    refine hgone (List.map_eq_nil_iff.1 left) ?_
    rw [readOne_of_unknown_long ahead.head? hlooks hnext hlong hnone, drops]
    rfl
  | false =>
    rw [hlong, if_neg Bool.false_ne_true] at drops left starts
    cases hknown : fs.knownLetters o (t.text.toList.drop 1) with
    | nil =>
      rw [hknown] at left
      refine hgone (List.map_eq_nil_iff.1 left) ?_
      rw [readOne_of_short ahead.head? hlooks hnext hlong]
      exact readLetters_of_none_known drops _ hknown
    | cons letter rest =>
      rw [hknown] at left starts
      obtain ⟨u, rfl, hword⟩ := List.map_eq_singleton_iff.1 left
      have htext : u.text.toList = '-' :: letter :: rest := by rw [hword, String.toList_ofList]
      obtain ⟨hlooks', hshort'⟩ := short_of_letter htext (starts _ List.mem_cons_self letter (by simp))
      have hletters : u.text.toList.drop 1 = fs.knownLetters o (t.text.toList.drop 1) := by
        rw [hknown, htext]
        rfl
      exact alike_of_short_dropped drops hlooks hlong hlooks' hshort' hletters ahead ahead'
        (said u List.mem_cons_self) c'

/-- **A kept token stands before what the flags behind it leave**, and has bound nothing. -/
theorem parse_of_unknown_kept (free : fs.anchored = false) (comes : fs.Comes o p kept m)
    (hhead : m.stream.head? = some t) (hone : readOne o fs m = ⟨.ok false, m, []⟩) :
    ∃ q asked, Step.next m = ⟨.ok t.text, q, []⟩ ∧ q.context = m.context ∧
      fs.parse o (fun _ => false) p =
        ((fs.parse o (fun _ => false) q).keeping (kept ++ [t])).after asked := by
  obtain ⟨q, hnext⟩ := Step.next_of_head? hhead
  obtain ⟨asked, hline⟩ := exists_parse_of_comes comes
  refine ⟨q, asked, hnext, Progress.context_of_next hnext, ?_⟩
  rw [hline, parse_of_kept free hhead hone hnext, Report.after_nil, keeping_keeping]

end

end Flags
end CommandGrammar
