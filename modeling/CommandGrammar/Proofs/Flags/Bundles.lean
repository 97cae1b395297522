/-
# Bundles of short flags

Short flags may be typed in one token, and such a bundle means the same flags one by one
(`Flags.bundle_is_read_as_letters`).  The first of them that takes a value ends the bundle: what is
left of the token is its value, or the tokens that follow if nothing is left.

| bundle | apart |
| --- | --- |
| `-ab` | `-a -b` |
| `-abred`, if `b` takes a value | `-a -bred` |
| `-ab red`, if `b` takes a value | `-a -b red` |

A line with the letters apart is longer than the one with the bundle, so the two are compared up to
the offsets in their errors.  There is one exception, a leaf that takes a line as it was typed: it
looks for the place of the value in the line, and a bundle that is typed with quotes does not show
that place (`Flags.quoted_bundle_is_not_read_as_letters`).
-/

import CommandGrammar.Host.Usual
import CommandGrammar.Proofs.Flags.Keeping
import CommandGrammar.Proofs.Moving.Tails

namespace CommandGrammar

open Text

/-- A letter that makes a short flag behind a dash: what follows it in its token makes neither a
number nor a long flag of it. -/
def startsFlag (c : Char) : Bool := c != '-' && c != '.' && !isDecimalDigit c

/-- **What begins with a letter is no number.** -/
theorem isUnsignedNumber_of_letter {c : Char} (hc : startsFlag c = true) (rest : List Char) :
    isUnsignedNumber (c :: rest) = false := by
  obtain ⟨⟨-, hpoint⟩, hdigit⟩ : (c ≠ '-' ∧ c ≠ '.') ∧ isDecimalDigit c = false := by
    simpa [startsFlag] using hc
  unfold isUnsignedNumber
  simp [hdigit, hpoint]

section looks

variable {token : String} {c : Char} {rest : List Char} (h : token.toList = '-' :: c :: rest)
  (hc : startsFlag c = true)

include h hc

/-- **A dash and such a letter begin no number.** -/
theorem isNegativeNumber_of_letter : isNegativeNumber token = false := by
  have hnone : isUnsignedNumber [] = false := by decide
  unfold isNegativeNumber
  rw [h]
  show isUnsignedNumber (withoutNewline (c :: rest)) = false
  unfold withoutNewline
  split
  · cases rest with
    | nil => exact hnone
    | cons d more => exact isUnsignedNumber_of_letter hc _
  · exact isUnsignedNumber_of_letter hc _

/-- **A dash and such a letter have the form of a short flag**, whatever follows them. -/
theorem short_of_letter : looksLikeFlag token = true ∧ beginsWith "--" token = false := by
  have hdash : c ≠ '-' := by
    rintro rfl
    exact absurd hc (by decide)
  exact ⟨looksLikeFlag_of_letter h hdash (isNegativeNumber_of_letter h hc),
    Flags.beginsWith_dash h hdash⟩

end looks

namespace Flags

variable {o : Occasion} {fs : Flags}

/-- `fs.Bundle o letters words`: up to the first that takes a value, the letters are of flags that
the source may use, and apart they are typed as the words. -/
inductive Bundle (o : Occasion) (fs : Flags) : List Char → List String → Prop
  | nil : Bundle o fs [] []
  | switch {letter : Char} {rest : List Char} {words : List String} {f : Flag}
      (starts : startsFlag letter = true) (known : usable o (fs.short? letter) = some f)
      (reads : f.parameter? = none) (more : Bundle o fs rest words) :
      Bundle o fs (letter :: rest) (String.ofList ['-', letter] :: words)
  /-- The rest of the letters is the value; if there is none, the value follows. -/
  | value {letter : Char} {rest : List Char} {f : Flag} {param : Parameter}
      (starts : startsFlag letter = true) (known : usable o (fs.short? letter) = some f)
      (reads : f.parameter? = some param) :
      Bundle o fs (letter :: rest) [String.ofList ('-' :: letter :: rest)]

/-- **Letters of flags that the source may use are a bundle.** -/
theorem exists_bundle : ∀ {letters : List Char}, (∀ c ∈ letters, startsFlag c = true ∧
    ∃ f, fs.short? c = some f ∧ f.mayUse o.source = true) → ∃ words, fs.Bundle o letters words
  | [], _ => ⟨[], .nil⟩
  | c :: rest, h => by
    obtain ⟨starts, f, short, mayUse⟩ := h c List.mem_cons_self
    have known : usable o (fs.short? c) = some f := by
      rw [short]
      exact usable_of_mayUse mayUse
    cases reads : f.parameter? with
    | some param => exact ⟨_, .value starts known reads⟩
    | none =>
      obtain ⟨words, more⟩ := exists_bundle fun d hd => h d (List.mem_cons_of_mem c hd)
      exact ⟨_, .switch starts known reads more⟩

section readLetters

variable {t : Token} {before p q r : Progress} {letter : Char} {letters rest : List Char}
  {words : List String} {index : Nat} {f : Flag} {param : Parameter}

/-- **A letter of a switch marks it, and the next letter follows.** -/
theorem readLetters_switch (known : usable o (fs.short? letter) = some f)
    (reads : f.parameter? = none) :
    readLetters o fs t before index (letter :: rest) =
      (Step.mark f.key >>= fun _ => readLetters o fs t before (index + 1) rest) := by
  rw [readLetters, known]
  dsimp only
  rw [reads]

/-- **The last letter of a bundle takes its value from the next tokens.** -/
theorem readLetters_last (known : usable o (fs.short? letter) = some f)
    (reads : f.parameter? = some param) :
    readLetters o fs t before index [letter] = (param.parse o >>= fun _ => pure true) := by
  rw [readLetters, known]
  dsimp only
  rw [reads]
  rfl

/-- **Any other letter with a value takes the rest of the bundle.** -/
theorem readLetters_attached (known : usable o (fs.short? letter) = some f)
    (reads : f.parameter? = some param) (hrest : rest ≠ []) :
    readLetters o fs t before index (letter :: rest) =
      (readAttached o f param ⟨String.ofList rest, offsetOf before.stream.raw t (2 + index), t.stop⟩
        >>= fun _ => pure true) := by
  rw [readLetters, known]
  dsimp only
  rw [reads]
  dsimp only
  rw [if_neg (mt List.isEmpty_iff.1 hrest)]

/-- **The letters of a bundle are read**, if none of them fails. -/
theorem Bundle.found (h : fs.Bundle o letters words) : ∀ {index : Nat} {p q : Progress} {b : Bool}
    {asked : List String}, readLetters o fs t before index letters p = ⟨.ok b, q, asked⟩ →
      b = true := by
  induction h with
  | nil =>
    intro index p q b asked hread
    cases hread
    rfl
  | switch _ known reads _ ih =>
    intro index p q b asked hread
    rw [readLetters_switch known reads] at hread
    obtain ⟨_, _, _, _, -, hmore, -⟩ := Step.exists_of_bind_ok hread
    exact ih hmore
  | @value letter rest f param _ known reads =>
    intro index p q b asked hread
    by_cases hrest : rest = []
    · subst hrest
      rw [readLetters_last known reads] at hread
      obtain ⟨_, _, _, _, -, hpure, -⟩ := Step.exists_of_bind_ok hread
      cases hpure
      rfl
    · rw [readLetters_attached known reads hrest] at hread
      obtain ⟨_, _, _, _, -, hpure, -⟩ := Step.exists_of_bind_ok hread
      cases hpure
      rfl

/-- **The flags of a line that begins with a bundle are its letters, and then the flags of what they
leave.** -/
theorem parse_of_letters (h : fs.Bundle o (letter :: rest) words)
    (starts : startsFlag letter = true) (hhead : p.stream.head? = some t)
    (htext : t.text.toList = '-' :: letter :: rest)
    (hnext : Step.next p = ⟨.ok t.text, r, []⟩) :
    fs.parse o (fun _ => false) p =
      (readLetters o fs t p 0 (letter :: rest) >>= fun _ => fs.parse o (fun _ => false)) r := by
  obtain ⟨hlooks, hshort⟩ := short_of_letter htext starts
  have hone : readOne o fs p = readLetters o fs t p 0 (letter :: rest) r := by
    rw [readOne_of_looks hhead hlooks hnext, hshort, if_neg Bool.false_ne_true, htext]
    rfl
  rw [parse_of_found hhead (fun _ => rfl) fun b q asked hread => h.found (hone ▸ hread),
    Step.bind_apply, Step.bind_apply, hone]

end readLetters

/-- What a line says from the last `n` characters of a token on. -/
def lineFrom (raw : String) (t : Token) (n : Nat) : String :=
  dropped (offsetOf raw t (t.text.length - n)) raw

/-- A flag of the letter may take the line as it was typed for its value. -/
def TakesLine (fs : Flags) (letter : Char) : Prop :=
  ∃ f param g, fs.short? letter = some f ∧ f.parameter? = some param ∧
    param.Has (.leaf g .restRaw)

/-- If the last of the tokens `ts` has a value at its end that may be taken as it was typed, the
line of the token `t` goes on from this value as the line of `ts` does. -/
def TypedAlike (fs : Flags) (raw : String) (t : Token) (raw' : String) (ts : List Token) : Prop :=
  ∀ u ∈ ts.getLast?, ∀ letter v, u.text.toList = '-' :: letter :: v → v ≠ [] →
    fs.TakesLine letter → lineFrom raw t v.length = lineFrom raw' u v.length

section bind

variable {α β γ : Type} {step : Step α} {p q : Progress} {asked : List String}

/-- **A step that succeeds leads to what is done next.** -/
theorem bind_bind_of_ok {a : α} (h : step p = ⟨.ok a, q, asked⟩) (next : α → Step β)
    (last : β → Step γ) :
    ((step >>= next) >>= last) p = ((next a >>= last) q).after asked := by
  rw [Step.bind_apply, Step.bind_of_ok h, Step.bind_apply]
  rcases next a q with ⟨e | b, r, more⟩
  · rfl
  · exact congrArg (Report.mk _ _) (List.append_assoc _ _ _)

/-- **A step that fails ends what is done next.** -/
theorem bind_bind_of_error {e : Stop} (h : step p = ⟨.error e, q, asked⟩) (next : α → Step β)
    (last : β → Step γ) : ((step >>= next) >>= last) p = ⟨.error e, q, asked⟩ := by
  rw [Step.bind_of_error (Step.bind_of_error h next) last]

end bind

section asTyped

variable {raw raw' : String} {t u : Token} {ts : List Token} {letters : List Char}
  {words : List String}

/-- The token stands in its line as it says. -/
structure Literal (raw : String) (t : Token) : Prop where
  slice_eq : slice raw t.start t.stop = t.text
  order : t.start ≤ t.stop

/-- **From a place inside a token that is typed as it is, the line goes on with the rest of the
token and what follows it.** -/
theorem lineFrom_of_literal (h : Literal raw t) (n : Nat) :
    lineFrom raw t n =
      String.ofList (t.text.toList.drop (t.text.length - n)) ++ dropped t.stop raw := by
  have hsays := congrArg String.toList h.slice_eq
  rw [slice, String.toList_ofList] at hsays
  have hbehind : (raw.toList.drop t.stop).drop (t.start - (raw.toList.take t.stop).length) =
      raw.toList.drop t.stop := by
    rw [List.length_take, List.drop_drop]
    rcases Nat.le_total t.stop raw.toList.length with hle | hle
    · rw [Nat.min_eq_left hle, Nat.sub_eq_zero_of_le h.order, Nat.add_zero]
    · rw [List.drop_eq_nil_of_le hle, List.drop_eq_nil_of_le (by omega)]
  have hline := congrArg (List.drop t.start) (List.take_append_drop t.stop raw.toList)
  rw [List.drop_append, hsays, hbehind] at hline
  have hinside : t.text.length - n ≤ t.text.toList.length := by
    rw [String.length_toList]
    exact Nat.sub_le _ _
  unfold lineFrom offsetOf
  dsimp only
  rw [if_pos h.slice_eq, dropped, ← List.drop_drop, ← hline, List.drop_append_of_le_length hinside,
    dropped, String.ofList_append]

/-- **The value at the end of the last word is the end of the bundle.** -/
theorem Bundle.suffix (h : fs.Bundle o letters words) {w : String} (hw : w ∈ words.getLast?)
    {letter : Char} {v : List Char} (hword : w.toList = '-' :: letter :: v) (hv : v ≠ []) :
    letter :: v <:+ letters := by
  induction h with
  | nil => cases hw
  | @switch c rest words f starts known reads more ih =>
    rw [List.getLast?_cons] at hw
    cases hlast : words.getLast? with
    | none =>
      rw [hlast] at hw
      obtain rfl : String.ofList ['-', c] = w := Option.some.inj hw
      rw [String.toList_ofList] at hword
      exact absurd (List.cons.inj (List.cons.inj hword).2).2.symm hv
    | some last =>
      rw [hlast] at hw
      exact (ih (hlast.trans hw)).trans (List.suffix_cons _ _)
  | @value c rest f param starts known reads =>
    obtain rfl : String.ofList ('-' :: c :: rest) = w := Option.some.inj hw
    rw [String.toList_ofList] at hword
    exact ⟨[], (List.cons.inj hword).2.symm⟩

/-- **Where bundle and letters are typed as they are, with the same behind them, the lines go on
alike from the value.** -/
theorem typedAlike_of_literal (h : fs.Bundle o letters words)
    (typed : t.text.toList = '-' :: letters) (apart : Token.texts ts = words) (ht : Literal raw t)
    (hts : ∀ u ∈ ts.getLast?, Literal raw' u ∧ dropped t.stop raw = dropped u.stop raw') :
    fs.TypedAlike raw t raw' ts := by
  intro u hu letter v hword hv _
  obtain ⟨hlit, hsame⟩ := hts u hu
  have hlast : u.text ∈ words.getLast? := by
    rw [← apart, Token.texts, List.getLast?_map, Option.mem_def.1 hu]
    rfl
  obtain ⟨front, hfront⟩ := h.suffix hlast hword hv
  have hdrop : ∀ {front : List Char} {w : String}, w.toList = front ++ v →
      w.toList.drop (w.length - v.length) = v := by
    intro front w hw
    rw [← String.length_toList, hw, List.length_append, Nat.add_sub_cancel, List.drop_left]
  have htext : t.text.toList = ('-' :: (front ++ [letter])) ++ v := by
    rw [typed, ← hfront]
    simp
  have hword : u.text.toList = ['-', letter] ++ v := hword
  rw [lineFrom_of_literal ht, lineFrom_of_literal hlit, hdrop htext, hdrop hword, hsame]

end asTyped

section lines

variable {front front' : String} {passed passed' : List Token} {r s s' : TokenStream} {f : Flag}
  {param : Parameter} {t : Token} {before : Progress} {letters : List Char} {words : List String}

/-- **A value that is attached in two lines is read alike**, and so is what follows. -/
theorem alike_attached {v v' : Token} (text : v'.text = v.text) (inside : v.start < s.raw.length)
    (inside' : v'.start < s'.raw.length)
    (htail : ∀ g, param.Has (.leaf g .restRaw) → dropped v.start s.raw = dropped v'.start s'.raw)
    (hs : r.Moved front passed s) (hs' : r.Moved front' passed' s') (c : Context) :
    ParsedAlike
      (((readAttached o f param v >>= fun _ => pure true) >>= fun _ : Bool =>
        fs.parse o (fun _ => false)) ⟨s, c⟩)
      (((readAttached o f param v' >>= fun _ => pure true) >>= fun _ : Bool =>
        fs.parse o (fun _ => false)) ⟨s', c⟩) := by
  have hparse : Step.Paired (.single text inside inside') Eq (param.parse o) (param.parse o) :=
    Pairing.paired_parse (fun n _ => n.preserves_eq) htail
  have hrun := paired_readWhole hparse f ⟨.ofTokens s.raw [v] none, c⟩
    ⟨.ofTokens s'.raw [v'] none, c⟩ ⟨⟨.ofTokens _ v, .ofTokens _ v', rfl⟩, rfl⟩
  have hread : readAttached o f param v ⟨s, c⟩ = _ := readAttached_apply f param v ⟨s, c⟩
  have hread' : readAttached o f param v' ⟨s', c⟩ = _ := readAttached_apply f param v' ⟨s', c⟩
  unfold Step.within at hread hread'
  dsimp only at hread hread'
  generalize readWhole o f param ⟨.ofTokens s.raw [v] none, c⟩ = x at hrun hread
  generalize readWhole o f param ⟨.ofTokens s'.raw [v'] none, c⟩ = x' at hrun hread'
  cases hrun with
  | @ok _ _ q q' _ place asked =>
    have hcontext : q'.context = q.context := place.contexts.symm
    rw [hcontext] at hread'
    rw [bind_bind_of_ok hread, bind_bind_of_ok hread']
    exact (alike_parse _ hs hs' q.context).after _ _
  | failed error place asked =>
    rw [bind_bind_of_error hread, bind_bind_of_error hread']
    refine .failed (ParseError.akin_of_problem error.2) ?_ _ _
    exact place.contexts.symm
  | broken b place asked =>
    rw [bind_bind_of_error hread, bind_bind_of_error hread']
    refine .broken b ?_ _ _
    exact place.contexts.symm

/-- **A value that two tokens end with is read alike**, from whichever letter on it is read. -/
theorem alike_value {letter : Char} {rest : List Char} {u : Token} {before' : Progress}
    {index index' : Nat} (known : usable o (fs.short? letter) = some f)
    (reads : f.parameter? = some param) (hs : r.Follows front [] s) (hs' : r.Follows front' [] s')
    (ht : t.start < s.raw.length) (hu : u.start < s'.raw.length)
    (hraw : before.stream.raw = s.raw) (hraw' : before'.stream.raw = s'.raw)
    (hletters : t.text.toList.drop (index + 1) = letter :: rest)
    (hletters' : u.text.toList.drop (index' + 1) = letter :: rest)
    (typed : rest ≠ [] → fs.TakesLine letter →
      lineFrom s.raw t rest.length = lineFrom s'.raw u rest.length) (c : Context) :
    ParsedAlike
      ((readLetters o fs t before index (letter :: rest) >>= fun _ =>
        fs.parse o (fun _ => false)) ⟨s, c⟩)
      ((readLetters o fs u before' index' (letter :: rest) >>= fun _ =>
        fs.parse o (fun _ => false)) ⟨s', c⟩) := by
  have hplace : ∀ {t : Token} {index : Nat}, t.text.toList.drop (index + 1) = letter :: rest →
      t.text.toList.length = 2 + index + rest.length := by
    intro t index hletters
    have hlength := congrArg List.length hletters
    rw [List.length_drop, List.length_cons] at hlength
    omega
  have hoffset : ∀ {raw : String} {t : Token} {index : Nat},
      t.text.toList.drop (index + 1) = letter :: rest →
        dropped (offsetOf raw t (2 + index)) raw = lineFrom raw t rest.length := by
    intro raw t index hletters
    rw [lineFrom, ← String.length_toList, hplace hletters, Nat.add_sub_cancel]
  by_cases hrest : rest = []
  · subst hrest
    rw [readLetters_last known reads, readLetters_last known reads]
    refine alike_of_moved (fun _ _ => ?_) hs.moved hs'.moved c
    refine Pairing.paired_bind (Pairing.paired_bind (param.paired_parse_moving _ _ o)
      fun _ _ _ => Pairing.paired_pure rfl) fun _ _ _ => paired_parse _
  · have hmore := List.length_pos_iff.2 hrest
    have hinside := hplace hletters
    have hinside' := hplace hletters'
    rw [readLetters_attached known reads hrest, readLetters_attached known reads hrest, hraw, hraw']
    refine alike_attached ?_ ?_ ?_ (fun g hg => ?_) hs.moved hs'.moved c
    · rfl
    · exact offsetOf_lt ht (by omega)
    · exact offsetOf_lt hu (by omega)
    · show dropped (offsetOf s.raw t (2 + index)) s.raw =
        dropped (offsetOf s'.raw u (2 + index')) s'.raw
      rw [hoffset hletters, hoffset hletters']
      exact typed hrest ⟨f, param, g, (of_usable known).1, reads, hg⟩

/-- **Behind the token of a bundle, its letters are read as the letters apart**, and so is what
follows. -/
theorem Bundle.alike (h : fs.Bundle o letters words) (hs : r.Follows front [] s)
    (ht : t.start < s.raw.length) (hraw : before.stream.raw = s.raw) :
    ∀ {index : Nat} {c : Context} {s' : TokenStream} {ts : List Token},
      t.text.toList.drop (index + 1) = letters → Token.texts ts = words →
      r.Follows front' ts s' → fs.TypedAlike s.raw t s'.raw ts →
      ParsedAlike
        ((readLetters o fs t before index letters >>= fun _ => fs.parse o (fun _ => false)) ⟨s, c⟩)
        (fs.parse o (fun _ => false) ⟨s', c⟩) := by
  induction h with
  | nil =>
    intro index c s' ts hletters htexts hahead _
    obtain rfl := List.map_eq_nil_iff.1 htexts
    exact alike_parse _ hs.moved hahead.moved c
  | @switch letter rest words f starts known reads more ih =>
    intro index c s' ts hletters htexts hahead htyped
    obtain ⟨u, us, rfl, hword, hwords⟩ := List.map_eq_cons_iff.1 htexts
    obtain ⟨s₁, hnext, hline, hbehind⟩ := hahead.next c
    have htext : u.text.toList = ['-', letter] := by rw [hword, String.toList_ofList]
    have hone : fs.Bundle o [letter] _ := .switch starts known reads .nil
    have hmark : ∀ s : TokenStream, Step.mark f.key ⟨s, c⟩ = ⟨.ok (), ⟨s, c.mark f.key⟩, []⟩ :=
      fun _ => rfl
    rw [parse_of_letters hone starts hahead.head? htext hnext, readLetters_switch known reads,
      readLetters_switch known reads, bind_bind_of_ok (hmark s), bind_bind_of_ok (hmark s₁),
      Report.after_nil, Report.after_nil]
    refine ih ?_ hwords hbehind fun v hv => ?_
    · rw [← List.tail_drop, hletters, List.tail_cons]
    · rw [hline]
      refine htyped v ?_
      rw [List.getLast?_cons, Option.mem_def.1 hv]
      rfl
  | @value letter rest f param starts known reads =>
    intro index c s' ts hletters htexts hahead htyped
    obtain ⟨u, rfl, hword⟩ := List.map_eq_singleton_iff.1 htexts
    obtain ⟨s₁, hnext, hline, hbehind⟩ := hahead.next c
    have htext : u.text.toList = '-' :: letter :: rest := by rw [hword, String.toList_ofList]
    have hu : u.start < s₁.raw.length := by
      rw [hline]
      exact hahead.begins u List.mem_cons_self
    rw [parse_of_letters (.value starts known reads) starts hahead.head? htext hnext]
    have hword : u.text.toList.drop (0 + 1) = letter :: rest := by rw [htext]; rfl
    refine alike_value known reads hs hbehind ht hu hraw hline.symm hletters hword ?_ c
    rw [hline]
    exact htyped u rfl letter rest htext

end lines

/-- **What is kept before does not matter**, if the same texts are kept. -/
theorem ParsedAlike.keeping {x y : Report (Option TokenStream)} {kept kept' : List Token}
    (h : ParsedAlike x y) (hkept : Token.texts kept' = Token.texts kept) :
    ParsedAlike (x.keeping kept) (y.keeping kept') := by
  cases h with
  | @ok s? s?' q q' own context left pending asked asked' =>
    cases s? with
    | none =>
      obtain rfl : s?' = none := by simpa using own
      exact .ok own context left pending _ _
    | some s =>
      obtain ⟨s', rfl⟩ : ∃ s', s?' = some s' := Option.isSome_iff_exists.1 own
      show ParsedAlike ⟨.ok (some (.ofTokens s.raw (kept ++ s.unread) s.pending)), q, asked⟩
        ⟨.ok (some (.ofTokens s'.raw (kept' ++ s'.unread) s'.pending)), q', asked'⟩
      refine .ok ?_ context ?_ ?_ _ _
      · rfl
      · have hleft : Token.texts s'.unread = Token.texts s.unread := left
        show Token.texts (kept' ++ s'.unread) = Token.texts (kept ++ s.unread)
        simp only [Token.texts, List.map_append] at hkept hleft ⊢
        rw [hkept, hleft]
      · exact pending
  | failed error context asked asked' => exact .failed error context _ _
  | broken b context asked asked' => exact .broken b context _ _

section

variable {p p' m m' : Progress} {kept kept' ts : List Token} {t : Token} {letters : List Char}
  {words : List String} {front front' : String} {r : TokenStream}

/-- **A bundle of short flags is read as its letters apart.**  If the reading of flags comes to a
bundle in one line, and to its letters apart in another one, with the same texts kept and the same
values bound, and if the same follows in both lines, the flags of both lines come to the same.  A
value that is taken as it was typed must be found at the same place of both lines. -/
theorem bundle_is_read_as_letters (bundle : fs.Bundle o letters words) (nonempty : letters ≠ [])
    (typed : t.text.toList = '-' :: letters) (apart : Token.texts ts = words)
    (comes : fs.Comes o p kept m) (comes' : fs.Comes o p' kept' m')
    (sameKept : Token.texts kept' = Token.texts kept) (sameContext : m'.context = m.context)
    (ahead : r.Follows front [t] m.stream) (ahead' : r.Follows front' ts m'.stream)
    (asTyped : fs.TypedAlike m.stream.raw t m'.stream.raw ts) :
    ParsedAlike (fs.parse o (fun _ => false) p) (fs.parse o (fun _ => false) p') := by
  have hthere : ParsedAlike (fs.parse o (fun _ => false) m) (fs.parse o (fun _ => false) m') := by
    obtain ⟨s, c⟩ := m
    obtain ⟨s', c'⟩ := m'
    obtain rfl : c' = c := sameContext
    obtain ⟨letter, rest, rfl⟩ := List.exists_cons_of_ne_nil nonempty
    have starts : startsFlag letter = true := by
      cases bundle <;> assumption
    obtain ⟨s₁, hnext, hline, hbehind⟩ := ahead.next c'
    have ht : t.start < s₁.raw.length := by
      rw [hline]
      exact ahead.begins t List.mem_cons_self
    rw [parse_of_letters bundle starts ahead.head? typed hnext]
    refine bundle.alike hbehind ht hline.symm ?_ apart ahead' ?_
    · rw [typed]
      rfl
    · rw [hline]
      exact asTyped
  obtain ⟨asked, hline⟩ := exists_parse_of_comes comes
  obtain ⟨asked', hline'⟩ := exists_parse_of_comes comes'
  rw [hline, hline']
  exact (hthere.keeping sameKept).after asked asked'

end

/-- Behind a word, `-qmhi` is `-q -mhi`, also if `m` takes the line as it was typed. -/
theorem bundle_with_rest_of_line_is_read_as_letters :
    let o : Occasion := ⟨.bare "tester", ⟨2024, 5, 31, 12, 34, 56, 789012, none⟩, .usual⟩
    let msg : Parameter := .leaf { key := "msg" } .restRaw
    let fs : Flags := { flags := [⟨"q", [], .switch none⟩, ⟨"m", [], .valued msg⟩] }
    let line := fs.parse o (fun _ => false) ⟨.ofLine .quoted "go -qmhi there", {}⟩
    let apart := fs.parse o (fun _ => false) ⟨.ofLine .quoted "go -q -mhi there", {}⟩
    fs.Bundle o ['q', 'm', 'h', 'i'] ["-q", "-mhi"] ∧
      (line.progress.context.values "msg").map Value.shown = ["hi there"] ∧
      ParsedAlike line apart := by
  intro o msg fs line apart
  have hq : fs.short? 'q' = some ⟨"q", [], .switch none⟩ :=
    List.find?_cons_of_pos (by decide +kernel)
  have hm : fs.short? 'm' = some ⟨"m", [], .valued msg⟩ :=
    (List.find?_cons_of_neg (by decide +kernel)).trans (List.find?_cons_of_pos (by decide +kernel))
  have bundle : fs.Bundle o ['q', 'm', 'h', 'i'] ["-q", "-mhi"] :=
    .switch (by decide) (by rw [hq]; exact usable_of_mayUse rfl) rfl
      (.value (by decide) (by rw [hm]; exact usable_of_mayUse rfl) rfl)
  let s : TokenStream := .ofTokens "go -qmhi there"
    [⟨"go", 0, 2⟩, ⟨"-qmhi", 3, 8⟩, ⟨"there", 9, 14⟩] none
  let s' : TokenStream := .ofTokens "go -q -mhi there"
    [⟨"go", 0, 2⟩, ⟨"-q", 3, 5⟩, ⟨"-mhi", 6, 10⟩, ⟨"there", 11, 16⟩] none
  let r : TokenStream := .ofTokens " there" [⟨"there", 1, 6⟩] none
  have hline : TokenStream.ofLine .quoted "go -qmhi there" = s :=
    TokenStream.ofLine_of_split (Prod.ext (by decide +kernel)
      (Option.isNone_iff_eq_none.1 (by decide +kernel)))
  have hapart : TokenStream.ofLine .quoted "go -q -mhi there" = s' :=
    TokenStream.ofLine_of_split (Prod.ext (by decide +kernel)
      (Option.isNone_iff_eq_none.1 (by decide +kernel)))
  have ahead : r.Follows "go -qmhi" [⟨"-qmhi", 3, 8⟩] (s.withCursor 1 (by decide)) :=
    ⟨by decide, by decide, .none, fun _ h => (Option.some_ne_none _ h.symm).elim, by decide⟩
  have ahead' : r.Follows "go -q -mhi" [⟨"-q", 3, 5⟩, ⟨"-mhi", 6, 10⟩]
      (s'.withCursor 1 (by decide)) :=
    ⟨by decide, by decide, .none, fun _ h => (Option.some_ne_none _ h.symm).elim, by decide⟩
  have typedAlike : fs.TypedAlike "go -qmhi there" ⟨"-qmhi", 3, 8⟩ "go -q -mhi there"
      [⟨"-q", 3, 5⟩, ⟨"-mhi", 6, 10⟩] :=
    typedAlike_of_literal bundle (by decide) (by decide) ⟨by decide, by decide⟩ (by
      rintro _ ⟨⟩
      exact ⟨⟨by decide, by decide⟩, by decide⟩)
  refine ⟨bundle, by decide +kernel, ?_⟩
  show ParsedAlike (fs.parse o _ ⟨.ofLine .quoted "go -qmhi there", {}⟩)
    (fs.parse o _ ⟨.ofLine .quoted "go -q -mhi there", {}⟩)
  rw [hline, hapart]
  exact bundle_is_read_as_letters (m := ⟨s.withCursor 1 (by decide), {}⟩) bundle (by decide)
    (by decide) (by decide) (.word rfl rfl (by decide) rfl (.start _))
    (.word rfl rfl (by decide) rfl (.start _)) rfl rfl ahead ahead' typedAlike

/-- **With quotes inside, a bundle is not read as its letters**: in `-ab"x"y` the value of `b` is
the whole token as it was typed, bundle and all.  In `-a -bxy` it is `xy`, and quotes in the letters
apart do not bring the bundle back. -/
theorem quoted_bundle_is_not_read_as_letters :
    let o : Occasion := ⟨.bare "tester", ⟨2024, 5, 31, 12, 34, 56, 789012, none⟩, .usual⟩
    let v : Parameter := .leaf { key := "v" } .restRaw
    let fs : Flags := { flags := [⟨"a", [], .switch none⟩, ⟨"x", [], .switch none⟩,
      ⟨"y", [], .switch none⟩, ⟨"b", [], .valued v⟩] }
    let read (raw : String) := fs.parse o (fun _ => false) ⟨.ofLine .quoted raw, {}⟩
    let shown (raw : String) := ((read raw).progress.context.values "v").map Value.shown
    let texts (raw : String) := (TokenStream.ofLine .quoted raw).texts
    fs.Bundle o ['a', 'b', 'x', 'y'] ["-a", "-bxy"] ∧ texts "-ab\x22x\x22y" = ["-abxy"] ∧
      texts "-a -bxy" = ["-a", "-bxy"] ∧ texts "-a -b\x22x\x22y" = ["-a", "-bxy"] ∧
      shown "-ab\x22x\x22y" = ["-ab\x22x\x22y"] ∧ shown "-a -bxy" = ["xy"] ∧
      ¬ParsedAlike (read "-ab\x22x\x22y") (read "-a -bxy") ∧
      ¬ParsedAlike (read "-ab\x22x\x22y") (read "-a -b\x22x\x22y") := by
  intro o v fs read shown texts
  have ha : fs.short? 'a' = some ⟨"a", [], .switch none⟩ :=
    List.find?_cons_of_pos (by decide +kernel)
  have hb : fs.short? 'b' = some ⟨"b", [], .valued v⟩ :=
    (List.find?_cons_of_neg (by decide +kernel)).trans
      ((List.find?_cons_of_neg (by decide +kernel)).trans
        ((List.find?_cons_of_neg (by decide +kernel)).trans
          (List.find?_cons_of_pos (by decide +kernel))))
  have bundle : fs.Bundle o ['a', 'b', 'x', 'y'] ["-a", "-bxy"] :=
    .switch (by decide) (by rw [ha]; exact usable_of_mayUse rfl) rfl
      (.value (by decide) (by rw [hb]; exact usable_of_mayUse rfl) rfl)
  have hline : shown "-ab\x22x\x22y" = ["-ab\x22x\x22y"] := by decide +kernel
  have hapart : shown "-a -bxy" = ["xy"] := by decide +kernel
  have hquoted : shown "-a -b\x22x\x22y" = ["-b\x22x\x22y"] := by decide +kernel
  have alike_shown : ∀ {raw raw' : String}, ParsedAlike (read raw) (read raw') →
      shown raw' = shown raw := fun h => by
    dsimp only [shown]
    rw [h.context_eq]
  refine ⟨bundle, by decide +kernel, by decide +kernel, by decide +kernel, hline, hapart,
    fun h => ?_, fun h => ?_⟩
  · have hsame := alike_shown h
    rw [hline, hapart] at hsame
    exact absurd hsame (by decide)
  · have hsame := alike_shown h
    rw [hline, hquoted] at hsame
    exact absurd hsame (by decide)

end Flags
end CommandGrammar
