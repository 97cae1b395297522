/-
# The value of a flag is the value alone

A flag may be given its value in four ways, and they all come to what the parameter of the flag
comes to on the value alone (`Flags.value_is_read_as_alone`):

| typed | for |
| --- | --- |
| `--name=value`, `-xvalue` | every parameter |
| `--name value`, `-x value` | a leaf that reads one word |

Alone means: on the line that is nothing but the value, with the bindings that the flag is read
with.  If that line is read to its end, the flags go on behind the front with these bindings, as
they do on the line that follows (`Flags.GoesOn`).

There is one exception, a leaf that takes a line as it was typed.  It takes what follows an attached
value for a part of the value, and leaves it to be read again
(`Flags.attached_text_goes_on_to_the_end`).
-/

import CommandGrammar.Host.Usual
import CommandGrammar.Proofs.Flags.FirstFlag
import CommandGrammar.Proofs.Moving.Flags
import CommandGrammar.Proofs.Steps.OneWord
import CommandGrammar.Proofs.Tokens.Fronts

namespace CommandGrammar

open Text

namespace Flags

variable {o : Occasion} {fs : Flags} {f : Flag} {param : Parameter} {stopAt : String → Bool}
  {c : Context} {v : String}

/-- The ways to give a flag the value `v`, by the words that are typed. -/
inductive Gives (fs : Flags) (f : Flag) (param : Parameter) (v : String) : List String → Prop
  /-- The value is attached to the name. -/
  | attached {word : String} (names : fs.Names f word (some v)) : Gives fs f param v [word]
  /-- The value is the next word, and the parameter is a leaf that reads one. -/
  | behind {word : String} (names : fs.Names f word none) (one : param.readsOne = true) :
      Gives fs f param v [word, v]

/-- What the flags of a line come to against what a value alone comes to, if the line begins with a
front, the tokens `passed`, that gives the value to a flag:

* if the value alone is read to its end, the flags behind the front are read as on the line that
  follows, from the bindings that the value alone comes to;
* if a part of it is left, or if it fails, the line fails, in the latter case with its problem;
* if it breaks off, the line breaks off. -/
inductive GoesOn (o : Occasion) (fs : Flags) (stopAt : String → Bool) (front : String)
    (passed : List Token) (following : String) : Report Unit → Report (Option TokenStream) → Prop
  | bound {q : Progress} {asked : List String} {y : Report (Option TokenStream)}
      (whole : q.stream.hasNext = false)
      (more : Report.Paired (.moving front passed) (Option.Rel (TokenStream.Moved front []))
        ((fs.parse o stopAt ⟨.ofLine .quoted following, q.context⟩).after asked) y) :
      GoesOn o fs stopAt front passed following ⟨.ok (), q, asked⟩ y
  | left {q : Progress} (left : q.stream.hasNext = true) (asked : List String) (e : ParseError)
      (q' : Progress) :
      GoesOn o fs stopAt front passed following ⟨.ok (), q, asked⟩ ⟨.error (.failed e), q', asked⟩
  | failed {e e' : ParseError} (problem : e'.problem = e.problem) (asked : List String)
      (q q' : Progress) :
      GoesOn o fs stopAt front passed following ⟨.error (.failed e), q, asked⟩
        ⟨.error (.failed e'), q', asked⟩
  | broken (b : Breakdown) (asked : List String) (q q' : Progress) :
      GoesOn o fs stopAt front passed following ⟨.error (.broken b), q, asked⟩
        ⟨.error (.broken b), q', asked⟩

/-- **If the value of the first flag comes to what it comes to alone, the flags go on from there.** -/
theorem AsAlone.goesOn {front following : String} {passed : List Token} {s : TokenStream}
    {p r : Progress} {t : Token} {step : Step Unit} {alone : Report Unit}
    (h : AsAlone s alone (step r))
    (hmoved : (TokenStream.ofLine .quoted following).Moved front passed s)
    (hhead : p.stream.head? = some t) (goesOn : fs.anchored = false → stopAt t.text = false)
    (hone : readOne o fs p = (step >>= fun _ => pure true) r) :
    fs.GoesOn o stopAt front passed following alone (fs.parse o stopAt p) := by
  generalize hy : step r = y at h
  cases h with
  | @read q whole asked =>
    rw [Step.bind_of_ok hy] at hone
    have hfirst : readOne o fs p = ⟨.ok true, ⟨s, q.context⟩, asked⟩ :=
      hone.trans (congrArg (Report.mk _ _) (List.append_nil asked))
    rw [parse_of_flag hhead goesOn hfirst]
    refine .bound whole (Report.Paired.after ?_ asked)
    exact paired_parse stopAt ⟨_, q.context⟩ ⟨s, q.context⟩ ⟨hmoved, rfl⟩
  | left left asked e q' =>
    rw [Step.bind_of_error hy] at hone
    rw [parse_of_flag_error hhead goesOn hone]
    exact .left left asked e q'
  | failed problem asked q q' =>
    rw [Step.bind_of_error hy] at hone
    rw [parse_of_flag_error hhead goesOn hone]
    exact .failed problem asked q q'
  | broken b asked q q' =>
    rw [Step.bind_of_error hy] at hone
    rw [parse_of_flag_error hhead goesOn hone]
    exact .broken b asked q q'

/-- **A step that judges a word comes to what it comes to on the word alone.** -/
theorem asAlone_of_judges {step : Step Unit} (h : Step.Judges v c step)
    {s r s' r' : TokenStream} (hnext : s.next = .ok (v, r)) (hend : r.hasNext = false)
    (hnext' : s'.next = .ok (v, r')) : AsAlone r' (step ⟨s, c⟩) (step ⟨s', c⟩) := by
  obtain ⟨ruling, asked, htold⟩ := h
  have halone := htold s r hnext
  have hline := htold s' r' hnext'
  generalize step ⟨s, c⟩ = x at halone
  generalize step ⟨s', c⟩ = y at hline
  cases halone with
  | taken u d =>
    cases hline
    exact .read (q := ⟨r, d⟩) hend asked
  | refused problem q =>
    cases hline with
    | refused _ q' =>
      have hproblem : (s'.errorAt s'.position problem).problem =
          (s.errorAt s.position problem).problem := rfl
      exact .failed hproblem asked q q'
  | broken b q =>
    cases hline with
    | broken _ q' => exact .broken b asked q q'

/-- **Who may use a flag may use its parameter.** -/
theorem mayUse_of_parameter (mayUse : f.mayUse o.source = true)
    (reads : f.parameter? = some param) : param.mayUse o.source = true := by
  unfold Flag.mayUse at mayUse
  unfold Flag.parameter? at reads
  split at mayUse <;> rename_i hrole <;> rw [hrole] at reads <;> cases reads
  exact mayUse

/-- **From the value at the end of a word on, a line that begins with the word is the value and what
follows the word.** -/
theorem dropped_offsetOf {word following : String} {index : Nat}
    (hdrop : word.toList.drop index = v.toList) (hinside : index < word.toList.length) :
    dropped (offsetOf (word ++ following) ⟨word, 0, word.length⟩ index) (word ++ following) =
      v ++ following := by
  unfold offsetOf
  dsimp only
  rw [if_pos (Splitting.slice_front word following), Nat.zero_add, dropped, String.toList_append,
    List.drop_append_of_le_length (Nat.le_of_lt hinside), hdrop, ← String.toList_append,
    String.ofList_toList]

section lines

variable {front following : String} {passed : List Token} {s : TokenStream}

/-- **The words of the front are read first.** -/
theorem next_of_moved (h : (TokenStream.ofLine .quoted following).Moved front passed s) {n : Nat}
    {t : Token} (ht : passed[n]? = some t) (hn : n ≤ s.tokens.length) :
    (s.withCursor n hn).head? = some t ∧
      ∃ hn', (s.withCursor n hn).next = .ok (t.text, s.withCursor (n + 1) hn') := by
  have htoken : s.tokens[n]? = some t := by
    rw [h.tokens, List.getElem?_append_left (List.getElem?_eq_some_iff.1 ht).1, ht]
  have hhead : (s.withCursor n hn).head? = some t := htoken
  exact ⟨hhead, TokenStream.next_of_head? hhead⟩

/-- **Behind the words of the front stands what follows.** -/
theorem withCursor_of_moved (h : (TokenStream.ofLine .quoted following).Moved front passed s)
    {n : Nat} (hpassed : passed.length = n) (hn : n ≤ s.tokens.length) : s.withCursor n hn = s := by
  have hcursor : s.cursor = n := h.cursor.trans hpassed
  subst hcursor
  rfl

/-- **A word with a value at its end is read, and the value is read from the rest of its line.** -/
theorem exists_attached (mayUse : f.mayUse o.source = true) (reads : f.parameter? = some param)
    (value : v ≠ "") {word : String} (names : fs.Names f word (some v))
    (writes : Splitting.Writes front word) (apart : following.toList.head?.all isBlank = true)
    (c : Context) :
    ∃ s u, (TokenStream.ofLine .quoted following).Moved front [⟨word, 0, front.length⟩] s ∧
      TokenStream.ofLine .quoted (front ++ following) = s.withCursor 0 (Nat.zero_le _) ∧
      (s.withCursor 0 (Nat.zero_le _)).head? = some ⟨word, 0, front.length⟩ ∧
      u.text = v ∧ u.start < s.raw.length ∧
      (word = front → dropped u.start s.raw = v ++ following) ∧
      readOne o fs ⟨s.withCursor 0 (Nat.zero_le _), c⟩ =
        (readAttached o f param u >>= fun _ => pure true) ⟨s, c⟩ := by
  have hlength : 0 < v.toList.length := List.length_pos_iff.2 (mt String.toList_eq_nil_iff.1 value)
  obtain ⟨s, hmoved, hline⟩ := writes.exists_moved apart
  have hraw : s.raw = front ++ following := hmoved.raw
  obtain ⟨hhead, hn, hnext⟩ := next_of_moved hmoved (n := 0) rfl (Nat.zero_le _)
  have hend : s.withCursor (0 + 1) hn = s := withCursor_of_moved hmoved rfl hn
  have hstep : Step.next ⟨s.withCursor 0 (Nat.zero_le _), c⟩ = ⟨.ok word, ⟨s, c⟩, []⟩ := by
    unfold Step.next
    rw [hnext, hend]
  obtain ⟨index, hdrop, hone⟩ := Names.exists_readOne_attached (t := ⟨word, 0, front.length⟩)
    mayUse reads hhead hstep names value
  have hdrop : word.toList.drop index = v.toList := hdrop
  have hinside : index < word.toList.length := by
    have hlen := congrArg List.length hdrop
    rw [List.length_drop] at hlen
    omega
  refine ⟨s, _, hmoved, hline, hhead, ?_, ?_, ?_, hone⟩
  · show String.ofList (word.toList.drop index) = v
    rw [hdrop, String.ofList_toList]
  · refine offsetOf_lt ?_ hinside
    show 0 < s.raw.length
    rw [hraw, String.length_append]
    exact Nat.lt_of_lt_of_le writes.length_pos (Nat.le_add_right _ _)
  · rintro rfl
    show dropped (offsetOf s.raw _ index) s.raw = _
    rw [hraw]
    exact dropped_offsetOf hdrop hinside

/-- **A value that is attached to a flag** comes to what it comes to alone. -/
theorem goesOn_attached (mayUse : f.mayUse o.source = true) (reads : f.parameter? = some param)
    (value : v ≠ "") {word : String} (names : fs.Names f word (some v))
    (writes : Splitting.Writes front word) (apart : following.toList.head?.all isBlank = true)
    (goesOn : fs.anchored = false → stopAt word = false)
    (asTyped : (∃ g, param.Has (.leaf g .restRaw)) → following = "" ∧ word = front) (c : Context) :
    fs.GoesOn o stopAt front [⟨word, 0, front.length⟩] following
      (param.parse o ⟨.ofTokens v [⟨v, 0, v.toList.length⟩] none, c⟩)
      (fs.parse o stopAt ⟨.ofLine .quoted (front ++ following), c⟩) := by
  obtain ⟨s, u, hmoved, hline, hhead, htext, hstart, htail, hone⟩ :=
    exists_attached mayUse reads value names writes apart c
  have hinside : 0 < v.length := Nat.pos_of_ne_zero (mt String.length_eq_zero_iff.1 value)
  have hattached : AsAlone s (param.parse o ⟨.ofTokens v [⟨v, 0, v.toList.length⟩] none, c⟩)
      (readAttached o f param u ⟨s, c⟩) := by
    refine asAlone_readAttached (p := ⟨s, c⟩) f htext hinside hstart fun g hg => ?_
    obtain ⟨rfl, hword⟩ := asTyped ⟨g, hg⟩
    rw [htail hword, String.append_empty, dropped, List.drop_zero, String.ofList_toList]
  rw [hline]
  exact hattached.goesOn hmoved hhead goesOn hone

/-- **A value that is a word of its own**, for a leaf that reads one word, does, too. -/
theorem exists_goesOn_behind (mayUse : f.mayUse o.source = true) (reads : f.parameter? = some param)
    {word : String} (names : fs.Names f word none) (one : param.readsOne = true)
    (hfront : Splitting.Says front [word, v]) (apart : following.toList.head?.all isBlank = true)
    (goesOn : fs.anchored = false → stopAt word = false) (c : Context) :
    ∃ passed, Token.texts passed = [word, v] ∧ fs.GoesOn o stopAt front passed following
      (param.parse o ⟨.ofTokens v [⟨v, 0, v.toList.length⟩] none, c⟩)
      (fs.parse o stopAt ⟨.ofLine .quoted (front ++ following), c⟩) := by
  obtain ⟨passed, s, htexts, hmoved, hline⟩ := hfront.exists_moved apart
  obtain ⟨t, u, rfl⟩ : ∃ t u, passed = [t, u] := by
    obtain ⟨t, us, rfl, -, hus⟩ := List.map_eq_cons_iff.1 htexts
    obtain ⟨u, rfl, -⟩ := List.map_eq_singleton_iff.1 hus
    exact ⟨t, u, rfl⟩
  obtain ⟨rfl, rfl⟩ : t.text = word ∧ u.text = v := by simpa [Token.texts] using htexts
  obtain ⟨hhead, hn, hnext⟩ := next_of_moved hmoved (n := 0) rfl (Nat.zero_le _)
  obtain ⟨-, hn', hnext'⟩ := next_of_moved hmoved (n := 1) rfl hn
  have hend : s.withCursor (1 + 1) hn' = s := withCursor_of_moved hmoved rfl hn'
  rw [hend] at hnext'
  have hstep : Step.next ⟨s.withCursor 0 (Nat.zero_le _), c⟩ =
      ⟨.ok t.text, ⟨s.withCursor 1 hn, c⟩, []⟩ := by
    unfold Step.next
    rw [hnext]
  have hone := names.readOne_behind mayUse reads hhead hstep
  have hjudges : Step.Judges u.text c (param.parse o) :=
    Parameter.judges_parse one (mayUse_of_parameter mayUse reads)
  have hbehind := asAlone_of_judges hjudges
    (s := .ofTokens u.text [⟨u.text, 0, u.text.toList.length⟩] none) rfl rfl hnext'
  rw [hline]
  exact ⟨_, htexts, hbehind.goesOn hmoved hhead goesOn hone⟩

end lines

/-- **However a flag is given its value, it comes to what its parameter comes to on the value
alone**, and what follows is left to the flags and arguments behind it. -/
theorem value_is_read_as_alone (mayUse : f.mayUse o.source = true)
    (reads : f.parameter? = some param) (value : v ≠ "")
    (plain : v.toList.all Splitting.isPlain = true) {words : List String}
    (gives : fs.Gives f param v words) {front following : String}
    (hfront : Splitting.Says front words) (apart : following.toList.head?.all isBlank = true)
    (goesOn : fs.anchored = false → ∀ w ∈ words.head?, stopAt w = false)
    (asTyped : (∃ g, param.Has (.leaf g .restRaw)) → following = "" ∧ words = [front])
    (c : Context) :
    ∃ passed, Token.texts passed = words ∧
      fs.GoesOn o stopAt front passed following (param.parse o ⟨.ofLine .quoted v, c⟩)
        (fs.parse o stopAt ⟨.ofLine .quoted (front ++ following), c⟩) := by
  rw [TokenStream.ofLine_of_plain value plain]
  cases gives with
  | @attached word names =>
    exact ⟨_, rfl, goesOn_attached mayUse reads value names hfront.writes apart
      (fun free => goesOn free word rfl)
      (fun hraw => (asTyped hraw).imp_right List.singleton_inj.1) c⟩
  | @behind word names one =>
    exact exists_goesOn_behind mayUse reads names one hfront apart
      (fun free => goesOn free word rfl) c

/-- **A value is read like the value alone**: `--tag=red` is, and the word behind it is left. -/
theorem tag_is_read_as_alone :
    let o : Occasion := ⟨.bare "tester", ⟨2024, 5, 31, 12, 34, 56, 789012, none⟩, .usual⟩
    let tag : Parameter := .leaf { key := "tag" } .text
    let fs : Flags := { flags := [⟨"tag", ["t"], .valued tag⟩] }
    let alone := tag.parse o ⟨.ofLine .quoted "red", {}⟩
    fs.Gives ⟨"tag", ["t"], .valued tag⟩ tag "red" ["--tag=red"] ∧
      Splitting.Says "--tag=red" ["--tag=red"] ∧
      (alone.progress.context.values "tag").map Value.shown = ["red"] ∧
      alone.progress.stream.hasNext = false ∧
      ∃ passed, Token.texts passed = ["--tag=red"] ∧
        fs.GoesOn o (fun _ => false) "--tag=red" passed " now" alone
          (fs.parse o (fun _ => false) ⟨.ofLine .quoted ("--tag=red" ++ " now"), {}⟩) := by
  intro o tag fs alone
  have long : fs.long? "tag" = some ⟨"tag", ["t"], .valued tag⟩ :=
    List.find?_cons_of_pos (by decide +kernel)
  have names : fs.Names _ ("--" ++ "tag" ++ "=" ++ "red") (some "red") :=
    .longValue long (by decide) "red"
  have gives : fs.Gives _ tag "red" ["--tag=red"] := .attached names
  have hfront : Splitting.Says "--tag=red" ["--tag=red"] :=
    .word (Splitting.writes_plain (by decide) (by decide))
  refine ⟨gives, hfront, by decide +kernel, by decide +kernel, ?_⟩
  refine value_is_read_as_alone rfl rfl (by decide) (by decide) gives hfront (by decide)
    (fun _ _ _ => rfl) ?_ {}
  rintro ⟨g, hg⟩
  cases hg.of_leaf

section asTyped

/-- The leaf that takes a line as it was typed, under a key. -/
def restUnder (key : String) : Parameter := .leaf { key := key } .restRaw

/-- **The rest of a line of one token is bound as it was typed.** -/
theorem parse_restUnder {key : String} (named : key ≠ "") (raw : String) (t : Token) (c : Context) :
    (restUnder key).parse o ⟨.ofTokens raw [t] none, c⟩ =
      ⟨.ok (), ⟨(TokenStream.ofTokens raw [t] none).skipAll,
        c.put key (.text (dropped t.start raw))⟩, []⟩ := by
  have hmay : o.source.may none = true := by simp [Source.may]
  have hread : Leaf.restRaw.read o ⟨.ofTokens raw [t] none, c⟩ =
      ⟨.ok [.text (dropped t.start raw)],
        ⟨(TokenStream.ofTokens raw [t] none).skipAll, c⟩, []⟩ := rfl
  have hkey : (!key.isEmpty) = true := by simpa using named
  rw [restUnder, Parameter.parse, Parameter.framed, if_pos hmay]
  show Parameter.readAndBind o key .restRaw _ = _
  rw [Parameter.readAndBind, Step.bind_of_ok hread, if_pos hkey]
  rfl

/-- **An attached value that is taken as it was typed goes on to the end of the line**, and what
follows it is read once more by the flags and arguments behind it. -/
theorem attached_text_goes_on_to_the_end {key : String} (named : key ≠ "")
    (mayUse : f.mayUse o.source = true) (reads : f.parameter? = some (restUnder key))
    (value : v ≠ "") {word : String} (names : fs.Names f word (some v))
    (writes : Splitting.Writes word word) {following : String}
    (apart : following.toList.head?.all isBlank = true)
    (goesOn : fs.anchored = false → stopAt word = false) (c : Context) :
    Report.Paired (.moving word [⟨word, 0, word.length⟩])
      (Option.Rel (TokenStream.Moved word []))
      (fs.parse o stopAt ⟨.ofLine .quoted following, c.put key (.text (v ++ following))⟩)
      (fs.parse o stopAt ⟨.ofLine .quoted (word ++ following), c⟩) := by
  obtain ⟨s, u, hmoved, hline, hhead, -, -, htail, hone⟩ :=
    exists_attached mayUse reads value names writes apart c
  have hwhole : readWhole o f (restUnder key) ⟨.ofTokens s.raw [u] none, c⟩ = _ :=
    readWhole_of_ok (parse_restUnder named s.raw u c) rfl f
  have hattached : readAttached o f (restUnder key) u ⟨s, c⟩ =
      ⟨.ok (), ⟨s, c.put key (.text (v ++ following))⟩, []⟩ := by
    rw [readAttached_apply]
    unfold Step.within
    dsimp only
    rw [hwhole, htail rfl]
  rw [Step.bind_of_ok hattached] at hone
  rw [hline, parse_of_flag hhead goesOn hone]
  exact paired_parse stopAt ⟨_, _⟩ ⟨s, _⟩ ⟨hmoved, rfl⟩

/-- **Attached to a flag, a text that is taken as it was typed is not read as it is alone**: in
`--msg=hello there` the flag is given `hello there`, and `there` is left all the same. -/
theorem attached_text_is_not_read_as_alone :
    let o : Occasion := ⟨.bare "tester", ⟨2024, 5, 31, 12, 34, 56, 789012, none⟩, .usual⟩
    let fs : Flags := { flags := [⟨"msg", [], .valued (restUnder "msg")⟩] }
    let alone := (restUnder "msg").parse o ⟨.ofLine .quoted "hello", {}⟩
    let line := fs.parse o (fun _ => false) ⟨.ofLine .quoted ("--msg=hello" ++ " there"), {}⟩
    (alone.progress.context.values "msg").map Value.shown = ["hello"] ∧
      alone.progress.stream.hasNext = false ∧
      (line.progress.context.values "msg").map Value.shown = ["hello there"] ∧
      ¬∃ passed, fs.GoesOn o (fun _ => false) "--msg=hello" passed " there" alone line := by
  intro o fs alone line
  have hwhole : alone.progress.stream.hasNext = false := by decide +kernel
  have hline : (line.progress.context.values "msg").map Value.shown = ["hello there"] := by
    decide +kernel
  have hread : (match line.result with | .ok _ => true | .error _ => false) = true := by
    decide +kernel
  have hrest : ((fs.parse o (fun _ => false) ⟨.ofLine .quoted " there",
      alone.progress.context⟩).progress.context.values "msg").map Value.shown = ["hello"] := by
    decide +kernel
  refine ⟨by decide +kernel, hwhole, hline, ?_⟩
  rintro ⟨passed, h⟩
  generalize alone = x at h hwhole hrest
  generalize line = y at h hline hread
  cases h with
  | bound whole more =>
    have hsame : _ = y.progress.context := more.contexts
    rw [← hsame] at hline
    exact absurd (hline.symm.trans hrest) (by decide)
  | left => cases hread
  | failed => cases hread
  | broken => cases hread

end asTyped

end Flags
end CommandGrammar
