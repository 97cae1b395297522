/-
# Switches among the words of a line

A line of switches and words is the simplest that free flags read: a token that looks like a flag
names switches, and any other is kept.  Then it does not matter where the switches stand, in which
order and how often, by which of its names a switch is given and with which others in one token
(`Flags.switches_may_stand_anywhere`).

| token | names |
| --- | --- |
| `--name` | the switch of the name, written in any case |
| `-abc` | the switches of the letters |
| `-5`, `-`, `--` | nothing: it is a word |
-/

import CommandGrammar.Host.Usual
import CommandGrammar.Proofs.Flags.Bundles
import CommandGrammar.Proofs.Steps.Bindings

namespace CommandGrammar

open Text

namespace Flags

/-- The switch that a name may be used for. -/
def switch? (o : Occasion) (f? : Option Flag) : Option Flag :=
  (usable o f?).filter fun f => !f.takesValue

/-- The switches that a token with the form of a flag names, if it names nothing else. -/
def switches? (o : Occasion) (fs : Flags) (token : String) : Option (List Flag) :=
  if beginsWith "--" token then
    if token.toList.contains '=' then none
    else (switch? o (fs.long? (dropped 2 token))).map ([·])
  else (token.toList.drop 1).mapM fun letter => switch? o (fs.short? letter)

/-- What looks like a flag names switches and nothing else. -/
def OnlySwitches (o : Occasion) (fs : Flags) (texts : List String) : Prop :=
  ∀ w ∈ texts, looksLikeFlag w = true → (fs.switches? o w).isSome = true

/-- The switches that are named, in order and as often as they are. -/
def mentioned (o : Occasion) (fs : Flags) (texts : List String) : List Flag :=
  (texts.filter looksLikeFlag).flatMap fun w => (fs.switches? o w).getD []

/-- The keys of the switches that are named. -/
def keysAmong (o : Occasion) (fs : Flags) (texts : List String) : List String :=
  (fs.mentioned o texts).map Flag.key

/-- What is kept for the arguments. -/
def wordsAmong (line : List Token) : List Token := line.filter fun t => !looksLikeFlag t.text

variable {o : Occasion} {fs : Flags} {p r : Progress} {t : Token}

/-- **A switch is a usable flag without a parameter.** -/
theorem of_switch? {f? : Option Flag} {f : Flag} (h : switch? o f? = some f) :
    usable o f? = some f ∧ f.parameter? = none := by
  obtain ⟨huse, hvalue⟩ := Option.filter_eq_some_iff.1 h
  exact ⟨huse, by simpa [Flag.takesValue] using hvalue⟩

/-- **Every switch of a token is named by one of its letters.** -/
theorem exists_of_mem_mapM {g : Char → Option Flag} {f : Flag} : ∀ {letters : List Char}
    {flags : List Flag}, letters.mapM g = some flags → f ∈ flags → ∃ letter ∈ letters, g letter = f
  | [], flags, h, hf => by
    cases h
    cases hf
  | letter :: rest, flags, h, hf => by
    rw [List.mapM_cons] at h
    obtain ⟨first, hfirst, hrest⟩ := Option.bind_eq_some_iff.1 h
    obtain ⟨more, hmore, hflags⟩ := Option.bind_eq_some_iff.1 hrest
    cases hflags
    rcases List.mem_cons.1 hf with rfl | hf
    · exact ⟨letter, List.mem_cons_self, hfirst⟩
    · obtain ⟨found, hmem, hfound⟩ := exists_of_mem_mapM hmore hf
      exact ⟨found, List.mem_cons_of_mem letter hmem, hfound⟩

/-- **A token that names switches marks them**, one after the other. -/
theorem readLetters_switches {before : Progress} : ∀ {letters : List Char} {flags : List Flag}
    (index : Nat) (r : Progress),
    (letters.mapM fun letter => switch? o (fs.short? letter)) = some flags →
      readLetters o fs t before index letters r = ⟨.ok true, r.markAll (flags.map Flag.key), []⟩
  | [], flags, index, r, h => by
    cases h
    rfl
  | letter :: rest, flags, index, r, h => by
    rw [List.mapM_cons] at h
    obtain ⟨f, hf, hrest⟩ := Option.bind_eq_some_iff.1 h
    obtain ⟨more, hmore, hflags⟩ := Option.bind_eq_some_iff.1 hrest
    cases hflags
    obtain ⟨known, reads⟩ := of_switch? hf
    have hmark : Step.mark f.key r = ⟨.ok (), r.markAll [f.key], []⟩ := rfl
    rw [readLetters_switch known reads, Step.bind_of_ok hmark,
      readLetters_switches (index + 1) _ hmore]
    rfl

/-- **A long flag without a value is read by its name.** -/
theorem readLong_switch {f : Flag} {before : Progress} (plain : '=' ∉ t.text.toList)
    (known : usable o (fs.long? (dropped 2 t.text)) = some f) (reads : f.parameter? = none) :
    readLong o fs t before r = ⟨.ok true, r.markAll [f.key], []⟩ := by
  have hbody : '=' ∉ t.text.toList.drop 2 := fun h => plain (List.mem_of_mem_drop h)
  obtain ⟨hname, hrest⟩ :=
    name_append hbody (show ([] : List Char).head?.all (· == '=') = true from rfl)
  rw [List.append_nil] at hname hrest
  rw [dropped] at known
  unfold readLong
  simp only [hname, hrest, known, reads, List.tail?_nil]
  rfl

/-- **A token that names switches is read as a flag and marks them.** -/
theorem readOne_switches {flags : List Flag} (hhead : p.stream.head? = some t)
    (hnext : Step.next p = ⟨.ok t.text, r, []⟩) (looks : looksLikeFlag t.text = true)
    (names : fs.switches? o t.text = some flags) :
    readOne o fs p = ⟨.ok true, r.markAll (flags.map Flag.key), []⟩ := by
  rw [readOne_of_looks hhead looks hnext]
  unfold switches? at names
  split at names
  · rename_i hlong
    rw [if_pos hlong]
    split at names
    · cases names
    · rename_i hplain
      obtain ⟨f, hf, rfl⟩ := Option.map_eq_some_iff.1 names
      obtain ⟨known, reads⟩ := of_switch? hf
      exact readLong_switch (by simpa using hplain) known reads
  · rename_i hshort
    rw [if_neg hshort]
    exact readLetters_switches 0 r names

/-- **The loop keeps the words and marks the switches**, in order. -/
theorem rounds_of_switches {line : List Token} (hline : p.stream.unread = line)
    (only : fs.OnlySwitches o (Token.texts line)) (kept : List Token) :
    ∃ stream, fs.Rounds o (fun _ => false) kept p
      ⟨.ok (kept ++ wordsAmong line),
        ⟨stream, (fs.keysAmong o (Token.texts line)).foldl Context.mark p.context⟩, []⟩ := by
  induction line generalizing p kept with
  | nil =>
    have hhead := TokenStream.head?_of_unread_nil hline
    refine ⟨p.stream, ?_⟩
    rw [wordsAmong, List.filter_nil, List.append_nil]
    exact .ended hhead
  | cons t more ih =>
    have hhead := TokenStream.head?_of_unread hline
    obtain ⟨r, hnext⟩ := Step.next_of_head? hhead
    have hunread := (Progress.unread_of_next hhead hnext).1
    have hmore : r.stream.unread = more := (List.cons.inj (hunread.symm.trans hline)).2
    have hcontext := Progress.context_of_next hnext
    have hothers : fs.OnlySwitches o (Token.texts more) := fun w hw =>
      only w (List.mem_cons_of_mem t.text hw)
    -- A word is kept and marks nothing; a flag is dropped and marks its keys.
    cases hlooks : looksLikeFlag t.text with
    | false =>
      have hone : readOne o fs p = ⟨.ok false, p, []⟩ := readOne_of_word hhead hlooks
      obtain ⟨stream, hrest⟩ := ih hmore hothers (kept ++ [t])
      refine ⟨stream, ?_⟩
      have hkeys : fs.keysAmong o (Token.texts (t :: more)) = fs.keysAmong o (Token.texts more) := by
        simp [keysAmong, mentioned, Token.texts, hlooks]
      have hwords : wordsAmong (t :: more) = t :: wordsAmong more := by
        simp [wordsAmong, hlooks]
      rw [List.append_assoc, hcontext] at hrest
      rw [hkeys, hwords]
      exact .keep hhead (Bool.and_false _) hone hnext hrest
    | true =>
      obtain ⟨flags, hflags⟩ := Option.isSome_iff_exists.1 (only t.text List.mem_cons_self hlooks)
      have hone := readOne_switches hhead hnext hlooks hflags
      obtain ⟨stream, hrest⟩ :=
        ih (p := r.markAll (flags.map Flag.key)) hmore hothers kept
      refine ⟨stream, ?_⟩
      have hkeys : fs.keysAmong o (Token.texts (t :: more)) =
          flags.map Flag.key ++ fs.keysAmong o (Token.texts more) := by
        simp [keysAmong, mentioned, Token.texts, hlooks, hflags]
      have hwords : wordsAmong (t :: more) = wordsAmong more := by
        simp [wordsAmong, hlooks]
      have hcontexts : (fs.keysAmong o (Token.texts (t :: more))).foldl Context.mark p.context =
          (fs.keysAmong o (Token.texts more)).foldl Context.mark
            (r.markAll (flags.map Flag.key)).context := by
        rw [hkeys, List.foldl_append, Progress.markAll, hcontext]
      rw [hcontexts, hwords]
      exact .flag hhead (Bool.and_false _) hone hrest

/-- **Free flags read a line of switches and words.** -/
theorem exists_parse_of_switches (free : fs.anchored = false)
    (only : fs.OnlySwitches o (Token.texts p.stream.unread)) :
    ∃ stream, fs.parse o (fun _ => false) p =
      ⟨.ok (some (.ofTokens p.stream.raw (wordsAmong p.stream.unread) p.stream.pending)),
        ⟨stream, (fs.keysAmong o (Token.texts p.stream.unread)).foldl Context.mark p.context⟩,
        []⟩ := by
  obtain ⟨stream, hrounds⟩ := rounds_of_switches rfl only []
  exact ⟨stream, parse_of_free free o _ hrounds⟩

/-- **Switches are flags of the set.** -/
theorem mem_of_mem_mentioned {texts : List String} {f : Flag} (h : f ∈ fs.mentioned o texts) :
    f ∈ fs.flags := by
  obtain ⟨w, -, hf⟩ := List.mem_flatMap.1 h
  cases hnames : fs.switches? o w with
  | none =>
    rw [hnames] at hf
    cases hf
  | some flags =>
    rw [hnames] at hf
    unfold switches? at hnames
    split at hnames
    · split at hnames
      · cases hnames
      · obtain ⟨g, hg, rfl⟩ := Option.map_eq_some_iff.1 hnames
        obtain rfl := List.mem_singleton.1 hf
        exact mem_of_long? (of_usable (of_switch? hg).1).1
    · obtain ⟨letter, -, hg⟩ := exists_of_mem_mapM hnames hf
      exact mem_of_short? (of_usable (of_switch? hg).1).1

/-- **Switches may stand anywhere among the words**, in any order, any number of times and by any of
their names.  The words are kept in order; every switch that is named binds `true` once, under its
key, and nothing else is bound; and another line with the same words that names the same switches
comes to the same. -/
theorem switches_may_stand_anywhere (free : fs.anchored = false)
    (only : fs.OnlySwitches o (Token.texts p.stream.unread))
    (unbound : ∀ f ∈ fs.flags, p.context.has f.key = false) :
    ∃ s q, fs.parse o (fun _ => false) p = ⟨.ok (some s), q, []⟩ ∧
      s = .ofTokens p.stream.raw (wordsAmong p.stream.unread) p.stream.pending ∧
      (∀ f ∈ fs.mentioned o (Token.texts p.stream.unread),
        q.context.values f.key = [.truth true]) ∧
      (∀ key, (∀ f ∈ fs.mentioned o (Token.texts p.stream.unread), f.key ≠ key) →
        q.context.values key = p.context.values key) ∧
      q.context.completing = p.context.completing ∧ q.context.target = p.context.target ∧
      ∀ p', p'.context = p.context → fs.OnlySwitches o (Token.texts p'.stream.unread) →
        Token.texts (wordsAmong p'.stream.unread) = Token.texts (wordsAmong p.stream.unread) →
        (∀ f, f ∈ fs.mentioned o (Token.texts p'.stream.unread) ↔
          f ∈ fs.mentioned o (Token.texts p.stream.unread)) →
        ∃ s' q', fs.parse o (fun _ => false) p' = ⟨.ok (some s'), q', []⟩ ∧
          Token.texts s'.unread = Token.texts s.unread ∧
          (∀ key, q'.context.values key = q.context.values key) ∧
          q'.context.completing = q.context.completing ∧ q'.context.target = q.context.target := by
  obtain ⟨stream, hparse⟩ := exists_parse_of_switches free only
  obtain ⟨hcompleting, htarget⟩ := Context.foldl_mark_same
    (fs.keysAmong o (Token.texts p.stream.unread)) p.context
  refine ⟨_, _, hparse, rfl, fun f hf => ?_, fun key hkey => ?_, hcompleting, htarget, ?_⟩
  · have hmem : f.key ∈ fs.keysAmong o (Token.texts p.stream.unread) := List.mem_map_of_mem hf
    rw [Context.values_foldl_mark, if_pos ⟨hmem, unbound f (mem_of_mem_mentioned hf)⟩]
  · rw [Context.values_foldl_mark, if_neg]
    rintro ⟨hmem, -⟩
    obtain ⟨f, hf, rfl⟩ := List.mem_map.1 hmem
    exact hkey f hf rfl
  · intro p' hcontext only' words same
    obtain ⟨stream', hparse'⟩ := exists_parse_of_switches free only'
    obtain ⟨hcompleting', htarget'⟩ := Context.foldl_mark_same
      (fs.keysAmong o (Token.texts p'.stream.unread)) p'.context
    rw [hcontext] at hparse' hcompleting' htarget'
    refine ⟨_, _, hparse', words, fun key => ?_, hcompleting'.trans hcompleting.symm,
      htarget'.trans htarget.symm⟩
    have hkeys : key ∈ fs.keysAmong o (Token.texts p'.stream.unread) ↔
        key ∈ fs.keysAmong o (Token.texts p.stream.unread) := by
      simp only [keysAmong, List.mem_map, same]
    rw [Context.values_foldl_mark, Context.values_foldl_mark]
    simp only [hkeys]

/-- `-v web --QUIET -qv 3 -5` comes to the same as `web --QUIET 3 -qv -v -5`. -/
theorem switches_among_words :
    let o : Occasion := ⟨.bare "tester", ⟨2024, 5, 31, 12, 34, 56, 789012, none⟩, .usual⟩
    let fs : Flags := { flags := [⟨"quiet", ["q"], .switch none⟩, ⟨"v", [], .switch none⟩] }
    let p : Progress := .ofStream (.ofLine .spaced "-v web --QUIET -qv 3 -5")
    let p' : Progress := .ofStream (.ofLine .spaced "web --QUIET 3 -qv -v -5")
    fs.keysAmong o (Token.texts p.stream.unread) = ["v", "quiet", "quiet", "v"] ∧
      ∃ s q s' q', fs.parse o (fun _ => false) p = ⟨.ok (some s), q, []⟩ ∧
        fs.parse o (fun _ => false) p' = ⟨.ok (some s'), q', []⟩ ∧
        Token.texts s.unread = ["web", "3", "-5"] ∧ Token.texts s'.unread = Token.texts s.unread ∧
        q.context.values "quiet" = [.truth true] ∧
        ∀ key, q'.context.values key = q.context.values key := by
  intro o fs p p'
  have hkeys : fs.keysAmong o (Token.texts p.stream.unread) = ["v", "quiet", "quiet", "v"] := by
    decide +kernel
  have only : fs.OnlySwitches o (Token.texts p.stream.unread) ∧
      fs.OnlySwitches o (Token.texts p'.stream.unread) := by
    unfold OnlySwitches
    decide +kernel
  have hperm : ((Token.texts p'.stream.unread).filter looksLikeFlag).Perm
      ((Token.texts p.stream.unread).filter looksLikeFlag) := by
    decide +kernel
  obtain ⟨s, q, hparse, hs, hbound, -, -, -, hsame⟩ :=
    switches_may_stand_anywhere rfl only.1 fun _ _ => rfl
  obtain ⟨s', q', hparse', htexts, hvalues, -⟩ :=
    hsame p' rfl only.2 (by decide +kernel) fun _ => (hperm.flatMap_right _).mem_iff
  refine ⟨hkeys, s, q, s', q', hparse, hparse', ?_, htexts, ?_, hvalues⟩
  · rw [hs]
    decide +kernel
  · have hmem : "quiet" ∈ fs.keysAmong o (Token.texts p.stream.unread) := by
      rw [hkeys]
      decide
    obtain ⟨f, hf, hkey⟩ := List.mem_map.1 hmem
    rw [← hkey]
    exact hbound f hf

end Flags
end CommandGrammar
