/-
# What a command completes

A command completes the last word of a line.  On the way to the leaf that is asked, the line loses
tokens: flags with their values, and the names of children.  What is left still ends in the last word,
unless a flag has read that as its value (`Flags.ReadsLast`).  So a word that does not begin with the
last one comes from a leaf that is asked early (`Leaf.OffersEarly`), or the last word was lost.
-/

import CommandGrammar.Host.Usual
import CommandGrammar.Proofs.Breakdowns.Completions
import CommandGrammar.Proofs.Completing.LastWord

namespace CommandGrammar

/-- A flag of the line reads the last word with its value, and nothing is left. -/
def Flags.ReadsLast (o : Occasion) (fs : Flags) (line : List Token) (last : Token) : Prop :=
  ∃ flag values, flag :: values ++ [last] <:+ line ∧ looksLikeFlag flag.text = true ∧
    fs.ReadsValue o (values ++ [last]) []

section

variable {o : Occasion} {last : Token} {p q : Progress} {asked : List String}

/-- **The last item of a list is the last one behind any other.** -/
theorem getLast?_append_of_eq_some {a b : List Token} (h : b.getLast? = some last) :
    (a ++ b).getLast? = some last := by
  rw [List.getLast?_append, h]
  rfl

/-- **A token that is not the last one leaves the last one behind it.** -/
theorem Progress.unread_of_next_of_cons {t u : Token} {more : List Token}
    (hunread : p.stream.unread = t :: u :: more) (hnext : Step.next p = ⟨.ok t.text, q, []⟩) :
    q.stream.unread = u :: more ∧ q.stream.pending = p.stream.pending := by
  obtain ⟨hq, hpq⟩ := unread_of_next (TokenStream.head?_of_unread hunread) hnext
  exact ⟨(List.cons.inj (hq.symm.trans hunread)).2, hpq.pending⟩

/-- What flags leave for the arguments still ends in the last word, or they have completed it. -/
def FlagCompletion.Leaves (last : Token) (q : Progress) (c : FlagCompletion) : Prop :=
  match c.words with
  | some words => ∀ w ∈ words, Pattern.beginsAlike last.text.toList w.toList = true
  | none => (c.rest.getD q.stream).EndsIn last

/-- What a walk over flags has kept, and what is left there, still ends in the last word. -/
def Flags.Walk.Leaves (last : Token) (anchored : Bool) (q : Progress) : Flags.Walk → Prop
  | .ended c => c.Leaves last q
  | .over kept _ => (kept ++ q.stream.unread).getLast? = some last ∧ q.stream.pending = none ∧
      (anchored = true → kept = [])

namespace Flags

variable {fs : Flags} {line : List Token}

/-- **A flag that is read leaves the last word**, unless that is its value. -/
theorem leaves_of_tryOne {kept : List Token} (hspare : ¬ fs.ReadsLast o line last)
    (hline : p.stream.unread <:+ line) (hlong : 1 < p.stream.unread.length)
    (hp : (kept ++ p.stream.unread).getLast? = some last)
    (h : fs.tryOne o p = ⟨.ok true, q, asked⟩) :
    q.stream.unread <:+ line ∧ (kept ++ q.stream.unread).getLast? = some last ∧
      q.stream.pending = p.stream.pending := by
  obtain ⟨honward, t, values, hunread, hlooks, hvalue⟩ :=
    of_readOne_true (readOne_of_tryOne_true h)
  have hlast : p.stream.unread.getLast? = some last :=
    getLast?_of_append hp fun hnil => by rw [hnil] at hlong; cases hlong
  have hbehind : q.stream.unread <:+ p.stream.unread := ⟨t :: values, hunread.symm⟩
  refine ⟨hbehind.trans hline, getLast?_append_of_eq_some ?_, honward.pending⟩
  rw [hunread] at hline hlong hlast
  refine getLast?_of_append (a := t :: values) hlast fun hnil => ?_
  have hne : values ≠ [] := by
    rintro rfl
    rw [hnil] at hlong
    exact absurd hlong (Nat.lt_irrefl 1)
  obtain ⟨m, -, hm, hread⟩ := hvalue.resolve_left hne
  have hvalue := hread.readsValue hm
  rw [hnil] at hvalue
  rw [hnil, List.append_nil] at hline hlong hlast
  obtain ⟨front, rfl⟩ := List.getLast?_eq_some_iff.1 (getLast?_of_append (a := [t]) hlast hne)
  exact hspare ⟨t, front, hline, hlooks, hvalue⟩

/-- **A walk over flags leaves the last word, or completes it.** -/
theorem leaves_walk (hplain : Pattern.IsPlain last.text) (hspare : ¬ fs.ReadsLast o line last)
    (hvalues : ∀ f ∈ fs.flags, ∀ param, f.parameter? = some param →
      ∀ n, param.Has n → n.frame.completer = none) (stopAt : String → Bool) :
    ∀ (n : Nat) {kept : List Token} {started : Bool} {p q : Progress} {walk : Walk}
      {asked : List String}, p.stream.unread <:+ line →
      (kept ++ p.stream.unread).getLast? = some last → p.stream.pending = none →
      (fs.anchored = true → kept = []) →
      fs.walk o stopAt n kept started p = ⟨.ok walk, q, asked⟩ → walk.Leaves last fs.anchored q
  | 0, kept, started, p, q, walk, asked, _, hp, hpending, hkept, h => by
    obtain ⟨hwalk, rfl, -⟩ := Report.mk.inj h
    cases hwalk
    exact ⟨hp, hpending, hkept⟩
  | n + 1, kept, started, p, q, walk, asked, hline, hp, hpending, hkept, h => by
    -- What is kept and what is unread end in the last word, however far the walk is.
    have hread : ∀ {t next : Token} {more : List Token} {r : Progress},
        p.stream.unread = t :: next :: more → Step.next p = ⟨.ok t.text, r, []⟩ →
        r.stream.unread = next :: more ∧ r.stream.pending = none ∧
          (kept ++ [t] ++ r.stream.unread).getLast? = some last := by
      intro t next more r ahead read
      obtain ⟨hrest, hsame⟩ := Progress.unread_of_next_of_cons ahead read
      rw [ahead, List.append_cons, ← hrest] at hp
      exact ⟨hrest, hsame.trans hpending, hp⟩
    cases walkRound_of_walk h with
    | ended => exact ⟨hp, hpending, hkept⟩
    | stopped ahead stop =>
      rw [List.isEmpty_iff.1 (Bool.and_eq_true_iff.1 stop).1, List.nil_append, ahead] at hp
      exact ⟨hp, rfl⟩
    | @value t next more param r q words _ ahead reads read completes =>
      -- The value of a flag is completed only if the last word is all that is left.
      obtain ⟨f, hflag⟩ := exists_hasValue_of_awaited reads
      obtain ⟨hrest, hrpending, hover⟩ := hread ahead read
      have hmore : more = [] := by
        split at reads
        · rename_i hatLast
          exact List.isEmpty_iff.1 (Bool.and_eq_true_iff.1 hatLast).2
        · cases reads
      rw [hmore] at hrest
      have hlone : r.stream.Lone last := by
        rw [hrest, List.getLast?_concat] at hover
        exact ⟨by rw [hrest, Option.some.inj hover], hrpending⟩
      intro w hw
      exact Parameter.beginsAlike_of_lone hplain (hvalues f hflag.mem param hflag.reads) hlone
        (by rw [completes]) hw
    | flag ahead goesOn reads one rest =>
      obtain ⟨hm, hmlast, hmpending⟩ := leaves_of_tryOne hspare hline
        (by rw [ahead]; exact Nat.succ_lt_succ (Nat.zero_lt_succ _)) hp one
      exact leaves_walk hplain hspare hvalues stopAt n hm hmlast (hmpending.trans hpending) hkept
        rest
    | anchored bound => exact ⟨hp, hpending, hkept⟩
    | @keep t next more r q w _ _ ahead goesOn reads one free read rest =>
      obtain ⟨hrest, hrpending, hover⟩ := hread ahead read
      have hbehind : r.stream.unread <:+ p.stream.unread := by
        rw [ahead, hrest]
        exact List.suffix_cons t _
      exact leaves_walk hplain hspare hvalues stopAt n (hbehind.trans hline) hover hrpending
        (fun hbound => absurd (hbound.symm.trans free) Bool.noConfusion) rest

/-- **Flags complete the last word, or leave it to the arguments.** -/
theorem leaves_complete (hplain : Pattern.IsPlain last.text)
    (hspare : ¬ fs.ReadsLast o p.stream.unread last)
    (hvalues : ∀ f ∈ fs.flags, ∀ param, f.parameter? = some param →
      ∀ n, param.Has n → n.frame.completer = none) {stopAt : String → Bool} {c : FlagCompletion}
    (hp : p.stream.EndsIn last) (h : fs.complete o stopAt p = ⟨.ok c, q, asked⟩) :
    c.Leaves last q := by
  change (Step.here >>= _) p = _ at h
  rw [Step.here_bind] at h
  obtain ⟨walk, m, _, _, hwalk, h, -⟩ := Step.exists_of_bind_ok h
  have hleaves := leaves_walk hplain hspare hvalues stopAt p.stream.unread.length
    (List.suffix_refl _) (show ([] ++ p.stream.unread).getLast? = some last from hp.unread)
    hp.pending (fun _ => rfl) hwalk
  rcases walk with c' | ⟨kept, started⟩
  · obtain ⟨hc, rfl, -⟩ := Report.mk.inj h
    cases hc
    exact hleaves
  · obtain ⟨hline, hpending, hkept⟩ := hleaves
    dsimp only at h
    rw [Step.here_bind] at h
    -- The last word has no dash, so it is not the flags' own.
    have hnone : (if started && fs.anchored then none else m.stream.unread.getLast?.filter fun t =>
        Text.beginsWith "-" t.text && !isNegativeNumber t.text) = none := by
      refine Option.eq_none_iff_forall_ne_some.2 fun t ht => ?_
      split at ht
      · cases ht
      · obtain ⟨hlast, hdash⟩ := Option.filter_eq_some_iff.1 ht
        rw [List.getLast?_append, hlast] at hline
        obtain rfl : t = last := Option.some.inj hline
        rw [hplain.not_dashed, Bool.false_and] at hdash
        cases hdash
    rw [hnone] at h
    dsimp only at h
    split at h
    · rename_i hanchored
      obtain ⟨hc, rfl, -⟩ := Report.mk.inj h
      cases hc
      rw [hkept hanchored, List.nil_append] at hline
      exact ⟨hline, hpending⟩
    · obtain ⟨hc, -, -⟩ := Report.mk.inj h
      cases hc
      exact ⟨hline, rfl⟩

end Flags

/-- **What a command goes on with still ends in the last word**, or its flags have completed it. -/
theorem CommandFrame.leaves_completeFlags {f : CommandFrame} {cs : List Command}
    {words? : Option (List String)} (hplain : Pattern.IsPlain last.text)
    (hspare : ∀ fs, f.flags = some fs → ¬ fs.ReadsLast o p.stream.unread last)
    (hvalues : ∀ fs, f.flags = some fs → ∀ k ∈ fs.flags, ∀ param, k.parameter? = some param →
      ∀ n, param.Has n → n.frame.completer = none)
    (hp : p.stream.EndsIn last) (h : f.completeFlags o cs p = ⟨.ok words?, q, asked⟩) :
    FlagCompletion.Leaves last q ⟨none, words?⟩ := by
  unfold completeFlags at h
  cases hfs : f.flags with
  | none =>
    rw [hfs] at h
    obtain ⟨hwords, rfl, -⟩ := Report.mk.inj h
    cases hwords
    exact hp
  | some fs =>
    rw [hfs] at h
    obtain ⟨⟨rest, words⟩, m, _, _, hc, hret, -⟩ := Step.exists_of_bind_ok h
    have hleaves := Flags.leaves_complete hplain (hspare fs hfs) (hvalues fs hfs) hp hc
    cases rest <;>
      (obtain ⟨hwords, rfl, -⟩ := Report.mk.inj hret
       cases hwords
       exact hleaves)

namespace Command

/-- `HandsTo o c p d q`: completing at `p`, the command `c` leaves the line to its children, and `d`
completes what is left at `q`. -/
inductive HandsTo (o : Occasion) : Command → Progress → Command → Progress → Prop
  | here (c : Command) (p : Progress) : HandsTo o c p c p
  | child {f : CommandFrame} {cs : List Command} {c d : Command} {p q r s : Progress}
      {t u : Token} {more : List Token} {asked : List String}
      (flags : f.completeFlags o cs p = ⟨.ok none, q, asked⟩)
      (unread : q.stream.unread = t :: u :: more) (named : cs.find? (·.goesBy t.text) = some c)
      (mayDispatch : f.mayDispatch o.source = true) (next : Step.next q = ⟨.ok t.text, r, []⟩)
      (onward : HandsTo o c r d s) : HandsTo o (.node f cs) p d s

/-- A command that completes at `p` asks its own arguments at `q`, behind its flags. -/
structure AsksOwn (o : Occasion) (c : Command) (p q : Progress) : Prop where
  flags : ∃ asked, c.frame.completeFlags o c.children p = ⟨.ok none, q, asked⟩
  usable : (c.frame.executor.isSome && o.source.may c.frame.permission) = true
  /-- The next word names no child, unless it is the last one. -/
  unnamed : ∀ t u more, q.stream.unread = t :: u :: more →
    c.children.find? (·.goesBy t.text) = none

/-- A command that completes at `p`, or one that it leaves the line to, asks the leaf `l` of its
arguments at `q`. -/
def Asks (o : Occasion) (c : Command) (p : Progress) (l : Leaf) (q : Progress) : Prop :=
  ∃ d r s, c.HandsTo o p d r ∧ d.AsksOwn o r s ∧ d.frame.parameter.Asks o s l q

/-- A command that completes at `p`, or one that it leaves the line to, loses the last word to a
flag. -/
def LosesLast (o : Occasion) (c : Command) (p : Progress) (last : Token) : Prop :=
  ∃ d q fs, c.HandsTo o p d q ∧ d.frame.flags = some fs ∧ fs.ReadsLast o q.stream.unread last

variable {w : String}

/-- **The own arguments of a command complete the last word, or a leaf is asked early.** -/
theorem begins_or_asksEarly_own {f : CommandFrame} {cs : List Command} (names : List String)
    {words : List String} (hplain : Pattern.IsPlain last.text)
    (hcompleter : ∀ n, f.parameter.Has n → n.frame.completer = none)
    (hflags : f.completeFlags o cs p = ⟨.ok none, q, asked⟩)
    (hunnamed : ∀ t u more, q.stream.unread = t :: u :: more → cs.find? (·.goesBy t.text) = none)
    (hnames : ∀ name ∈ names, Pattern.beginsAlike last.text.toList name.toList = true)
    (hq : q.stream.EndsIn last)
    (h : ((do return Text.distinct (names ++ (← f.completeOwn o))) q).result = .ok words)
    (hw : w ∈ words) :
    Pattern.beginsAlike last.text.toList w.toList = true ∨
      ∃ l r, (Command.node f cs).Asks o p l r ∧ l.OffersEarly o.host r.stream w := by
  change ((f.completeOwn o >>= fun own => pure (Text.distinct (names ++ own))) q).result = _ at h
  rw [Step.result_bind_pure] at h
  rcases hown : (f.completeOwn o q).result with b | own <;> rw [hown] at h
  · cases h
  obtain rfl := Except.ok.inj h
  rcases List.mem_append.1 (Text.mem_distinctFrom.1 hw).1 with hw | hw
  · exact .inl (hnames w hw)
  · unfold CommandFrame.completeOwn at hown
    split at hown
    · rename_i husable
      refine (Parameter.begins_or_asksEarly hplain hcompleter hq hown hw).imp_right ?_
      rintro ⟨l, r, hasks, hearly⟩
      exact ⟨l, r, ⟨_, p, q, .here _ p, ⟨⟨asked, hflags⟩, husable, hunnamed⟩, hasks⟩, hearly⟩
    · obtain rfl := Except.ok.inj hown
      cases hw

/-- **What is completed where a child may be named is completed by that child**, or else by the
command's own arguments. -/
theorem completeIn_eq (o : Occasion) (f : CommandFrame) (token : String) : ∀ cs : List Command,
    completeIn o f token cs = match cs.find? (·.goesBy token) with
      | none => (do return Text.distinct (← f.completeOwn o))
      | some c => if f.mayDispatch o.source then (do let _ ← Step.next; complete o c) else return []
  | [] => by rw [completeIn]; rfl
  | c :: cs => by
    rw [completeIn]
    cases hc : c.goesBy token with
    | true => rw [List.find?_cons, hc]; rfl
    | false => rw [List.find?_cons, hc]; exact completeIn_eq o f token cs

/-- **The names of children that are offered for the last word begin with it.** -/
theorem beginsAlike_of_mem_childrenBeginning (hplain : Pattern.IsPlain last.text) {f : CommandFrame}
    {cs : List Command} (hw : w ∈ f.childrenBeginning o.source cs last.text) :
    Pattern.beginsAlike last.text.toList w.toList = true := by
  unfold CommandFrame.childrenBeginning at hw
  split at hw
  · exact Pattern.beginsAlike_of_beginsWith hplain (List.mem_filter.1 hw).2
  · cases hw

/-- **A command completes the last word, or a leaf is asked early**, unless a flag reads that word. -/
theorem begins_or_asksEarly (hplain : Pattern.IsPlain last.text) (c : Command)
    (hcompleter : ∀ param n, c.HasGrammar param → param.Has n → n.frame.completer = none)
    {p : Progress} {words : List String} (hp : p.stream.EndsIn last)
    (hspare : ¬ c.LosesLast o p last) (h : (c.complete o p).result = .ok words) (hw : w ∈ words) :
    Pattern.beginsAlike last.text.toList w.toList = true ∨
      ∃ l r, c.Asks o p l r ∧ l.OffersEarly o.host r.stream w := by
  induction c using inductionOnChildren generalizing p words with
  | node f cs ih =>
    have hown : ∀ n, f.parameter.Has n → n.frame.completer = none :=
      fun n => hcompleter _ n (.own (.node f cs))
    rw [complete] at h
    rcases hflags : f.completeFlags o cs p with ⟨b | words?, q, asked⟩
    · rw [Step.bind_of_error hflags] at h
      cases h
    have hleft := CommandFrame.leaves_completeFlags hplain
      (fun fs hfs hreads => hspare ⟨_, p, fs, .here _ p, hfs, hreads⟩)
      (fun fs hfs k hk param hparam n => hcompleter param n (.value hfs hk hparam)) hp hflags
    rw [Step.bind_of_ok hflags] at h
    -- The flags complete the last word, or leave it to the arguments and the children.
    cases words? with
    | some offered =>
      obtain rfl := Except.ok.inj h
      exact .inl (hleft w (Text.mem_distinctFrom.1 hw).1)
    | none =>
      replace hleft : q.stream.EndsIn last := hleft
      dsimp only at h
      rw [Step.here_bind] at h
      rcases hunread : q.stream.unread with _ | ⟨t, _ | ⟨u, more⟩⟩ <;> rw [hunread] at h
      · exact absurd hunread hleft.unread_ne_nil
      · refine begins_or_asksEarly_own _ hplain hown hflags ?_ ?_ hleft h hw
        · intro t' u' more' hmore
          cases hunread.symm.trans hmore
        · intro name hname
          have hlast := hleft.unread
          rw [hunread] at hlast
          obtain rfl : t = last := Option.some.inj hlast
          exact beginsAlike_of_mem_childrenBeginning hplain hname
      · -- A word in front of the last one hands the line to the child that it names.
        dsimp only at h
        rw [completeIn_eq] at h
        cases hnamed : cs.find? (·.goesBy t.text) with
        | none =>
          rw [hnamed] at h
          refine begins_or_asksEarly_own [] hplain hown hflags ?_
            (fun name hname => absurd hname List.not_mem_nil) hleft h hw
          intro t' u' more' hmore
          obtain ⟨rfl, -⟩ := List.cons.inj (hunread.symm.trans hmore)
          exact hnamed
        | some c =>
          rw [hnamed] at h
          dsimp only at h
          split at h
          · rename_i hmay
            obtain ⟨r, hnext⟩ := Step.next_of_head? (TokenStream.head?_of_unread hunread)
            obtain ⟨hrest, hsame⟩ := Progress.unread_of_next_of_cons hunread hnext
            rw [Step.bind_of_ok hnext, Report.after_nil] at h
            have hr : r.stream.EndsIn last := by
              have hlast := hleft.unread
              rw [hunread, List.getLast?_cons_cons, ← hrest] at hlast
              exact ⟨hlast, hsame.trans hleft.pending⟩
            have hc : c ∈ cs := List.mem_of_find?_eq_some hnamed
            refine (ih c hc (fun param n hparam => hcompleter param n (.child hc hparam)) hr ?_ h
              hw).imp_right ?_
            · rintro ⟨d, s, fs, hhands, hloses⟩
              exact hspare ⟨d, s, fs, .child hflags hunread hnamed hmay hnext hhands, hloses⟩
            · rintro ⟨l, v, ⟨d, s, u', hhands, hasks⟩, hearly⟩
              exact ⟨l, v, ⟨d, s, u', .child hflags hunread hnamed hmay hnext hhands, hasks⟩, hearly⟩
          · obtain rfl := Except.ok.inj h
            cases hw

end Command

end

/-- **Completions are for the last word of a line.**  What a command completes there begins with it,
ignoring case, unless a leaf is asked while words are left behind the one that it takes, or the last
word is lost to a flag. -/
theorem Command.completions_begin_with_last_word {o : Occasion} {c : Command} {line : String}
    {last : Token} {words : List String} {w : String}
    (hcompleter : ∀ param n, c.HasGrammar param → param.Has n → n.frame.completer = none)
    (hlast : (TokenStream.typedTokens c.frame.splitting line).getLast? = some last)
    (hplain : Pattern.IsPlain last.text)
    (hwords : (c.completions o line).result = .ok words) (hw : w ∈ words) :
    let start : Progress := ⟨.ofTyped c.frame.splitting line, { completing := true }⟩
    Pattern.beginsAlike last.text.toList w.toList = true ∨
      (∃ l p, c.Asks o start l p ∧ l.OffersEarly o.host p.stream w) ∨ c.LosesLast o start last := by
  intro start
  rw [← or_assoc]
  refine Classical.or_iff_not_imp_right.2 fun hspare => ?_
  exact c.begins_or_asksEarly hplain hcompleter ⟨hlast, rfl⟩ hspare hwords hw

/-- **Behind a mode, the word that is offered for `t` begins with it**: the mode is read first, so the
truth value is asked for the last word. -/
theorem Command.completed_truth_value_begins_with_last_word :
    let o : Occasion := ⟨.trusted "tester", ⟨2024, 5, 31, 12, 34, 56, 789012, none⟩, .usual⟩
    let mode : Parameter := .leaf { key := "mode" }
      (.choice (.ofList [("fast", .integer 1), ("slow", .integer 2)] true))
    let loud : Parameter := .leaf { key := "loud" } .truth
    let root : Command := .node { executor := some ⟨"quiet", fun _ _ => ⟨"", .silent⟩⟩
                                  parameter := .all {} [mode, loud], splitting := .spaced } []
    (root.completions o "fast t").result = .ok ["true"] ∧
      Pattern.beginsAlike "t".toList "true".toList = true := by
  refine ⟨?words, (Command.completions_begin_with_last_word (fun param n hparam hn => ?completer)
    (show _ = some (⟨"t", 5, 6⟩ : Token) from rfl) (fun c hc => List.mem_singleton.1 hc ▸ rfl) ?words
    List.mem_cons_self).resolve_right ?rest⟩
  case words => exact rfl
  case completer =>
    cases hparam with
    | own => rcases hn.of_pair with rfl | rfl | rfl <;> rfl
    | value flags => cases flags
    | child mem => cases mem
  case rest =>
    rintro (⟨l, v, ⟨d, q, r, hhands, hown, hasks⟩, t, more, hunread, hmore, -⟩ |
      ⟨d, q, fs, hhands, hflags, -⟩)
    · cases hhands with
      | child _ _ named => cases named
      | here =>
        obtain ⟨asked, hq⟩ := hown.flags
        obtain ⟨-, rfl, -⟩ := Report.mk.inj hq
        cases hasks with
        | all hover hgets htried hasks =>
          cases hover with
          | again _ hrepeats => cases hrepeats
          | once =>
            cases hgets with
            | here => cases congrArg Report.result htried
            | optional hmode => cases hmode
            | passed hmode hgets =>
              obtain ⟨-, rfl, -⟩ := Report.mk.inj hmode
              cases hgets with
              | optional hloud => cases hloud
              | passed _ hgets => cases hgets
              | here =>
                cases hasks with
                | leaf hover =>
                  cases hover with
                  | again _ hrepeats => cases hrepeats
                  | once => exact hmore (List.cons.inj hunread).2.symm
    · cases hhands with
      | here => cases hflags
      | child _ _ named => cases named

/-- **Completions for an earlier word**: behind a word that no argument reads, a truth value is still
offered for that word. -/
theorem Command.truth_value_is_offered_for_earlier_word :
    let o : Occasion := ⟨.trusted "tester", ⟨2024, 5, 31, 12, 34, 56, 789012, none⟩, .usual⟩
    let root : Command := .node { executor := some ⟨"quiet", fun _ _ => ⟨"", .silent⟩⟩
                                  parameter := .leaf { key := "v" } .truth } []
    (TokenStream.typedTokens root.frame.splitting "tr fo").getLast? = some ⟨"fo", 3, 5⟩ ∧
      (root.completions o "tr fo").result = .ok ["true"] ∧
      Pattern.beginsAlike "fo".toList "true".toList = false := by
  intro o root
  have htokens : TokenStream.typedTokens .quoted "tr fo" = [⟨"tr", 0, 2⟩, ⟨"fo", 3, 5⟩] := by
    decide +kernel
  refine ⟨htokens ▸ rfl, ?_, rfl⟩
  show (root.complete o ⟨.ofTokens _ (TokenStream.typedTokens .quoted "tr fo") none, _⟩).result = _
  rw [htokens]
  rfl

end CommandGrammar
