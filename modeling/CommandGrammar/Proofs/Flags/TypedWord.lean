/-
# What the flags of a line being typed leave of its last word

The walk over a line being typed reads flags as long as a word stands between the cursor and the
last one, so it is to leave the last word.  It looks ahead of a flag by one word only, though: a
parameter that reads a value of several words is not kept from the last one, and neither is a flag
that comes behind letters that `Flags.awaitedBy` does not know.

| where the walk comes to | what the arguments are completed from |
| --- | --- |
| a stop word, the last word, or an argument behind anchored flags | tokens that end in the last word |
| the end of the line | the kept tokens alone |

`Flags.WalksTo` is the walk as it goes, with nothing that counts its words; both rows are facts
about where it comes to (`Flags.completion_ends_in_last_unless_read`).
-/

import CommandGrammar.Host.Usual
import CommandGrammar.Proofs.Completing.Lines

namespace CommandGrammar

/-- The tokens that the arguments of a line being typed are completed from, where the flags have
come to `q`. -/
def FlagCompletion.left (c : FlagCompletion) (q : Progress) : List Token :=
  (c.rest.getD q.stream).unread

namespace Flags

/-- The walk over the words of a line being typed: `fs.WalksTo o stopAt p kept m` says that from `p`
it comes to `m`, and has kept the tokens `kept`, which are no flags. -/
inductive WalksTo (o : Occasion) (fs : Flags) (stopAt : String → Bool) (p : Progress) :
    List Token → Progress → Prop
  | start : WalksTo o fs stopAt p [] p
  | flag {kept : List Token} {m n : Progress} {t next : Token} {more : List Token}
      {asked : List String} (before : WalksTo o fs stopAt p kept m)
      (ahead : m.stream.unread = t :: next :: more)
      (goesOn : (kept.isEmpty && stopAt t.text) = false)
      (reads : (if looksLikeFlag t.text && more.isEmpty then fs.awaitedBy o t.text else none) = none)
      (one : fs.tryOne o m = ⟨.ok true, n, asked⟩) : WalksTo o fs stopAt p kept n
  | keep {kept : List Token} {m n : Progress} {t next : Token} {more : List Token}
      {asked : List String} (before : WalksTo o fs stopAt p kept m)
      (ahead : m.stream.unread = t :: next :: more)
      (goesOn : (kept.isEmpty && stopAt t.text) = false)
      (reads : (if looksLikeFlag t.text && more.isEmpty then fs.awaitedBy o t.text else none) = none)
      (one : fs.tryOne o m = ⟨.ok false, m, asked⟩) (free : fs.anchored = false)
      (read : Step.next m = ⟨.ok t.text, n, []⟩) : WalksTo o fs stopAt p (kept ++ [t]) n

variable {o : Occasion} {fs : Flags} {stopAt : String → Bool} {p q m : Progress}
  {kept : List Token} {last : Token} {c : FlagCompletion} {asked : List String}

/-- **Where the walk comes to, some of the tokens are kept and the rest is unread.** -/
theorem WalksTo.sublist (h : fs.WalksTo o stopAt p kept m) :
    p.Onward m ∧ (kept ++ m.stream.unread).Sublist p.stream.unread := by
  induction h with
  | start => exact ⟨.refl p, .refl _⟩
  | @flag kept m n t next more asked before ahead goesOn reads one ih =>
    obtain ⟨hmn, u, values, hunread, -⟩ := of_readOne_true (readOne_of_tryOne_true one)
    refine ⟨ih.1.trans hmn, .trans ?_ ih.2⟩
    rw [hunread]
    exact (List.Sublist.refl kept).append
      ((List.sublist_append_right values _).trans (List.sublist_cons_self u _))
  | @keep kept m n t next more asked before ahead goesOn reads one free read ih =>
    obtain ⟨hunread, hmn⟩ := Progress.unread_of_next (TokenStream.head?_of_unread ahead) read
    refine ⟨ih.1.trans hmn, ?_⟩
    rw [List.append_assoc, List.singleton_append, ← hunread]
    exact ih.2

/-- **Anchored flags keep nothing.** -/
theorem WalksTo.kept_of_anchored (h : fs.WalksTo o stopAt p kept m) (ha : fs.anchored = true) :
    kept = [] := by
  induction h with
  | start => rfl
  | flag _ _ _ _ _ ih => exact ih
  | keep _ _ _ _ _ free => rw [ha] at free; cases free

/-- **The walk leaves the last word if it leaves anything.** -/
theorem WalksTo.getLast?_unread (h : fs.WalksTo o stopAt p kept m)
    (hlast : p.stream.unread.getLast? = some last) (hm : m.stream.unread ≠ []) :
    m.stream.unread.getLast? = some last := by
  obtain ⟨read, hread⟩ := h.sublist.1.exists_unread
  exact getLast?_of_append (hread ▸ hlast) hm

/-- **The walk comes to the end of the line only by a flag** that is read in front of the last
word. -/
theorem WalksTo.exists_flag (h : fs.WalksTo o stopAt p kept m)
    (hlast : p.stream.unread.getLast? = some last) (hm : m.stream.unread = []) :
    ∃ l asked, fs.WalksTo o stopAt p kept l ∧ 1 < l.stream.unread.length ∧
      l.stream.unread.getLast? = some last ∧ readOne o fs l = ⟨.ok true, m, asked⟩ := by
  cases h with
  | start =>
    rw [hm] at hlast
    cases hlast
  | @flag _ l _ t next more asked before ahead goesOn reads one =>
    refine ⟨l, asked, before, ?_, before.getLast?_unread hlast ?_, readOne_of_tryOne_true one⟩
    · rw [ahead]
      exact Nat.succ_lt_succ (Nat.zero_lt_succ _)
    · rw [ahead]
      exact List.cons_ne_nil _ _
  | @keep kept l _ t next more _ before ahead goesOn reads one free read =>
    obtain ⟨hunread, -⟩ := Progress.unread_of_next (TokenStream.head?_of_unread ahead) read
    rw [hm, ahead] at hunread
    cases hunread

/-- **What is kept at the end of the line stood before the last word.** -/
theorem WalksTo.keeps_before_last (h : fs.WalksTo o stopAt p kept m)
    (hlast : p.stream.unread.getLast? = some last) (hm : m.stream.unread = []) :
    (kept ++ [last]).Sublist p.stream.unread := by
  obtain ⟨l, -, before, -, hl, -⟩ := h.exists_flag hlast hm
  obtain ⟨front, hfront⟩ := List.getLast?_eq_some_iff.1 hl
  refine .trans ?_ before.sublist.2
  rw [hfront]
  exact (List.Sublist.refl kept).append (List.sublist_append_right front [last])

/-- **The last word is lost only to a flag**, as a part of its value. -/
theorem WalksTo.readsLast (h : fs.WalksTo o stopAt p kept m)
    (hlast : p.stream.unread.getLast? = some last) (hm : m.stream.unread = []) :
    fs.ReadsLast o p.stream.unread last := by
  obtain ⟨l, asked, before, hlong, hl, hone⟩ := h.exists_flag hlast hm
  obtain ⟨-, t, values, hunread, hlooks, hvalue⟩ := of_readOne_true hone
  rw [hm, List.append_nil] at hunread
  have hne : values ≠ [] := by
    rintro rfl
    rw [hunread] at hlong
    exact absurd hlong (Nat.lt_irrefl 1)
  obtain ⟨k, -, hk, hread⟩ := hvalue.resolve_left hne
  have hreads := hread.readsValue hk
  rw [hm] at hreads
  rw [hunread] at hl
  obtain ⟨front, rfl⟩ := List.getLast?_eq_some_iff.1 (getLast?_of_append (a := [t]) hl hne)
  obtain ⟨read, hread⟩ := before.sublist.1.exists_unread
  exact ⟨t, front, ⟨read, by rw [hread, hunread]; rfl⟩, hlooks, hreads⟩

/-- What the counted walk comes to, seen from the walk as it goes. -/
def Walk.ComesFrom (o : Occasion) (fs : Flags) (stopAt : String → Bool) (p q : Progress) :
    Walk → Prop
  | .ended c => c.words = none → ∃ m, fs.WalksTo o stopAt p [] m ∧ m.stream.unread ≠ [] ∧
      c.rest = some (.ofTokens m.stream.raw m.stream.unread none)
  | .over kept _ => fs.WalksTo o stopAt p kept q

/-- **The counted walk is the walk as it goes.** -/
theorem comesFrom_walk : ∀ (n : Nat) {kept : List Token} {started : Bool} {m q : Progress}
    {w : Walk} {asked : List String}, fs.WalksTo o stopAt p kept m →
    fs.walk o stopAt n kept started m = ⟨.ok w, q, asked⟩ → w.ComesFrom o fs stopAt p q
  | 0, kept, started, m, q, w, asked, hm, h => by
    obtain ⟨hw, rfl, -⟩ := Report.mk.inj h
    cases hw
    exact hm
  | n + 1, kept, started, m, q, w, asked, hm, h => by
    cases walkRound_of_walk h with
    | ended => exact hm
    | stopped ahead stop =>
      rw [List.isEmpty_iff.1 (Bool.and_eq_true_iff.1 stop).1] at hm
      exact fun _ => ⟨m, hm, by rw [ahead]; exact List.cons_ne_nil _ _, by rw [ahead]⟩
    | value ahead reads read completes => exact fun hnone => nomatch hnone
    | flag ahead goesOn reads one rest =>
      exact comesFrom_walk n (hm.flag ahead goesOn reads one) rest
    | anchored bound => exact hm
    | keep ahead goesOn reads one free read rest =>
      exact comesFrom_walk n (hm.keep ahead goesOn reads one free read) rest

/-- **The walk goes one way**: where it comes to, the counted walk comes to as well, with enough
words left to count. -/
theorem WalksTo.exists_walk (h : fs.WalksTo o stopAt p kept m) :
    ∃ n started asked, m.stream.unread.length ≤ n ∧
      fs.walk o stopAt p.stream.unread.length [] false p =
        (fs.walk o stopAt n kept started m).after asked := by
  have hround : ∀ {k : List Token} {l : Progress} {t next : Token} {more : List Token} {n : Nat},
      l.stream.unread = t :: next :: more → l.stream.unread.length ≤ n → ∃ i, n = i + 1 :=
    fun hunread hn => by
      rw [hunread, List.length_cons] at hn
      exact Nat.exists_eq_add_one.2 (by omega)
  induction h with
  | start => exact ⟨_, false, [], Nat.le_refl _, (Report.after_nil _).symm⟩
  | @flag kept l r t next more xs before ahead goesOn reads one ih =>
    obtain ⟨n, started, asked, hn, hwalk⟩ := ih
    obtain ⟨i, rfl⟩ := hround (k := kept) ahead hn
    have hless := unread_length_of_readOne_true (readOne_of_tryOne_true one)
    refine ⟨i, started, asked ++ xs, by omega, ?_⟩
    rw [hwalk, walk_succ, ahead]
    dsimp only
    rw [goesOn, if_neg Bool.false_ne_true, reads]
    dsimp only
    rw [Step.bind_of_ok one, if_pos rfl]
    unfold Report.after
    dsimp only
    rw [List.append_assoc]
  | @keep kept l r t next more xs before ahead goesOn reads one free read ih =>
    obtain ⟨n, started, asked, hn, hwalk⟩ := ih
    obtain ⟨i, rfl⟩ := hround (k := kept) ahead hn
    obtain ⟨hunread, -⟩ := Progress.unread_of_next (TokenStream.head?_of_unread ahead) read
    rw [hunread, List.length_cons] at hn
    refine ⟨i, true, asked ++ xs, by omega, ?_⟩
    rw [hwalk, walk_succ, ahead]
    dsimp only
    rw [goesOn, if_neg Bool.false_ne_true, reads]
    dsimp only
    rw [Step.bind_of_ok one, if_neg Bool.false_ne_true, free, if_neg Bool.false_ne_true,
      Step.bind_of_ok read, Report.after_nil]
    unfold Report.after
    dsimp only
    rw [List.append_assoc]

/-- **What a walk that is over leaves is left to the arguments**, behind the tokens it has kept. -/
theorem left_of_over {started : Bool} {xs : List String}
    (hwalk : fs.walk o stopAt p.stream.unread.length [] false p =
      ⟨.ok (.over kept started), m, xs⟩) (hm : fs.WalksTo o stopAt p kept m)
    (h : fs.complete o stopAt p = ⟨.ok c, q, asked⟩) (hwords : c.words = none) :
    c.left q = kept ++ m.stream.unread := by
  unfold complete at h
  rw [Step.here_bind] at h
  obtain ⟨w, l, _, _, hwalk', h, -⟩ := Step.exists_of_bind_ok h
  obtain ⟨hw, rfl, -⟩ := Report.mk.inj (hwalk.symm.trans hwalk')
  cases hw
  dsimp only at h
  rw [Step.here_bind] at h
  generalize (if started && fs.anchored then none else m.stream.unread.getLast?.filter fun t =>
    Text.beginsWith "-" t.text && !isNegativeNumber t.text) = own at h
  cases own with
  | some t =>
    obtain ⟨words, _, _, _, -, h, -⟩ := Step.exists_of_bind_ok h
    obtain ⟨hc, -, -⟩ := Report.mk.inj h
    cases hc
    cases hwords
  | none =>
    dsimp only at h
    split at h
    · rename_i hanchored
      obtain ⟨hc, rfl, -⟩ := Report.mk.inj h
      cases hc
      rw [hm.kept_of_anchored hanchored]
      rfl
    · obtain ⟨hc, -, -⟩ := Report.mk.inj h
      cases hc
      rfl

/-- **Flags leave the last word of a line being typed unless they read it.**  When the flags
complete nothing themselves, the tokens that are left to the arguments end in the last word of the
line, as long as the walk does not come to the end of the line.  It comes there only when a flag
takes the last word into its value, and then what is left are the kept tokens, without that word. -/
theorem completion_ends_in_last_unless_read (o : Occasion) (fs : Flags) (stopAt : String → Bool)
    {p q : Progress} {c : FlagCompletion} {asked : List String} {last : Token}
    (hlast : p.stream.unread.getLast? = some last)
    (h : fs.complete o stopAt p = ⟨.ok c, q, asked⟩) (hwords : c.words = none) :
    ((∀ kept m, fs.WalksTo o stopAt p kept m → m.stream.unread ≠ []) →
      ∃ front, c.left q = front ++ [last] ∧ (front ++ [last]).Sublist p.stream.unread) ∧
    ∀ kept m, fs.WalksTo o stopAt p kept m → m.stream.unread = [] →
      c.left q = kept ∧ (kept ++ [last]).Sublist p.stream.unread ∧
        fs.ReadsLast o p.stream.unread last := by
  constructor
  · intro hnever
    have hstart := h
    unfold complete at hstart
    rw [Step.here_bind] at hstart
    obtain ⟨w, m, _, _, hwalk, hrest, -⟩ := Step.exists_of_bind_ok hstart
    have hcomes := comesFrom_walk _ .start hwalk
    -- Either way the walk has come to tokens that end in the last word.
    obtain ⟨kept, l, hl, hleft⟩ : ∃ kept l, fs.WalksTo o stopAt p kept l ∧
        c.left q = kept ++ l.stream.unread := by
      rcases w with c' | ⟨kept, started⟩
      · obtain ⟨hc, -, -⟩ := Report.mk.inj hrest
        cases hc
        obtain ⟨l, hl, -, hstream⟩ := hcomes hwords
        refine ⟨[], l, hl, ?_⟩
        unfold FlagCompletion.left
        rw [hstream]
        rfl
      · exact ⟨kept, m, hcomes, left_of_over hwalk hcomes h hwords⟩
    obtain ⟨front, hfront⟩ :=
      List.getLast?_eq_some_iff.1 (hl.getLast?_unread hlast (hnever kept l hl))
    refine ⟨kept ++ front, ?_, ?_⟩
    · rw [hleft, hfront, List.append_assoc]
    · rw [List.append_assoc, ← hfront]
      exact hl.sublist.2
  · intro kept m hm hnil
    obtain ⟨n, started, xs, -, hwalk⟩ := hm.exists_walk
    have hover : fs.walk o stopAt n kept started m = ⟨.ok (.over kept started), m, []⟩ := by
      cases n with
      | zero => rfl
      | succ n => rw [walk_succ, hnil]
    rw [hover] at hwalk
    refine ⟨?_, hm.keeps_before_last hlast hnil, hm.readsLast hlast hnil⟩
    rw [left_of_over hwalk hm h hwords, hnil, List.append_nil]

/-- **A switch leaves the word that is being typed behind it.** -/
theorem word_behind_switch_is_left :
    let o : Occasion := ⟨.bare "tester", ⟨2024, 5, 31, 12, 34, 56, 789012, none⟩, .usual⟩
    let fs : Flags := { flags := [⟨"q", [], .switch none⟩] }
    let p : Progress := .ofStream (.ofTyped .spaced "-q wo")
    let c : FlagCompletion := ⟨some (.ofTokens "-q wo" [⟨"wo", 3, 5⟩] none), none⟩
    p.stream.unread.getLast? = some ⟨"wo", 3, 5⟩ ∧ c.words = none ∧
      (fs.complete o (fun _ => false) p).result = .ok c ∧
      ∃ front, c.left (fs.complete o (fun _ => false) p).progress = front ++ [⟨"wo", 3, 5⟩] ∧
        (front ++ [⟨"wo", 3, 5⟩]).Sublist p.stream.unread := by
  intro o fs p c
  have hlast : p.stream.unread.getLast? = some ⟨"wo", 3, 5⟩ := rfl
  have hrun : (fs.complete o (fun _ => false) p).result = .ok c := rfl
  obtain ⟨hleaves, -⟩ := completion_ends_in_last_unless_read o fs (fun _ => false) hlast
    (congrArg (Report.mk · _ _) hrun) rfl
  refine ⟨hlast, rfl, hrun, hleaves fun kept m hm hnil => ?_⟩
  -- No flag of the set reads a value.
  obtain ⟨_, _, _, _, f, param, _, _, _, hflag, -⟩ := hm.readsLast hlast hnil
  obtain rfl := List.mem_singleton.1 hflag.mem
  cases hflag.reads

/-- **A flag that reads several words takes the word that is being typed**: behind `--tag`, which
takes all that follows, the arguments of `--tag a b` are completed from nothing, although `b` is
still typed. -/
theorem typed_word_is_read_as_value :
    let o : Occasion := ⟨.bare "tester", ⟨2024, 5, 31, 12, 34, 56, 789012, none⟩, .usual⟩
    let tag : Parameter := .leaf { key := "tag", modifiers := [.allOf] } .text
    let fs : Flags := { flags := [⟨"tag", [], .valued tag⟩] }
    let p : Progress := .ofStream (.ofTyped .quoted "--tag a b")
    ¬∀ c q asked last, p.stream.unread.getLast? = some last →
      fs.complete o (fun _ => false) p = ⟨.ok c, q, asked⟩ → c.words = none →
        (c.left q).getLast? = some last := by
  intro o tag fs p h
  obtain ⟨x, hx⟩ : ∃ x, fs.complete o (fun _ => false) p = x := ⟨_, rfl⟩
  have hrun : (match x.result with
      | .ok c => c.words.isNone && (c.left x.progress).isEmpty
      | .error _ => false) = true := by
    rw [← hx]
    decide +kernel
  obtain ⟨result, q, asked⟩ := x
  cases result with
  | error e => cases hrun
  | ok c =>
    obtain ⟨hwords, hleft⟩ := Bool.and_eq_true_iff.1 hrun
    have hlast := h c q asked ⟨"b", 8, 9⟩ (by decide +kernel) hx (Option.isNone_iff_eq_none.1 hwords)
    rw [List.isEmpty_iff.1 hleft] at hlast
    cases hlast

end Flags
end CommandGrammar
