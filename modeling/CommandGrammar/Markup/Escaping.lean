/-
# Escaped text is shown

A text that is escaped has no tags: each of them stands behind an odd number of backslashes.  So
markup that puts an escaped text into a style can always be shown, whatever the text is.

The proof goes over the text from one run of backslashes to the next.  What ends such a run decides
about it: a tag, which the escaping has put more backslashes before, another character, or the end
of the text, where the run may reach into the closing tag and spoil it; then the style stays open.

| run ends at | in the escaped text |
| --- | --- |
| a tag | the run is odd, and the tag is text |
| a character that begins no tag | it begins none, either (`tag?_escapeTags`) |
| the end | what follows is shown behind any run |
-/

import CommandGrammar.Markup

namespace CommandGrammar
namespace Markup

variable {stack : List String} {body cs ds rest tail : List Char} {c d : Char} {k m n : Nat}

/-- With the styles of `stack` open, markup can be shown. -/
def Shows (stack : List String) (cs : List Char) : Prop :=
  ∀ n i read, ∃ text, textOf stack (piecesFrom n i read cs) = .ok text

/-- **Plain characters are shown in front of the rest.** -/
theorem textOf_plain (stack : List String) (cs : List Char) (rest : List Piece) :
    textOf stack (.plain cs :: rest) = (textOf stack rest).map (plainText cs ++ ·) := rfl

/-- **Plain characters can be shown wherever the rest can.** -/
theorem exists_textOf_plain {pieces : List Piece} (h : ∃ text, textOf stack pieces = .ok text) :
    ∃ text, textOf stack (.plain cs :: pieces) = .ok text := by
  obtain ⟨text, ht⟩ := h
  exact ⟨plainText cs ++ text, by rw [textOf_plain, ht]; rfl⟩

/-- **Nothing can be shown in any style.** -/
theorem shows_nil (stack : List String) : Shows stack [] := fun n _ _ => by
  cases n <;> exact exists_textOf_plain ⟨[], rfl⟩

/-- **A character that begins no tag is shown.** -/
theorem Shows.cons (h : Shows stack cs)
    (htag : tag? ((c :: cs).drop (backslashes (c :: cs))) = none) : Shows stack (c :: cs) :=
  fun n i read => by
  cases n with
  | zero => exact exists_textOf_plain ⟨[], rfl⟩
  | succ n =>
    unfold piecesFrom
    dsimp only
    rw [htag]
    exact h n _ _

/-- What a tag leaves open. -/
inductive Opens (stack : List String) (body : List Char) : List String → Prop
  | style {name : List Char} (hname : body.takeWhile (· != '=') = name)
      (hopen : name.head? ≠ some '/') : Opens stack body (styleName (String.ofList name) :: stack)
  | closed {s : String} {outer : List String} (hstack : stack = s :: outer) (hbody : body = ['/']) :
      Opens stack body outer

/-- **A tag that opens or closes a style is followed by what is shown then.** -/
theorem Opens.textOf_tag {stack' : List String} (h : Opens stack body stack') (i : Nat)
    (pieces : List Piece) : textOf stack (.tag body i :: pieces) = textOf stack' pieces := by
  cases h with
  | @style name hname hopen =>
    rw [textOf.eq_def]
    dsimp only
    rw [hname]
    split
    · exact absurd rfl hopen
    · rfl
  | closed hstack hbody =>
    rw [hstack, hbody]
    rfl

/-- **A tag behind an even number of backslashes is shown if it opens a style or closes one.** -/
theorem Shows.tag {stack' : List String} (h : Shows stack' rest) (hopens : Opens stack body stack')
    (htag : tag? ((c :: cs).drop (backslashes (c :: cs))) = some (body, rest))
    (heven : backslashes (c :: cs) % 2 = 0) : Shows stack (c :: cs) := fun n i read => by
  cases n with
  | zero => exact exists_textOf_plain ⟨[], rfl⟩
  | succ n =>
    unfold piecesFrom
    dsimp only
    rw [htag]
    dsimp only
    rw [if_pos heven]
    refine exists_textOf_plain (exists_textOf_plain ?_)
    show ∃ text, textOf stack (.tag body (i + backslashes (c :: cs)) :: _) = .ok text
    rw [hopens.textOf_tag]
    exact h n _ []

/-- **A tag behind an odd number of backslashes is shown as text.** -/
theorem Shows.escaped (h : Shows stack rest)
    (htag : tag? ((c :: cs).drop (backslashes (c :: cs))) = some (body, rest))
    (hodd : backslashes (c :: cs) % 2 = 1) : Shows stack (c :: cs) := fun n i read => by
  cases n with
  | zero => exact exists_textOf_plain ⟨[], rfl⟩
  | succ n =>
    unfold piecesFrom
    dsimp only
    rw [htag]
    dsimp only
    rw [if_neg (by omega)]
    exact exists_textOf_plain (exists_textOf_plain (exists_textOf_plain (h n _ _)))

/-- The first character of a text is not a backslash. -/
def NoBackslash (cs : List Char) : Prop := cs.head? ≠ some '\\'

/-- **A text begins with a run of backslashes.** -/
theorem eq_backslashes_append (cs : List Char) :
    ∃ k rest, cs = List.replicate k '\\' ++ rest ∧ NoBackslash rest := by
  induction cs with
  | nil => exact ⟨0, [], rfl, by simp [NoBackslash]⟩
  | cons c cs ih =>
    by_cases hc : c = '\\'
    · obtain ⟨k, rest, rfl, hrest⟩ := ih
      exact ⟨k + 1, rest, by rw [hc]; rfl, hrest⟩
    · exact ⟨0, c :: cs, rfl, by simpa [NoBackslash] using hc⟩

/-- **Backslashes in front of another character are counted.** -/
theorem backslashes_replicate_append (k : Nat) (h : NoBackslash rest) :
    backslashes (List.replicate k '\\' ++ rest) = k := by
  unfold backslashes
  induction k with
  | zero =>
    rcases rest with _ | ⟨d, ds⟩
    · rfl
    · have hd : (d == '\\') = false := by simpa [NoBackslash] using h
      rw [List.replicate_zero, List.nil_append, List.takeWhile_cons, hd]
      rfl
  | succ k ih =>
    rw [List.replicate_succ, List.cons_append, List.takeWhile_cons]
    simpa using ih

/-- **Dropping the backslashes leaves what is behind them.** -/
theorem drop_replicate_append (k : Nat) (rest : List Char) :
    (List.replicate k '\\' ++ rest).drop k = rest :=
  List.drop_left' List.length_replicate

/-- **A run of backslashes before a character that begins no tag is shown.** -/
theorem Shows.run (h : Shows stack cs) (htag : tag? (d :: cs) = none) (hd : NoBackslash (d :: cs)) :
    ∀ k, Shows stack (List.replicate k '\\' ++ d :: cs)
  | 0 => by
    refine h.cons ?_
    rw [show backslashes (d :: cs) = 0 from backslashes_replicate_append 0 hd]
    exact htag
  | k + 1 => by
    refine (h.run htag hd k).cons ?_
    have hk : backslashes ('\\' :: (List.replicate k '\\' ++ d :: cs)) = k + 1 :=
      backslashes_replicate_append (k + 1) hd
    rw [hk]
    exact (congrArg tag? (drop_replicate_append (k + 1) (d :: cs))).trans htag

/-- **Backslashes alone are shown.** -/
theorem shows_replicate (stack : List String) : ∀ k, Shows stack (List.replicate k '\\' ++ [])
  | 0 => shows_nil stack
  | k + 1 => by
    refine (shows_replicate stack k).cons ?_
    have hk : backslashes ('\\' :: (List.replicate k '\\' ++ [])) = k + 1 :=
      backslashes_replicate_append (k + 1) (by simp [NoBackslash])
    rw [hk]
    exact congrArg tag? (drop_replicate_append (k + 1) [])

/-- **Taking off a run of backslashes leaves what it ends at.** -/
theorem exists_cons_of_run (k : Nat) (hd : NoBackslash (d :: ds)) :
    ∃ c cs, List.replicate k '\\' ++ d :: ds = c :: cs ∧ backslashes (c :: cs) = k ∧
      (c :: cs).drop (backslashes (c :: cs)) = d :: ds := by
  have hk := backslashes_replicate_append k hd
  have hdrop := drop_replicate_append k (d :: ds)
  generalize hcs : List.replicate k '\\' ++ d :: ds = cs at hk hdrop ⊢
  rcases cs with _ | ⟨c, cs⟩
  · cases k <;> cases hcs
  · exact ⟨c, cs, rfl, hk, by rw [hk]; exact hdrop⟩

/-- **A tag behind an odd run of backslashes is shown as text.** -/
theorem Shows.run_escaped (h : Shows stack rest) (htag : tag? (d :: ds) = some (body, rest))
    (hd : NoBackslash (d :: ds)) (hodd : k % 2 = 1) :
    Shows stack (List.replicate k '\\' ++ d :: ds) := by
  obtain ⟨c, cs, hcs, hk, hdrop⟩ := exists_cons_of_run k hd
  rw [hcs]
  exact h.escaped (by rw [hdrop]; exact htag) (by rw [hk]; exact hodd)

/-- **The tag that closes any style is shown behind any run of backslashes**, if one is open. -/
theorem shows_closing (s : String) (stack : List String) (k : Nat) :
    Shows (s :: stack) (List.replicate k '\\' ++ ['[', '/', ']']) := by
  have hd : NoBackslash ['[', '/', ']'] := by simp [NoBackslash]
  rcases Nat.mod_two_eq_zero_or_one k with hmod | hmod
  · obtain ⟨c, cs, hcs, hk, hdrop⟩ := exists_cons_of_run k hd
    rw [hcs]
    exact (shows_nil stack).tag (.closed rfl rfl) (by rw [hdrop]; rfl) (by rw [hk]; exact hmod)
  · exact (shows_nil _).run_escaped rfl hd hmod

section escaping

/-- **A character that is no bracket stands inside the tag.** -/
theorem untilClosed?_cons (hclose : c ≠ ']') (hopen : c ≠ '[') (cs : List Char) :
    untilClosed? (c :: cs) = (untilClosed? cs).map fun x => (c :: x.1, x.2) :=
  untilClosed?.eq_4 c cs hclose hopen

/-- **A tag is closed by the next closing bracket**, whatever follows. -/
theorem of_untilClosed? : ∀ {cs body rest : List Char}, untilClosed? cs = some (body, rest) →
    cs = body ++ ']' :: rest ∧ ∀ more, untilClosed? (body ++ ']' :: more) = some (body, more)
  | [], _, _, h => by cases h
  | c :: cs, body, rest, h => by
    by_cases hclose : c = ']'
    · subst hclose
      cases h
      exact ⟨rfl, fun _ => rfl⟩
    · by_cases hopen : c = '['
      · subst hopen
        cases h
      · rw [untilClosed?_cons hclose hopen] at h
        obtain ⟨⟨b, r⟩, hb, heq⟩ := Option.map_eq_some_iff.1 h
        cases heq
        obtain ⟨rfl, hmore⟩ := of_untilClosed? hb
        refine ⟨rfl, fun more => ?_⟩
        rw [List.cons_append, untilClosed?_cons hclose hopen, hmore]
        rfl

/-- **Brackets with the beginning of a tag between them are a tag.** -/
theorem tag?_cons (hc : beginsTag c = true) (cs : List Char) :
    tag? ('[' :: c :: cs) = (untilClosed? cs).map fun x => (c :: x.1, x.2) := by
  show (if beginsTag c then _ else _) = _
  rw [if_pos hc]

/-- **Nothing else is one.** -/
theorem tag?_of_ne (h : d ≠ '[') : tag? (d :: ds) = none := by
  unfold tag?
  split
  · rename_i heq
    exact absurd (List.cons.inj heq).1 h
  · rfl

/-- **No tag begins with what may not stand at its head.** -/
theorem tag?_of_head (h : ∀ c, cs.head? = some c → beginsTag c = false) :
    tag? ('[' :: cs) = none := by
  rcases cs with _ | ⟨c, cs⟩
  · rfl
  · show (if beginsTag c then _ else _) = _
    rw [h c rfl]
    rfl

/-- **A tag is its brackets with what stands between them**, whatever follows. -/
theorem of_tag? (h : tag? (d :: ds) = some (body, rest)) :
    d = '[' ∧ ds = body ++ ']' :: rest ∧
      ∀ more, tag? ('[' :: (body ++ ']' :: more)) = some (body, more) := by
  by_cases hd : d = '['
  · subst hd
    rcases ds with _ | ⟨c, cs⟩
    · cases h
    · by_cases hc : beginsTag c = true
      · rw [tag?_cons hc] at h
        obtain ⟨⟨b, r⟩, hb, heq⟩ := Option.map_eq_some_iff.1 h
        cases heq
        obtain ⟨rfl, hmore⟩ := of_untilClosed? hb
        refine ⟨rfl, rfl, fun more => ?_⟩
        rw [List.cons_append, tag?_cons hc, hmore]
        rfl
      · rw [tag?_of_head fun x hx => by cases hx; exact Bool.not_eq_true _ ▸ hc] at h
        cases h
  · rw [tag?_of_ne hd] at h
    cases h

/-- What may follow an escaped text: it is shown behind any run of backslashes, and it finishes no
tag that the text begins. -/
structure Follows (stack : List String) (tail : List Char) : Prop where
  shown : ∀ k, Shows stack (List.replicate k '\\' ++ tail)
  head : ∀ c, tail.head? = some c → beginsTag c = false
  unclosed : untilClosed? tail = none

/-- **Escaping copies a character that ends no run of backslashes before a tag.** -/
theorem escapeTags_cons (htag : tag? ((c :: cs).drop (backslashes (c :: cs))) = none) (n : Nat) :
    escapeTags (n + 1) (c :: cs) = c :: escapeTags n cs := by
  rw [escapeTags.eq_def]
  dsimp only
  rw [htag]

/-- **Escaping makes a run of backslashes before a tag odd.** -/
theorem escapeTags_tag
    (htag : tag? ((c :: cs).drop (backslashes (c :: cs))) = some (body, rest)) (n : Nat) :
    escapeTags (n + 1) (c :: cs) =
      List.replicate (2 * backslashes (c :: cs) + 1) '\\' ++
        '[' :: (body ++ ']' :: escapeTags n rest) := by
  rw [escapeTags.eq_def]
  dsimp only
  rw [htag]
  simp only [List.append_assoc, List.cons_append]

/-- **Escaping a run of backslashes that ends at no tag leaves it.** -/
theorem escapeTags_run (htag : tag? (d :: ds) = none) (hd : NoBackslash (d :: ds)) :
    ∀ k n, k + ds.length < n → ∃ m, ds.length ≤ m ∧
      escapeTags n (List.replicate k '\\' ++ d :: ds) =
        List.replicate k '\\' ++ d :: escapeTags m ds
  | 0, n + 1, hn => by
    refine ⟨n, by omega, escapeTags_cons ?_ n⟩
    rw [show backslashes (d :: ds) = 0 from backslashes_replicate_append 0 hd]
    exact htag
  | k + 1, n + 1, hn => by
    obtain ⟨m, hm, hrun⟩ := escapeTags_run htag hd k n (by omega)
    refine ⟨m, hm, ?_⟩
    have hk : backslashes ('\\' :: (List.replicate k '\\' ++ d :: ds)) = k + 1 :=
      backslashes_replicate_append (k + 1) hd
    have hcons : escapeTags (n + 1) ('\\' :: (List.replicate k '\\' ++ d :: ds)) =
        '\\' :: escapeTags n (List.replicate k '\\' ++ d :: ds) := by
      refine escapeTags_cons ?_ n
      rw [hk]
      exact (congrArg tag? (drop_replicate_append (k + 1) (d :: ds))).trans htag
    exact hcons.trans (congrArg ('\\' :: ·) hrun)

/-- **Backslashes alone need no escaping.** -/
theorem escapeTags_replicate : ∀ k n, escapeTags n (List.replicate k '\\') = List.replicate k '\\'
  | 0, n => by cases n <;> rfl
  | k + 1, 0 => rfl
  | k + 1, n + 1 => by
    have hk : backslashes ('\\' :: List.replicate k '\\') = k + 1 := by
      have hrun : backslashes (List.replicate (k + 1) '\\' ++ []) = k + 1 :=
        backslashes_replicate_append (k + 1) (by simp [NoBackslash])
      rwa [List.append_nil] at hrun
    have hcons : escapeTags (n + 1) ('\\' :: List.replicate k '\\') =
        '\\' :: escapeTags n (List.replicate k '\\') := by
      refine escapeTags_cons ?_ n
      rw [hk, List.drop_eq_nil_of_le (by simp)]
      rfl
    exact hcons.trans (congrArg ('\\' :: ·) (escapeTags_replicate k n))

/-- **A bracket that opens ends the search for one that closes.** -/
theorem untilClosed?_replicate (k : Nat) (cs : List Char) :
    untilClosed? (List.replicate k '\\' ++ '[' :: cs) = none := by
  induction k with
  | zero => rfl
  | succ k ih =>
    rw [List.replicate_succ, List.cons_append, untilClosed?_cons (by decide) (by decide), ih]
    rfl

/-- **An unclosed bracket stays unclosed.** -/
theorem untilClosed?_escapeTags (htail : untilClosed? tail = none) : ∀ (n : Nat) (cs : List Char),
    cs.length ≤ n → untilClosed? cs = none → untilClosed? (escapeTags n cs ++ tail) = none
  | n, [], _, _ => by cases n <;> exact htail
  | n + 1, c :: cs, hn, h => by
    rcases htag : tag? ((c :: cs).drop (backslashes (c :: cs))) with _ | ⟨body, rest⟩
    · rw [escapeTags_cons htag]
      by_cases hclose : c = ']'
      · subst hclose
        cases h
      · by_cases hopen : c = '['
        · subst hopen
          rfl
        · rw [untilClosed?_cons hclose hopen] at h
          have hcs := untilClosed?_escapeTags htail n cs (Nat.le_of_succ_le_succ hn)
            (Option.map_eq_none_iff.1 h)
          rw [List.cons_append, untilClosed?_cons hclose hopen, hcs]
          rfl
    · rw [escapeTags_tag htag, List.append_assoc]
      exact untilClosed?_replicate _ _

/-- **A character that begins no tag begins none when what follows is escaped.** -/
theorem tag?_escapeTags (htail : Follows stack tail) (htag : tag? (d :: ds) = none)
    (hn : ds.length ≤ n) : tag? (d :: (escapeTags n ds ++ tail)) = none := by
  by_cases hd : d = '['
  · subst hd
    rcases ds with _ | ⟨x, xs⟩
    · rw [show escapeTags n [] = [] by cases n <;> rfl]
      exact tag?_of_head htail.head
    · obtain ⟨m, rfl⟩ := Nat.exists_eq_succ_of_ne_zero (Nat.ne_of_gt (Nat.lt_of_lt_of_le
        (Nat.succ_pos xs.length) hn))
      rcases hx : tag? ((x :: xs).drop (backslashes (x :: xs))) with _ | ⟨body, rest⟩
      · rw [escapeTags_cons hx, List.cons_append]
        by_cases hbegins : beginsTag x = true
        · rw [tag?_cons hbegins] at htag ⊢
          rw [untilClosed?_escapeTags htail.unclosed m xs (Nat.le_of_succ_le_succ hn)
            (Option.map_eq_none_iff.1 htag)]
          rfl
        · refine tag?_of_head fun y hy => ?_
          cases hy
          exact Bool.not_eq_true _ ▸ hbegins
      · -- Escaping puts a backslash behind the bracket.
        rw [escapeTags_tag hx]
        refine tag?_of_head fun y hy => ?_
        cases hy
        rfl
  · exact tag?_of_ne hd

/-- **An escaped text is shown, with what may follow it.** -/
theorem shows_escapeTags (htail : Follows stack tail) : ∀ (N : Nat) (cs : List Char) (n : Nat),
    cs.length < N → cs.length ≤ n → Shows stack (escapeTags n cs ++ tail)
  | N + 1, cs, n, hN, hn => by
    obtain ⟨k, rest, rfl, hrest⟩ := eq_backslashes_append cs
    rw [List.length_append, List.length_replicate] at hN hn
    rcases rest with _ | ⟨d, ds⟩
    · rw [List.append_nil, escapeTags_replicate]
      exact htail.shown k
    · rw [List.length_cons] at hN hn
      rcases htag : tag? (d :: ds) with _ | ⟨body, rest⟩
      · obtain ⟨m, hm, hrun⟩ := escapeTags_run htag hrest k n (by omega)
        have hds := shows_escapeTags htail N ds m (by omega) hm
        rw [hrun, List.append_assoc]
        exact hds.run (tag?_escapeTags htail htag hm) hrest k
      · obtain ⟨n, rfl⟩ := Nat.exists_eq_succ_of_ne_zero (show n ≠ 0 by omega)
        obtain ⟨rfl, rfl, hmore⟩ := of_tag? htag
        rw [List.length_append, List.length_cons] at hN hn
        have hafter := shows_escapeTags htail N rest n (by omega) (by omega)
        obtain ⟨c, cs, hcs, hk, hdrop⟩ := exists_cons_of_run k hrest
        rw [hcs, escapeTags_tag (by rw [hdrop]; exact htag), hk, List.append_assoc,
          List.cons_append, List.append_assoc, List.cons_append]
        exact hafter.run_escaped (hmore _) (by simp [NoBackslash]) (by omega)

/-- **One more backslash may stand before what follows.** -/
theorem Follows.backslash (h : Follows stack tail) : Follows stack ('\\' :: tail) where
  shown k := by
    rw [List.append_cons, ← List.replicate_succ']
    exact h.shown (k + 1)
  head c hc := by
    cases hc
    rfl
  unclosed := by
    rw [untilClosed?_cons (by decide) (by decide), h.unclosed]
    rfl

/-- **Any text is shown when it is escaped**, with what may follow it. -/
theorem shows_escape (htail : Follows stack tail) (s : String) :
    Shows stack ((escape s).toList ++ tail) := by
  have hfuel : s.toList.length ≤ s.length + 1 := by
    rw [String.length_toList]
    omega
  unfold escape
  dsimp only
  rw [String.toList_ofList]
  split
  · rw [List.append_assoc]
    exact shows_escapeTags htail.backslash _ s.toList _ (Nat.lt_succ_self _) hfuel
  · exact shows_escapeTags htail _ s.toList _ (Nat.lt_succ_self _) hfuel

end escaping

/-- **Markup that can be shown is rendered.** -/
theorem exists_render (s : String) (h : Shows [] s.toList) : ∃ text, render s = .ok text := by
  obtain ⟨text, ht⟩ := h (s.toList.length + 1) 0 []
  unfold render pieces
  rw [ht]
  exact ⟨_, rfl⟩

/-- **An escaped text is rendered.** -/
theorem exists_render_escape (s : String) : ∃ text, render (escape s) = .ok text := by
  refine exists_render _ ?_
  have h : Shows [] ((escape s).toList ++ []) :=
    shows_escape ⟨shows_replicate [], fun _ hc => (nomatch hc), rfl⟩ s
  rwa [List.append_nil] at h

/-- **A tag that opens a style is closed by its bracket.** -/
theorem untilClosed?_append (h : ∀ x ∈ body, x ≠ '[' ∧ x ≠ ']') (more : List Char) :
    untilClosed? (body ++ ']' :: more) = some (body, more) := by
  induction body with
  | nil => rfl
  | cons x xs ih =>
    obtain ⟨hopen, hclose⟩ := h x List.mem_cons_self
    have hxs := ih fun y hy => h y (List.mem_cons_of_mem x hy)
    rw [List.cons_append, untilClosed?_cons hclose hopen, hxs]
    rfl

/-- **What is shown behind an open style is shown behind the tag that opens it.** -/
theorem Shows.styled (hc : beginsTag c = true) (hslash : c ≠ '/')
    (hbody : ∀ x ∈ body, x ≠ '[' ∧ x ≠ ']') (h : ∀ style, Shows (style :: stack) rest) :
    Shows stack ('[' :: c :: (body ++ ']' :: rest)) := by
  have hname : ((c :: body).takeWhile (· != '=')).head? ≠ some '/' := by
    rw [List.takeWhile_cons]
    split
    · exact fun hhead => hslash (Option.some.inj hhead)
    · exact fun hhead => nomatch hhead
  have htag : tag? ('[' :: c :: (body ++ ']' :: rest)) = some (c :: body, rest) := by
    rw [tag?_cons hc, untilClosed?_append hbody]
    rfl
  exact (h _).tag (.style rfl hname) htag rfl

/-- **Characters that are neither brackets nor backslashes are shown.** -/
theorem Shows.plain (hcs : ∀ x ∈ cs, x ≠ '[' ∧ x ≠ '\\') (h : Shows stack rest) :
    Shows stack (cs ++ rest) := by
  induction cs with
  | nil => exact h
  | cons x xs ih =>
    obtain ⟨hopen, hback⟩ := hcs x List.mem_cons_self
    refine (ih fun y hy => hcs y (List.mem_cons_of_mem x hy)).cons ?_
    have hnone : backslashes (x :: (xs ++ rest)) = 0 :=
      backslashes_replicate_append 0 (by simpa [NoBackslash] using hback)
    show tag? ((x :: (xs ++ rest)).drop (backslashes (x :: (xs ++ rest)))) = none
    rw [hnone]
    exact tag?_of_ne hopen

/-- What follows a styled text closes the style. -/
theorem follows_closing (style : String) (stack : List String) :
    Follows (style :: stack) ['[', '/', ']'] where
  shown := shows_closing style stack
  head _ hc := by
    cases hc
    rfl
  unclosed := rfl

/-- **Small letters lie between `a` and `z`.** -/
theorem toNat_of_isLower (h : c.isLower = true) : 97 ≤ c.toNat ∧ c.toNat ≤ 122 := by
  delta Char.isLower at h
  simpa [UInt32.le_iff_toNat_le] using h

/-- **A tag may begin with a small letter**, and brackets are none. -/
theorem of_isLower (h : c.isLower = true) :
    beginsTag c = true ∧ c ≠ '/' ∧ c ≠ '[' ∧ c ≠ ']' := by
  obtain ⟨hlow, hhigh⟩ := toNat_of_isLower h
  refine ⟨?_, ?_, ?_, ?_⟩
  · have hletter : ('a' ≤ c && c ≤ 'z') = true :=
      Bool.and_eq_true_iff.2 ⟨decide_eq_true hlow, decide_eq_true hhigh⟩
    unfold beginsTag
    rw [hletter]
    rfl
  all_goals
    rintro rfl
    exact absurd hlow (by decide)

/-- **A text is rendered in a style**, if it can be shown before a closing tag. -/
theorem exists_render_styled {style s : String} (hstyle : IsStyle style)
    (h : ∀ name, Shows [name] (s.toList ++ ['[', '/', ']'])) :
    ∃ text, render (styled style s) = .ok text := by
  obtain ⟨hne, hlower⟩ := hstyle
  obtain ⟨c, body, hchars⟩ : ∃ c body, style.toList = c :: body := by
    rcases hs : style.toList with _ | ⟨c, body⟩
    · exact absurd (String.toList_eq_nil_iff.1 hs) hne
    · exact ⟨c, body, rfl⟩
  rw [hchars] at hlower
  obtain ⟨hbegins, hslash, -⟩ := of_isLower (hlower c List.mem_cons_self)
  have hbody : ∀ x ∈ body, x ≠ '[' ∧ x ≠ ']' := fun x hx =>
    (of_isLower (hlower x (List.mem_cons_of_mem c hx))).2.2
  refine exists_render _ ?_
  have hmarkup : (styled style s).toList =
      '[' :: c :: (body ++ ']' :: (s.toList ++ ['[', '/', ']'])) := by
    unfold styled
    simp [String.toList_append, hchars]
  rw [hmarkup]
  exact Shows.styled hbegins hslash hbody h

/-- **An escaped text is rendered in a style.** -/
theorem exists_render_styled_escape {style : String} (hstyle : IsStyle style) (s : String) :
    ∃ text, render (styled style (escape s)) = .ok text :=
  exists_render_styled hstyle fun name => shows_escape (follows_closing name []) s

/-- **A text without brackets and backslashes is rendered in a style.** -/
theorem exists_render_styled_plain {style s : String} (hstyle : IsStyle style)
    (hs : ∀ x ∈ s.toList, x ∉ ['[', ']', '\\']) : ∃ text, render (styled style s) = .ok text :=
  exists_render_styled hstyle fun name => by
    refine Shows.plain (fun x hx => ?_) (shows_closing name [] 0)
    have hx := hs x hx
    simp only [List.mem_cons, List.not_mem_nil, or_false, not_or] at hx
    exact ⟨hx.1, hx.2.2⟩

end Markup
end CommandGrammar
