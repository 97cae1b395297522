/-
# The menu an editor shows

An editor that is offered several words shows each of them once, and in front of them what they all
begin with, if that says more than is typed already.

| entry | inserted | offered |
| --- | --- | --- |
| the common start | as it is | if there are several words and it is longer than what is typed; never for flags |
| each distinct word | between quotes if it has a blank | always, in the order of first appearance |

The common start may be a word itself, and nothing looks for that: then the menu has it twice.  This
is the only way for a text to be inserted by two entries (`Completion.menu_of_words`).
-/

import Mathlib.Data.List.Nodup
import CommandGrammar.Proofs.Completing.Inserting

namespace CommandGrammar

open Splitting Text

/-- The texts of a list, each once and in the order of their first appearance. -/
structure Text.Lists (words menu : List String) : Prop where
  /-- No text is listed twice. -/
  nodup : menu.Nodup
  /-- Every text is listed, and nothing else. -/
  mem_iff : ∀ w, w ∈ menu ↔ w ∈ words
  /-- A text that appears first is listed first. -/
  inOrder : menu.Pairwise fun a b => words.idxOf a < words.idxOf b

/-- **The distinct texts of a list come in the order of their first appearance.** -/
theorem Text.pairwise_idxOf_distinctFrom (seen words : List String) :
    (distinctFrom seen words).Pairwise fun a b => words.idxOf a < words.idxOf b := by
  induction words generalizing seen with
  | nil => exact List.Pairwise.nil
  | cons w rest ih =>
    -- A text that is listed after `w` is another one, so it has moved by one place.
    have hplace : ∀ {seen'}, w ∈ seen' → ∀ a ∈ distinctFrom seen' rest,
        (w :: rest).idxOf a = rest.idxOf a + 1 := by
      intro seen' hw a ha
      have hne : w ≠ a := fun h => (mem_distinctFrom.1 ha).2 (h ▸ hw)
      exact List.idxOf_cons_ne _ hne
    have hlater : ∀ {seen'}, w ∈ seen' → (distinctFrom seen' rest).Pairwise
        fun a b => (w :: rest).idxOf a < (w :: rest).idxOf b := by
      intro seen' hw
      refine (ih seen').imp_of_mem fun {a b} ha hb hlt => ?_
      rw [hplace hw a ha, hplace hw b hb]
      exact Nat.succ_lt_succ hlt
    unfold distinctFrom
    split
    · rename_i hseen
      exact hlater (List.contains_iff_mem.1 hseen)
    · refine List.pairwise_cons.2 ⟨fun a ha => ?_, hlater List.mem_cons_self⟩
      rw [List.idxOf_cons_self, hplace List.mem_cons_self a ha]
      exact Nat.succ_pos _

/-- **The distinct texts list a list.** -/
theorem Text.lists_distinct (words : List String) : Lists words (distinct words) where
  nodup := nodup_distinctFrom [] words
  mem_iff w := by simp [distinct, mem_distinctFrom]
  inOrder := pairwise_idxOf_distinctFrom [] words

/-- **More than one text is listed exactly if two of them differ.** -/
theorem Text.Lists.one_lt_length_iff {words menu : List String} (h : Lists words menu) :
    1 < menu.length ↔ ∃ a ∈ words, ∃ b ∈ words, a ≠ b := by
  constructor
  · intro hlong
    match menu, h, hlong with
    | a :: b :: rest, h, _ =>
      refine ⟨a, (h.mem_iff a).1 (by simp), b, (h.mem_iff b).1 (by simp), fun hab => ?_⟩
      exact (List.nodup_cons.1 h.nodup).1 (hab ▸ List.mem_cons_self)
  · rintro ⟨a, ha, b, hb, hab⟩
    by_contra hshort
    have hone : ∀ {c d}, c ∈ menu → d ∈ menu → c = d := by
      intro c d hc hd
      match menu, hshort, hc, hd with
      | [e], _, hc, hd => exact (List.mem_singleton.1 hc).trans (List.mem_singleton.1 hd).symm
      | _ :: _ :: _, hshort, _, _ => exact absurd (by simp) hshort
    exact hab (hone ((h.mem_iff a).2 ha) ((h.mem_iff b).2 hb))

namespace Completion

/-- **Two texts begin with what their common start begins with, and with nothing else in common.** -/
theorem prefix_commonStart_iff {p a b : List Char} :
    p <+: commonStart a b ↔ p <+: a ∧ p <+: b := by
  refine ⟨fun h => ⟨h.trans (commonStart_isPrefix a b).1, h.trans (commonStart_isPrefix a b).2⟩, ?_⟩
  rintro ⟨ha, hb⟩
  induction p generalizing a b with
  | nil => exact List.nil_prefix
  | cons c rest ih =>
    obtain ⟨a', rfl⟩ := ha
    obtain ⟨b', rfl⟩ := hb
    rw [List.cons_append, List.cons_append, commonStart, if_pos rfl, List.cons_prefix_cons]
    exact ⟨rfl, ih (List.prefix_append _ _) (List.prefix_append _ _)⟩

/-- **The common start of some words is the longest text that all of them begin with.** -/
theorem prefix_commonStartOf_iff {words : List String} (h : words ≠ []) {p : List Char} :
    p <+: (commonStartOf words).toList ↔ ∀ w ∈ words, p <+: w.toList := by
  have hfold : ∀ (rest : List String) (start : List Char),
      p <+: rest.foldl (fun start t => commonStart start t.toList) start ↔
        p <+: start ∧ ∀ w ∈ rest, p <+: w.toList := by
    intro rest
    induction rest with
    | nil => simp
    | cons t rest ih =>
      intro start
      rw [List.foldl_cons, ih, prefix_commonStart_iff, List.forall_mem_cons, and_assoc]
  obtain ⟨w, rest, rfl⟩ := List.exists_cons_of_ne_nil h
  unfold commonStartOf
  rw [String.toList_ofList, hfold, List.forall_mem_cons]

/-- A text has a blank in it, so that it is inserted between quotes. -/
def hasBlank (s : String) : Bool := s.toList.any fun c => c == ' ' || c == '\t'

/-- A text between quotes has a blank if the text has one. -/
theorem hasBlank_inQuotes {s : String} (h : hasBlank s = true) : hasBlank (inQuotes s) = true := by
  obtain ⟨c, hc, hblank⟩ := List.any_eq_true.1 h
  refine List.any_eq_true.2 ⟨c, ?_, hblank⟩
  rw [toList_inQuotes]
  exact List.mem_cons_of_mem _ (List.mem_append_left _ hc)

/-- A word with a blank is inserted between quotes, any other as it is. -/
theorem quotedWord_eq (s : String) : quotedWord s = if hasBlank s then inQuotes s else s := rfl

/-- **Different words are inserted differently.** -/
theorem quotedWord_injective : Function.Injective quotedWord := by
  intro a b h
  rw [quotedWord_eq, quotedWord_eq] at h
  split at h <;> split at h
  case isTrue.isTrue =>
    have hlist := congrArg String.toList h
    rw [toList_inQuotes, toList_inQuotes] at hlist
    exact String.toList_inj.1 (List.append_cancel_right (List.cons.inj hlist).2)
  case isTrue.isFalse ha hb => exact absurd (h ▸ hasBlank_inQuotes ha) hb
  case isFalse.isTrue ha hb => exact absurd (h ▸ hasBlank_inQuotes hb) ha
  case isFalse.isFalse => exact h

/-- **A text that a word begins with is not that word between quotes**, which is longer. -/
theorem quotedWord_eq_start_iff {start w : String} (h : start.toList <+: w.toList) :
    quotedWord w = start ↔ w = start ∧ hasBlank start = false := by
  rw [quotedWord_eq]
  split
  case isTrue hblank =>
    constructor
    · intro hq
      have hle := h.length_le
      rw [← hq, toList_inQuotes] at hle
      simp only [List.length_cons, List.length_append, List.length_nil] at hle
      omega
    · rintro ⟨rfl, hno⟩
      rw [hblank] at hno
      cases hno
  case isFalse hblank =>
    exact ⟨fun hw => ⟨hw, hw ▸ Bool.eq_false_iff.2 hblank⟩, And.left⟩

/-- What several words begin with says more than is typed, and it is no flag. -/
def Furthers (words : List String) (typed start : String) : Prop :=
  (∃ a ∈ words, ∃ b ∈ words, a ≠ b) ∧ typed.length < start.length ∧ ¬"-".toList <+: start.toList

section

variable {words menu : List String} (h : Lists words menu)

include h

/-- **A start is inserted exactly if it furthers the word being typed.** -/
theorem furthers_iff {typed start : String} :
    (menu.length > 1 && start.length > typed.length && !beginsWith "-" start) = true ↔
      Furthers words typed start := by
  simp only [Furthers, beginsWith, Bool.and_eq_true, decide_eq_true_eq, Bool.not_eq_true',
    gt_iff_lt, h.one_lt_length_iff, ← Bool.not_eq_true, List.isPrefixOf_iff_prefix, and_assoc]

/-- **The common start of a menu is that of its words.** -/
theorem prefix_menuStart_iff (hne : words ≠ []) {p : List Char} :
    p <+: (commonStartOf menu).toList ↔ ∀ w ∈ words, p <+: w.toList := by
  obtain ⟨w, hw⟩ := List.exists_mem_of_ne_nil words hne
  rw [prefix_commonStartOf_iff (List.ne_nil_of_mem ((h.mem_iff w).2 hw))]
  simp only [h.mem_iff]

/-- **What all words begin with is inserted for one of them only if it is that word**, and has no
blank. -/
theorem mem_map_quotedWord_iff {start : String} (hbegins : ∀ w ∈ words, start.toList <+: w.toList) :
    start ∈ menu.map quotedWord ↔ start ∈ words ∧ hasBlank start = false := by
  rw [List.mem_map]
  constructor
  · rintro ⟨w, hw, hq⟩
    have hw := (h.mem_iff w).1 hw
    obtain ⟨rfl, hno⟩ := (quotedWord_eq_start_iff (hbegins w hw)).1 hq
    exact ⟨hw, hno⟩
  · rintro ⟨hw, hno⟩
    exact ⟨start, (h.mem_iff _).2 hw, (quotedWord_eq_start_iff List.prefix_rfl).2 ⟨rfl, hno⟩⟩

end

/-- **A menu lists every distinct word once, in order, after the common start if that furthers; and a
text is inserted by two entries exactly if the common start is offered and is a word itself.**  For
all words, whatever is typed and however much is replaced: the entries after the common start are the
distinct words in the order of their first appearance, each inserted between quotes if it has a blank
and shown as it is, and no two of them insert the same text; the common start is the longest text
that all words begin with, and it is offered exactly if there are several words, it is longer than
what is typed and does not begin with a dash, and then it is inserted and shown as it is, before
all words.  So two entries insert the same text exactly if the common start is offered and is one of
the words, without a blank. -/
theorem menu_of_words (words : List String) (typed : String) (length : Int) :
    let menu := distinct words
    let start := commonStartOf menu
    Lists words menu ∧ (menu.map quotedWord).Nodup ∧
      (words ≠ [] → ∀ p, p <+: start.toList ↔ ∀ w ∈ words, p <+: w.toList) ∧
      ∃ first : List Completion,
        ofWords words typed length =
          first ++ menu.map (fun w => ⟨quotedWord w, -length, w⟩) ∧
        (Furthers words typed start → first = [⟨start, -length, start⟩]) ∧
        (¬Furthers words typed start → first = []) ∧
        (((ofWords words typed length).map text).Nodup ↔
          ¬(Furthers words typed start ∧ start ∈ words ∧ hasBlank start = false)) := by
  intro menu start
  have hlists : Lists words menu := lists_distinct words
  have hwords : (menu.map quotedWord).Nodup := hlists.nodup.map quotedWord_injective
  have hstart : words ≠ [] → ∀ p, p <+: start.toList ↔ ∀ w ∈ words, p <+: w.toList :=
    fun hne _ => prefix_menuStart_iff hlists hne
  have htexts : (menu.map fun w => (⟨quotedWord w, -length, w⟩ : Completion)).map text =
      menu.map quotedWord := by
    rw [List.map_map]
    rfl
  refine ⟨hlists, hwords, hstart, ?_⟩
  by_cases hoffered : Furthers words typed start
  · have hmenu : ofWords words typed length = [⟨start, -length, start⟩] ++
        menu.map fun w => ⟨quotedWord w, -length, w⟩ := if_pos ((furthers_iff hlists).2 hoffered)
    refine ⟨_, hmenu, fun _ => rfl, fun h => absurd hoffered h, ?_⟩
    have hbegins : ∀ w ∈ words, start.toList <+: w.toList := fun w hw =>
      (hstart (List.ne_nil_of_mem hw) _).1 List.prefix_rfl w hw
    rw [hmenu, List.map_append, htexts, List.map_singleton, List.singleton_append, List.nodup_cons,
      mem_map_quotedWord_iff hlists hbegins]
    exact ⟨fun h ⟨_, hin⟩ => h.1 hin, fun h => ⟨fun hin => h ⟨hoffered, hin⟩, hwords⟩⟩
  · have hmenu : ofWords words typed length = [] ++
        menu.map fun w => ⟨quotedWord w, -length, w⟩ :=
      if_neg fun h => hoffered ((furthers_iff hlists).1 h)
    refine ⟨_, hmenu, fun h => absurd h hoffered, fun _ => rfl, ?_⟩
    rw [hmenu, List.nil_append, htexts]
    exact iff_of_true hwords fun h => hoffered h.1

/-- **A word that all words begin with is inserted by two entries.** -/
theorem start_that_is_a_word_is_offered_twice :
    ¬∀ words typed length, ((ofWords words typed length).map text).Nodup :=
  fun h => absurd (h ["foo", "foobar"] "f" 1) (by decide +kernel)

end Completion
end CommandGrammar
