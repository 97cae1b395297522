/-
# Words of letters and digits

A word of ASCII letters and digits, read as a pattern, matches what it begins, ignoring case: none of
its characters has a meaning of its own there.  Two texts are compared letter by letter
(`Pattern.beginsAlike`), by the rule of patterns; comparing their lowercases comes to no more, for
the two capitals whose lowercase depends on what is around it, or is two characters, have none of
these letters but `i`.
-/

import CommandGrammar.Pattern.Selection
import CommandGrammar.Text.Parts

namespace CommandGrammar
namespace Pattern

open Text

/-- Whether a text begins with a word, ignoring case. -/
def beginsAlike : List Char → List Char → Bool
  | [], _ => true
  | c :: cs, d :: ds => Folding.full.same c.toNat d.toNat && beginsAlike cs ds
  | _ :: _, [] => false

/-- **The last item that is read stands in front of the row.** -/
theorem run_rowOf_append (items : List Node) (x : Node) (k : Continuation) (p : Place) :
    run (rowOf (items ++ [x])) k p = run x (run (rowOf items) k) p := by
  unfold rowOf
  rw [List.foldl_append]
  generalize items.foldl _ Node.empty = row
  cases row <;> rfl

/-- **A literal character matches a character that is the same letter.** -/
theorem run_literal (n : Nat) (k : Continuation) (p : Place) :
    run (literal {} n) k p = match p.after with
      | [] => none
      | c :: rest =>
        if Folding.full.same n c.toNat then k { p with before := c :: p.before, after := rest }
        else none := by
  obtain ⟨before, after, captures⟩ := p
  cases after with
  | nil => rfl
  | cons c rest =>
    show (if Unit.has c (.oneOf false [.code n] .full) then _ else none) = _
    have hhas : Unit.has c (.oneOf false [.code n] .full) = Folding.full.same n c.toNat := by
      show ((Folding.full.same n c.toNat || false) != false) = _
      simp
    rw [hhas]

/-- **A row of literal characters matches what begins with them.** -/
theorem run_literals : ∀ (cs : List Char) (p : Place),
    (run (rowOf (cs.map fun c => literal {} c.toNat).reverse) some p).isSome =
      beginsAlike cs p.after
  | [], p => by
    cases p.after <;> rfl
  | c :: cs, p => by
    rw [List.map_cons, List.reverse_cons, run_rowOf_append, run_literal]
    cases p.after with
    | nil => rfl
    | cons d ds =>
      dsimp only [beginsAlike]
      cases Folding.full.same c.toNat d.toNat with
      | false => rfl
      | true => exact run_literals cs _

/-- The characters that have a meaning of their own in a pattern. -/
def meaningful : List Char :=
  ['|', ')', '.', '^', '$', '[', '*', '+', '?', '\x7b', '(', '\\']

/-- **No letter and no digit has a meaning of its own.** -/
theorem not_isAlphanum_of_mem_meaningful : ∀ c ∈ meaningful, c.isAlphanum = false := by
  have hall : meaningful.all (fun c => !c.isAlphanum) = true := rfl
  intro c hc
  have hno : (!c.isAlphanum) = true := List.all_eq_true.1 hall c hc
  rwa [Bool.not_eq_true'] at hno

/-- What a character that operates on nothing else is read as: the point as any character, and the
others as themselves. -/
def unitOf (c : Char) : Node := if c = '.' then .unit (.any false) else literal {} c.toNat

variable {h : Host}

/-- **A character without a meaning of its own is read as itself.** -/
theorem row_plain_of_not_mem (g : Groups) {c : Char} (hc : c ∉ meaningful) (n : Nat)
    (items : List Node) (rest : List Piece) :
    row h (n + 1) {} g items (.plain c :: rest) =
      row h n {} g (literal {} c.toNat :: items) rest := by
  simp only [meaningful, List.mem_cons, List.not_mem_nil, or_false, not_or] at hc
  obtain ⟨hbar, hclose, hdot, hstart, hstop, hset, hstar, hplus, hmark, hbrace, hopen, -⟩ := hc
  rw [row]
  simp only [hbar, hclose, hdot, hstart, hstop, hset, hstar, hplus, hmark, hbrace, hopen, or_self,
    if_false, Bool.false_eq_true, false_and]

/-- **Characters that operate on nothing else are read one by one.** -/
theorem row_of_plain (g : Groups) : ∀ (cs : List Char) (items : List Node) (fuel : Nat),
    (∀ c ∈ cs, c = '.' ∨ c ∉ meaningful) → cs.length < fuel →
    row h fuel {} g items (cs.map .plain) = .ok ((cs.map unitOf).reverse ++ items, [], g)
  | [], items, fuel, _, hfuel => by
    obtain ⟨n, rfl⟩ := Nat.exists_eq_succ_of_ne_zero (Nat.pos_iff_ne_zero.1 hfuel)
    rw [List.map_nil, row]
    rfl
  | c :: cs, items, fuel, hcs, hfuel => by
    obtain ⟨n, rfl⟩ := Nat.exists_eq_succ_of_ne_zero (Nat.ne_of_gt (Nat.zero_lt_of_lt hfuel))
    have hrest := row_of_plain g cs (unitOf c :: items) n
      (fun d hd => hcs d (List.mem_cons_of_mem c hd)) (Nat.lt_of_succ_lt_succ hfuel)
    have hfirst : row h (n + 1) {} g items (.plain c :: cs.map .plain) =
        row h n {} g (unitOf c :: items) (cs.map .plain) := by
      rcases hcs c List.mem_cons_self with rfl | hc
      · rw [row]
        rfl
      · have hdot : c ≠ '.' := by rintro rfl; exact hc (by decide)
        rw [row_plain_of_not_mem g hc, unitOf, if_neg hdot]
    rw [List.map_cons, hfirst, hrest, List.map_cons, List.reverse_cons, List.append_assoc]
    rfl

/-- **The anchor is the first item of the row.** -/
theorem row_of_start (fuel : Nat) (rest : List Piece) :
    row h (fuel + 1) {} {} [] (.plain '^' :: rest) =
      row h fuel {} {} [.anchor (.start false)] rest := by
  rw [row]
  rfl

/-- **A text without backslashes falls into its characters.** -/
theorem pieces_of_plain : ∀ cs : List Char, (∀ c ∈ cs, c ≠ '\\') → pieces cs = cs.map .plain
  | [], _ => rfl
  | c :: cs, hcs => by
    rw [pieces_cons (hcs c List.mem_cons_self),
      pieces_of_plain cs fun d hd => hcs d (List.mem_cons_of_mem c hd),
      Piece.before_of_not_mem (by simp)]
    rfl

/-- A word of ASCII letters and digits only. -/
def IsPlain (word : String) : Prop := ∀ c ∈ word.toList, c.isAlphanum = true

/-- **A plain word begins with no dash.** -/
theorem IsPlain.not_dashed {word : String} (h : IsPlain word) : Text.beginsWith "-" word = false := by
  unfold IsPlain at h
  unfold Text.beginsWith
  cases hword : word.toList with
  | nil => rfl
  | cons c cs =>
    have hc := h c (hword ▸ List.mem_cons_self)
    have hne : ('-' == c) = false := beq_false_of_ne (by rintro rfl; cases hc)
    show ('-' == c && _) = false
    rw [hne, Bool.false_and]

/-- **A text is read as what follows its anchor.** -/
theorem read_of_row {s : String} {ps : List Piece} {items : List Node}
    (hpieces : pieces s.toList = .plain '^' :: ps) (hflat : .plain '(' ∉ ps)
    (hrow : ∀ fuel, ps.length < fuel →
      row h fuel {} {} [.anchor (.start false)] ps = .ok (items, [], {})) :
    read h s = .ok (rowOf items) := by
  have hbears : h.bears s = true := h.bears_of_isFlat s (by
    unfold IsFlat
    rw [hpieces, List.mem_cons, not_or]
    exact ⟨by decide, hflat⟩)
  unfold read
  rw [if_pos hbears, hpieces]
  dsimp only
  rw [List.length_cons, show 4 * (ps.length + 1) + 4 = (4 * ps.length + 6) + 1 + 1 by omega,
    alternatives, row_of_start, hrow _ (by omega)]
  rfl

/-- **A token without operators is a pattern of its own characters**, a point standing for any. -/
theorem ofToken_of_plain {word : String} (hword : ∀ c ∈ word.toList, c = '.' ∨ c ∉ meaningful) :
    ofToken h word = .ok ⟨"^" ++ word,
      rowOf ((word.toList.map unitOf).reverse ++ [.anchor (.start false)])⟩ := by
  have hnot : ∀ c ∈ word.toList, c ≠ '^' ∧ c ≠ '\\' := by
    intro c hc
    rcases hword c hc with rfl | hplain
    · decide
    · refine ⟨?_, ?_⟩ <;> rintro rfl <;> exact hplain (by decide)
  have htext : anchoredText word = "^" ++ word :=
    if_neg fun hhead => (hnot '^' (List.mem_of_mem_head? hhead)).1 rfl
  have hpieces : pieces ("^" ++ word).toList = .plain '^' :: word.toList.map .plain := by
    rw [String.toList_append]
    refine pieces_of_plain ('^' :: word.toList) fun c hc => ?_
    rcases List.mem_cons.1 hc with rfl | hc
    · decide
    · exact (hnot c hc).2
  have hflat : Piece.plain '(' ∉ word.toList.map .plain := by
    rw [List.mem_map]
    rintro ⟨c, hc, heq⟩
    cases heq
    rcases hword _ hc with heq | hplain
    · cases heq
    · exact hplain (by decide)
  unfold ofToken
  rw [htext, read_of_row hpieces hflat fun fuel hfuel =>
    row_of_plain {} word.toList _ fuel hword (by rwa [List.length_map] at hfuel)]

/-- **Characters without a meaning of their own are read as themselves.** -/
theorem map_unitOf {cs : List Char} (hcs : ∀ c ∈ cs, c ∉ meaningful) :
    cs.map unitOf = cs.map fun c => literal {} c.toNat :=
  List.map_congr_left fun c hc => if_neg (by rintro rfl; exact hcs _ hc (by decide))

/-- **A plain word is a pattern of its own characters.** -/
theorem ofToken_of_isPlain {word : String} (hword : IsPlain word) :
    ofToken h word = .ok ⟨"^" ++ word,
      rowOf ((word.toList.map fun c => literal {} c.toNat).reverse ++
        [.anchor (.start false)])⟩ := by
  have hplain : ∀ c ∈ word.toList, c ∉ meaningful := fun c hc hm =>
    Bool.noConfusion ((hword c hc).symm.trans (not_isAlphanum_of_mem_meaningful c hm))
  rw [ofToken_of_plain fun c hc => .inr (hplain c hc), map_unitOf hplain]

/-- **A plain word selects for completion what begins with it, ignoring case.** -/
theorem filter_of_isPlain {word : String} (hword : IsPlain word) {pattern : Anchored}
    (hpattern : ofToken h word = .ok pattern) {names : List String} {name : String}
    (hname : name ∈ pattern.filter names) : beginsAlike word.toList name.toList = true := by
  obtain rfl := Except.ok.inj ((ofToken_of_isPlain hword).symm.trans hpattern)
  have hmatches := (List.mem_filter.1 hname).2
  unfold Node.matchesAtStart at hmatches
  rw [run_rowOf_append] at hmatches
  exact (run_literals word.toList (Place.start name)).symm.trans hmatches

/-- **Among the first characters, a letter or digit has one lowercase, by either rule.** -/
theorem lowerPoint_of_lt : ∀ n < 128, (Char.ofNat n).isAlphanum = true →
    (lowerPoint (Char.ofNat n)).toNat = Folding.full.lower n ∧
      0x30 ≤ Folding.full.lower n ∧ Folding.full.lower n < 128 := by decide

/-- **Letters and digits are of ASCII.** -/
theorem toNat_lt_of_isAlphanum {c : Char} (h : c.isAlphanum = true) : c.toNat < 128 := by
  delta Char.isAlphanum Char.isAlpha Char.isUpper Char.isLower Char.isDigit at h
  simp only [Bool.or_eq_true, Bool.and_eq_true, decide_eq_true_eq, UInt32.le_iff_toNat_le] at h
  rcases h with (⟨-, h⟩ | ⟨-, h⟩) | ⟨-, h⟩ <;> exact Nat.lt_of_le_of_lt h (by decide)

/-- **The lowercase of a letter or digit is one of ASCII.** -/
theorem lowerPoint_of_isAlphanum {c : Char} (h : c.isAlphanum = true) :
    (lowerPoint c).toNat = Folding.full.lower c.toNat ∧
      0x30 ≤ Folding.full.lower c.toNat ∧ Folding.full.lower c.toNat < 128 := by
  have hc := lowerPoint_of_lt c.toNat (toNat_lt_of_isAlphanum h)
  rw [Char.ofNat_toNat] at hc
  exact hc h

/-- **A letter with the lowercase of a letter or digit is the same letter.** -/
theorem same_of_lowerPoint_eq {c d : Char} (hc : c.isAlphanum = true)
    (h : lowerPoint c = lowerPoint d) : Folding.full.same c.toNat d.toNat = true := by
  obtain ⟨hlower, hpos, -⟩ := lowerPoint_of_isAlphanum hc
  suffices hd : Folding.full.lower d.toNat = Folding.full.lower c.toNat by
    show (kin (Folding.full.lower c.toNat)).contains (Folding.full.lower d.toNat) = true
    rw [hd, List.contains_iff_mem]
    exact mem_kin_self _
  rw [h] at hlower
  show (lowerShifts.image? d.toNat).getD d.toNat = _
  rw [← hlower]
  unfold lowerPoint at hlower ⊢
  cases himage : lowerShifts.image? d.toNat with
  | none => rfl
  | some n =>
    rw [himage] at hlower
    dsimp only at hlower ⊢
    -- Only what is no code point is mapped to the first one.
    have hvalid : n.isValidChar := by
      refine Classical.byContradiction fun hno => ?_
      rw [Char.ofNat, dif_neg hno] at hlower
      exact absurd (hlower ▸ hpos) (by decide)
    rw [Char.ofNat, dif_pos hvalid]
    rfl

/-- **A letter or digit is put in lowercase whatever stands around it.** -/
theorem lowerFrom_of_isAlphanum {c : Char} (hc : c.isAlphanum = true) (before rest : List Char) :
    lowerFrom before (c :: rest) = lowerPoint c :: lowerFrom (c :: before) rest := by
  have hsigma : c ≠ 'Σ' := by rintro rfl; cases hc
  have hdotted : c ≠ 'İ' := by rintro rfl; cases hc
  rw [lowerFrom, if_neg hsigma, if_neg hdotted]
  rfl

/-- **A text whose lowercase begins with that of a plain word begins with the word, ignoring
case.** -/
theorem beginsAlike_of_lowerFrom : ∀ (cs ds before before' : List Char),
    (∀ c ∈ cs, c.isAlphanum = true) →
    (lowerFrom before cs).isPrefixOf (lowerFrom before' ds) = true → beginsAlike cs ds = true
  | [], ds, _, _, _, _ => by cases ds <;> rfl
  | c :: cs, [], before, before', hcs, h => by
    rw [lowerFrom_of_isAlphanum (hcs c List.mem_cons_self)] at h
    cases h
  | c :: cs, d :: ds, before, before', hcs, h => by
    have hc := hcs c List.mem_cons_self
    have hrest := fun d hd => hcs d (List.mem_cons_of_mem c hd)
    obtain ⟨hlower, -, hascii⟩ := lowerPoint_of_isAlphanum hc
    rw [← hlower] at hascii
    rw [lowerFrom_of_isAlphanum hc, lowerFrom] at h
    rw [beginsAlike, Bool.and_eq_true]
    split at h
    · -- Neither of the small sigmas is a letter of ASCII.
      rw [List.singleton_append, List.isPrefixOf, Bool.and_eq_true, beq_iff_eq] at h
      rw [h.1] at hascii
      split at hascii <;> exact absurd hascii (by decide)
    · split at h
      · -- The dotted capital begins with an `i`; the dot behind it is no letter of ASCII.
        subst d
        rw [List.cons_append, List.isPrefixOf, Bool.and_eq_true, beq_iff_eq] at h
        have hdotted : lowerPoint 'İ' = 'i' := rfl
        refine ⟨same_of_lowerPoint_eq hc (h.1.trans hdotted.symm), ?_⟩
        cases cs with
        | nil => cases ds <;> rfl
        | cons c' cs =>
          have hc' := hrest c' List.mem_cons_self
          obtain ⟨hlower', -, hascii'⟩ := lowerPoint_of_isAlphanum hc'
          rw [lowerFrom_of_isAlphanum hc', List.cons_append, List.isPrefixOf, Bool.and_eq_true,
            beq_iff_eq] at h
          rw [← hlower', h.2.1] at hascii'
          exact absurd hascii' (by decide)
      · rw [List.singleton_append, List.isPrefixOf, Bool.and_eq_true, beq_iff_eq] at h
        exact ⟨same_of_lowerPoint_eq hc h.1, beginsAlike_of_lowerFrom cs ds _ _ hrest h.2⟩

/-- **What begins with a plain word in lowercase begins with it letter by letter.** -/
theorem beginsAlike_of_beginsWith {word name : String} (h : IsPlain word)
    (hbegins : Text.beginsWith (lowercase word) (lowercase name) = true) :
    beginsAlike word.toList name.toList = true := by
  unfold Text.beginsWith lowercase at hbegins
  rw [String.toList_ofList, String.toList_ofList] at hbegins
  exact beginsAlike_of_lowerFrom _ _ [] [] h hbegins

end Pattern
end CommandGrammar
