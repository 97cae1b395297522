/-
# Tokens that match their own characters

A token that is no pattern is escaped, and what is escaped reads as itself: every special character
becomes a backslash with that character, which stands for nothing but it, and no character that is
left alone has a meaning in a pattern (`mem_specials_of_mem_meaningful`).  So the pattern that is
taken for such a token is the reading of its written form (`matchesAtStart_of_read_beginsWith`), and
a candidate matches if and only if it begins with the token, ignoring case.
-/

import CommandGrammar.Proofs.Completing.Letters

namespace CommandGrammar
namespace Pattern

open Text

/-- **A row of literal characters matches what begins with them**, however it is put together. -/
theorem run_literals_seq : ∀ (cs : List Char) (p : Place),
    (run (literals cs) some p).isSome = beginsAlike cs p.after
  | [], p => by
    cases p.after <;> rfl
  | c :: cs, p => by
    rw [literals, run, run_literal]
    cases p.after with
    | nil => rfl
    | cons d ds =>
      dsimp only [beginsAlike]
      cases Folding.full.same c.toNat d.toNat with
      | false => rfl
      | true => exact run_literals_seq cs _

/-- **A row of literal characters behind an anchor matches what begins with them.** -/
theorem matchesAtStart_row (cs : List Char) (name : String) :
    (rowOf ((cs.map fun c => literal {} c.toNat).reverse ++
      [.anchor (.start false)])).matchesAtStart name = beginsAlike cs name.toList := by
  unfold Node.matchesAtStart
  rw [run_rowOf_append]
  exact run_literals cs (Place.start name)

/-- **A token that is no pattern matches what begins with it, ignoring case.** -/
theorem matchesAtStart_beginsWith (token name : String) :
    (beginsWith token).node.matchesAtStart name = beginsAlike token.toList name.toList :=
  run_literals_seq token.toList (Place.start name)

/-- What a character of an escaped text falls into. -/
def pieceOf (c : Char) : Piece := if specials.contains c then .escape c else .plain c

/-- **What has a meaning in a pattern is escaped.** -/
theorem mem_specials_of_mem_meaningful : ∀ c ∈ meaningful, c ∈ specials := by
  have hall : meaningful.all specials.contains = true := by decide
  exact fun c hc => List.contains_iff_mem.1 (List.all_eq_true.1 hall c hc)

/-- **No backslash dangles behind escaped characters.** -/
theorem dangling_not_mem_map_pieceOf (cs : List Char) : .dangling ∉ cs.map pieceOf := by
  rw [List.mem_map]
  rintro ⟨c, -, hc⟩
  unfold pieceOf at hc
  split at hc <;> cases hc

/-- **An escaped text falls into its characters.** -/
theorem pieces_escaped (cs : List Char) : pieces (escaped cs) = cs.map pieceOf := by
  induction cs with
  | nil => rfl
  | cons c cs ih =>
    show pieces ((if specials.contains c then ['\\', c] else [c]) ++ escaped cs) = _
    rw [List.map_cons, pieceOf]
    cases hc : specials.contains c with
    | true =>
      rw [if_pos rfl, if_pos rfl]
      show (Piece.escape c).before (pieces (escaped cs)) = _
      rw [ih, Piece.before_of_not_mem (dangling_not_mem_map_pieceOf cs)]
    | false =>
      have hne : c ≠ '\\' := by rintro rfl; cases hc
      rw [if_neg (by decide), if_neg (by decide), List.singleton_append, pieces_cons hne, ih,
        Piece.before_of_not_mem (dangling_not_mem_map_pieceOf cs)]

variable {h : Host}

/-- **A special character behind a backslash is itself.** -/
theorem escape_of_mem_specials (g : Groups) {c : Char} (hc : c ∈ specials) (rest : List Piece) :
    escape h {} g c rest = .ok (literal {} c.toNat, rest, g) := by
  simp only [specials, List.mem_cons, List.not_mem_nil, or_false] at hc
  rcases hc with rfl | rfl | rfl | rfl | rfl | rfl | rfl | rfl | rfl | rfl | rfl | rfl | rfl |
    rfl | rfl | rfl | rfl | rfl | rfl | rfl | rfl | rfl | rfl | rfl <;> rfl

/-- **An escaped text is read as its characters.** -/
theorem row_of_escaped (g : Groups) : ∀ (cs : List Char) (items : List Node) (fuel : Nat),
    cs.length < fuel → row h fuel {} g items (cs.map pieceOf) =
      .ok ((cs.map fun c => literal {} c.toNat).reverse ++ items, [], g)
  | [], items, fuel, hfuel => by
    obtain ⟨n, rfl⟩ := Nat.exists_eq_succ_of_ne_zero (Nat.pos_iff_ne_zero.1 hfuel)
    rw [List.map_nil, row]
    rfl
  | c :: cs, items, fuel, hfuel => by
    obtain ⟨n, rfl⟩ := Nat.exists_eq_succ_of_ne_zero (Nat.ne_of_gt (Nat.zero_lt_of_lt hfuel))
    have hrest := row_of_escaped g cs (literal {} c.toNat :: items) n
      (Nat.lt_of_succ_lt_succ hfuel)
    have hfirst : row h (n + 1) {} g items (pieceOf c :: cs.map pieceOf) =
        row h n {} g (literal {} c.toNat :: items) (cs.map pieceOf) := by
      unfold pieceOf
      cases hc : specials.contains c with
      | true =>
        rw [if_pos rfl, row, escape_of_mem_specials g (List.contains_iff_mem.1 hc)]
        rfl
      | false =>
        have hplain : c ∉ meaningful := fun hm => by
          rw [List.contains_iff_mem.2 (mem_specials_of_mem_meaningful c hm)] at hc
          cases hc
        rw [if_neg (by decide), row_plain_of_not_mem g hplain]
    rw [List.map_cons, hfirst, hrest, List.map_cons, List.reverse_cons, List.append_assoc]
    rfl

/-- **The written form of a literal pattern has a reading on every host, and it is the literal
pattern.** -/
theorem matchesAtStart_of_read_beginsWith (h : Host) (token : String) :
    ∃ node, read h (beginsWith token).text = .ok node ∧
      ∀ name, node.matchesAtStart name = (beginsWith token).node.matchesAtStart name := by
  have hpieces : pieces (beginsWith token).text.toList =
      .plain '^' :: token.toList.map pieceOf := by
    show pieces (String.ofList ('^' :: escaped token.toList)).toList = _
    rw [String.toList_ofList, pieces_cons (by decide), pieces_escaped,
      Piece.before_of_not_mem (dangling_not_mem_map_pieceOf _)]
  have hflat : Piece.plain '(' ∉ token.toList.map pieceOf := by
    rw [List.mem_map]
    rintro ⟨c, -, hc⟩
    unfold pieceOf at hc
    split at hc <;> cases hc
    rename_i hno
    exact hno (by decide)
  refine ⟨_, read_of_row hpieces hflat fun fuel hfuel =>
    row_of_escaped {} token.toList _ fuel (by rwa [List.length_map] at hfuel), fun name => ?_⟩
  rw [matchesAtStart_row, matchesAtStart_beginsWith]

end Pattern
end CommandGrammar
