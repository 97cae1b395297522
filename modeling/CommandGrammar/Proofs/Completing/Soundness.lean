/-
# What is offered is parsed

A word that a grammar of fixed words offers in the place of the one being typed is one that the
grammar can read, or begin with: a line of that word alone is parsed, or lacks words.  At the leaf
that offers the word, and from there to the top of the grammar, five things may keep the word from
being read.

| in the way | what happens to the word |
| --- | --- |
| members that are data with items of their own | it is not found, and the line breaks off |
| `onlyOne` on a leaf for which the word means several values | they are too many |
| `optionalWeak`, where more words are wanted behind it | it is given back, and nothing is read |
| an optional child in front of the one that offers it | it is refused: `optional` forgives no word |
| an alternative in front of the one that offers it | it succeeds and leaves the word unread |

Where none of them is (`Parameter.Yields`), what is offered is parsed.
-/

import CommandGrammar.Host.Usual
import CommandGrammar.Proofs.Completing.Asking
import CommandGrammar.Proofs.Completing.Leaves
import CommandGrammar.Proofs.Completing.LoneWords

namespace CommandGrammar

variable {w : String} {o : Occasion} {s : TokenStream} {t : Token}

/-- Whether an offered word finds its place: it is read, or more words are wanted behind it. -/
def Fate.Takes (f : Fate) : Prop := f = .reads ∨ f = .lacks

/-- Whether the end of the line is taken for what it is: nothing is wanted, or a word is. -/
def Fate.Ends (f : Fate) : Prop := f = .passes ∨ f = .lacks

namespace Outlook

variable {x y : Outlook}

/-- **If the first of two grammars takes a word, the two together do.** -/
theorem takes_andThen (hx : (x true).Takes) (hy : (y false).Ends) : (x.andThen y true).Takes := by
  unfold andThen
  rcases hx with hx | hx <;> rw [hx]
  · rcases hy with hy | hy <;> dsimp only <;> rw [hy]
    · exact .inl rfl
    · exact .inr rfl
  · exact .inr rfl

/-- **Behind what lets a word pass, the outlook is that of the second grammar.** -/
theorem andThen_of_passes {ahead : Bool} (hx : x ahead = .passes) : x.andThen y ahead = y ahead := by
  unfold andThen
  rw [hx]

/-- **If two grammars take the end of the line for what it is, the two together do.** -/
theorem ends_andThen (hx : (x false).Ends) (hy : (y false).Ends) : (x.andThen y false).Ends := by
  rcases hx with hx | hx
  · rwa [andThen_of_passes hx]
  · unfold andThen
    rw [hx]
    exact .inr rfl

/-- **So does a grammar several times.** -/
theorem ends_times (hx : (x false).Ends) : ∀ n, (x.times n false).Ends
  | 0 => .inl rfl
  | n + 1 => ends_andThen hx (ends_times hx n)

/-- **What lets a word pass does so any number of times.** -/
theorem times_of_passes {ahead : Bool} (hx : x ahead = .passes) : ∀ n, x.times n ahead = .passes
  | 0 => rfl
  | n + 1 => (andThen_of_passes hx).trans (times_of_passes hx n)

/-- **Of two alternatives, one takes a word if the other does not let it go.** -/
theorem ends_orElse (hx : (x false).Ends) (hy : (y false).Ends ∨ y false = .refuses) :
    (x.orElse y false).Ends := by
  unfold orElse
  rcases hx with hx | hx <;> rw [hx]
  · exact .inl rfl
  · rcases hy with (hy | hy) | hy <;> rw [hy]
    · exact .inl rfl
    · exact .inr rfl
    · exact .inr rfl

end Outlook

namespace Modifier

variable {several : Bool} {x : Outlook}

/-- **So does a grammar inside any modifier.** -/
theorem ends_outlook (m : Modifier) (hx : (x false).Ends) : (m.outlook several x false).Ends := by
  have hforgiven : (x false).forgiven.Ends := by
    rcases hx with hx | hx <;> rw [hx] <;> exact .inl rfl
  cases m with
  | onlyOne =>
    dsimp only [outlook]
    rw [if_neg fun h => by rcases hx with hx | hx <;> rw [hx] at h <;> exact Fate.noConfusion h.1]
    exact hx
  | allOf => exact .inr rfl
  | repeated n => exact Outlook.ends_times hx n
  | optional => exact hforgiven
  | optionalWeak => exact hforgiven
  | default _ | defaultBy _ | plain => exact hx

/-- **What lets a word pass does so inside any modifier.** -/
theorem outlook_of_passes (m : Modifier) (hx : x true = .passes) :
    m.outlook several x true = .passes := by
  cases m with
  | onlyOne =>
    dsimp only [outlook]
    rw [hx]
    exact if_neg fun h => Fate.noConfusion h.1
  | repeated n => exact Outlook.times_of_passes hx n
  | optionalWeak =>
    dsimp only [outlook]
    rw [hx]
    rfl
  | _ => exact hx

/-- **What takes a word does so inside any modifier but `optionalWeak`**, which may let it pass. -/
theorem takes_outlook (m : Modifier) (hm : ∀ k, m = repeated k → 0 < k)
    (hseveral : m = onlyOne → several = false) (hend : (x false).Ends) (hx : (x true).Takes) :
    (m.outlook several x true).Takes ∨ m = optionalWeak ∧ m.outlook several x true = .passes := by
  cases m with
  | onlyOne =>
    refine .inl ?_
    dsimp only [outlook]
    rwa [if_neg fun h => Bool.false_ne_true ((hseveral rfl).symm.trans h.2)]
  | repeated n =>
    cases n with
    | zero => exact absurd (hm 0 rfl) (Nat.lt_irrefl 0)
    | succ n => exact .inl (Outlook.takes_andThen hx (Outlook.ends_times hend n))
  | optionalWeak =>
    dsimp only [outlook]
    rcases hx with hx | hx <;> rw [hx]
    · exact .inl (.inl rfl)
    · exact .inr ⟨rfl, rfl⟩
  | _ => exact .inl hx

/-- **So does it inside several modifiers.** -/
theorem ends_chain (hx : (x false).Ends) (ms : List Modifier) :
    (ms.foldr (fun m y => m.outlook several y) x false).Ends := by
  induction ms with
  | nil => exact hx
  | cons m ms ih => exact m.ends_outlook ih

/-- **So do several modifiers.** -/
theorem takes_chain (hend : (x false).Ends) (hx : (x true).Takes) : ∀ ms : List Modifier,
    (∀ k, repeated k ∈ ms → 0 < k) → (onlyOne ∈ ms → several = false) →
    (ms.foldr (fun m y => m.outlook several y) x true).Takes ∨
      optionalWeak ∈ ms ∧ ms.foldr (fun m y => m.outlook several y) x true = .passes
  | [], _, _ => .inl hx
  | m :: ms, hms, hseveral => by
    rw [List.foldr_cons]
    rcases takes_chain hend hx ms (fun k hk => hms k (List.mem_cons_of_mem m hk))
      (fun hone => hseveral (List.mem_cons_of_mem m hone)) with h | ⟨hm, h⟩
    · refine (takes_outlook m (fun k hk => hms k (hk ▸ List.mem_cons_self))
        (fun hone => hseveral (hone ▸ List.mem_cons_self)) (ends_chain hend ms) h).imp_right ?_
      rintro ⟨rfl, hpasses⟩
      exact ⟨List.mem_cons_self, hpasses⟩
    · exact .inr ⟨List.mem_cons_of_mem m hm, m.outlook_of_passes h⟩

end Modifier

/-- Whether a leaf of fixed words may offer the word, whatever is typed. -/
def Leaf.Offers (w : String) : Leaf → Prop
  | truth => w = "true" ∨ w = "false"
  | literal _ words => words.head? = some w
  | choice c => w ∈ c.supply w
  | _ => False

namespace Leaf

/-- **A leaf takes the words that it offers**, unless it breaks off at them. -/
theorem takes_of_offers {l : Leaf} (h : l.Offers w) (hlookup : l.outlook o w true ≠ .breaks) :
    (l.outlook o w true).Takes := by
  cases l with
  | truth =>
    rcases h with rfl | rfl
    · exact .inl rfl
    · exact .inl rfl
  | literal v words =>
    cases words with
    | nil => cases h
    | cons u rest =>
      obtain rfl := Option.some.inj h
      have hfate : (literal v (u :: rest)).outlook o u true =
        if sameWord u u then if rest.isEmpty then .reads else .lacks else .refuses := rfl
      rw [hfate, if_pos (show sameWord u u = true from beq_self_eq_true (Text.lowercase u))]
      cases rest with
      | nil => exact .inl rfl
      | cons r rest => exact .inr rfl
  | choice c =>
    -- A candidate is selected alone by its own name.
    obtain ⟨name, hname⟩ : ∃ name, Pattern.select o.host w (c.supply w) = .ok [name] := by
      unfold Pattern.select
      have hfound : ((c.supply w).find? fun name => Text.lowercase name == Text.lowercase w).isSome :=
        List.find?_isSome.2 ⟨w, h, beq_self_eq_true _⟩
      obtain ⟨name, hname⟩ := Option.isSome_iff_exists.1 hfound
      exact ⟨name, by rw [hname]⟩
    rw [outlook_choice, hname] at hlookup ⊢
    dsimp only at hlookup ⊢
    split at hlookup
    · exact absurd rfl hlookup
    · rename_i hvalue
      exact .inl (if_neg hvalue)
  | _ => exact h.elim

/-- **At the end of the line a leaf wants nothing, or a word.** -/
theorem ends_outlook (l : Leaf) : (l.outlook o w false).Ends := by
  cases l with
  | literal v words =>
    cases words with
    | nil => exact .inl rfl
    | cons u rest => exact .inr rfl
  | _ => exact .inr rfl

/-- **What a leaf of fixed words completes, it offers.** -/
theorem offers_of_complete {l : Leaf} (hl : l.Fixed) (hlone : s.Lone t) {context : Context}
    {words : List String} (h : (l.complete o ⟨s, context⟩).result = .ok words)
    (hw : w ∈ words) :
    l.Offers w := by
  cases l with
  | truth =>
    rw [words_of_complete (by rintro v words ⟨⟩) hlone.head? h] at hw
    have hword : w ∈ ["true", "false"] := (List.mem_filter.1 hw).1
    rwa [List.mem_cons, List.mem_singleton] at hword
  | literal v fixed =>
    cases fixed with
    | nil => exact absurd rfl hl
    | cons u rest =>
      rw [words_of_completeWords hlone h] at hw
      split at hw
      · exact congrArg some (List.mem_singleton.1 hw).symm
      · cases hw
  | choice c =>
    rw [words_of_complete (by rintro v words ⟨⟩) hlone.head? h] at hw
    change w ∈ c.wordsFor o.host t.text at hw
    unfold Choice.wordsFor at hw
    split at hw
    · have hname : w ∈ c.supply t.text := (List.mem_filter.1 hw).1
      rwa [hl.supply t.text w] at hname
    · cases hw
  | _ => exact hl.elim

end Leaf

namespace Parameter

variable {p : Parameter}

/-- The child `c` of a sequence has only optional ones in front of it. -/
inductive BehindOptional : List Parameter → Parameter → Prop
  | head (c : Parameter) (cs : List Parameter) : BehindOptional (c :: cs) c
  | tail {c d : Parameter} {cs : List Parameter} (front : d.isOptional = true)
      (rest : BehindOptional cs c) : BehindOptional (d :: cs) c

/-- **A child behind optional ones is a child.** -/
theorem BehindOptional.mem {cs : List Parameter} {c : Parameter} (h : BehindOptional cs c) :
    c ∈ cs := by
  induction h with
  | head c cs => exact List.mem_cons_self
  | tail _ _ ih => exact List.mem_cons_of_mem _ ih

/-- What may offer the word: a leaf that does, a child of a sequence that has only optional ones in
front, and a child of a choice. -/
inductive Offers (w : String) : Parameter → Prop
  | leaf {f : Frame} {l : Leaf} (offers : l.Offers w) : Offers w (.leaf f l)
  | all {f : Frame} {cs : List Parameter} {c : Parameter} (front : BehindOptional cs c)
      (offers : Offers w c) : Offers w (.all f cs)
  | first {f : Frame} {c d : Parameter} {cs : List Parameter} (mem : d ∈ c :: cs)
      (offers : Offers w d) : Offers w (.first f c cs)

/-- **What a node of a grammar of fixed words lets pass makes it optional.** -/
theorem isOptional_of_passesOver (hfixed : ∀ n, p.Has n → n.Fixed o) (h : p.PassesOver o s)
    (hnext : s.hasNext = true) : p.isOptional = true := by
  refine isOptional_of_letsPass p (fun n hn => (hfixed n hn).usable) (fun n hn m hm hpass => ?_)
    (fun f l hl hpass => ?_) (h.letsPass hnext)
  · cases m with
    | repeated k =>
      have hk := (hfixed n hn).positive k hm
      cases k with
      | zero => cases hk
      | succ k => cases hpass
    | optionalWeak => rfl
    | _ => cases hpass
  · have hleaf := (hfixed _ hl).leaf f l rfl
    cases l with
    | literal v words => exact absurd (List.isEmpty_iff.1 hpass) hleaf
    | nothing => rfl
    | _ => cases hpass

/-- **At a lone word, a sequence of fixed words gets to a child behind optional ones.** -/
theorem behindOptional_of_getsTo {cs after : List Parameter} {c : Parameter} {q r : Progress}
    (h : GetsTo o cs q (c :: after) r) (hlone : q.stream.Lone t)
    (hfixed : ∀ b ∈ cs, ∀ n, b.Has n → n.Fixed o) : BehindOptional cs c := by
  generalize hrest : c :: after = rest at h
  induction h with
  | here cs p => exact hrest ▸ .head c after
  | optional hfront _ _ _ ih =>
    exact .tail hfront (ih hlone (fun b hb => hfixed b (List.mem_cons_of_mem _ hb)) hrest)
  | passed htried _ ih =>
    obtain ⟨hq, hpasses⟩ := of_satisfied_true hlone htried
    exact .tail (isOptional_of_passesOver (hfixed _ List.mem_cons_self) hpasses hlone.hasNext)
      (ih (hq ▸ hlone) (fun b hb => hfixed b (List.mem_cons_of_mem _ hb)) hrest)

/-- **At a lone word, what a leaf offers that is asked is offered by the grammar.** -/
theorem offers_of_asks {l : Leaf} {q r : Progress} (h : p.Asks o q l r) (hlone : q.stream.Lone t)
    (hfixed : ∀ n, p.Has n → n.Fixed o) (hoffers : l.Offers w) : p.Offers w := by
  induction h with
  | leaf _ => exact .leaf hoffers
  | all hover hgets _ _ ih =>
    obtain rfl := hover.eq_of_lone hlone
    have hbehind := behindOptional_of_getsTo hgets hlone fun b hb n hn => hfixed n (.child hb hn)
    refine .all hbehind (ih ?_ (fun n hn => hfixed n (.child hbehind.mem hn)) hoffers)
    exact hgets.stream_eq_of_lone hlone ▸ hlone
  | first hover hmem _ ih =>
    obtain rfl := hover.eq_of_lone hlone
    exact .first hmem (ih hlone (fun n hn => hfixed n (.child hmem hn)) hoffers)

/-- **What a grammar of fixed words completes, it offers.** -/
theorem offers_of_complete (hlone : s.Lone t) (p : Parameter) (hfixed : ∀ n, p.Has n → n.Fixed o)
    {context : Context} {words : List String}
    (h : (p.complete o ⟨s, context⟩).result = .ok words) (hw : w ∈ words) : p.Offers w := by
  obtain ⟨f, l, r, own, hl, hasks, hown, hw'⟩ :=
    exists_of_complete p (fun n hn => (hfixed n hn).completer) h hw
  have hlone' : r.stream.Lone t := hasks.stream_eq_of_lone hlone ▸ hlone
  exact offers_of_asks hasks hlone hfixed
    (Leaf.offers_of_complete ((hfixed _ hl).leaf f l rfl) hlone' hown hw')

/-- What a node must be like for the word that is offered inside it to get to its place. -/
structure Yields (o : Occasion) (w : String) (n : Parameter) : Prop where
  /-- A leaf that offers the word can look it up, and an `onlyOne` on it counts it once. -/
  own : ∀ f l, n = leaf f l → l.Offers w → l.outlook o w true ≠ .breaks ∧
    (Modifier.onlyOne ∈ f.modifiers → n.several o w = false)
  /-- What may do without the word does not give it back once it is offered. -/
  kept : Modifier.optionalWeak ∈ n.frame.modifiers → n.Offers w → n.outlook o w true ≠ .passes
  /-- The optional child in front of the one that offers the word, if the word comes to it, does not
  refuse it. -/
  front : ∀ f before c after, n = all f (before ++ c :: after) →
    (∀ b ∈ before, b.outlook o w true = .passes) → c.isOptional = true →
    (∃ d, BehindOptional after d ∧ d.Offers w) →
    c.outlook o w true ≠ .refuses ∧ c.outlook o w true ≠ .breaks
  /-- The alternative that the word comes to, if it does not fail, reads it. -/
  alternatives : ∀ f c cs before d after, n = first f c cs → c :: cs = before ++ d :: after →
    n.Offers w → (∀ b ∈ before, b.outlook o w true = .lacks ∨ b.outlook o w true = .refuses) →
    d.outlook o w true ≠ .passes ∧ d.outlook o w true ≠ .breaks

/-- **At the end of the line a sequence wants nothing, or a word.** -/
theorem ends_allOutlook : ∀ cs : List Parameter, (∀ c ∈ cs, (c.outlook o w false).Ends) →
    (allOutlook o w cs false).Ends
  | [], _ => .inl rfl
  | c :: cs, h => by
    rw [allOutlook]
    exact Outlook.ends_andThen (h c List.mem_cons_self)
      (ends_allOutlook cs fun d hd => h d (List.mem_cons_of_mem c hd))

/-- **So does a choice, if it has an alternative at all.** -/
theorem ends_someOutlook : ∀ cs : List Parameter, (∀ c ∈ cs, (c.outlook o w false).Ends) →
    (someOutlook o w cs false).Ends ∨ cs = [] ∧ someOutlook o w cs false = .refuses
  | [], _ => .inr ⟨rfl, rfl⟩
  | c :: cs, h => by
    rw [someOutlook]
    refine .inl (Outlook.ends_orElse (h c List.mem_cons_self) ?_)
    exact (ends_someOutlook cs fun d hd => h d (List.mem_cons_of_mem c hd)).imp_right And.right

/-- **So does the inside of a parameter if its children do.** -/
theorem ends_coreOutlook_of_children (p : Parameter)
    (h : ∀ c ∈ p.children, (c.outlook o w false).Ends) : (p.coreOutlook o w false).Ends := by
  cases p with
  | leaf f l => exact l.ends_outlook
  | all f cs => exact ends_allOutlook cs h
  | first f c cs => exact (ends_someOutlook (c :: cs) h).resolve_right fun h => nomatch h.1

/-- **At the end of the line a grammar wants nothing, or a word.** -/
theorem ends_outlook (p : Parameter) : (p.outlook o w false).Ends := by
  induction p using inductionOnChildren with
  | step p ih =>
    rw [outlook_eq]
    exact Modifier.ends_chain (ends_coreOutlook_of_children p ih) _

/-- **A sequence takes what a child behind optional ones takes**, unless one in front refuses it. -/
theorem takes_allOutlook {cs : List Parameter} {d : Parameter} (hd : BehindOptional cs d)
    (hoffers : d.Offers w) (htakes : (d.outlook o w true).Takes)
    (hfront : ∀ before c after, cs = before ++ c :: after →
      (∀ b ∈ before, b.outlook o w true = .passes) → c.isOptional = true →
      (∃ d, BehindOptional after d ∧ d.Offers w) →
      c.outlook o w true ≠ .refuses ∧ c.outlook o w true ≠ .breaks) :
    (allOutlook o w cs true).Takes := by
  have hend := fun cs => ends_allOutlook (o := o) (w := w) cs fun c _ => c.ends_outlook
  induction hd with
  | head d cs =>
    rw [allOutlook]
    exact Outlook.takes_andThen htakes (hend cs)
  | @tail d c cs hopt hrest ih =>
    rw [allOutlook]
    have hc := hfront [] c cs rfl (fun _ hb => absurd hb List.not_mem_nil) hopt ⟨d, hrest, hoffers⟩
    rcases hx : c.outlook o w true with _ | _ | _ | _ | _
    · exact Outlook.takes_andThen (.inl hx) (hend cs)
    · rw [Outlook.andThen_of_passes hx]
      refine ih hoffers htakes fun before b after hcs hbefore => ?_
      refine hfront (c :: before) b after (by rw [hcs]; rfl) fun b hb => ?_
      rcases List.mem_cons.1 hb with rfl | hb
      · exact hx
      · exact hbefore b hb
    · exact Outlook.takes_andThen (.inr hx) (hend cs)
    · exact absurd hx hc.1
    · exact absurd hx hc.2

/-- **A choice takes what one of its alternatives takes**, unless one in front lets it pass. -/
theorem takes_someOutlook : ∀ cs : List Parameter,
    (∀ before d after, cs = before ++ d :: after →
      (∀ b ∈ before, b.outlook o w true = .lacks ∨ b.outlook o w true = .refuses) →
      d.outlook o w true ≠ .passes ∧ d.outlook o w true ≠ .breaks) →
    (someOutlook o w cs true).Takes ∨
      someOutlook o w cs true = .refuses ∧ ∀ d ∈ cs, d.outlook o w true = .refuses
  | [], _ => .inr ⟨rfl, fun _ hd => nomatch hd⟩
  | c :: cs, h => by
    rw [someOutlook]
    unfold Outlook.orElse
    have hc := h [] c cs rfl fun _ hb => nomatch hb
    have hrest : c.outlook o w true = .lacks ∨ c.outlook o w true = .refuses → _ := fun hfails =>
      takes_someOutlook cs fun before d after hcs hbefore => by
        refine h (c :: before) d after (by rw [hcs]; rfl) fun b hb => ?_
        rcases List.mem_cons.1 hb with rfl | hb
        · exact hfails
        · exact hbefore b hb
    rcases hx : c.outlook o w true with _ | _ | _ | _ | _
    · exact .inl (.inl rfl)
    · exact absurd hx hc.1
    · rcases hrest (.inl hx) with (hy | hy) | ⟨hy, -⟩ <;> rw [hy]
      · exact .inl (.inl rfl)
      · exact .inl (.inr rfl)
      · exact .inl (.inr rfl)
    · refine (hrest (.inr hx)).imp id ?_
      rintro ⟨hy, hall⟩
      refine ⟨hy, fun d hd => ?_⟩
      rcases List.mem_cons.1 hd with rfl | hd
      · exact hx
      · exact hall d hd
    · exact absurd hx hc.2

/-- **A node takes the word that is offered inside it if its core does.** -/
theorem takes_of_core (hpositive : ∀ k, Modifier.repeated k ∈ p.frame.modifiers → 0 < k)
    (hyields : p.Yields o w) (h : p.Offers w)
    (hseveral : Modifier.onlyOne ∈ p.frame.modifiers → p.several o w = false)
    (hcore : (p.coreOutlook o w true).Takes) : (p.outlook o w true).Takes := by
  have hend := ends_coreOutlook_of_children (o := o) (w := w) p fun c _ => c.ends_outlook
  rw [outlook_eq, outlookIn]
  rcases Modifier.takes_chain hend hcore p.frame.modifiers hpositive hseveral with
    htakes | ⟨hweak, hpasses⟩
  · exact htakes
  · refine absurd ?_ (hyields.kept hweak h)
    rw [outlook_eq, outlookIn]
    exact hpasses

/-- **A grammar of fixed words takes what it offers.** -/
theorem takes_of_offers (hoffers : p.Offers w) (hfixed : ∀ n, p.Has n → n.Fixed o)
    (hyields : ∀ n, p.Has n → n.Yields o w) : (p.outlook o w true).Takes := by
  induction hoffers with
  | @leaf f l h =>
    obtain ⟨hlookup, hseveral⟩ := (hyields _ (.self _)).own f l rfl h
    exact takes_of_core (hfixed _ (.self _)).positive (hyields _ (.self _)) (.leaf h) hseveral
      (Leaf.takes_of_offers h hlookup)
  | @all f cs c hfront h ih =>
    have hc : c ∈ cs := hfront.mem
    have htakes := ih (fun n hn => hfixed n (.child hc hn)) fun n hn => hyields n (.child hc hn)
    refine takes_of_core (hfixed _ (.self _)).positive (hyields _ (.self _)) (.all hfront h)
      (fun _ => rfl) ?_
    refine takes_allOutlook hfront h htakes fun before b after hcs => ?_
    exact (hyields _ (.self _)).front f before b after (by rw [hcs])
  | @first f c d cs hmem h ih =>
    have htakes := ih (fun n hn => hfixed n (.child hmem hn)) fun n hn => hyields n (.child hmem hn)
    refine takes_of_core (hfixed _ (.self _)).positive (hyields _ (.self _)) (.first hmem h)
      (fun _ => rfl) ?_
    refine (takes_someOutlook (c :: cs) fun before b after hcs => ?_).resolve_right ?_
    · exact (hyields _ (.self _)).alternatives f c cs before b after rfl hcs (.first hmem h)
    · rintro ⟨-, hall⟩
      rcases htakes with hd | hd <;> cases hd.symm.trans (hall d hmem)

/-- **Every word that a grammar of fixed words completes is parsed**: alone on a line it is read, or
more words are wanted behind it.  The leaf that offers the word can look it up, the grammar yields
the word to its place, and its `onlyOne`s count nothing but the one value that is read inside
them. -/
theorem completed_word_is_parsed {context : Context} {words : List String} {line : String} {i j : Nat}
    (hfixed : ∀ n, p.Has n → n.Fixed o) (htidy : ∀ n, p.Has n → n.Tidy o w)
    (hyields : ∀ n, p.Has n → n.Yields o w) (hlone : s.Lone t)
    (hcomplete : (p.complete o ⟨s, context⟩).result = .ok words) (hw : w ∈ words)
    (hi : i < line.length) :
    let r := p.parse o (.ofStream (.ofTokens line [⟨w, i, j⟩] none))
    r.result = .ok () ∧ r.progress.stream.cursor = 1 ∨
      ∃ e, r.result = .error (.failed e) ∧ e.kind = .outOfTokens := by
  intro r
  have hoffers := offers_of_complete hlone p hfixed hcomplete hw
  have hshows : (TokenStream.ofTokens line [⟨w, i, j⟩] none).Shows w true := .word ⟨rfl, rfl⟩ rfl hi
  have hcomes := fits_parse p hfixed htidy true _ hshows {} fun _ _ => Nat.le_refl 0
  rcases takes_of_offers hoffers hfixed hyields with htakes | htakes <;> rw [htakes] at hcomes
  · obtain ⟨-, c, asked, hr, -⟩ := hcomes
    exact .inl ⟨congrArg Report.result hr, congrArg (·.progress.stream.cursor) hr⟩
  · obtain ⟨e, q, asked, hr, hkind, -⟩ := hcomes
    exact .inr ⟨e, congrArg Report.result hr, hkind⟩

/-- **Behind an enumeration that need not be chosen from**, the name of a town is offered and
parsed. -/
theorem completed_town_is_parsed :
    let o : Occasion := ⟨.trusted "tester", ⟨2024, 5, 31, 12, 34, 56, 789012, none⟩, .usual⟩
    let hue : Parameter := .leaf { key := "hue", modifiers := [.optionalWeak] }
      (.choice (.ofMembers ⟨"Hue", [⟨"Hue", "red", "1"⟩], false⟩))
    let town : Parameter := .leaf { key := "town", modifiers := [.onlyOne] }
      (.choice (.ofList [("alba", .integer 2)] true))
    let r := (all {} [hue, town]).parse o (.ofStream (.ofTokens "alba" [⟨"alba", 0, 4⟩] none))
    ((all {} [hue, town]).complete o (.ofStream (.ofTyped .spaced ""))).result =
        .ok ["red", "alba"] ∧
      (r.result = .ok () ∧ r.progress.stream.cursor = 1 ∨
        ∃ e, r.result = .error (.failed e) ∧ e.kind = .outOfTokens) := by
  refine ⟨?words, completed_word_is_parsed (w := "alba") (t := ⟨"", 0, 0⟩) (fun n hn => ?fixed)
    (fun n hn => ?tidy) (fun n hn => ?yields) ⟨rfl, rfl⟩ ?words
    (List.mem_cons_of_mem _ List.mem_cons_self) (by decide)⟩
  case words => exact rfl
  case fixed =>
    rcases hn.of_pair with rfl | rfl | rfl
    · exact ⟨rfl, rfl, fun k hk => (nomatch hk), fun f l h => (nomatch h)⟩
    · refine ⟨rfl, rfl, fun k hk => (nomatch List.mem_singleton.1 hk), fun f l h => ?_⟩
      obtain ⟨-, rfl⟩ := leaf.inj h
      exact Choice.fixed_ofMembers _
    · refine ⟨rfl, rfl, fun k hk => (nomatch List.mem_singleton.1 hk), fun f l h => ?_⟩
      obtain ⟨-, rfl⟩ := leaf.inj h
      exact Choice.fixed_ofList _ _
  case tidy =>
    rcases hn.of_pair with rfl | rfl | rfl
    · refine ⟨fun hm => (nomatch hm), fun k hk => (nomatch hk), fun f cs h => ?_⟩
      obtain ⟨-, rfl⟩ := all.inj h
      refine List.pairwise_pair.2 ?_
      rintro key ⟨n, hn, rfl, -⟩ ⟨b, hb, hkey, -⟩
      obtain rfl := hn.of_leaf
      obtain rfl := hb.of_leaf
      exact absurd hkey (by decide)
    · exact ⟨fun _ c hc => (nomatch hc), fun k hk => (nomatch List.mem_singleton.1 hk),
        fun f cs h => (nomatch h)⟩
    · exact ⟨fun _ c hc => (nomatch hc), fun k hk => (nomatch List.mem_singleton.1 hk),
        fun f cs h => (nomatch h)⟩
  case yields =>
    rcases hn.of_pair with rfl | rfl | rfl
    · refine ⟨fun f l h => (nomatch h), fun hm => (nomatch hm),
        fun f before c after h _ hopt hbehind => ?_, fun f c cs before d after h => (nomatch h)⟩
      obtain ⟨-, hcs⟩ := all.inj h
      cases before with
      | nil =>
        obtain ⟨rfl, -⟩ := List.cons.inj hcs
        exact ⟨by decide, by decide⟩
      | cons b before =>
        cases before with
        | nil =>
          obtain ⟨-, rfl⟩ := List.cons.inj (List.cons.inj hcs).2
          obtain ⟨d, hd, -⟩ := hbehind
          cases hd
        | cons b' before => cases before <;> cases (List.cons.inj (List.cons.inj hcs).2).2
    · have hno : ¬ "alba" ∈ ["red"] := by decide
      refine ⟨fun f l h hoffers => ?_, fun _ h => ?_, fun f before c after h => (nomatch h),
        fun f c cs before d after h => (nomatch h)⟩
      · obtain ⟨-, rfl⟩ := leaf.inj h
        exact absurd hoffers hno
      · cases h with
        | leaf h => exact absurd h hno
    · refine ⟨fun f l h hoffers => ?_, fun hm => (nomatch List.mem_singleton.1 hm),
        fun f before c after h => (nomatch h), fun f c cs before d after h => (nomatch h)⟩
      obtain ⟨-, rfl⟩ := leaf.inj h
      exact ⟨by decide, fun _ => by decide⟩

/-- **Words that are offered and then not read**: the name of a bay is refused by the optional choice
of a town in front of it (`route`), is left unread by an alternative that needs no word (`place`), and
is one value too many behind the default of a town (`stop`); the first word of a literal is given back
when the second one is missing (`mode`). -/
theorem offered_words_go_unread :
    let o : Occasion := ⟨.trusted "tester", ⟨2024, 5, 31, 12, 34, 56, 789012, none⟩, .usual⟩
    let towns : Leaf := .choice (.ofList [("alba", .integer 1)] true)
    let bays : Leaf := .choice (.ofList [("bath", .integer 2)] true)
    let route : Parameter := .all {} [.leaf { key := "town", modifiers := [.optional] } towns,
      .leaf { key := "bay" } bays]
    let place : Parameter := .first {} (.leaf { key := "town", modifiers := [.optionalWeak] } towns)
      [.leaf { key := "bay" } bays]
    let stop : Parameter := .all {}
      [.leaf { key := "stop", modifiers := [.default (.integer 0), .optionalWeak] } towns,
        .leaf { key := "stop", modifiers := [.onlyOne] } bays]
    let mode : Parameter := .leaf { modifiers := [.optionalWeak] }
      (.literal .nothing ["set", "creative"])
    let bath : Progress := .ofStream (.ofTokens "bath" [⟨"bath", 0, 4⟩] none)
    let set : Progress := .ofStream (.ofTokens "set" [⟨"set", 0, 3⟩] none)
    ((route.complete o (.ofStream (.ofTyped .spaced "b"))).result = .ok ["bath"] ∧
        (route.parse o bath).result = .error (.failed ⟨.noMatch "bath", "bath", 0⟩)) ∧
      ((place.complete o (.ofStream (.ofTyped .spaced "b"))).result = .ok ["bath"] ∧
        (place.parse o bath).result = .ok () ∧ (place.parse o bath).progress.stream.cursor = 0) ∧
      ((stop.complete o (.ofStream (.ofTyped .spaced "b"))).result = .ok ["bath"] ∧
        (stop.parse o bath).result = .error (.failed ⟨.severalValues "stop", "bath", 0⟩)) ∧
      (mode.complete o (.ofStream (.ofTyped .spaced "s"))).result = .ok ["set"] ∧
        (mode.parse o set).result = .ok () ∧ (mode.parse o set).progress.stream.cursor = 0 := by
  exact ⟨⟨rfl, rfl⟩, ⟨rfl, rfl, rfl⟩, ⟨rfl, rfl⟩, rfl, rfl, rfl⟩

end Parameter

end CommandGrammar
