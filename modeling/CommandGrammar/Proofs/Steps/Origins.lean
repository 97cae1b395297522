/-
# Where bindings come from

Whatever a parse binds has been read by a leaf, or is the default of a modifier; in both cases it is
bound under the key of a parameter that the source may use (`Parameter.exists_origins`).  So every
binding that should not be there has a parameter to blame for it:

| binding | comes from |
| --- | --- |
| under the empty key | a default of a parameter without a key |
| of nothing | a default that is nothing, or several values, one of which is nothing |

A leaf without a key binds nothing, and so does a leaf whose only value is nothing.  A default is
bound whatever its key is, and of several values each is bound, whatever it is: those of several
candidates, and those of a single candidate or a literal that means several in one.
-/

import CommandGrammar.Host.Usual
import CommandGrammar.Proofs.Patterns.Choosing
import CommandGrammar.Proofs.Steps.Footprint

namespace CommandGrammar

/-- The value, if there is one, that a modifier binds where nothing is bound. -/
def Modifier.default? (source : Source) : Modifier → Option Value
  | .default v => some v
  | .defaultBy value => value source
  | _ => none

/-- **A modifier with a default runs what it wraps and binds the default.** -/
theorem Modifier.apply_of_default {m : Modifier} {source : Source} {v : Value}
    (h : m.default? source = some v) (key : String) (inner : Step Unit) :
    m.apply key source inner = runDefault key (some v) inner := by
  cases m with
  | default w =>
    cases h
    rfl
  | defaultBy value =>
    have hvalue : value source = some v := h
    unfold apply
    dsimp only
    rw [hvalue]
  | _ => cases h

/-- The word selects several candidates, and one of them means nothing; or it selects one that means
several values, and one of these is nothing. -/
def Choice.LetsNothingIn (h : Host) (c : Choice) (word : String) : Prop :=
  ∃ names, Pattern.select h word (c.supply word) = .ok names ∧
    (1 < names.length ∧ (∃ name ∈ names, c.value name = .ok .nothing) ∨
      ∃ name vs, names = [name] ∧ c.value name = .ok (.several vs) ∧ .nothing ∈ vs)

/-- A literal that means several values, one of which is nothing. -/
def Leaf.HoldsNothing (l : Leaf) : Prop :=
  ∃ vs words, l = .literal (.several vs) words ∧ .nothing ∈ vs

namespace Leaf

variable {c : Choice} {l : Leaf} {o : Occasion} {p q : Progress} {vs : List Value}
  {asked : List String}

/-- **Candidates that all have a value have one each, in order.** -/
theorem map_value_of_mapM : ∀ {names : List String} {vs : List Value},
    names.mapM c.value = .ok vs → names.map c.value = vs.map .ok
  | [], _, h => by
    cases h
    rfl
  | name :: rest, vs, h => by
    obtain ⟨v, more, hv, hmore, rfl⟩ := of_mapM_cons_ok h
    rw [List.map_cons, List.map_cons, hv, map_value_of_mapM hmore]

/-- **Nothing is bound only as one of several values.** -/
theorem nothing_mem_bindable_iff (vs : List Value) :
    .nothing ∈ bindable vs ↔
      1 < vs.length ∧ .nothing ∈ vs ∨ ∃ ws, vs = [.several ws] ∧ .nothing ∈ ws := by
  match vs with
  | [] => simp [bindable]
  | [v] => cases v <;> simp [bindable, Value.parts]
  | _ :: _ :: _ => simp [bindable]

/-- **A choice that reads a token reads the values of the candidates that it selects.** -/
theorem of_readChoice_ok {host : Host} (h : readChoice host c p = ⟨.ok vs, q, asked⟩) :
    ∃ t s names values, p.stream.next = .ok (t, s) ∧
      Pattern.select host t (c.supply t) = .ok names ∧ names.mapM c.value = .ok values ∧
      vs = bindable values := by
  cases hnext : p.stream.next with
  | error e =>
    have htoken : Step.token p = ⟨.error (.failed e), p, []⟩ := by
      unfold Step.token
      rw [hnext]
    unfold readChoice at h
    rw [Step.bind_of_error htoken] at h
    cases h
  | ok next =>
    obtain ⟨t, s⟩ := next
    -- Only a token that selects candidates with values is read; every other way has another result.
    cases hselect : Pattern.select host t (c.supply t) with
    | error fault =>
      obtain ⟨asked', hnames⟩ := ParseCourse.exists_candidates_eq c t ⟨s, p.context⟩
      unfold readChoice at h
      rw [Step.bind_of_ok (token_of_next hnext)] at h
      dsimp only at h
      rw [Step.bind_of_ok hnames, hselect] at h
      cases h
    | ok names =>
      cases hvalues : names.mapM c.value with
      | error why =>
        cases why with
        | refused reason =>
          obtain ⟨_, _, _, hread⟩ := exists_readChoice_of_refused hnext hselect hvalues
          rw [h] at hread
          cases hread
        | misused =>
          have hread := result_readChoice_of_misused hnext hselect hvalues
          rw [h] at hread
          cases hread
      | ok values =>
        refine ⟨t, s, names, values, rfl, hselect, hvalues, ?_⟩
        by_cases hne : names = []
        · rw [hne] at hselect
          have hread := readChoice_of_none hnext hselect
          rw [h] at hread
          cases hread
        · obtain ⟨_, hread⟩ := readChoice_of_values hnext hselect hne hvalues
          rw [h] at hread
          cases hread
          rfl

/-- **Selected candidates have nothing to bind among their values exactly if they let it in.** -/
theorem nothing_mem_bindable_values_iff {names : List String} {values : List Value}
    (h : names.mapM c.value = .ok values) :
    .nothing ∈ bindable values ↔
      1 < names.length ∧ (∃ name ∈ names, c.value name = .ok .nothing) ∨
        ∃ name vs, names = [name] ∧ c.value name = .ok (.several vs) ∧ .nothing ∈ vs := by
  have hmap := map_value_of_mapM h
  have hlength : names.length = values.length := by simpa using congrArg List.length hmap
  have hmem : .nothing ∈ values ↔ ∃ name ∈ names, c.value name = .ok .nothing := by
    rw [← List.mem_map, hmap]
    simp
  have hone : (∃ vs, values = [.several vs] ∧ .nothing ∈ vs) ↔
      ∃ name vs, names = [name] ∧ c.value name = .ok (.several vs) ∧ .nothing ∈ vs := by
    constructor
    · rintro ⟨vs, rfl, hvs⟩
      obtain ⟨name, rfl⟩ := List.length_eq_one_iff.1 hlength
      exact ⟨name, vs, rfl, (List.cons.inj hmap).1, hvs⟩
    · rintro ⟨name, vs, rfl, hvalue, hvs⟩
      obtain ⟨v, rfl⟩ := List.length_eq_one_iff.1 hlength.symm
      obtain rfl := Except.ok.inj (hvalue.symm.trans (List.cons.inj hmap).1)
      exact ⟨vs, rfl, hvs⟩
  rw [nothing_mem_bindable_iff, hmem, ← hlength, hone]

/-- **A choice binds nothing among its values exactly if the token lets nothing in.** -/
theorem nothing_mem_readChoice_iff {host : Host} (h : readChoice host c p = ⟨.ok vs, q, asked⟩) :
    .nothing ∈ vs ↔ ∃ t, p.stream.head? = some t ∧ c.LetsNothingIn host t.text := by
  obtain ⟨word, s, names, values, hnext, hselect, hvalues, rfl⟩ := of_readChoice_ok h
  have htoken : ∀ t, p.stream.head? = some t → t.text = word := by
    intro t ht
    obtain ⟨_, hnext'⟩ := TokenStream.next_of_head? ht
    rw [hnext] at hnext'
    cases hnext'
    rfl
  rw [nothing_mem_bindable_values_iff hvalues]
  constructor
  · intro hin
    rcases p.stream.next_cases with ⟨hc, hn, hhead⟩ | ⟨hn, -⟩
    · refine ⟨_, hhead, ?_⟩
      rw [htoken _ hhead]
      exact ⟨names, hselect, hin⟩
    · cases hn.symm.trans hnext
  · rintro ⟨t, ht, names', hselect', hin⟩
    rw [htoken t ht] at hselect'
    cases hselect.symm.trans hselect'
    exact hin

/-- **Fixed words are read as nothing exactly if it is among the several values that they mean.** -/
theorem nothing_mem_readLiteral_iff {v : Value} {words : List String}
    (h : (literal v words).read o p = ⟨.ok vs, q, asked⟩) :
    .nothing ∈ vs ↔ (literal v words).HoldsNothing := by
  unfold read at h
  obtain ⟨_, _, _, _, -, hvs, -⟩ := Step.exists_of_bind_ok h
  cases hvs
  rw [nothing_mem_bindable_iff]
  constructor
  · rintro (⟨hlength, -⟩ | ⟨ws, hws, hnothing⟩)
    · exact absurd hlength (Nat.lt_irrefl 1)
    · obtain rfl := (List.cons.inj hws).1
      exact ⟨ws, words, rfl, hnothing⟩
  · rintro ⟨ws, words', heq, hnothing⟩
    cases heq
    exact .inr ⟨ws, rfl, hnothing⟩

/-- **Neither the rest of a line nor a token is read as nothing.** -/
theorem nothing_not_mem_read (hchoice : ∀ c, l ≠ .choice c) (hselector : ∀ s, l ≠ .selector s)
    (hliteral : ∀ v words, l ≠ .literal v words) (h : l.read o p = ⟨.ok vs, q, asked⟩) :
    .nothing ∉ vs := by
  cases l <;> unfold read at h
  case literal v words => exact absurd rfl (hliteral v words)
  case choice c => exact absurd rfl (hchoice c)
  case selector s => exact absurd rfl (hselector s)
  case text =>
    obtain ⟨_, _, _, _, -, hvs, -⟩ := Step.exists_of_bind_ok h
    cases hvs
    simp
  case integer | real | truth =>
    obtain ⟨t, v, -, -, hv, rfl⟩ := of_readToken_ok h
    split at hv <;> cases hv
    simp
  case nothing =>
    cases h
    simp
  case restJoined =>
    obtain ⟨_, _, _, _, -, h, -⟩ := Step.exists_of_bind_ok h
    obtain ⟨_, _, _, _, -, h, -⟩ := Step.exists_of_bind_ok h
    obtain ⟨_, _, _, _, -, hvs, -⟩ := Step.exists_of_bind_ok h
    cases hvs
    simp
  case restRaw =>
    obtain ⟨_, _, _, _, -, h, -⟩ := Step.exists_of_bind_ok h
    obtain ⟨_, _, _, _, -, h, -⟩ := Step.exists_of_bind_ok h
    obtain ⟨_, _, _, _, -, h, -⟩ := Step.exists_of_bind_ok h
    obtain ⟨_, _, _, _, -, hvs, -⟩ := Step.exists_of_bind_ok h
    cases hvs
    simp
  case duration =>
    unfold readDuration at h
    obtain ⟨⟨t, i⟩, _, _, _, -, h, -⟩ := Step.exists_of_bind_ok h
    dsimp only at h
    rcases hd : Duration.read t with fault | us <;> rw [hd] at h
    · cases fault <;> cases h
    · cases h
      simp
  case moment =>
    obtain ⟨t, v, -, -, hv, rfl⟩ := of_readToken_ok h
    split at hv
    · cases hv
      simp
    · split at hv <;> cases hv
      simp

/-- **A selector reads entities behind its sigil.** -/
theorem nothing_not_mem_readSelector {s : Selector} {t : Token}
    (ht : p.stream.head? = some t) (hsigil : Text.beginsWith s.sigil t.text = true)
    (h : readSelector o s p = ⟨.ok vs, q, asked⟩) : .nothing ∉ vs := by
  unfold readSelector at h
  rw [Step.bind_of_ok (Step.peek_of_head? ht), Report.after_nil, if_pos hsigil] at h
  obtain ⟨⟨word, i⟩, _, _, _, -, h, -⟩ := Step.exists_of_bind_ok h
  dsimp only at h
  rcases hresolve : s.resolve word o.source with reason | _ | ⟨e, es⟩ <;> rw [hresolve] at h
  · cases h
  · cases h
  · dsimp only at h
    cases hfind : (e :: es).find? (fun e => !s.type.has e) <;> rw [hfind] at h <;> cases h
    simp

/-- **A leaf reads nothing as a value exactly if a word lets nothing into its choice**, or if it is
a literal that holds nothing. -/
theorem nothing_mem_read_iff (h : l.read o p = ⟨.ok vs, q, asked⟩) :
    .nothing ∈ vs ↔ (∃ t c, p.stream.head? = some t ∧ l.choiceFor? t.text = some c ∧
      c.LetsNothingIn o.host t.text) ∨ l.HoldsNothing := by
  have hnoLiteral : (∀ v words, l ≠ .literal v words) → ¬l.HoldsNothing :=
    fun hl ⟨vs, words, heq, _⟩ => hl _ _ heq
  by_cases hchoice : ∃ t c, p.stream.head? = some t ∧ l.choiceFor? t.text = some c
  · -- The choice that judges the token ahead reads it.
    obtain ⟨t, c, ht, hc⟩ := hchoice
    obtain ⟨_, hnext⟩ := TokenStream.next_of_head? ht
    rw [read_of_choiceFor? o hc hnext] at h
    have hno : ¬l.HoldsNothing := hnoLiteral fun v words hl => by
      subst hl
      cases hc
    rw [nothing_mem_readChoice_iff h, or_iff_left hno]
    constructor
    · rintro ⟨t', ht', hin⟩
      cases ht.symm.trans ht'
      exact ⟨t, c, ht, hc, hin⟩
    · rintro ⟨t', c', ht', hc', hin⟩
      cases ht.symm.trans ht'
      cases hc.symm.trans hc'
      exact ⟨t, ht, hin⟩
  · rw [or_iff_right fun ⟨t, c, ht, hc, _⟩ => hchoice ⟨t, c, ht, hc⟩]
    cases l with
    | literal v words => exact nothing_mem_readLiteral_iff h
    | choice c =>
      refine iff_of_false (fun hmem => ?_) (hnoLiteral (by simp))
      obtain ⟨t, ht, -⟩ := (nothing_mem_readChoice_iff h).1 hmem
      exact hchoice ⟨t, c, ht, rfl⟩
    | selector s =>
      refine iff_of_false (fun hmem => ?_) (hnoLiteral (by simp))
      cases ht : p.stream.head? with
      | none =>
        have hpeek : Step.peek p = ⟨.error (.failed p.stream.endError), p, []⟩ := by
          unfold Step.peek TokenStream.peek
          rw [ht]
        have hread : readSelector o s p = ⟨.ok vs, q, asked⟩ := h
        unfold readSelector at hread
        rw [Step.bind_of_error hpeek] at hread
        cases hread
      | some t =>
        have hsigil : Text.beginsWith s.sigil t.text = true := by
          refine Classical.byContradiction fun hsigil => hchoice ⟨t, s.choice, ht, ?_⟩
          exact if_neg hsigil
        exact nothing_not_mem_readSelector ht hsigil h hmem
    | _ =>
      exact iff_of_false (nothing_not_mem_read (by simp) (by simp) (by simp) h)
        (hnoLiteral (by simp))

end Leaf

namespace Parameter

/-- One of the modifiers of a parameter has the value as its default. -/
def Defaults (n : Parameter) (source : Source) (v : Value) : Prop :=
  ∃ m ∈ n.frame.modifiers, m.default? source = some v

/-- A leaf with a key reads the value from the tokens, wherever it begins to. -/
def Reads (n : Parameter) (o : Occasion) (tokens : List Token) (v : Value) : Prop :=
  ∃ f l q r vs asked, n = leaf f l ∧ f.key.isEmpty = false ∧ q.stream.tokens = tokens ∧
    l.read o q = ⟨.ok vs, r, asked⟩ ∧ v ∈ vs

/-- Where a binding may come from: a parameter that is reached and binds under the key, which reads
the value or has it as a default. -/
def Origin (p : Parameter) (o : Occasion) (tokens : List Token) (key : String) (v : Value) : Prop :=
  ∃ n, p.Reaches o.source n ∧ n.key = key ∧ (n.Defaults o.source v ∨ n.Reads o tokens v)

end Parameter

/-- The course of a parse on the given tokens that binds nothing but what `B` holds of. -/
def ParseCourse.bindingOn (tokens : List Token) (B : String → Value → Prop) : ParseCourse where
  leads p q := p.stream.tokens = tokens → q.stream.tokens = tokens ∧
    ∃ added, q.context = p.context.bindAll added ∧ ∀ e ∈ added, B e.1 e.2
  stops _ _ := True
  binds := B
  refl _ hp := ⟨hp, [], rfl, fun _ he => absurd he List.not_mem_nil⟩
  trans := by
    intro p q r hpq hqr hp
    obtain ⟨hq, a, ha, hBa⟩ := hpq hp
    obtain ⟨hr, b, hb, hBb⟩ := hqr hq
    refine ⟨hr, a ++ b, ?_, fun e he => (List.mem_append.1 he).elim (hBa e) (hBb e)⟩
    rw [hb, ha]
    exact List.foldl_append.symm
  back _ _ := trivial
  next _ _ hp := ⟨hp, [], rfl, fun _ he => absurd he List.not_mem_nil⟩
  put _ key v hB hp := ⟨hp, [(key, v)], rfl, fun _ he => List.mem_singleton.1 he ▸ hB⟩
  atEnd _ _ := trivial
  fails _ _ := trivial
  reworded _ _ := trivial

namespace Parameter

variable {p : Parameter} {o : Occasion}

/-- **Every binding that a parse makes has an origin.** -/
theorem exists_origins (o : Occasion) (p : Parameter) (q : Progress) :
    ∃ added, (p.parse o q).progress.context = q.context.bindAll added ∧
      ∀ e ∈ added, p.Origin o q.stream.tokens e.1 e.2 := by
  let C := ParseCourse.bindingOn q.stream.tokens (p.Origin o q.stream.tokens)
  have hgoverns : C.Governs (p.parse o) := by
    refine ParseCourse.governs_parse_of_reached (fun n hn m hm => ?_) fun f l hl r => ?_
    · have hdefault : ∀ v, m.default? o.source = some v → C.binds n.key v :=
        fun v hv => ⟨n, hn, rfl, .inl ⟨m, hm, hv⟩⟩
      cases m with
      | default v => exact hdefault v rfl
      | defaultBy value => exact hdefault
      | _ => trivial
    · -- The leaf is asked for nothing unless it stands among the tokens of the line.
      by_cases hr : r.stream.tokens = q.stream.tokens
      · refine ParseCourse.allows_readAndBind (fun _ _ _ _ => trivial) ?_
        intro hkey r' vs asked hread v hv
        exact ⟨_, hl, rfl, .inr ⟨f, l, r, r', vs, asked, rfl, hkey, hr, hread, hv⟩⟩
      · exact ⟨fun hr' => absurd hr' hr, fun _ _ => trivial⟩
  exact ((hgoverns q).1 rfl).2

/-- **An outermost default sees to it that a value is bound under the key**, whatever the key is. -/
theorem has_key_of_default {m : Modifier} {ms : List Modifier} {q : Progress}
    (hmay : p.mayUse o.source = true) (hm : p.frame.modifiers = m :: ms)
    (hdefault : (m.default? o.source).isSome = true) (hok : (p.parse o q).result = .ok ()) :
    (p.parse o q).progress.context.has p.key = true := by
  obtain ⟨v, hv⟩ := Option.isSome_iff_exists.1 hdefault
  have hparse : p.parse o = Modifier.runDefault p.key (some v)
      (Modifier.chain p.key o.source ms (p.core o)) := by
    rw [parse_eq_framed]
    unfold framed
    rw [if_pos (show o.source.may p.frame.permission = true from hmay), hm,
      Modifier.chain_cons]
    exact Modifier.apply_of_default hv _ _
  rw [hparse, Modifier.runDefault_apply] at hok ⊢
  split at hok
  · dsimp only
    unfold Context.withDefault
    split
    · assumption
    · exact Context.has_put_self _ _ _
  · cases hok

/-- Suppliers that have no value say so: none of them has nothing as its value. -/
def SuppliersTell (p : Parameter) : Prop :=
  ∀ n, p.Has n → ∀ value, .defaultBy value ∈ n.frame.modifiers →
    ∀ source, value source ≠ some .nothing

/-- A leaf that binds under the key may read a token that lets nothing into its choice, or it is a
literal that holds nothing. -/
def LetsNothingIn (p : Parameter) (o : Occasion) (tokens : List Token) (key : String) : Prop :=
  ∃ f l, p.Reaches o.source (leaf f l) ∧ f.key = key ∧ key ≠ "" ∧
    ((∃ t ∈ tokens, ∃ c, l.choiceFor? t.text = some c ∧ c.LetsNothingIn o.host t.text) ∨
      l.HoldsNothing)

/-- **Nothing is bound under the empty key but the defaults of parameters without a key, and nothing
is bound as a value but an explicit default and among the values of several candidates.**  For every
grammar, whatever a parse comes to: what is bound under the empty key is a default of a parameter
without a key, and where nothing is bound as a value, some parameter has nothing as its explicit
default, or a leaf takes a token of the line, or its fixed words, for several values one of which is
nothing.  Both exceptions are real: an outermost default is bound under any key, and a leaf makes
nothing a value exactly if it is one of several. -/
theorem bindings_are_clean (o : Occasion) (p : Parameter) (q : Progress)
    (hsuppliers : p.SuppliersTell) :
    (∃ added, (p.parse o q).progress.context = q.context.bindAll added ∧
      (∀ v, ("", v) ∈ added →
        ∃ n, p.Reaches o.source n ∧ n.key = "" ∧ n.Defaults o.source v) ∧
      ∀ key, (key, .nothing) ∈ added →
        (∃ n, p.Reaches o.source n ∧ n.key = key ∧ .default .nothing ∈ n.frame.modifiers) ∨
          p.LetsNothingIn o q.stream.tokens key) ∧
    (∀ m ms, p.mayUse o.source = true → p.frame.modifiers = m :: ms →
      (m.default? o.source).isSome = true → (p.parse o q).result = .ok () →
        (p.parse o q).progress.context.has p.key = true) ∧
    ∀ (l : Leaf) vs r asked, l.read o q = ⟨.ok vs, r, asked⟩ →
      (.nothing ∈ vs ↔ (∃ t c, q.stream.head? = some t ∧ l.choiceFor? t.text = some c ∧
        c.LetsNothingIn o.host t.text) ∨ l.HoldsNothing) := by
  refine ⟨?_, fun m ms => has_key_of_default, fun l vs r asked => Leaf.nothing_mem_read_iff⟩
  obtain ⟨added, hcontext, horigin⟩ := exists_origins o p q
  refine ⟨added, hcontext, fun v hv => ?_, fun key hkey => ?_⟩
  · obtain ⟨n, hn, hkey, hdefault | ⟨f, l, _, _, _, _, rfl, hnonempty, -⟩⟩ := horigin _ hv
    · exact ⟨n, hn, hkey, hdefault⟩
    · rw [show f.key = "" from hkey] at hnonempty
      cases hnonempty
  · obtain ⟨n, hn, rfl, ⟨m, hm, hv⟩ | ⟨f, l, r, _, vs, _, rfl, hnonempty, htokens, hread, hmem⟩⟩ :=
      horigin _ hkey
    · left
      refine ⟨n, hn, rfl, ?_⟩
      cases m with
      | default v =>
        cases hv
        exact hm
      | defaultBy value => exact absurd hv (hsuppliers n hn.has value hm o.source)
      | _ => cases hv
    · right
      refine ⟨f, l, hn, rfl, fun hempty => ?_, ?_⟩
      · rw [show f.key = "" from hempty] at hnonempty
        cases hnonempty
      · refine ((Leaf.nothing_mem_read_iff hread).1 hmem).imp_left ?_
        rintro ⟨t, c, ht, hc, hin⟩
        exact ⟨t, htokens ▸ List.mem_of_getElem? ht, c, hc, hin⟩

/-- A choice among candidates that all have a value. -/
def namedAmong (candidates : List String) (value : String → Value) : Choice :=
  ⟨fun _ => candidates, fun name => .ok (value name), true, .supplied, false⟩

/-- Someone who types a line. -/
def typist : Occasion := ⟨.bare "tester", ⟨2024, 5, 31, 12, 34, 56, 789012, none⟩, .usual⟩

/-- **Two candidates are bound cleanly**, inside a sequence without a key, and so is the default that
is supplied where none is chosen. -/
theorem two_candidates_are_bound_cleanly :
    let chosen : Parameter := .leaf { key := "c", modifiers :=
      [.defaultBy fun s => some (.text s.name)] } (.choice (namedAmong ["foo", "foobar"] .text))
    let p : Parameter := .all {} [chosen]
    let q : Progress := .ofStream (.ofLine .quoted "fo")
    p.SuppliersTell ∧ ∃ added, (p.parse typist q).progress.context = ({} : Context).bindAll added ∧
      (∀ v, ("", v) ∉ added) ∧ ∀ key, (key, .nothing) ∉ added := by
  intro chosen p q
  have hnodes : ∀ n, p.Has n → n = p ∨ n = chosen := by
    intro n hn
    refine hn.cases.imp_right ?_
    rintro ⟨c, hc, hn⟩
    cases List.mem_singleton.1 hc
    exact hn.of_leaf
  have htell : p.SuppliersTell := by
    intro n hn value hvalue source hnothing
    rcases hnodes n hn with rfl | rfl
    · cases hvalue
    · cases List.mem_singleton.1 hvalue
      cases hnothing
  obtain ⟨⟨added, hcontext, hempty, hnothing⟩, -, -⟩ := bindings_are_clean typist p q htell
  refine ⟨htell, added, hcontext, fun v hv => ?_, fun key hkey => ?_⟩
  · obtain ⟨n, hn, hkey, m, hm, -⟩ := hempty v hv
    rcases hnodes n hn.has with rfl | rfl
    · cases hm
    · exact absurd hkey (by decide)
  · rcases hnothing key hkey with ⟨n, hn, -, hm⟩ | ⟨f, l, hn, -, -, hin⟩
    · rcases hnodes n hn.has with rfl | rfl
      · cases hm
      · cases List.mem_singleton.1 hm
    · rcases hnodes _ hn.has with h | h
      · cases show leaf f l = .all {} [chosen] from h
      · cases show leaf f l = .leaf _ _ from h
        rcases hin with ⟨t, -, c, hc, names, -, ⟨-, name, -, hvalue⟩ | ⟨name, vs, -, hvalue, -⟩⟩ |
          ⟨vs, words, hliteral, -⟩
        · cases hc
          cases hvalue
        · cases hc
          cases hvalue
        · cases hliteral

/-- **Bindings are not always clean.**  A sequence without a key binds its default under the empty
key, and a choice binds nothing as a value, twice, where two candidates both mean nothing. -/
theorem default_without_key_and_nothing_are_bound :
    (¬∀ (p : Parameter) (o : Occasion) (q : Progress), q.context.entries = [] →
      (p.parse o q).progress.context.values "" = []) ∧
    ¬∀ (key : String) (l : Leaf) (o : Occasion) (q : Progress), q.context.entries = [] →
      .nothing ∉ ((leaf { key := key } l).parse o q).progress.context.values key := by
  refine ⟨fun h => ?_, fun h => ?_⟩
  · have hempty := h (.all { modifiers := [.default (.integer 7), .optional] }
      [.leaf { key := "n" } .integer]) typist (.ofStream (.ofLine .quoted "")) rfl
    have hone : ((Parameter.parse typist
        (.all { modifiers := [.default (.integer 7), .optional] } [.leaf { key := "n" } .integer])
        (.ofStream (.ofLine .quoted ""))).progress.context.values "").length = 1 := by
      decide +kernel
    rw [hempty] at hone
    cases hone
  · have hnone := h "c" (.choice (namedAmong ["foo", "foobar"] fun _ => .nothing)) typist
      (.ofStream (.ofLine .quoted "fo")) rfl
    have hsome : (((leaf { key := "c" }
        (.choice (namedAmong ["foo", "foobar"] fun _ => .nothing))).parse typist
        (.ofStream (.ofLine .quoted "fo"))).progress.context.values "c").any (fun v =>
          v matches .nothing) = true := by
      decide +kernel
    obtain ⟨v, hv, hnothing⟩ := List.any_eq_true.1 hsome
    cases v with
    | nothing => exact hnone hv
    | _ => cases hnothing

end Parameter
end CommandGrammar
