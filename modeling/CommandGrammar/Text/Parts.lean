/-
# Parts of a text

Cutting texts apart and joining them, by code points.
-/

namespace CommandGrammar
namespace Text

/-- Texts in order, with a text between neighbours. -/
def joined (separator : String) (parts : List String) : String := separator.intercalate parts

/-- The part of a text between two offsets. -/
def slice (s : String) (start stop : Nat) : String :=
  String.ofList ((s.toList.take stop).drop start)

/-- **A part is as long as its span, as far as that lies in the text.** -/
theorem length_slice (s : String) (start stop : Nat) :
    (slice s start stop).toList.length = min stop s.length - start := by
  rw [slice, String.toList_ofList, List.length_drop, List.length_take, String.length_toList]

/-- A text without its first characters. -/
def dropped (n : Nat) (s : String) : String := String.ofList (s.toList.drop n)

/-- The parts of a text between the characters that `isCut` holds of. -/
def cutAt (isCut : Char → Bool) : List Char → List (List Char)
  | [] => [[]]
  | c :: rest =>
    if isCut c then [] :: cutAt isCut rest
    else
      match cutAt isCut rest with
      | part :: parts => (c :: part) :: parts
      | [] => [[c]]

/-- **A text has one part more than it has cuts.** -/
theorem length_cutAt (isCut : Char → Bool) (cs : List Char) :
    (cutAt isCut cs).length = cs.countP isCut + 1 := by
  induction cs with
  | nil => rfl
  | cons c rest ih =>
    unfold cutAt
    by_cases h : isCut c = true
    · simp [h, ih]
    · simp only [h, Bool.false_eq_true, ↓reduceIte]
      cases hr : cutAt isCut rest with
      | nil => simp [hr] at ih
      | cons p ps => simp [hr] at ih; simp [h, ih]

/-- The lines of a text: its parts between line feeds. -/
def lines (s : String) : List String := (cutAt (· == '\n') s.toList).map String.ofList

/-- Whether a text begins with another. -/
def beginsWith (start s : String) : Bool := start.toList.isPrefixOf s.toList

/-- What stands before an ending of a text, if the text ends so. -/
def beforeEnding? (ending s : String) : Option String :=
  if ending.toList.isSuffixOf s.toList then some (slice s 0 (s.length - ending.length)) else none

/-- A text, unless it is empty. -/
def nonEmpty (s? : Option String) : Option String := s?.filter fun s => !s.isEmpty

/-- The distinct texts of a list, in the order of their first appearance; `seen` are those already
listed. -/
def distinctFrom (seen : List String) : List String → List String
  | [] => []
  | s :: rest =>
    if seen.contains s then distinctFrom seen rest else s :: distinctFrom (s :: seen) rest

/-- The distinct texts of a list, in the order of their first appearance. -/
def distinct (ss : List String) : List String := distinctFrom [] ss

/-- **Keeping the distinct texts loses none.** -/
theorem mem_distinctFrom {seen ss : List String} {s : String} :
    s ∈ distinctFrom seen ss ↔ s ∈ ss ∧ s ∉ seen := by
  induction ss generalizing seen with
  | nil => simp [distinctFrom]
  | cons t rest ih =>
    unfold distinctFrom
    by_cases h : seen.contains t = true
    · simp only [h, ↓reduceIte, ih, List.mem_cons]
      simp only [List.contains_iff_mem] at h
      constructor
      · rintro ⟨h1, h2⟩; exact ⟨.inr h1, h2⟩
      · rintro ⟨rfl | h1, h2⟩
        · exact absurd h h2
        · exact ⟨h1, h2⟩
    · simp only [h, Bool.false_eq_true, ↓reduceIte, List.mem_cons, ih]
      simp only [List.contains_iff_mem] at h
      by_cases hs : s = t
      · subst hs; simp [h]
      · simp [hs]

/-- **No text is listed twice.** -/
theorem nodup_distinctFrom (seen ss : List String) : (distinctFrom seen ss).Nodup := by
  induction ss generalizing seen with
  | nil => simp [distinctFrom]
  | cons t rest ih =>
    unfold distinctFrom
    split
    · exact ih _
    · exact List.nodup_cons.2 ⟨fun h => (mem_distinctFrom.1 h).2 (by simp), ih _⟩

end Text
end CommandGrammar
