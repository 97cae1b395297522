/-
# Sessions

A token stream and a context that are worked on step by step, with two ways to go back: states that
are saved under a name, and scopes.

A scope remembers where the stream and the context stood when it was begun, and leaving it without a
commit takes both back there.  When the stream was replaced meanwhile, only the context goes back:
the place that the scope remembers is one of a stream that is no longer read.
-/

import CommandGrammar.Flag.Parse

namespace CommandGrammar

/-- A state that was saved. -/
inductive SavedState
  /-- A place in a stream, as the number of tokens before it. -/
  | place (cursor : Int)
  /-- The bindings of a context. -/
  | bindings (c : Context)

/-- The name of a kind of saved state. -/
def SavedState.kindName : SavedState → String
  | place _ => "TokenStreamState"
  | bindings _ => "ContextState"

/-- Why a saved state cannot be taken up. -/
inductive RestoreProblem
  /-- The place lies outside the stream. -/
  | outside (cursor : Int)
  /-- It is a state of another kind. -/
  | wrongKind (expected got : String)
  deriving DecidableEq, Repr

/-- The wording of a refused state. -/
def RestoreProblem.message : RestoreProblem → String
  | .outside n => s!"State cursor {n} is outside this stream"
  | .wrongKind expected got => s!"Expected {expected}, got {got}"

/-- What a scope remembers. -/
structure Scope where
  /-- Which stream was read, by how many came before it. -/
  generation : Nat
  /-- The place in that stream. -/
  cursor : Nat
  context : Context
  /-- Whether what was done since is to stay. -/
  committed : Bool := false

/-- A stream and a context that are worked on. -/
structure Session where
  progress : Progress
  /-- How often the stream was replaced. -/
  generation : Nat := 0
  /-- The saved states, by name. -/
  saved : List (String × SavedState) := []
  /-- The open scopes, the innermost first. -/
  scopes : List Scope := []

namespace Session

/-- The session with another stream. -/
def replaceStream (s : Session) (stream : TokenStream) : Session :=
  { s with progress := { s.progress with stream := stream }, generation := s.generation + 1 }

/-- The session with the cursor elsewhere in its stream. -/
def moveTo (s : Session) (stream : TokenStream) : Session :=
  { s with progress := { s.progress with stream := stream } }

/-- The session with another context. -/
def withContext (s : Session) (c : Context) : Session :=
  { s with progress := { s.progress with context := c } }

/-- Runs a step. -/
def run {α : Type} (s : Session) (step : Step α) : Except Stop α × Session :=
  let r := step s.progress
  (r.result, { s with progress := r.progress })

/-- Reads the flags of the stream and goes on with what they leave. -/
def readFlags (s : Session) (o : Occasion) (fs : Flags) : Except Stop Unit × Session :=
  match s.run (fs.parse o fun _ => false) with
  | (.ok none, t) => (.ok (), t)
  | (.ok (some stream), t) => (.ok (), t.replaceStream stream)
  | (.error e, t) => (.error e, t)

/-- Saves a state under a name. -/
def save (s : Session) (name : String) (state : SavedState) : Session :=
  { s with saved := (name, state) :: s.saved }

/-- The place where the stream stands. -/
def place (s : Session) : SavedState := .place s.progress.stream.cursor

/-- Takes the stream to a saved place. -/
def restoreStream (s : Session) : SavedState → Except RestoreProblem Session
  | .place n =>
    match s.progress.stream.seek? n with
    | some stream => .ok (s.moveTo stream)
    | none => .error (.outside n)
  | state => .error (.wrongKind "TokenStreamState" state.kindName)

/-- Takes the context to saved bindings. -/
def restoreContext (s : Session) : SavedState → Except RestoreProblem Session
  | .bindings c => .ok (s.withContext c)
  | state => .error (.wrongKind "ContextState" state.kindName)

/-- Opens a scope. -/
def openScope (s : Session) : Session :=
  let scope : Scope := ⟨s.generation, s.progress.stream.cursor, s.progress.context, false⟩
  { s with scopes := scope :: s.scopes }

/-- Makes what was done in the innermost scope stay. -/
def commit (s : Session) : Session :=
  match s.scopes with
  | [] => s
  | scope :: outer => { s with scopes := { scope with committed := true } :: outer }

/-- Goes back to where a scope was begun. -/
def goBack (s : Session) (scope : Scope) : Session :=
  let t := s.withContext scope.context
  if scope.generation = s.generation then
    match t.progress.stream.seek? scope.cursor with
    | some stream => t.moveTo stream
    | none => t
  else t

/-- Goes back to where the innermost scope was begun, and stays in it. -/
def rollBack (s : Session) : Session :=
  match s.scopes with
  | [] => s
  | scope :: _ => s.goBack scope

/-- Leaves the innermost scope; what was done in it stays only if it was committed. -/
def closeScope (s : Session) : Session :=
  match s.scopes with
  | [] => s
  | scope :: outer =>
    let t := if scope.committed then s else s.goBack scope
    { t with scopes := outer }

/-- **A scope that is left at once changes no binding.** -/
theorem context_closeScope_openScope (s : Session) :
    s.openScope.closeScope.progress.context = s.progress.context := by
  simp only [openScope, closeScope, goBack, withContext, moveTo, Bool.false_eq_true, if_false,
    if_true]
  split <;> rfl

end Session
end CommandGrammar
