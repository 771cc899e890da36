import FieldGrouping.Source.Token

/-!
Readers of tokens. A reader takes tokens from the front and gives a result with the tokens that
are left, or fails; the first of two alternatives that succeeds is taken. Repetition and recursion
are bounded by the tokens that are left when they begin, since each round takes at least one.
-/

set_option autoImplicit false

namespace FieldGrouping.Source

abbrev Parse := StateT (List Token) Option

namespace Parse

variable {α β : Type}

def peek : Parse (Option Token) := do
  return (← get).head?

def token (result : Token → Option α) : Parse α := do
  match ← get with
  | [] => failure
  | t :: rest =>
    let a ← result t
    set rest
    return a

def exactly (expected : Token) : Parse Unit :=
  token fun t => if t = expected then some () else none

def sign (text : String) : Parse Unit :=
  exactly (.sign text)

def signOf (texts : List String) : Parse Unit :=
  token fun
    | .sign text => if texts.contains text then some () else none
    | _ => none

def word (text : String) : Parse Unit :=
  token fun
    | .word w => if w.text = text then some () else none
    | _ => none

def name : Parse Word :=
  token fun
    | .word w => if keywords.contains w.text then none else some w
    | _ => none

def atSign (text : String) : Parse Bool := do
  return (← peek) == some (.sign text)

def atWord (text : String) : Parse Bool := do
  match ← peek with
  | some (.word w) => return w.text = text
  | _ => return false

def require (condition : Bool) : Parse Unit :=
  if condition then pure () else failure

def option (p : Parse α) : Parse (Option α) :=
  (some <$> p) <|> pure none

def accepts (p : Parse α) : Parse Bool :=
  ((fun _ => true) <$> p) <|> pure false

/-- Applies a reader as often as it succeeds, at most once for each token of the bound. -/
def manyWithin (p : Parse α) : List Token → Parse (List α)
  | [] => pure []
  | _ :: bound => do
    match ← option p with
    | none => pure []
    | some a => return a :: (← manyWithin p bound)

def many (p : Parse α) : Parse (List α) := do
  manyWithin p (← get)

def many1 (p : Parse α) : Parse (List α) := do
  return (← p) :: (← many p)

def sepBy (p : Parse α) (separator : Parse β) : Parse (List α) := do
  return (← p) :: (← many (separator *> p))

/-- One or more results with commas between them; the flag tells whether a comma follows. -/
def commaSeparated (p : Parse α) : Parse (List α × Bool) := do
  let items ← sepBy p (sign ",")
  return (items, ← accepts (sign ","))

def commaList (p : Parse α) : Parse (List α) := do
  return (← commaSeparated p).1

end Parse

end FieldGrouping.Source
