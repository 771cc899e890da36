import FieldGrouping.Source.Lexer.Format
import FieldGrouping.Source.Lexer.Numeral
import FieldGrouping.Source.Lexer.Quotation
import FieldGrouping.Text.Identifier
import FieldGrouping.Text.Lines

/-!
From characters to tokens. Outside of brackets a line ends with a newline token, and a change of
the indentation at the start of a line gives indent and dedent tokens. Indentation is measured
twice, with tabs going to the next multiple of eight and with tabs as one column: the two measures
have to agree on what is deeper. Blank lines and lines with only a comment are passed over.
-/

set_option autoImplicit false

namespace FieldGrouping.Source

namespace Lexer

/-- An indentation: with wide tabs, and with tabs of one column. -/
structure Indentation where
  wide : Nat
  narrow : Nat
  deriving DecidableEq, Repr

/-- The state between two tokens. `lineStart` tells that the indentation of a line is still to be
measured; `brackets` are the closing brackets that are waited for, the innermost first. -/
structure State where
  rest : List Char
  mark : Mark
  indentations : List Indentation
  brackets : List Char
  lineStart : Bool

def State.take (state : State) (count : Nat) : State :=
  { state with
    rest := state.rest.drop count
    mark := state.mark.after (state.rest.take count) }

def State.skipTo (state : State) (rest : List Char) : State :=
  state.take (state.rest.length - rest.length)

/-- Measures the indentation at the start of a line; `passed` counts the characters. A form feed
starts the measure again. A backslash at the end of a line keeps the columns that were measured
before the first one, if there are any. -/
def measure (now : Indentation) (kept passed : Nat) :
    List Char → Option (Indentation × Nat × List Char)
  | ' ' :: cs => measure ⟨now.wide + 1, now.narrow + 1⟩ kept (passed + 1) cs
  | '\t' :: cs => measure ⟨(now.wide / 8 + 1) * 8, now.narrow + 1⟩ kept (passed + 1) cs
  | '\x0c' :: cs => measure ⟨0, 0⟩ kept (passed + 1) cs
  | '\\' :: '\n' :: cs =>
    if cs.isEmpty then none
    else measure now (if kept = 0 then now.wide else kept) (passed + 2) cs
  | '\\' :: _ => none
  | cs => some (if kept = 0 then now else ⟨kept, kept⟩, passed, cs)

def commentLength (cs : List Char) : Nat :=
  match cs with
  | '#' :: _ => (cs.takeWhile (· != '\n')).length
  | _ => 0

/-- The dedent tokens that lead back to an indentation, and the indentations that stay open. -/
def dedents (now : Indentation) : List Indentation → Option (List Token × List Indentation)
  | [] => none
  | top :: outer =>
    if now.wide < top.wide then
      (dedents now outer).map fun r => (.dedent :: r.1, r.2)
    else if now = top then some ([], top :: outer)
    else none

def indentTokens (now : Indentation) (open_ : List Indentation) :
    Option (List Token × List Indentation) :=
  match open_ with
  | [] => none
  | top :: outer =>
    if now.wide = top.wide then
      -- How wide tabs are must not decide, so both measures have to agree.
      if now.narrow = top.narrow then some ([], open_) else none
    else if top.wide < now.wide then
      if top.narrow < now.narrow then some ([.indent], now :: open_) else none
    else dedents now (top :: outer)

def startLine (state : State) : Option (List Token × State) := do
  let (now, passed, rest) ← measure ⟨0, 0⟩ 0 0 state.rest
  let comment := commentLength rest
  match rest.drop comment with
  | [] => return ([], { state.take (passed + comment) with lineStart := false })
  -- The indentation of a blank line, or of a comment, counts for nothing.
  | '\n' :: _ => return ([], state.take (passed + comment + 1))
  | _ =>
    let (tokens, indentations) ← indentTokens now state.indentations
    return (tokens, { state.take passed with indentations := indentations, lineStart := false })

def word (state : State) : Option (List Token × State) :=
  let chars := state.rest.takeWhile isWordChar
  match chars with
  | [] => none
  | first :: others =>
    if Text.isNameStart first && others.all Text.isNameChar then
      some ([.word ⟨String.ofList chars, state.mark⟩], state.take chars.length)
    else none

def sign? (cs : List Char) : Option String :=
  signs.find? fun s => s.toList.isPrefixOf cs

def sign (state : State) : Option (List Token × State) := do
  let text ← sign? state.rest
  let next := state.take text.length
  match text.toList with
  | [c] =>
    match closerOf? c with
    | some closer => return ([.sign text], { next with brackets := closer :: state.brackets })
    | none =>
      if c = ')' ∨ c = ']' ∨ c = '\x7d' then
        match state.brackets with
        | closer :: outer =>
          if c = closer then return ([.sign text], { next with brackets := outer }) else none
        | [] => none
      else return ([.sign text], next)
  | _ => return ([.sign text], next)

def finish (state : State) (lineOpen : Bool) : Option (List Token) :=
  if state.brackets.isEmpty then
    some ((if lineOpen then [.newline] else []) ++
      List.replicate (state.indentations.length - 1) .dedent)
  else none

def State.initial (cs : List Char) : State :=
  ⟨cs, ⟨1, 1⟩, [⟨0, 0⟩], [], true⟩

/-- A backslash that continues a line; the text must go on after it. -/
def continuation (state : State) : Option State :=
  match state.rest with
  | '\\' :: '\n' :: _ :: _ => some (state.take 2)
  | _ => none

inductive Step where
  | tokens (tokens : List Token) (next : State)
  | format (fields : List (List Char)) (next : State)
  | finished (tokens : List Token)

def quotedStep (state : State) : Option Step := do
  let (kind, letters, rest) ← stringKind? {} [] state.rest
  let (quotes, body, after) ← quotation? rest
  let next := state.take (letters.length + 2 * quotes.length + body.length)
  let next := { next with rest := after }
  if kind.format then
    let fields ← formatFields? kind.raw body
    return .format fields next
  else return .tokens [.literal ⟨kind.raw, kind.bytes, body⟩] next

def numeralStep (state : State) : Option Step := do
  let (imaginary, rest) ← numeral? state.rest
  return .tokens [.number imaginary] (state.skipTo rest)

def startsNumeral : List Char → Bool
  | '.' :: c :: _ => c.isDigit
  | c :: _ => c.isDigit
  | [] => false

def startsQuoted (cs : List Char) : Bool :=
  (stringKind? {} [] cs).isSome

/-- Reads on from a state; `lineOpen` tells that the line has tokens. -/
def step (state : State) (lineOpen : Bool) : Option Step :=
  if state.lineStart && state.brackets.isEmpty then
    (startLine state).map fun r => .tokens r.1 r.2
  else
    match state.rest with
    | [] => (finish state lineOpen).map .finished
    | c :: cs =>
      if c = ' ' ∨ c = '\t' ∨ c = '\x0c' then some (.tokens [] (state.take 1))
      else if c = '#' then some (.tokens [] (state.take (commentLength (c :: cs))))
      else if c = '\n' then
        if state.brackets.isEmpty then
          some (.tokens [.newline] { state.take 1 with lineStart := true })
        -- Between brackets the end of a line is blank space.
        else some (.tokens [] (state.take 1))
      else if c = '\\' then (continuation state).map (.tokens [])
      else if startsNumeral (c :: cs) then numeralStep state
      else if startsQuoted (c :: cs) then quotedStep state
      else if isWordChar c then (word state).map fun r => .tokens r.1 r.2
      else (sign state).map fun r => .tokens r.1 r.2

def lineOpenAfter (lineOpen : Bool) (tokens : List Token) : Bool :=
  match tokens.getLast? with
  | some .newline => false
  | some .dedent => false
  | some .indent => false
  | some _ => true
  | none => lineOpen

/-- The tokens from a state on; `done` holds those before them, backwards. The expression of a
field of a format string is read as a text of its own, in parentheses. -/
def run (done : List Token) (lineOpen : Bool) : Nat → State → Option (List Token)
  | 0, _ => none
  | fuel + 1, state => do
    match ← step state lineOpen with
    | .finished tokens => return done.reverse ++ tokens
    | .tokens tokens next =>
      run (tokens.reverse ++ done) (lineOpenAfter lineOpen tokens) fuel next
    | .format fields next =>
      let inner ← fields.mapM fun field =>
        run [] false fuel (.initial ('(' :: (field ++ [')'])))
      let tokens := inner.flatMap fun ts => .formatField :: ts.filter (· ≠ .newline)
      run (.formatEnd :: (tokens.reverse ++ .formatStart :: done)) true fuel next

end Lexer

def dropByteOrderMark : List Char → List Char
  | '\uFEFF' :: cs => cs
  | cs => cs

def tokens? (text : String) : Option (List Token) :=
  let cs := Text.unifyNewlines (dropByteOrderMark text.toList)
  if cs.contains '\x00' then none
  -- A step takes a character, unless it settles the indentation of a line or ends the text.
  else Lexer.run [] false (2 * cs.length + 2) (.initial cs)

end FieldGrouping.Source
