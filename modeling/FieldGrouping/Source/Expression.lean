import FieldGrouping.Source.Parameter
import FieldGrouping.Source.Tree

/-!
Expressions. `step` describes every kind of expression in terms of the expressions inside of it;
`expr` ties the knot. An operator with its operands is of no further interest, so chains of
operators of all precedences are read in one go: what is accepted does not depend on how they are
grouped.
-/

set_option autoImplicit false

namespace FieldGrouping.Source

inductive Rank where
  | expression
  | disjunction
  | inversion
  | operand
  | factor
  | primary
  deriving DecidableEq, Repr

namespace Grammar

open Parse

abbrev Inner := Rank → Parse Expr

variable (inner : Inner)

/-- The value after `:=`, where the expression before it is a name. -/
def bound (target : Expr) : Parse Expr :=
  match target with
  | .name _ => do
    sign ":="
    let _ ← inner .expression
    return .other
  | _ => failure

def namedExpr : Parse Expr := do
  let e ← inner .expression
  if ← atSign ":=" then bound inner e else return e

def starNamed : Parse Expr := do
  if ← accepts (sign "*") then return .starred (← inner .operand)
  else namedExpr inner

def starExpr : Parse Expr := do
  if ← accepts (sign "*") then return .starred (← inner .operand)
  else inner .expression

def starExprs : Parse Expr := do
  let (items, comma) ← commaSeparated (starExpr inner)
  match items, comma with
  | [e], false => return e
  | _, _ => return .tuple items

def yieldExpr : Parse Expr := do
  word "yield"
  if ← accepts (word "from") then
    let _ ← inner .expression
  else
    let _ ← option (starExprs inner)
  return .other

def assigned : Parse Expr := do
  if ← atWord "yield" then yieldExpr inner else starExprs inner

def target : Parse Expr := do
  let star ← accepts (sign "*")
  let e ← inner .primary
  let e := if star then .starred e else e
  require e.isTarget
  return e

def atFor : Parse Bool := do
  return (← atWord "for") || (← atWord "async")

def forClause : Parse Unit := do
  let _ ← accepts (word "async")
  word "for"
  let _ ← commaList (target inner)
  word "in"
  let _ ← inner .disjunction
  let _ ← many (word "if" *> inner .disjunction)
  return ()

def comprehension (element : Expr) : Parse Expr := do
  require !element.isStarred
  let _ ← many1 (forClause inner)
  return .other

def furtherItems (p : Parse Expr) : Parse (List Expr) := do
  let items ← many (sign "," *> p)
  let _ ← accepts (sign ",")
  return items

def parenthesized : Parse Expr := do
  if ← accepts (sign ")") then return .tuple []
  else if ← atWord "yield" then
    let e ← yieldExpr inner
    sign ")"
    return .group e
  else
    let first ← starNamed inner
    if ← atFor then
      let e ← comprehension inner first
      sign ")"
      return .group e
    else if ← atSign "," then
      let items ← furtherItems (starNamed inner)
      sign ")"
      return .tuple (first :: items)
    else
      require !first.isStarred
      sign ")"
      return .group first

def bracketed : Parse Expr := do
  if ← accepts (sign "]") then return .list []
  else
    let first ← starNamed inner
    if ← atFor then
      let e ← comprehension inner first
      sign "]"
      return e
    else
      let items ← furtherItems (starNamed inner)
      sign "]"
      return .list (first :: items)

def dictItem : Parse Expr := do
  if ← accepts (sign "**") then inner .operand
  else
    let _ ← inner .expression
    sign ":"
    inner .expression

def braced : Parse Expr := do
  if ← accepts (sign "\x7d") then return .other
  else if ← atSign "**" then
    let _ ← commaList (dictItem inner)
    sign "\x7d"
    return .other
  else
    let first ← starExpr inner
    let keyed ← if first.isStarred then pure false else accepts (sign ":")
    if keyed then
      let value ← inner .expression
      if ← atFor then
        let _ ← comprehension inner value
      else
        let _ ← furtherItems (dictItem inner)
      sign "\x7d"
      return .other
    else
      let first ← if ← atSign ":=" then bound inner first else pure first
      if ← atFor then
        let _ ← comprehension inner first
      else
        let _ ← furtherItems (starNamed inner)
      sign "\x7d"
      return .other

def stringPiece : Parse Expr :=
  (Expr.literal <$> token fun
    | .literal l => some l
    | _ => none) <|>
  (do
    exactly .formatStart
    let _ ← many (exactly .formatField *> starExprs inner)
    exactly .formatEnd
    return .other)

def isBytes : Expr → Bool
  | .literal l => l.bytes
  | _ => false

/-- Strings after one another make one string; bytes are not mixed with others. -/
def strings : Parse Expr := do
  let pieces ← many1 (stringPiece inner)
  require (pieces.all isBytes || !pieces.any isBytes)
  match pieces with
  | [piece] => return piece
  | _ => return .other

def constantWords : List String := ["True", "False", "None"]

def atom : Parse Expr := do
  match ← peek with
  | some (.word w) =>
    if constantWords.contains w.text then
      word w.text
      return .other
    else return .name (← name)
  | some (.number _) =>
    token fun _ => some ()
    return .other
  | some (.literal _) => strings inner
  | some .formatStart => strings inner
  | some (.sign "...") =>
    sign "..."
    return .other
  | some (.sign "(") => sign "(" *> parenthesized inner
  | some (.sign "[") => sign "[" *> bracketed inner
  | some (.sign "\x7b") => sign "\x7b" *> braced inner
  | _ => failure

def keywordName : Parse Word := do
  let w ← name
  sign "="
  return w

def argument : Parse (Passing × Expr) := do
  if ← accepts (sign "*") then return (.star, ← inner .expression)
  else if ← accepts (sign "**") then return (.doubleStar, ← inner .expression)
  else
    match ← option keywordName with
    | some w => return (.keyword w.text, ← inner .expression)
    | none => return (.positional, ← namedExpr inner)

/-- How far a list of arguments has got: keywords end the positional ones, and an unpacked mapping
ends the unpacked sequences. -/
inductive ArgumentPhase where
  | positional
  | keyword
  | mapping

def ArgumentPhase.next? : ArgumentPhase → Passing → Option ArgumentPhase
  | .positional, .positional => some .positional
  | .positional, .star => some .positional
  | .keyword, .star => some .keyword
  | .mapping, .keyword _ => some .mapping
  | _, .keyword _ => some .keyword
  | _, .doubleStar => some .mapping
  | _, _ => none

def argumentsOrdered (arguments : List (Passing × Expr)) : Bool :=
  ((arguments.map (·.1)).foldlM ArgumentPhase.next? .positional).isSome

def argumentsAfter (first : Passing × Expr) : Parse (List (Passing × Expr)) := do
  let others ← many (sign "," *> argument inner)
  let _ ← accepts (sign ",")
  sign ")"
  require (argumentsOrdered (first :: others))
  return first :: others

def arguments : Parse (List (Passing × Expr)) := do
  if ← accepts (sign ")") then return []
  else argumentsAfter inner (← argument inner)

/-- Arguments of a call up to the closing parenthesis. A comprehension may stand as the only
one. -/
def callArguments : Parse (List (Passing × Expr)) := do
  if ← accepts (sign ")") then return []
  else
    let first ← argument inner
    if first.1 = .positional && (← atFor) then
      let e ← comprehension inner first.2
      sign ")"
      return [(.positional, e)]
    else argumentsAfter inner first

def sliceTail : Parse Unit := do
  sign ":"
  let _ ← option (inner .expression)
  if ← accepts (sign ":") then
    let _ ← option (inner .expression)
  return ()

def subscriptItem : Parse Unit := do
  if ← accepts (sign "*") then
    let _ ← inner .expression
    return ()
  else if ← atSign ":" then sliceTail inner
  else
    let e ← inner .expression
    if ← atSign ":" then sliceTail inner
    else if ← atSign ":=" then
      let _ ← bound inner e
      return ()
    else return ()

def trailer : Parse (Expr → Expr) := do
  if ← accepts (sign ".") then
    let w ← name
    return fun e => .member e w.text
  else if ← accepts (sign "(") then
    let found ← callArguments inner
    return fun e => .call e found
  else
    sign "["
    let _ ← commaList (subscriptItem inner)
    sign "]"
    return fun e => .subscript e

def primary : Parse Expr := do
  let e ← atom inner
  let trailers ← many (trailer inner)
  return trailers.foldl (fun e change => change e) e

def power : Parse Expr := do
  let awaited ← accepts (word "await")
  let e ← primary inner
  if ← accepts (sign "**") then
    let _ ← inner .factor
    return .other
  else return if awaited then .other else e

def factor : Parse Expr := do
  if ← accepts (signOf ["+", "-", "~"]) then
    let _ ← inner .factor
    return .other
  else power inner

/-- Operands with operators between them; two or more make an expression of no further
interest. -/
def chain (operand : Parse Expr) (operator : Parse Unit) : Parse Expr := do
  let e ← operand
  match ← many (operator *> operand) with
  | [] => return e
  | _ => return .other

def arithmeticSigns : List String :=
  ["|", "^", "&", "<<", ">>", "+", "-", "*", "/", "//", "%", "@"]

def operand : Parse Expr :=
  chain (factor inner) (signOf arithmeticSigns)

def comparisonSigns : List String := ["==", "!=", "<", "<=", ">", ">="]

def comparisonOperator : Parse Unit :=
  signOf comparisonSigns <|>
  word "in" <|>
  (word "not" *> word "in") <|>
  (do
    word "is"
    let _ ← accepts (word "not")
    return ())

def inversion : Parse Expr := do
  if ← accepts (word "not") then
    let _ ← inner .inversion
    return .other
  else chain (operand inner) comparisonOperator

def disjunction : Parse Expr :=
  chain (inversion inner) (word "and" <|> word "or")

def lambda : Parse Expr := do
  word "lambda"
  parameters (pure ()) (pure ()) ((fun _ => ()) <$> inner .expression)
  sign ":"
  let _ ← inner .expression
  return .other

def expression : Parse Expr := do
  if ← atWord "lambda" then lambda inner
  else
    let e ← disjunction inner
    if ← accepts (word "if") then
      let _ ← disjunction inner
      word "else"
      let _ ← inner .expression
      return .other
    else return e

/-- An expression of a rank, in terms of the expressions inside of it. -/
def step : Rank → Parse Expr
  | .expression => expression inner
  | .disjunction => disjunction inner
  | .inversion => inversion inner
  | .operand => operand inner
  | .factor => factor inner
  | .primary => primary inner

def exprWithin : List Token → Inner
  | [], _ => failure
  | _ :: bound, rank => step (exprWithin bound) rank

/-- An expression of a rank. Each level of nesting takes a token, so that the tokens themselves
bound its depth. -/
def expr (rank : Rank) : Parse Expr := do
  exprWithin (← get) rank

end Grammar

end FieldGrouping.Source
