import FieldGrouping.Source.Lexer
import FieldGrouping.Source.Pattern

/-!
Statements. A body is a block on lines of its own, one level deeper, or simple statements on the
same line. `statement` describes a statement in terms of the bodies inside of it, and `body` ties
the knot.
-/

set_option autoImplicit false

namespace FieldGrouping.Source

namespace Grammar

open Parse

/-! ### Simple statements -/

def operatorSigns : List String :=
  ["+=", "-=", "*=", "@=", "/=", "%=", "&=", "|=", "^=", "<<=", ">>=", "**=", "//="]

def assignmentFrom (first : Expr) : Parse Stmt := do
  let later ← many1 (sign "=" *> assigned expr)
  let all := first :: later
  let targets := all.dropLast
  require (targets.all Expr.isTarget)
  return .assign targets (all.getLast?.getD .other)

def typingFrom (target : Expr) : Parse Stmt := do
  sign ":"
  let typing ← expr .expression
  if ← accepts (sign "=") then return .annotate target typing (some (← assigned expr))
  else return .annotate target typing none

def expressionStatement : Parse Stmt := do
  let e ← starExprs expr
  if ← atSign "=" then assignmentFrom e
  else if ← atSign ":" then
    require e.isNamedTarget
    typingFrom e
  else if ← accepts (signOf operatorSigns) then
    require e.isSingleTarget
    let _ ← assigned expr
    return .simple
  else return .simple

def modulePath : Parse Unit := do
  let _ ← sepBy name (sign ".")

def newName : Parse Unit := do
  if ← accepts (word "as") then
    let _ ← name

def importedNames : Parse Unit := do
  if ← accepts (sign "*") then return ()
  else if ← accepts (sign "(") then
    let _ ← commaList (name *> newName)
    sign ")"
  else
    let _ ← sepBy (name *> newName) (sign ",")

def importSource : Parse Unit := do
  let dots ← many (signOf [".", "..."])
  let path ← accepts modulePath
  require (path || !dots.isEmpty)

def typeParameter : Parse Unit := do
  if ← accepts (sign "**") then
    let _ ← name
    if ← accepts (sign "=") then
      let _ ← expr .expression
  else if ← accepts (sign "*") then
    let _ ← name
    if ← accepts (sign "=") then
      let _ ← starExpr expr
  else
    let _ ← name
    if ← accepts (sign ":") then
      let _ ← expr .expression
    if ← accepts (sign "=") then
      let _ ← expr .expression

def typeParameters : Parse Unit := do
  if ← accepts (sign "[") then
    let _ ← commaList typeParameter
    sign "]"

def typeAlias : Parse Stmt := do
  word "type"
  let _ ← name
  typeParameters
  sign "="
  let _ ← expr .expression
  return .simple

def deletion : Parse Unit := do
  let targets ← commaList (expr .primary)
  require (targets.all Expr.isDeletable)

def keywordStatement (keyword : String) : Option (Parse Unit) :=
  match keyword with
  | "return" => some do
    let _ ← option (starExprs expr)
  | "import" => some do
    let _ ← sepBy (modulePath *> newName) (sign ",")
  | "from" => some do
    importSource
    word "import"
    importedNames
  | "raise" => some do
    if (← option (expr .expression)).isSome then
      if ← accepts (word "from") then
        let _ ← expr .expression
  | "pass" => some (pure ())
  | "break" => some (pure ())
  | "continue" => some (pure ())
  | "del" => some deletion
  | "assert" => some do
    let _ ← expr .expression
    if ← accepts (sign ",") then
      let _ ← expr .expression
  | "global" => some do
    let _ ← sepBy name (sign ",")
  | "nonlocal" => some do
    let _ ← sepBy name (sign ",")
  | _ => none

def simpleStatement : Parse Stmt := do
  match ← peek with
  | some (.word w) =>
    match keywordStatement w.text with
    | some rest =>
      word w.text
      rest
      return .simple
    | none =>
      if w.text = "yield" then
        let _ ← yieldExpr expr
        return .simple
      else if w.text = "type" then typeAlias <|> expressionStatement
      else expressionStatement
  | _ => expressionStatement

def statementLine : Parse (List Stmt) := do
  let statements ← sepBy simpleStatement (sign ";")
  let _ ← accepts (sign ";")
  exactly .newline
  return statements

/-! ### Compound statements -/

variable (body : Parse (List Stmt))

def colonBody : Parse (List Stmt) :=
  sign ":" *> body

def elsePart : Parse (List (List Stmt)) := do
  match ← option (word "else" *> colonBody body) with
  | some found => return [found]
  | none => return []

def conditional : Parse (List Stmt) := do
  let _ ← namedExpr expr
  colonBody body

def ifStatement : Parse Stmt := do
  word "if"
  let first ← conditional body
  let others ← many (word "elif" *> conditional body)
  return .compound (first :: others ++ (← elsePart body))

def whileStatement : Parse Stmt := do
  word "while"
  let first ← conditional body
  return .compound (first :: (← elsePart body))

def forStatement : Parse Stmt := do
  word "for"
  let _ ← commaList (target expr)
  word "in"
  let _ ← starExprs expr
  let first ← colonBody body
  return .compound (first :: (← elsePart body))

def withItem : Parse Unit := do
  let _ ← expr .expression
  if ← accepts (word "as") then
    let _ ← target expr

def withItems : Parse Unit :=
  (do
    sign "("
    let _ ← commaList withItem
    sign ")"
    sign ":") <|>
  (do
    let _ ← sepBy withItem (sign ",")
    sign ":")

def withStatement : Parse Stmt := do
  word "with"
  withItems
  return .compound [← body]

/-- A handler for what was raised; `mark` reads what stands after the keyword. -/
def handler (mark : Parse Unit) (needsType : Bool) : Parse (List Stmt) := do
  word "except"
  mark
  match ← option (expr .expression) with
  | none => require !needsType
  | some _ => newName
  colonBody body

def handlers : Parse (List (List Stmt)) :=
  many1 (handler body (do require !(← atSign "*")) false) <|>
  many1 (handler body (sign "*") true)

def tryStatement : Parse Stmt := do
  word "try"
  let first ← colonBody body
  let caught ← option (handlers body)
  let other ← if caught.isSome then elsePart body else pure []
  let last ← option (word "finally" *> colonBody body)
  require (caught.isSome || last.isSome)
  return .compound (first :: caught.getD [] ++ other ++ last.toList)

def typed (p : Parse Expr) : Parse Unit := do
  if ← accepts (sign ":") then
    let _ ← p

def functionDefinition : Parse Stmt := do
  word "def"
  let _ ← name
  typeParameters
  sign "("
  parameters (typed (expr .expression)) (typed (starExpr expr))
    ((fun _ => ()) <$> expr .expression)
  sign ")"
  if ← accepts (sign "->") then
    let _ ← expr .expression
  return .compound [← colonBody body]

/-- Whether no base follows an argument of another kind. -/
def basesLead (arguments : List (Passing × Expr)) : Bool :=
  (arguments.dropWhile (·.1.isBase)).all (!·.1.isBase)

def classDefinition (decorators : List Expr) : Parse Stmt := do
  word "class"
  let w ← name
  typeParameters
  let bases ← if ← accepts (sign "(") then arguments expr else pure []
  require (basesLead bases)
  return .typeDefinition w decorators bases (← colonBody body)

def asyncStatement : Parse Stmt := do
  word "async"
  functionDefinition body <|> forStatement body <|> withStatement body

def decorator : Parse Expr := do
  sign "@"
  let e ← namedExpr expr
  exactly .newline
  return e

def decoratedDefinition : Parse Stmt := do
  let decorators ← many1 decorator
  classDefinition body decorators <|> functionDefinition body <|>
    (word "async" *> functionDefinition body)

def subject : Parse Unit := do
  let first ← starNamed expr
  if ← atSign "," then
    let _ ← furtherItems (starNamed expr)
  else require !first.isStarred

def caseBlock : Parse (List Stmt) := do
  word "case"
  casePatterns
  if ← accepts (word "if") then
    let _ ← namedExpr expr
  colonBody body

def matchStatement : Parse Stmt := do
  word "match"
  subject
  sign ":"
  exactly .newline
  exactly .indent
  let cases ← many1 (caseBlock body)
  exactly .dedent
  return .compound cases

def statement : Parse (List Stmt) := do
  match ← peek with
  | some (.sign "@") => return [← decoratedDefinition body]
  | some (.word w) =>
    match w.text with
    | "if" => return [← ifStatement body]
    | "while" => return [← whileStatement body]
    | "for" => return [← forStatement body]
    | "with" => return [← withStatement body]
    | "try" => return [← tryStatement body]
    | "def" => return [← functionDefinition body]
    | "class" => return [← classDefinition body []]
    | "async" => return [← asyncStatement body]
    -- The word is a name as well, and so may begin any other statement.
    | "match" => (do return [← matchStatement body]) <|> statementLine
    | _ => statementLine
  | _ => statementLine

def bodyStep : Parse (List Stmt) := do
  if ← accepts (exactly .newline) then
    exactly .indent
    let statements ← many1 (statement body)
    exactly .dedent
    return statements.flatten
  else statementLine

def bodyWithin : List Token → Parse (List Stmt)
  | [] => failure
  | _ :: bound => bodyStep (bodyWithin bound)

def nestedBody : Parse (List Stmt) := do
  bodyWithin (← get)

def sourceFile : Parse (List Stmt) := do
  let statements ← many (statement nestedBody)
  return statements.flatten

end Grammar

def parse? (text : String) : Option (List Stmt) := do
  let tokens ← tokens? text
  match ← Grammar.sourceFile.run tokens with
  | (statements, []) => some statements
  | _ => none

end FieldGrouping.Source
