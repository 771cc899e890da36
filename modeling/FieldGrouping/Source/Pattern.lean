import FieldGrouping.Source.Expression

/-!
Patterns of the cases of a match statement. Nothing of a pattern is kept; only its form is
checked.
-/

set_option autoImplicit false

namespace FieldGrouping.Source.Grammar

open Parse

def signedNumber (imaginary : Bool) : Parse Unit := do
  let _ ← accepts (sign "-")
  exactly (.number imaginary)

def numberPattern : Parse Unit :=
  (do
    signedNumber false
    if ← accepts (signOf ["+", "-"]) then exactly (.number true)) <|>
  signedNumber true

def literalPattern : Parse Unit := do
  match ← peek with
  | some (.literal _) => (fun _ => ()) <$> strings expr
  | some .formatStart => (fun _ => ()) <$> strings expr
  | some (.word w) => if constantWords.contains w.text then word w.text else failure
  | _ => numberPattern

def captureEnds : Parse Bool := do
  return !((← atSign ".") || (← atSign "(") || (← atSign "="))

def capture : Parse Unit := do
  let w ← name
  require (w.text ≠ "_")
  require (← captureEnds)

def dottedName (least : Nat) : Parse Unit := do
  let _ ← name
  let attributes ← many (sign "." *> name)
  require (least ≤ attributes.length)

def sequenceItem (pattern : Parse Unit) : Parse Bool := do
  if ← accepts (sign "*") then
    let _ ← name
    return true
  else
    pattern
    return false

def sequenceItems (pattern : Parse Unit) (closing : String) : Parse Unit := do
  if ← accepts (sign closing) then return ()
  else
    let _ ← commaList (sequenceItem pattern)
    sign closing

def groupPattern (pattern : Parse Unit) : Parse Unit := do
  if ← accepts (sign ")") then return ()
  else
    let (items, comma) ← commaSeparated (sequenceItem pattern)
    require (comma || items != [true])
    sign ")"

/-- A part of a mapping: a key with a pattern, or two stars with a name, which must be the last.
The flag tells which. -/
def mappingItem (pattern : Parse Unit) : Parse Bool := do
  if ← accepts (sign "**") then
    capture
    return true
  else
    literalPattern <|> dottedName 1
    sign ":"
    pattern
    return false

def mappingPattern (pattern : Parse Unit) : Parse Unit := do
  if ← accepts (sign "\x7d") then return ()
  else
    let items ← commaList (mappingItem pattern)
    require !(items.dropLast.contains true)
    sign "\x7d"

def classItem (pattern : Parse Unit) : Parse Bool := do
  match ← option keywordName with
  | some _ =>
    pattern
    return true
  | none =>
    pattern
    return false

def classPattern (pattern : Parse Unit) : Parse Unit := do
  if ← accepts (sign ")") then return ()
  else
    let items ← commaList (classItem pattern)
    require !((items.dropWhile (!·)).contains false)
    sign ")"

def namePattern (pattern : Parse Unit) : Parse Unit := do
  let w ← name
  if w.text = "_" then return ()
  else
    let _ ← many (sign "." *> name)
    if ← accepts (sign "(") then classPattern pattern
    else require !(← atSign "=")

def closedPattern (pattern : Parse Unit) : Parse Unit := do
  match ← peek with
  | some (.sign "(") => sign "(" *> groupPattern pattern
  | some (.sign "[") => sign "[" *> sequenceItems pattern "]"
  | some (.sign "\x7b") => sign "\x7b" *> mappingPattern pattern
  | _ => literalPattern <|> namePattern pattern

def patternStep (pattern : Parse Unit) : Parse Unit := do
  let _ ← sepBy (closedPattern pattern) (sign "|")
  if ← accepts (word "as") then capture

def patternWithin : List Token → Parse Unit
  | [] => failure
  | _ :: bound => patternStep (patternWithin bound)

def pattern : Parse Unit := do
  patternWithin (← get)

def casePatterns : Parse Unit := do
  let (items, comma) ← commaSeparated (sequenceItem pattern)
  require (comma || items != [true])

end FieldGrouping.Source.Grammar
