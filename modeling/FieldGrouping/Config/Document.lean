import FieldGrouping.Config.Scalar

/-!
TOML documents. A document is a sequence of statements, each on lines of its own: a table header,
the header of a further table of a list, or a key with its value. What a statement may touch
depends on the ones before it: a table is opened by one header only, tables and lists that were
written as values are closed for good, and no key is written twice.
-/

set_option autoImplicit false

namespace FieldGrouping.Config

abbrev Key := List String

/-! ### Keys -/

def isBareKeyChar (c : Char) : Bool :=
  c.isAlphanum || c == '-' || c == '_'

def keyPart? (cs : List Char) : Option (String × List Char) :=
  match cs.takeWhile isBareKeyChar with
  | [] => lineString? cs
  | bare => some (String.ofList bare, cs.dropWhile isBareKeyChar)

def keyTail? : Nat → List Char → Option (Key × List Char)
  | 0, _ => none
  | fuel + 1, cs =>
    match skipSpaces cs with
    | '.' :: rest => do
      let (part, rest) ← keyPart? (skipSpaces rest)
      let (parts, rest) ← keyTail? fuel rest
      return (part :: parts, rest)
    | rest => some ([], rest)

def key? (cs : List Char) : Option (Key × List Char) := do
  let (part, rest) ← keyPart? cs
  let (parts, rest) ← keyTail? (rest.length + 1) rest
  return (part :: parts, rest)

/-! ### Comments and blank space -/

/-- Drops a comment, up to the end of its line; a comment has no control characters but tabs. -/
def skipComment? (cs : List Char) : Option (List Char) :=
  match cs with
  | '#' :: rest =>
    if (rest.takeWhile (· != '\n')).any fun c => isControl c && c != '\t' then none
    else some (rest.dropWhile (· != '\n'))
  | _ => some cs

def skipFiller? : Nat → List Char → Option (List Char)
  | 0, _ => none
  | fuel + 1, cs =>
    match cs.dropWhile fun c => isSpace c || c == '\n' with
    | '#' :: rest => (skipComment? ('#' :: rest)).bind (skipFiller? fuel)
    | rest => some rest

/-! ### Tables under construction -/

/-- Applies a change to the table under a key, making the tables on the way. A list on the way
stands for its last table, if lists may be entered. -/
def updateAt (enterLists : Bool) (change : Table → Option Table) : Key → Table → Option Table
  | [], table => change table
  | part :: parts, table =>
    match table.get? part with
    | none => (updateAt enterLists change parts []).map fun sub => table.put part (.table sub)
    | some (.table sub) =>
      (updateAt enterLists change parts sub).map fun sub => table.put part (.table sub)
    | some (.list items) =>
      if enterLists then
        match items.getLast? with
        | some (.table sub) =>
          (updateAt enterLists change parts sub).map fun sub =>
            table.put part (.list (items.dropLast ++ [.table sub]))
        | _ => none
      else none
    | some _ => none

def addNew (part : String) (value : Value) (table : Table) : Option Table :=
  match table.get? part with
  | none => some (table.put part value)
  | some _ => none

def appendTable (part : String) (table : Table) : Option Table :=
  match table.get? part with
  | none => some (table.put part (.list [.table []]))
  | some (.list items) => some (table.put part (.list (items ++ [.table []])))
  | some _ => none

/-- A document under construction. `opened` are the keys that no header may open again, `closed`
those under which nothing may be written; `pending` are the keys that dotted keys passed through
and that the next header adds to `opened`. -/
structure Draft where
  table : Table := []
  opened : List Key := []
  closed : List Key := []
  pending : List Key := []
  header : Key := []

def isClosed (closed : List Key) (key : Key) : Bool :=
  closed.any (·.isPrefixOf key)

def Value.isContainer : Value → Bool
  | .list _ => true
  | .table _ => true
  | _ => false

namespace Draft

def settle (draft : Draft) : Draft :=
  { draft with opened := draft.pending ++ draft.opened, pending := [] }

/-- The statement `[key]`. -/
def openTable? (draft : Draft) (key : Key) : Option Draft :=
  if draft.opened.contains key || isClosed draft.closed key then none
  else
    (updateAt true some key draft.table).map fun table =>
      { draft with table := table, opened := key :: draft.opened, header := key }

/-- The statement `[[key]]`. What was said of the tables under the last entry is forgotten. -/
def openEntry? (draft : Draft) (key : Key) : Option Draft :=
  if isClosed draft.closed key then none
  else do
    let part ← key.getLast?
    let table ← updateAt true (appendTable part) key.dropLast draft.table
    return { draft with
      table := table
      opened := key :: draft.opened.filter fun k => !key.isPrefixOf k
      closed := draft.closed.filter fun k => !key.isPrefixOf k
      header := key }

def passedKeys (header key : Key) : List Key :=
  (List.range (key.length - 1)).map fun i => header ++ key.take (i + 1)

/-- The statement `key = value`. -/
def assign? (draft : Draft) (key : Key) (value : Value) : Option Draft :=
  let passed := passedKeys draft.header key
  let parent := draft.header ++ key.dropLast
  if passed.any draft.opened.contains || isClosed draft.closed parent then none
  else do
    let part ← key.getLast?
    let table ← updateAt true (addNew part value) parent draft.table
    return { draft with
      table := table
      pending := passed ++ draft.pending
      -- A list or table that is written out is complete.
      closed := if value.isContainer then (draft.header ++ key) :: draft.closed
        else draft.closed }

end Draft

/-! ### Values -/

def orMalformed {α : Type} (result : Option α) : Except DocumentFault α :=
  match result with
  | some a => .ok a
  | none => .error .malformed

def skipItems (cs : List Char) : Except DocumentFault (List Char) :=
  orMalformed (skipFiller? (cs.length + 1) cs)

/-- The items of a list up to its end; a comma may follow the last one. -/
def listItems (value : List Char → Except DocumentFault (Value × List Char)) :
    Nat → List Char → Except DocumentFault (List Value × List Char)
  | 0, _ => .error .malformed
  | fuel + 1, cs => do
    match ← skipItems cs with
    | ']' :: rest => return ([], rest)
    | cs =>
      let (item, cs) ← value cs
      match ← skipItems cs with
      | ']' :: rest => return ([item], rest)
      | ',' :: rest =>
        let (items, rest) ← listItems value fuel rest
        return (item :: items, rest)
      | _ => .error .malformed

def pair (value : List Char → Except DocumentFault (Value × List Char)) (cs : List Char) :
    Except DocumentFault ((Key × Value) × List Char) := do
  let (key, cs) ← orMalformed (key? cs)
  let cs ← orMalformed (char? '=' cs)
  let (v, cs) ← value (skipSpaces cs)
  return ((key, v), cs)

/-- The entries of a table between braces, on one line and without a comma at the end. -/
def inlineEntries (value : List Char → Except DocumentFault (Value × List Char)) (table : Table)
    (closed : List Key) : Nat → List Char → Except DocumentFault (Table × List Char)
  | 0, _ => .error .malformed
  | fuel + 1, cs => do
    let ((key, v), cs) ← pair value cs
    if isClosed closed key then .error .malformed
    else
      let part ← orMalformed key.getLast?
      let table ← orMalformed (updateAt false (addNew part v) key.dropLast table)
      match skipSpaces cs with
      | '\x7d' :: rest => return (table, rest)
      | ',' :: rest =>
        inlineEntries value table (if v.isContainer then key :: closed else closed) fuel
          (skipSpaces rest)
      | _ => .error .malformed

/-- A value; the fuel bounds how deep lists and tables are nested. -/
def value : Nat → List Char → Except DocumentFault (Value × List Char)
  | 0, _ => .error .malformed
  | fuel + 1, cs =>
    match cs with
    | '[' :: rest => do
      let (items, rest) ← listItems (value fuel) (rest.length + 1) rest
      return (.list items, rest)
    | '\x7b' :: rest =>
      match skipSpaces rest with
      | '\x7d' :: rest => return (.table [], rest)
      | rest => do
        let (table, rest) ← inlineEntries (value fuel) [] [] (rest.length + 1) rest
        return (.table table, rest)
    | _ => scalar cs

/-! ### Statements -/

def statement (draft : Draft) (cs : List Char) : Except DocumentFault (Draft × List Char) :=
  match cs with
  | '[' :: '[' :: rest => do
    let (key, rest) ← orMalformed (key? (skipSpaces rest))
    let draft ← orMalformed (draft.settle.openEntry? key)
    let rest ← orMalformed ((char? ']' rest).bind (char? ']'))
    return (draft, rest)
  | '[' :: rest => do
    let (key, rest) ← orMalformed (key? (skipSpaces rest))
    let draft ← orMalformed (draft.settle.openTable? key)
    let rest ← orMalformed (char? ']' rest)
    return (draft, rest)
  | _ => do
    let ((key, v), rest) ← pair (value (cs.length + 1)) cs
    let draft ← orMalformed (draft.assign? key v)
    return (draft, rest)

def statements : Nat → Draft → List Char → Except DocumentFault Draft
  | 0, _, _ => .error .malformed
  | fuel + 1, draft, cs =>
    match skipSpaces cs with
    | [] => .ok draft
    | '\n' :: rest => statements fuel draft rest
    | cs => do
      let (draft, cs) ← if cs.head? == some '#' then .ok (draft, cs) else statement draft cs
      match ← orMalformed (skipComment? (skipSpaces cs)) with
      | [] => return draft
      | '\n' :: rest => statements fuel draft rest
      | _ => .error .malformed

def parseDocument (text : String) : Except DocumentFault Table :=
  let cs := text.toList
  (statements (cs.length + 1) {} cs).map (·.table)

end FieldGrouping.Config
