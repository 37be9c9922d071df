import MediaTags.Toml.Date
import MediaTags.Toml.Number
import MediaTags.Toml.Table
import MediaTags.Toml.Text

/-!
# Documents

A document is a row of lines: pairs of a key and a value, and headers that open a table. It is
refused as a whole when one of its lines is. Dotted keys have fewer than eighty parts, and values
nest fewer than eighty levels deep.

The program takes its reader and its writer of TOML from a package. The modules under `Toml` are
what is assumed of that package: texts are written between double quotes with the escapes of the
format, integers in base ten and only within 64 bits with their sign, and what is read is TOML 1.0
within the two limits above. That the reader accepts what the writer gives is then a theorem about
these definitions.
-/

namespace MediaTags.Toml

/-- The limit on the parts of a key and on the levels of a value. -/
def maxDepth : Nat := 79

def isBare (c : Char) : Bool := c.isAlphanum || c == '_' || c == '-'

def readName (cs : List Char) : Option (String × List Char) :=
  match cs with
  | '"' :: rest => (Text.readLine '"' true rest).map fun (t, rest) => (.ofList t, rest)
  | '\'' :: rest => (Text.readLine '\'' false rest).map fun (t, rest) => (.ofList t, rest)
  | _ =>
    let bare := cs.takeWhile isBare
    if bare.isEmpty then none else some (.ofList bare, cs.dropWhile isBare)

/-- Read a key with at most `limit` parts, and the space around it. -/
def readPath : Nat → Reader Path
  | 0, _ => none
  | limit + 1, cs => do
    let (name, rest) ← readName (skipSpace cs)
    match skipSpace rest with
    | '.' :: rest =>
      let (p, rest) ← readPath limit rest
      return ({ p with parents := name :: p.parents }, rest)
    | rest => return (⟨[], name⟩, rest)

/-- Read a key, an equals sign and a value. -/
def readPair (readValue : Reader Value) : Reader (Path × Value) := fun cs => do
  let (p, rest) ← readPath maxDepth cs
  match rest with
  | '=' :: rest =>
    let (v, rest) ← readValue (skipSpace rest)
    return ((p, v), rest)
  | _ => none

/-- The items of an array up to its bracket, at most `limit` of them. A comma may follow the last
one. -/
def readItems (readValue : Reader Value) : Nat → Reader (List Value)
  | 0, _ => none
  | limit + 1, cs =>
    match skipLines true cs with
    | ']' :: rest => some ([], rest)
    | cs => do
      let (v, rest) ← readValue cs
      match skipLines true rest with
      | ',' :: rest =>
        let (vs, rest) ← readItems readValue limit rest
        return (v :: vs, rest)
      | ']' :: rest => return ([v], rest)
      | _ => none

/-- The pairs of a table up to its brace, at most `limit` of them. -/
def readMembers (readValue : Reader Value) : Nat → Reader (List (Path × Value))
  | 0, _ => none
  | limit + 1, cs => do
    let (pair, rest) ← readPair readValue cs
    match skipSpace rest with
    | ',' :: rest =>
      let (pairs, rest) ← readMembers readValue limit rest
      return (pair :: pairs, rest)
    | '\x7d' :: rest => return ([pair], rest)
    | _ => none

/-- Read a date, a float or an integer. -/
def readNumber : Reader Value := fun cs =>
  match Date.afterDateTime? cs with
  | some rest => some (.date, rest)
  | none =>
    match Number.afterFloat? cs with
    | some rest => some (.float, rest)
    | none => (Number.readInteger cs).map fun (n, rest) => (.integer n, rest)

/-- Read a value in which arrays and tables nest at most `depth` levels deep. -/
def readValue (depth : Nat) (cs : List Char) : Option (Value × List Char) :=
  match cs with
  | '"' :: _ => (Text.read cs).map fun (t, rest) => (.text t, rest)
  | '\'' :: _ => (Text.read cs).map fun (t, rest) => (.text t, rest)
  | 't' :: 'r' :: 'u' :: 'e' :: rest => some (.boolean true, rest)
  | 'f' :: 'a' :: 'l' :: 's' :: 'e' :: rest => some (.boolean false, rest)
  | '[' :: rest =>
    match depth with
    | 0 => none
    | depth + 1 =>
      (readItems (readValue depth) (rest.length + 1) rest).map fun (vs, rest) => (.array vs, rest)
  | '\x7b' :: rest =>
    match depth with
    | 0 => none
    | depth + 1 =>
      match skipSpace rest with
      | '\x7d' :: rest => some (.table .inline [], rest)
      | rest => do
        let (pairs, rest) ← readMembers (readValue depth) (rest.length + 1) rest
        let t ← Table.ofPairs? pairs
        return (.table .inline t, rest)
  | _ => readNumber cs

inductive Line where
  | pair (path : Path) (value : Value)
  | table (path : Path)
  | item (path : Path)

/-- What follows two brackets that close a header. -/
def afterItemHeader? : List Char → Option (List Char)
  | ']' :: ']' :: rest => afterLine? rest
  | _ => none

def afterTableHeader? : List Char → Option (List Char)
  | ']' :: rest => afterLine? rest
  | _ => none

/-- Read a line that is not blank. -/
def readLine (cs : List Char) : Option (Line × List Char) :=
  match cs with
  | '[' :: '[' :: rest => do
    let (p, rest) ← readPath maxDepth rest
    return (.item p, ← afterItemHeader? rest)
  | '[' :: rest => do
    let (p, rest) ← readPath maxDepth rest
    return (.table p, ← afterTableHeader? rest)
  | _ => do
    let ((p, v), rest) ← readPair (readValue maxDepth) cs
    return (.pair p v, ← afterLine? rest)

/-- Whether nothing or a blank line with or without a comment comes next. -/
def isBlankLine : List Char → Bool
  | [] => true
  | c :: _ => c == '#' || c == '\n' || c == '\r'

/-- Read at most `limit` lines, to the end of the document. -/
def readLines : Nat → List Char → Option (List Line)
  | 0, _ => none
  | limit + 1, cs =>
    match skipSpace cs with
    | [] => some []
    | cs =>
      if isBlankLine cs then
        match afterLine? cs with
        | some rest => readLines limit rest
        | none => none
      else
        match readLine cs with
        | some (line, rest) => (readLines limit rest).map (line :: ·)
        | none => none

/-- The tables so far and the path of the one that is open. -/
structure Assembly where
  root : Table := []
  opened : List String := []

def Assembly.add (a : Assembly) : Line → Option Assembly
  | .pair p v => (a.root.insertAt a.opened p v).map fun root => { a with root }
  | .table p => (a.root.openTable p).map (⟨·, p.parents ++ [p.name]⟩)
  | .item p => (a.root.openItem p).map (⟨·, p.parents ++ [p.name]⟩)

/-- A byte order mark in front is skipped. -/
def skipMark : List Char → List Char
  | '\uFEFF' :: cs => cs
  | cs => cs

/-- The table that a document describes, unless the document is faulty. -/
def parse? (s : String) : Option Table := do
  let cs := skipMark s.toList
  let lines ← readLines (cs.length + 1) cs
  let a ← lines.foldlM Assembly.add {}
  return a.root

end MediaTags.Toml
