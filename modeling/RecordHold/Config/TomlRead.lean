import RecordHold.Config.TomlWord
/-!
# Config.TomlRead — TOML text to documents

A document is read line by line: blank lines, comments, headers and keys with their values.  Strings are basic or
literal, on one line or several.

A key has fewer parts than `depthLimit`, and fewer collections than that stand one inside the other.

Each call of a reader takes a character or hands over to one that does; the fuel is a multiple of the length.
-/
namespace RecordHold
namespace Toml

def depthLimit : Nat := 80

def skipBlanks (s : List Char) : List Char := s.dropWhile (fun c => c == ' ' || c == '\t')

/-- May the character stand in a comment or in a literal string? -/
def isVisible (c : Char) : Bool := c == '\t' || (32 ≤ c.toNat && c.toNat != 127)

def newline? : List Char → Option (List Char)
  | '\n' :: t         => some t
  | '\r' :: '\n' :: t => some t
  | _                 => none

def lineEnd? (s : List Char) : Option (List Char) := if s = [] then some [] else newline? s

def skipComment : List Char → List Char
  | '#' :: t => t.dropWhile isVisible
  | t        => t

/-- What may follow a value or a header on its line, and the end of the line. -/
def finishLine (s : List Char) : Option (List Char) := lineEnd? (skipComment (skipBlanks s))

/-- Blanks, comments and line ends between the items of an array. -/
def skipFiller : Nat → List Char → Option (List Char)
  | 0,        _ => none
  | fuel + 1, s =>
    match skipBlanks s with
    | '#' :: t => (lineEnd? (t.dropWhile isVisible)).bind (skipFiller fuel)
    | t =>
      match newline? t with
      | some r => skipFiller fuel r
      | none   => some t

/-! ## Strings -/

def codePoint (width : Nat) (s : List Char) : Option (Char × List Char) :=
  if s.length < width then none
  else (number? 16 (s.take width)).bind (fun n =>
    if n.isValidChar then some (Char.ofNat n, s.drop width) else none)

/-- An escape after its backslash. -/
def escape? : List Char → Option (Char × List Char)
  | 'b' :: t  => some ('\x08', t)
  | 't' :: t  => some ('\t', t)
  | 'n' :: t  => some ('\n', t)
  | 'f' :: t  => some ('\x0c', t)
  | 'r' :: t  => some ('\r', t)
  | '"' :: t  => some ('"', t)
  | '\\' :: t => some ('\\', t)
  | 'u' :: t  => codePoint 4 t
  | 'U' :: t  => codePoint 8 t
  | _         => none

def readBasic : Nat → List Char → Option (List Char × List Char)
  | 0,        _ => none
  | fuel + 1, s =>
    match s with
    | '"' :: t  => some ([], t)
    | '\\' :: t => (escape? t).bind (fun (c, r) => (readBasic fuel r).map (fun (cs, r) => (c :: cs, r)))
    | c :: t    => if isVisible c then (readBasic fuel t).map (fun (cs, r) => (c :: cs, r)) else none
    | []        => none

def readLiteral (s : List Char) : Option (List Char × List Char) :=
  let body := s.takeWhile (fun c => c != '\'' && isVisible c)
  match s.drop body.length with
  | '\'' :: r => some (body, r)
  | _         => none

/-- Skip blanks and line ends. -/
def skipLines : List Char → List Char
  | ' ' :: t          => skipLines t
  | '\t' :: t         => skipLines t
  | '\n' :: t         => skipLines t
  | '\r' :: '\n' :: t => skipLines t
  | t                 => t

/-- A backslash at the end of a line takes all blank space up to the next character with it. -/
def continuation? (s : List Char) : Option (List Char) := (newline? (skipBlanks s)).map skipLines

/-- A string over several lines up to its three closing quotes, before which two more may stand. -/
def readMultiline (quote : Char) (escapes : Bool) : Nat → List Char → Option (List Char × List Char)
  | 0,        _ => none
  | fuel + 1, s =>
    match s with
    | []     => none
    | c :: t =>
      if c = quote then
        let run := (s.takeWhile (· == quote)).length
        if 3 ≤ run then
          let kept := min (run - 3) 2
          some (List.replicate kept quote, s.drop (kept + 3))
        else (readMultiline quote escapes fuel (s.drop run)).map (fun (cs, r) => (List.replicate run quote ++ cs, r))
      else if c = '\\' ∧ escapes then
        match continuation? t with
        | some r => readMultiline quote escapes fuel r
        | none   => (escape? t).bind (fun (x, r) =>
            (readMultiline quote escapes fuel r).map (fun (cs, r) => (x :: cs, r)))
      else
        match newline? s with
        | some r => (readMultiline quote escapes fuel r).map (fun (cs, r) => ('\n' :: cs, r))
        | none =>
          if isVisible c then (readMultiline quote escapes fuel t).map (fun (cs, r) => (c :: cs, r)) else none

def dropFirstNewline (s : List Char) : List Char := (newline? s).getD s

/-- A string value from its opening quote. -/
def readString (s : List Char) : Option (List Char × List Char) :=
  match s with
  | '"' :: '"' :: '"' :: t    => readMultiline '"' true (t.length + 1) (dropFirstNewline t)
  | '\'' :: '\'' :: '\'' :: t => readMultiline '\'' false (t.length + 1) (dropFirstNewline t)
  | '"' :: t                  => readBasic (t.length + 1) t
  | '\'' :: t                 => readLiteral t
  | _                         => none

/-! ## Keys -/

def readSimpleKey (s : List Char) : Option (String × List Char) :=
  match s with
  | '"' :: t  => (readBasic (t.length + 1) t).map (fun (cs, r) => (String.ofList cs, r))
  | '\'' :: t => (readLiteral t).map (fun (cs, r) => (String.ofList cs, r))
  | t =>
    let bare := t.takeWhile isBareKey
    if bare = [] then none else some (String.ofList bare, t.drop bare.length)

/-- A key, dotted or not, with the blanks around its parts, of which there may be so many. -/
def readParts : Nat → List Char → Option (List String × List Char)
  | 0,        _ => none
  | room + 1, s =>
    (readSimpleKey (skipBlanks s)).bind (fun (k, r) =>
      match skipBlanks r with
      | '.' :: t => (readParts room t).map (fun (ks, r) => (k :: ks, r))
      | t        => some ([k], t))

def readKey (s : List Char) : Option (List String × List Char) := readParts (depthLimit - 1) s

/-! ## Values and documents -/

/- `room` counts the collections that may open one inside the other. -/
mutual
def readValue : Nat → Nat → List Char → Option (Toml × List Char)
  | 0,        _,    _ => none
  | fuel + 1, room, s =>
    match s, room with
    | '"' :: _,    _        => (readString s).map (fun (cs, r) => (.string (String.ofList cs), r))
    | '\'' :: _,   _        => (readString s).map (fun (cs, r) => (.string (String.ofList cs), r))
    | '[' :: _,    0        => none
    | '[' :: t,    room + 1 => (readItems fuel room t).map (fun (xs, r) => (.array xs, r))
    | '\x7b' :: _, 0        => none
    | '\x7b' :: t, room + 1 =>
      match skipBlanks t with
      | '\x7d' :: r => some (.table [], r)
      | r           => (readPairs fuel room [] r).map (fun (es, r) => (.table (Growing.closeEntries es), r))
    | _, _ => readWord s

/-- The items of an array up to its closing bracket. -/
def readItems : Nat → Nat → List Char → Option (List Toml × List Char)
  | 0,        _,    _ => none
  | fuel + 1, room, s =>
    match skipFiller (s.length + 1) s with
    | none            => none
    | some (']' :: r) => some ([], r)
    | some t =>
      match readValue fuel room t with
      | none        => none
      | some (v, r) =>
        match skipFiller (r.length + 1) r with
        | some (',' :: u) => (readItems fuel room u).map (fun (vs, r) => (v :: vs, r))
        | some (']' :: u) => some ([v], u)
        | _               => none

/-- The pairs of an inline table that has some, up to its closing brace. -/
def readPairs : Nat → Nat → Entries → List Char → Option (Entries × List Char)
  | 0,        _,    _,  _ => none
  | fuel + 1, room, es, s =>
    match readKey s with
    | some (path, '=' :: t) =>
      match readValue fuel room (skipBlanks t) with
      | none        => none
      | some (v, r) =>
        match Growing.addValue path v es with
        | none    => none
        | some es =>
          match skipBlanks r with
          | ',' :: u    => readPairs fuel room es u
          | '\x7d' :: u => some (es, u)
          | _           => none
    | _ => none
end

/-- The lines of a document, added to the tables so far; `header` is the path of the last header. -/
def readLines : Nat → List String → Entries → List Char → Option Entries
  | 0,        _,      _,  _ => none
  | fuel + 1, header, es, s =>
    match skipBlanks s with
    | []       => some es
    | '#' :: t => (lineEnd? (t.dropWhile isVisible)).bind (readLines fuel header es)
    | '[' :: '[' :: t =>
      match readKey t with
      | some (path, ']' :: ']' :: r) =>
        (finishLine r).bind (fun r => (Growing.openElement path es).bind (fun es => readLines fuel path es r))
      | _ => none
    | '[' :: t =>
      match readKey t with
      | some (path, ']' :: r) =>
        (finishLine r).bind (fun r => (Growing.openTable path es).bind (fun es => readLines fuel path es r))
      | _ => none
    | t =>
      match newline? t with
      | some r => readLines fuel header es r
      | none =>
        match readKey t with
        | some (path, '=' :: r) =>
          match readValue (2 * r.length + 2) (depthLimit - 1) (skipBlanks r) with
          | none        => none
          | some (v, r) =>
            (finishLine r).bind (fun r =>
              (Growing.addUnder header path v es).bind (fun es => readLines fuel header es r))
        | _ => none

/-- The document a text is; a byte order mark in front is skipped. -/
def read (source : String) : Option (List (String × Toml)) :=
  let s := match source.toList with
    | '\uFEFF' :: t => t
    | t             => t
  (readLines (s.length + 1) [] [] s).map Growing.closeEntries

end Toml
end RecordHold
