import ThresholdCheck.Toml.Token

/-!
# TOML: statements

A document is a row of statements: headers that open a table or an element of an array of tables,
and entries that give a key its value (`statements`). Here only the order of the tokens is judged;
keys and scalars are kept as they are written, and a key or a value that is missing is mostly kept
as one without characters. The first fault in the order of the tokens is told.
-/

namespace ThresholdCheck.Toml

open Text (byteSize)

/-! ## 1. The shape of a document -/

/-- A key or a scalar as it is written. -/
structure Piece where
  encoding : Encoding
  span : Span
  chars : List Char

/-- A value as it is written. -/
inductive Node where
  | scalar (piece : Piece)
  | array (span : Span) (items : List Node)
  | table (span : Span) (entries : List (List Piece × Node))

/-- One statement. The path of a header or an entry has its keys in order, and one at least. -/
inductive Statement where
  | header (isArray : Bool) (span : Span) (path : List Piece)
  | entry (path : List Piece) (value : Node)

/-- A missing key or scalar before a token. -/
def missingPiece (t : Token) : Piece := ⟨.bare, t.span.before, []⟩

/-- A missing value before the brace that closes an inline table: a literal string that has not
    even its opening quote. -/
def missingString (t : Token) : Piece := ⟨.literal, t.span.before, []⟩

/-! ## 2. Blanks, comments and line ends -/

/-- The tokens from the first that is no blank on. -/
def skipBlanks (ts : List Token) : List Token := ts.dropWhile fun t => t.kind == .blank

/-- Whether a character is no control, the tab apart. -/
def isVisible (c : Char) : Bool := c = '\t' || (0x20 ≤ c.toNat && c != '\x7F')

/-- Checks a comment: it holds no control characters. -/
def checkComment (t : Token) : Except Fault Unit :=
  if t.chars.all isVisible then .ok ()
  else
    let at_ := t.span.start + byteSize (t.chars.takeWhile isVisible)
    .error (faultAt ⟨at_, at_⟩ "invalid comment character, expected printable characters")

/-- Checks a line end: a carriage return does not stand alone. -/
def checkLineEnd (t : Token) : Except Fault Unit :=
  if t.chars = ['\r'] then
    .error (faultAt t.span.after "carriage return must be followed by newline, expected newline")
  else .ok ()

/-- Checks a token that only separates others. -/
def checkFiller (t : Token) : Except Fault Unit :=
  match t.kind with
  | .comment => checkComment t
  | .lineEnd => checkLineEnd t
  | _ => .ok ()

/-- The end of a statement: blanks, perhaps a comment, and the end of the line. -/
def endStatement : List Token → Except Fault (Unit × List Token)
  | [] => .ok ((), [])
  | t :: ts =>
    match t.kind with
    | .blank => endStatement ts
    | .comment => do
      checkComment t
      endStatement ts
    | .lineEnd => do
      checkLineEnd t
      return ((), ts)
    | .finish _ => .ok ((), t :: ts)
    | _ => .error (faultAt t.span.before "unexpected key or value, expected newline, `#`")

/-- The tokens after the end of a line, whatever is on it; its comment is checked. -/
def skipLine : List Token → Except Fault (List Token)
  | [] => .ok []
  | t :: ts =>
    match t.kind with
    | .finish _ => .ok (t :: ts)
    | .lineEnd => do
      checkLineEnd t
      return ts
    | _ => do
      checkFiller t
      skipLine ts

/-! ## 3. Keys -/

/-- The keys of a path, with dots between them and blanks around each. A key is `wanted` at the
    head and after a dot; one that is missing is kept. Tells whether the last one was there. -/
def pathFrom : (wanted : Bool) → List Token → List Piece × Bool × List Token
  | wanted, [] => ([], !wanted, [])
  | wanted, t :: ts =>
    match t.kind with
    | .blank => pathFrom wanted ts
    | .dot =>
      let (path, whole, rest) := pathFrom true ts
      (if wanted then missingPiece t :: path else path, whole, rest)
    | .piece encoding =>
      if wanted then
        let (path, whole, rest) := pathFrom false ts
        (⟨encoding, t.span, t.chars⟩ :: path, whole, rest)
      else ([], true, t :: ts)
    | _ => if wanted then ([missingPiece t], false, t :: ts) else ([], true, t :: ts)

/-! ## 4. Values -/

/-- The tokens that go on with a bare scalar: atoms and dots next to it, and blanks with an atom
    right after them. A dot after a blank goes on with nothing. -/
def bareRun : List Token → List Token × List Token
  | [] => ([], [])
  | t :: ts =>
    match t.kind with
    | .dot | .piece .bare =>
      let (more, rest) := bareRun ts
      (t :: more, rest)
    | .blank =>
      if (ts.head?.map Token.kind) = some (.piece .bare) then
        let (more, rest) := bareRun ts
        (t :: more, rest)
      else ([], t :: ts)
    | _ => ([], t :: ts)

/-- A bare scalar that begins with a token. -/
def bareScalar (t : Token) (ts : List Token) : Piece × List Token :=
  let (more, rest) := bareRun ts
  let stop := (more.getLast?.map fun m => m.span.stop).getD t.span.stop
  (⟨.bare, ⟨t.span.start, stop⟩, t.chars ++ more.flatMap Token.chars⟩, rest)

/-- What an inline table waits for. -/
inductive Awaited where
  | key
  | equals
  | value
  | comma
deriving DecidableEq

/-- The name of what is awaited. -/
def Awaited.name : Awaited → String
  | key => "key"
  | equals => "`=`"
  | value => "value"
  | comma => "`,`"

/-- How deep a document may go: so many arrays and inline tables may be open at once, and a path
    has fewer keys than this before its last one. -/
def depthLimit : Nat := 80

/-- What is said of a value that has too many others around it. -/
def depthMessage : String := "cannot recurse further; max recursion depth met"

mutual

/-- A value with `depth` arrays and inline tables around it. Missing before a comment, a comma or
    the end of a line, it is kept as missing. -/
def valueFrom (depth : Nat) : (fuel : Nat) → List Token → Except Fault (Node × List Token)
  | 0, _ => .error ⟨depthMessage, none⟩
  | _ + 1, [] => .error ⟨"missing value", none⟩
  | fuel + 1, t :: ts =>
    match t.kind with
    | .blank => valueFrom depth fuel ts
    | .comment | .comma | .lineEnd | .finish _ => .ok (.scalar (missingPiece t), t :: ts)
    | .equals => .error (faultAt t.span "extra `=`, expected nothing")
    | .openBrace =>
      if depthLimit ≤ depth then .error (faultAt t.span depthMessage)
      else tableFrom (depth + 1) fuel t.span .key [] [] ts
    | .closeBrace =>
      .error (faultAt t.span.before "missing inline table opening, expected `\x7b`")
    | .openBracket =>
      if depthLimit ≤ depth then .error (faultAt t.span depthMessage)
      else arrayFrom (depth + 1) fuel t.span true [] ts
    | .closeBracket => .error (faultAt t.span.before "missing array opening, expected `[`")
    | .dot | .piece .bare =>
      let (piece, rest) := bareScalar t ts
      .ok (.scalar piece, rest)
    | .piece encoding => .ok (.scalar ⟨encoding, t.span, t.chars⟩, ts)

/-- The rest of an array after its bracket at `opening`; `free` tells whether a value may follow. -/
def arrayFrom (depth : Nat) : (fuel : Nat) → (opening : Span) → (free : Bool) →
    (items : List Node) → List Token → Except Fault (Node × List Token)
  | 0, _, _, _, _ => .error ⟨depthMessage, none⟩
  | _ + 1, opening, _, _, [] => .error (faultAt opening.after "unclosed array, expected `]`")
  | fuel + 1, opening, free, items, t :: ts =>
    match t.kind with
    | .blank | .comment | .lineEnd => do
      checkFiller t
      arrayFrom depth fuel opening free items ts
    | .finish content => .error (faultAt ⟨content, content⟩ "unclosed array, expected `]`")
    | .comma =>
      if free then .error (faultAt t.span "extra comma in array, expected value")
      else arrayFrom depth fuel opening true items ts
    | .equals => .error (faultAt t.span "unexpected `=` in array, expected value, `]`")
    | .closeBracket => .ok (.array (opening.through t.span) items, ts)
    | .closeBrace | .openBrace | .openBracket | .dot | .piece _ =>
      if !free then
        .error (faultAt t.span.before "missing comma between array elements, expected `,`")
      else do
        let (item, rest) ← valueFrom depth fuel (t :: ts)
        arrayFrom depth fuel opening false (items ++ [item]) rest

/-- The rest of an inline table after its brace at `opening`, with the path of the entry that waits
    for its value. -/
def tableFrom (depth : Nat) : (fuel : Nat) → (opening : Span) → Awaited →
    (path : List Piece) → (entries : List (List Piece × Node)) → List Token →
    Except Fault (Node × List Token)
  | 0, _, _, _, _, _ => .error ⟨depthMessage, none⟩
  | _ + 1, opening, _, _, _, [] =>
    .error (faultAt opening.after "unclosed inline table, expected `\x7d`")
  | fuel + 1, opening, awaited, path, entries, t :: ts =>
    match t.kind with
    | .blank | .comment | .lineEnd => do
      checkFiller t
      tableFrom depth fuel opening awaited path entries ts
    | .finish content =>
      .error (faultAt ⟨content, content⟩ "unclosed inline table, expected `\x7d`")
    | .comma =>
      if awaited = .comma then tableFrom depth fuel opening .key [] entries ts
      else
        .error (faultAt t.span.before
          ("extra comma in inline table, expected " ++ awaited.name))
    | .equals =>
      match awaited with
      | .key => tableFrom depth fuel opening .value [missingPiece t] entries ts
      | .equals => tableFrom depth fuel opening .value path entries ts
      | .value | .comma =>
        .error (faultAt t.span.before
          ("extra assignment between key-value pairs, expected " ++ awaited.name))
    | .openBrace | .openBracket =>
      match awaited with
      | .value => do
        let (value, rest) ← valueFrom depth fuel (t :: ts)
        tableFrom depth fuel opening .comma [] (entries ++ [(path, value)]) rest
      | .equals =>
        .error (faultAt t.span.before
          "missing assignment between key-value pairs, expected `=`")
      | .key | .comma =>
        .error (faultAt t.span.before
          ("missing key for inline table element, expected " ++ awaited.name))
    | .closeBracket =>
      match awaited with
      | .value => .error (faultAt t.span.before "missing array opening, expected `[`")
      | .key | .equals | .comma =>
        .error (faultAt t.span.before
          ("invalid inline table element, expected " ++ awaited.name))
    | .closeBrace =>
      match awaited with
      | .key | .comma => .ok (.table (opening.through t.span) entries, ts)
      | .equals | .value =>
        let entries := entries ++ [(path, .scalar (missingString t))]
        .ok (.table (opening.through t.span) entries, ts)
    | .dot | .piece _ =>
      match awaited with
      | .key =>
        let (path, _, rest) := pathFrom true (t :: ts)
        tableFrom depth fuel opening .equals path entries rest
      | .equals =>
        .error (faultAt t.span.before
          "missing assignment between key-value pairs, expected `=`")
      | .value => do
        let (value, rest) ← valueFrom depth fuel (t :: ts)
        tableFrom depth fuel opening .comma [] (entries ++ [(path, value)]) rest
      | .comma =>
        .error (faultAt t.span.before "missing comma between key-value pairs, expected `,`")

end

/-! ## 5. Statements -/

/-- The last token of a header before what should close it. -/
def lastBefore (opening : Token) (ts rest : List Token) : Token :=
  let read := ts.take (ts.length - rest.length)
  ((read.filter fun t => t.kind != .blank).getLast?).getD opening

/-- A header after its first bracket. One that lacks a key and is not closed takes the rest of its
    line. -/
def headerFrom (opening : Token) (ts : List Token) : Except Fault (Statement × List Token) :=
  let (isArray, inner) :=
    match ts with
    | t :: rest => if t.kind = Kind.openBracket then (true, rest) else (false, ts)
    | [] => (false, [])
  let (path, whole, rest) := pathFrom true inner
  let rest := skipBlanks rest
  let unclosed : Except Fault (Statement × List Token) :=
    if whole then
      let name := if isArray then "unclosed array table, expected `]]`"
        else "unclosed table, expected `]`"
      .error (faultAt (lastBefore opening ts rest).span.after name)
    else do
      let rest ← skipLine rest
      return (.header isArray opening.span path, rest)
  match rest with
  | [] => unclosed
  | close :: rest =>
    if close.kind ≠ Kind.closeBracket then unclosed
    else if isArray then
      match rest with
      | second :: rest =>
        if second.kind = Kind.closeBracket then do
          let (_, rest) ← endStatement rest
          return (.header true (opening.span.through second.span) path, rest)
        else .error (faultAt close.span.after "unclosed array table, expected `]`")
      | [] => .error (faultAt close.span.after "unclosed array table, expected `]`")
    else do
      let (_, rest) ← endStatement rest
      return (.header false (opening.span.through close.span) path, rest)

/-- The value of an entry after its equals sign, and the end of the statement. -/
def entryValue (fuel : Nat) (path : List Piece) (ts : List Token) :
    Except Fault (Statement × List Token) := do
  let (value, rest) ← valueFrom 0 fuel (skipBlanks ts)
  let (_, rest) ← endStatement rest
  return (.entry path value, rest)

/-- An entry. Its first token is a key, or the dot after a missing one. -/
def entryFrom (fuel : Nat) (ts : List Token) : Except Fault (Statement × List Token) :=
  let (path, _, rest) := pathFrom true ts
  let name := if (ts.head?.map Token.kind) = some .dot then "missing value for key, expected `=`"
    else "key with no value, expected `=`"
  match skipBlanks rest with
  | [] => .error ⟨name, none⟩
  | t :: rest =>
    if t.kind = .equals then entryValue fuel path rest
    else .error (faultAt t.span.before name)

/-- The statements of a row of tokens. Each takes a token at least, so that `fuel` need not exceed
    their count. -/
def statementsFrom : (fuel : Nat) → List Token → Except Fault (List Statement)
  | 0, _ => .ok []
  | _ + 1, [] => .ok []
  | fuel + 1, t :: ts =>
    match t.kind with
    | .finish _ => .ok []
    | .blank | .comment | .lineEnd => do
      checkFiller t
      statementsFrom fuel ts
    | .openBracket => do
      let (statement, rest) ← headerFrom t ts
      return statement :: (← statementsFrom fuel rest)
    | .closeBracket =>
      .error (faultAt t.span.before "missing table open, expected `[`")
    | .equals => do
      let (statement, rest) ← entryValue (fuel + 1) [missingPiece t] ts
      return statement :: (← statementsFrom fuel rest)
    | .dot | .piece _ => do
      let (statement, rest) ← entryFrom (fuel + 1) (t :: ts)
      return statement :: (← statementsFrom fuel rest)
    | .comma | .openBrace | .closeBrace =>
      .error (faultAt t.span.before "invalid key-value pair, expected key")

/-- The statements of a document. -/
def statements (text : List Char) : Except Fault (List Statement) :=
  let ts := tokens text
  statementsFrom (2 * ts.length + 2) ts

end ThresholdCheck.Toml
