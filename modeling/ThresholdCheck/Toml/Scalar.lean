import ThresholdCheck.Binary64.Literal
import ThresholdCheck.Toml.Moment
import ThresholdCheck.Toml.Statement

/-!
# TOML: what keys and scalars stand for

* A key stands for its characters, which are letters, digits, `-` and `_` where it is not quoted
  (`keyText`).
* A quoted scalar stands for a text. A basic string has escapes, a literal one has none, and a
  string of several lines loses a line end right after its opening (`quotedText`).
* Every other scalar is a truth value, a number or a moment, by how it begins (`scalarOf`). An
  integer may have a radix, a number may have `_` between its digits.

Of several faults of one piece the first that is told here wins.
-/

namespace ThresholdCheck.Toml

open Text (byteSize)

/-! ## 1. Scalars -/

/-- What a scalar stands for. An integer that 128 bits do not hold, and a decimal number that is
    rounded to infinity, have no value. -/
inductive Scalar where
  | text (value : String)
  | boolean (value : Bool)
  | integer (value : Option Int)
  | float (value : Option Binary64)
  | moment

/-- A fault in a part of a piece, given by the places of its first byte and of the one after it. -/
def Piece.fault (p : Piece) (start stop : Nat) (message : String) : Fault :=
  faultAt ⟨p.span.start + start, p.span.start + stop⟩ message

/-- A fault at one place of a piece. -/
def Piece.faultBefore (p : Piece) (start : Nat) (message : String) : Fault :=
  p.fault start start message

/-- The size of a piece in bytes. -/
def Piece.size (p : Piece) : Nat := byteSize p.chars

/-- The place in a piece where a text that ends with the piece begins. -/
def Piece.placeOf (p : Piece) (rest : List Char) : Nat := p.size - byteSize rest

/-! ## 2. Escapes -/

/-- The value of a hexadecimal digit. -/
def hexValue (c : Char) : Nat :=
  if c.isDigit then c.toNat - '0'.toNat else c.toLower.toNat - 'a'.toNat + 10

/-- Whether a character is a hexadecimal digit. -/
def isHexDigit (c : Char) : Bool := c.isDigit || ('a' ≤ c.toLower && c.toLower ≤ 'f')

/-- The value of digits of a radix. -/
def radixValue (radix : Nat) (ds : List Char) : Nat :=
  ds.foldl (fun n c => radix * n + hexValue c) 0

/-- The message on a backslash without an escape. -/
def escapeMessage : String :=
  "missing escaped value, expected " ++
    ", ".intercalate (["b", "e", "f", "n", "r", "\\", "\"", "x", "u", "U"].map
      fun s => "`" ++ s ++ "`")

/-- The character with a number of so many hexadecimal digits at the head of a text. -/
def numberedChar (p : Piece) (count : Nat) (cs : List Char) :
    Except Fault (Char × List Char) :=
  let digits := (cs.take count).takeWhile isHexDigit
  let n := radixValue 16 digits
  if digits.length ≠ count then
    .error (p.faultBefore (p.placeOf (cs.drop digits.length))
      "too few unicode value digits, expected unicode hexadecimal value")
  else if n.isValidChar then .ok (Char.ofNat n, cs.drop count)
  else
    .error (p.faultBefore (p.placeOf cs) "invalid value, expected unicode hexadecimal value")

/-- The character that an escape stands for; the text begins after the backslash. -/
def escapedChar (p : Piece) : List Char → Except Fault (Char × List Char)
  | 'b' :: cs => .ok ('\x08', cs)
  | 'e' :: cs => .ok ('\x1B', cs)
  | 'f' :: cs => .ok ('\x0C', cs)
  | 'n' :: cs => .ok ('\n', cs)
  | 'r' :: cs => .ok ('\r', cs)
  | 't' :: cs => .ok ('\t', cs)
  | '\\' :: cs => .ok ('\\', cs)
  | '"' :: cs => .ok ('"', cs)
  | 'x' :: cs => numberedChar p 2 cs
  | 'u' :: cs => numberedChar p 4 cs
  | 'U' :: cs => numberedChar p 8 cs
  | cs => .error (p.faultBefore (p.placeOf cs) escapeMessage)

/-! ## 3. Strings -/

/-- The name of a way to write, in messages. -/
def Encoding.name : Encoding → String
  | .bare => "bare string"
  | .literal => "literal string"
  | .basic => "basic string"
  | .longLiteral => "multi-line literal string"
  | .longBasic => "multi-line basic string"

/-- The quotes around a piece. -/
def Encoding.quotes : Encoding → List Char
  | .bare => []
  | .literal => ['\'']
  | .basic => ['"']
  | .longLiteral => ['\'', '\'', '\'']
  | .longBasic => ['"', '"', '"']

/-- Whether a string may have several lines. -/
def Encoding.isLong : Encoding → Bool
  | .longLiteral | .longBasic => true
  | _ => false

/-- Whether a string has escapes. -/
def Encoding.hasEscapes : Encoding → Bool
  | .basic | .longBasic => true
  | _ => false

/-- What a string of this sort may hold, in messages. -/
def Encoding.contents : Encoding → String
  | .bare => "characters"
  | .literal => "non-single-quote visible characters"
  | .basic => "non-double-quote visible characters, `\\`"
  | .longLiteral => "non-single-quote characters"
  | .longBasic => "`\\`, characters"

/-- The text without a line end at its head. -/
def dropLineEnd : List Char → List Char
  | '\n' :: cs => cs
  | '\r' :: '\n' :: cs => cs
  | cs => cs

/-- The fault of a carriage return without a line feed; the text begins after it. -/
def loneReturn (p : Piece) (rest : List Char) : Fault :=
  p.faultBefore (p.placeOf rest) "carriage return must be followed by newline, expected newline"

/-- The text after a backslash at the end of a line: blanks, a line end, and all blanks and line
    ends after it. `ended` tells whether the line end was met. -/
def afterFoldedLine (p : Piece) : (ended : Bool) → List Char → Except Fault (List Char)
  | ended, ' ' :: cs | ended, '\t' :: cs => afterFoldedLine p ended cs
  | _, '\n' :: cs | _, '\r' :: '\n' :: cs => afterFoldedLine p true cs
  | _, '\r' :: cs => .error (loneReturn p cs)
  | true, cs => .ok cs
  | false, cs =>
    .error (p.faultBefore (p.placeOf cs) "invalid multi-line basic string, expected newline")

/-- Whether a character may not stand in a string of this sort. -/
def Encoding.refuses (e : Encoding) (c : Char) : Bool :=
  !isVisible c && !(e.isLong && (c = '\n' || c = '\r'))

/-- What the body of a string stands for. The body is the text after the opening less `closing`
    characters of closing quotes, which are still at the end of the text here. Every step takes a
    character at least. -/
def unescaped (p : Piece) (closing : Nat) : (fuel : Nat) → List Char → Except Fault (List Char)
  | 0, _ => .ok []
  | _ + 1, [] => .ok []
  | fuel + 1, c :: cs =>
    let next (head : List Char) (rest : List Char) : Except Fault (List Char) :=
      (unescaped p closing fuel rest).map (head ++ ·)
    if cs.length < closing then .ok []
    else if c = '\\' && p.encoding.hasEscapes then
      let inside := cs.take (cs.length - closing)
      if p.encoding.isLong && (inside.head?.map fun d => " \t\r\n".contains d).getD false then do
        let rest ← afterFoldedLine p false cs
        next [] rest
      else if inside = [] then
        .error (p.faultBefore (p.placeOf cs) escapeMessage)
      else do
        let (d, rest) ← escapedChar p cs
        next [d] rest
    else if isVisible c then next [c] cs
    else if p.encoding.isLong && c = '\n' then next [c] cs
    else if p.encoding.isLong && c = '\r' then
      match cs with
      | '\n' :: rest => next ['\r', '\n'] rest
      | _ => .error (loneReturn p cs)
    else
      let stop := if p.encoding.hasEscapes then
          byteSize ((c :: cs).takeWhile p.encoding.refuses)
        else 0
      let start := p.placeOf (c :: cs)
      .error (p.fault start (start + stop)
        ("invalid " ++ p.encoding.name ++ ", expected " ++ p.encoding.contents))

/-- The text that a quoted piece stands for. That it is closed is checked first. -/
def quotedText (p : Piece) : Except Fault String :=
  let quotes := p.encoding.quotes
  let opened := p.chars.drop quotes.length
  let body := if p.encoding.isLong then dropLineEnd opened else opened
  if quotes.isSuffixOf body then
    (unescaped p quotes.length (body.length + 1) body).map String.ofList
  else
    .error (p.faultBefore p.size
      ("invalid " ++ p.encoding.name ++ ", expected `" ++ String.ofList (quotes.take 1) ++ "`"))

/-! ## 4. Keys -/

/-- The characters of a key without quotes. -/
def isKeyChar (c : Char) : Bool := c.isAlphanum || c = '-' || c = '_'

/-- The text of a key without quotes. -/
def bareKeyText (p : Piece) : Except Fault String :=
  let expected := ", expected letters, numbers, `-`, `_`"
  if p.chars = [] then .error (p.faultBefore 0 ("unquoted keys cannot be empty" ++ expected))
  else
    match p.chars.dropWhile isKeyChar with
    | [] => .ok (String.ofList p.chars)
    | rest =>
      .error (p.fault (p.placeOf rest) (p.placeOf (rest.dropWhile fun c => !isKeyChar c))
        ("invalid unquoted key" ++ expected))

/-- The text of a key, which has one line. -/
def keyText (p : Piece) : Except Fault String :=
  match p.encoding with
  | .bare => bareKeyText p
  | .literal | .basic => quotedText p
  | .longLiteral | .longBasic =>
    .error (p.fault 0 p.size
      ("keys cannot be " ++ p.encoding.name ++ "s, expected basic string, literal string"))

/-! ## 5. Words and what is no scalar -/

/-- The fault of a bare piece that is no scalar: mostly a string without its quotes. -/
def unquoted (p : Piece) : Fault :=
  let endings := [['\'', '\'', '\''], ['"', '"', '"'], ['\''], ['"']]
  match endings.find? fun quotes => quotes.isSuffixOf p.chars with
  | some quotes =>
    p.faultBefore 0 ("missing opening quote, expected `" ++ String.ofList quotes ++ "`")
  | none => p.fault 0 p.size "string values must be quoted, expected literal string"

/-- The words that are scalars, each with the sort it is of. -/
def scalarWords : List (String × String × Scalar) :=
  [("true", "boolean", .boolean true), ("false", "boolean", .boolean false),
    ("inf", "float", .float (some .infinity)), ("nan", "float", .float (some .nan))]

/-- The scalar that a word is, from a place of a piece to its end. What begins like a word, in
    either case, is taken for it. -/
def wordScalar (p : Piece) (words : List (String × String × Scalar)) (cs : List Char) :
    Except Fault Scalar :=
  match words.find? fun w => w.1.toList.head? == cs.head?.map Char.toLower with
  | none => .error (unquoted p)
  | some (word, sort, scalar) =>
    if word.toList = cs then .ok scalar
    else
      .error (p.fault (p.placeOf cs) p.size ("invalid " ++ sort ++ ", expected `" ++ word ++ "`"))

/-! ## 6. Numbers -/

/-- Checks that each `_` of a number stands between digits; `previous` tells whether a digit comes
    before. -/
def checkSeparators (p : Piece) (isDigit : Char → Bool) :
    (previous : Bool) → List Char → Except Fault Unit
  | _, [] => .ok ()
  | previous, c :: cs =>
    if c = '_' then
      let followed := (cs.head?.map isDigit).getD false
      if previous && followed then checkSeparators p isDigit false cs
      else
        let start := p.placeOf (c :: cs)
        .error (p.fault start (start + 1) "`_` may only go between digits, expected nothing")
    else checkSeparators p isDigit (isDigit c) cs

/-- The text without the separators of digits. -/
def withoutSeparators (cs : List Char) : List Char := cs.filter (· != '_')

/-- The integer of a sign and digits of a radix, if there are only such digits, one at least, and
    128 bits hold it. -/
def integerOf? (negative : Bool) (radix : Nat) (cs : List Char) : Option Int :=
  if cs.isEmpty || !cs.all (fun c => isHexDigit c && hexValue c < radix) then none
  else
    let n := radixValue radix cs
    if negative then if n ≤ Binary64.twoTo 127 then some (-(n : Int)) else none
    else if n < Binary64.twoTo 128 then some n else none

/-- The integer of a piece, with the digits of a radix from a place to the end. -/
def integerScalar (p : Piece) (negative : Bool) (radix : Nat) (cs : List Char) :
    Except Fault Scalar := do
  checkSeparators p isHexDigit false cs
  return .integer (integerOf? negative radix (withoutSeparators cs))

/-- The fault of a zero in front of other digits. -/
def leadingZero (p : Piece) (cs : List Char) : Fault :=
  let start := p.placeOf cs
  p.fault start (start + 1) "unexpected leading zero, expected nothing"

/-- The text after the digits of a part of a decimal number. -/
def afterDigits (p : Piece) (part : String) (zeroFree : Bool) (cs : List Char) :
    Except Fault (List Char) :=
  let digits := withoutSeparators (cs.takeWhile fun c => c.isDigit || c = '_')
  let rest := cs.dropWhile fun c => c.isDigit || c = '_'
  if digits = [] then
    .error (p.faultBefore (p.placeOf cs) ("invalid " ++ part ++ ", expected digits"))
  else if zeroFree && 1 < digits.length && cs.head? = some '0' then .error (leadingZero p cs)
  else .ok rest

/-- The text after the fraction of a decimal number, if it has one. -/
def afterFraction (p : Piece) : List Char → Except Fault (List Char)
  | '.' :: cs => afterDigits p "fraction" false cs
  | cs => .ok cs

/-- The text after the exponent of a decimal number, if it has one. -/
def afterExponent (p : Piece) : List Char → Except Fault (List Char)
  | 'e' :: cs | 'E' :: cs =>
    match cs with
    | '+' :: ds | '-' :: ds => afterDigits p "exponent" false ds
    | ds => afterDigits p "exponent" false ds
  | cs => .ok cs

/-- The number that a decimal stands for, unless it is rounded to infinity. -/
def floatOf? (cs : List Char) : Option Binary64 :=
  match Binary64.ofLiteral cs with
  | .error _ => none
  | .ok x => if x = .infinity ∨ x = .negInfinity then none else some x

/-- The decimal number of a piece, which is written from a place to the end. -/
def floatScalar (p : Piece) (cs : List Char) : Except Fault Scalar := do
  let rest ← afterDigits p "mantissa" true cs
  let rest ← afterFraction p rest
  let rest ← afterExponent p rest
  if rest ≠ [] then
    throw (p.fault (p.placeOf rest) p.size "invalid float, expected nothing")
  checkSeparators p Char.isDigit false p.chars
  return .float (floatOf? (withoutSeparators p.chars))

/-- The moment of a piece. -/
def momentScalar (p : Piece) : Except Fault Scalar :=
  match momentFault? p.chars with
  | none => .ok .moment
  | some message => .error (p.fault 0 p.size message)

/-- A number without a radix, or a moment, written from a place to the end. -/
def plainNumber (p : Piece) (negative : Bool) (cs : List Char) : Except Fault Scalar :=
  let integer :=
    if 1 < cs.length && cs.head? = some '0' then .error (leadingZero p cs)
    else integerScalar p negative 10 cs
  match cs.dropWhile Char.isDigit with
  | [] => integer
  | c :: rest =>
    if c = '-' || c = ':' then momentScalar p
    else if (c :: rest).any fun d => d = '.' || d = 'e' || d = 'E' then floatScalar p cs
    else if c = '_' then integer
    else .error (unquoted p)

/-- A letter after a leading zero that names a radix: the radix and its adjective. -/
def radixOf? (c : Char) : Option (Nat × String) :=
  match c.toLower with
  | 'x' => some (16, "hexadecimal")
  | 'o' => some (8, "octal")
  | 'b' => some (2, "binary")
  | 'd' => some (10, "integer")
  | _ => none

/-- The integer with a radix that is named by a letter after a zero. -/
def radixNumber (p : Piece) (signed : Bool) (letter : Char) (radix : Nat) (adjective : String)
    (cs : List Char) : Except Fault Scalar := do
  let start := p.placeOf cs - 2
  if signed then
    throw (p.fault 0 1 "integers with a radix cannot be signed, expected nothing")
  if radix = 10 then throw (p.fault 0 2 "redundant integer number prefix, expected nothing")
  if letter.isUpper then
    throw (p.fault start (start + 2)
      ("radix must be lowercase, expected `0" ++ letter.toLower.toString ++ "`"))
  if cs.head? = some '+' ∨ cs.head? = some '-' then
    throw (p.fault (p.placeOf cs) (p.placeOf cs + 1) "unexpected sign, expected nothing")
  match cs.dropWhile fun c => c = '_' || (isHexDigit c && hexValue c < radix) with
  | [] => integerScalar p false radix cs
  | rest =>
    throw (p.faultBefore (p.placeOf rest) ("invalid " ++ adjective ++ " number"))

/-- A number or a moment, written from a place to the end. -/
def number (p : Piece) (signed negative : Bool) (cs : List Char) : Except Fault Scalar :=
  match cs with
  | '0' :: letter :: rest =>
    match radixOf? letter with
    | some (radix, adjective) => radixNumber p signed letter radix adjective rest
    | none => plainNumber p negative cs
  | _ => plainNumber p negative cs

/-- The scalar after a sign. -/
def signedScalar (p : Piece) (negative : Bool) : List Char → Except Fault Scalar
  | [] => .error (unquoted p)
  | c :: cs =>
    if c = '+' || c = '-' then
      .error (p.fault 1 2 "redundant numeric sign, expected nothing")
    else if c = '.' then floatScalar p p.chars
    else if c.isDigit || c = '_' then number p true negative (c :: cs)
    else
      let infinity := if negative then Binary64.negInfinity else .infinity
      wordScalar p
        [("inf", "float", .float (some infinity)), ("nan", "float", .float (some .nan))] (c :: cs)

/-- Whether a text begins like a moment: with digits, and with `-` or `:` after them. -/
def beginsMoment (cs : List Char) : Bool :=
  let rest := cs.dropWhile Char.isDigit
  rest.length < cs.length && (rest.head? == some '-' || rest.head? == some ':')

/-- The scalar of a bare piece, by how it begins. Several words are a string without quotes, but
    a moment may have its date and its time apart. -/
def bareScalarOf (p : Piece) : Except Fault Scalar :=
  match p.chars with
  | [] => .error (unquoted p)
  | c :: cs =>
    if p.chars.contains ' ' && !beginsMoment p.chars then .error (unquoted p)
    else if c = '+' || c = '-' then signedScalar p (c = '-') cs
    else if c = '.' then floatScalar p p.chars
    else if c.isDigit || c = '_' then number p false false p.chars
    else wordScalar p scalarWords p.chars

/-- What a scalar stands for. -/
def scalarOf (p : Piece) : Except Fault Scalar :=
  match p.encoding with
  | .bare => bareScalarOf p
  | _ => (quotedText p).map Scalar.text

end ThresholdCheck.Toml
