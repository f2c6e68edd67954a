import ThresholdCheck.Toml.Scalar

/-!
# TOML: the tables of a document

The statements of a document are taken in their order. An entry goes into the table that is being
filled; a header puts that table into its place and begins another one (`Filling`). A table knows
how it came about, for that decides what may still be added to it (`Origin`):

* a table that is only on the way to another one may be opened once by a header of its own;
* dotted keys add only to tables that dotted keys have made;
* nothing is added to a table in braces.

A key that is there already, or a table that may not be added to, is a fault at the later key. A
key stands where it is written first.
-/

namespace ThresholdCheck.Toml

/-! ## 1. Values -/

/-- How a table came about. -/
inductive Origin where
  /-- on the way to a table that a header opens -/
  | implied
  /-- on the way to the value of a dotted key -/
  | dotted
  /-- by its own header -/
  | opened
  /-- in braces -/
  | inline
deriving DecidableEq

/-- A key and where it stands. -/
structure Key where
  text : String
  span : Span

/-- A value and where it stands. A table that headers open stands at its header. -/
inductive Value where
  | scalar (span : Span) (scalar : Scalar)
  | array (span : Span) (ofTables : Bool) (items : List Value)
  | table (span : Span) (origin : Origin) (entries : List (Key × Value))

/-- A table and where it stands. -/
structure Table where
  span : Span
  origin : Origin
  entries : List (Key × Value)

/-- The sort of a value, in messages. -/
def Value.sort : Value → String
  | scalar _ (.text _) => "string"
  | scalar _ (.boolean _) => "boolean"
  | scalar _ (.integer _) => "integer"
  | scalar _ (.float _) => "float"
  | scalar _ .moment => "datetime"
  | array _ _ _ => "array"
  | table _ .inline _ => "inline table"
  | table _ _ _ => "table"

/-- Where a value stands. -/
def Value.span : Value → Span
  | scalar span _ => span
  | array span _ _ => span
  | table span _ _ => span

/-! ## 2. Tables -/

namespace Table

/-- The table as a value. -/
def toValue (t : Table) : Value := .table t.span t.origin t.entries

/-- The value of a key. -/
def find? (t : Table) (key : String) : Option Value :=
  (t.entries.find? fun e => e.1.text == key).map Prod.snd

/-- The table without a key. -/
def erase (t : Table) (key : String) : Table :=
  { t with entries := t.entries.filter fun e => e.1.text != key }

/-- The table with a value for a key, in the place of the one that it has. -/
def put (t : Table) (key : Key) (value : Value) : Table :=
  if (t.find? key.text).isSome then
    { t with entries := t.entries.map fun e => if e.1.text = key.text then (e.1, value) else e }
  else { t with entries := t.entries ++ [(key, value)] }

end Table

/-- The fault of a key that is there already. -/
def duplicateKey (key : Key) : Fault := faultAt key.span "duplicate key"

/-- The fault of a path through a value that has no keys of its own or takes none. -/
def notExtensible (key : Key) (v : Value) : Fault :=
  faultAt key.span ("cannot extend value of type " ++ v.sort ++ " with a dotted key")

/-- From where a path is followed: from the top of the document by a header, from a table that
    headers fill by a dotted key, or from a table in braces by a dotted key there. -/
inductive Way where
  | header
  | dotted
  | braced
deriving DecidableEq

/-- Whether the path is one of a dotted key. -/
def Way.isDotted (w : Way) : Bool := w != .header

/-- The origin of a table that is made on the way. -/
def Way.origin : Way → Origin
  | .header => .implied
  | .dotted | .braced => .dotted

/-- Changes the table at the end of a path, and gives what the change gives besides. Tables that
    are missing on the way are made; an array of tables is passed through its last one. -/
def Table.changeAlong {α : Type} (way : Way) (change : Table → Except Fault (α × Table)) :
    List Key → Table → Except Fault (α × Table)
  | [], t => change t
  | key :: path, t =>
    match t.find? key.text with
    | none => do
      let (a, child) ← changeAlong way change path ⟨key.span, way.origin, []⟩
      return (a, t.put key child.toValue)
    | some (.table span origin entries) =>
      if origin = .inline then
        .error (if way = .braced then duplicateKey key
          else notExtensible key (.table span origin entries))
      else if way.isDotted && origin = .opened then .error (duplicateKey key)
      else do
        let (a, child) ← changeAlong way change path ⟨span, origin, entries⟩
        return (a, t.put key child.toValue)
    | some (.array span true items) =>
      match items.getLast? with
      | some (.table innerSpan origin entries) => do
        let (a, child) ← changeAlong way change path ⟨innerSpan, origin, entries⟩
        return (a, t.put key (.array span true (items.dropLast ++ [child.toValue])))
      | _ => .error (notExtensible key (.array span true items))
    | some v => .error (notExtensible key v)

/-- Adds an entry to a table, with the path of its key before the key itself. -/
def Table.add (t : Table) (path : List Key) (key : Key) (value : Value) : Except Fault Table :=
  let dotted := !path.isEmpty
  let way := if t.origin = .inline then Way.braced else .dotted
  let change (inner : Table) : Except Fault (Unit × Table) :=
    if decide (inner.origin = .dotted) != dotted then .error (duplicateKey key)
    else if (inner.find? key.text).isSome then .error (duplicateKey key)
    else .ok ((), inner.put key value)
  (t.changeAlong way change path).map Prod.snd

/-! ## 3. Values from what is written -/

/-- The key of a piece. -/
def keyOf (p : Piece) : Except Fault Key := (keyText p).map fun text => ⟨text, p.span⟩

/-- The keys of a path, the last one apart. Too long a path is a fault of its own, after those of
    its keys. -/
def keysOf (path : List Piece) : Except Fault (List Key × Key) := do
  let keys ← path.mapM keyOf
  if depthLimit < keys.length then throw ⟨"recursion limit", none⟩
  match keys.getLast? with
  | some last => return (keys.dropLast, last)
  | none => throw ⟨"missing key, expected key", none⟩

mutual

/-- The value of what is written. -/
def valueOf : Node → Except Fault Value
  | .scalar piece => (scalarOf piece).map (.scalar piece.span)
  | .array span items => (valuesOf items).map (.array span false)
  | .table span entries =>
    (entriesOf entries ⟨span, .inline, []⟩).map fun t => t.toValue

/-- The values of what is written one after the other. -/
def valuesOf : List Node → Except Fault (List Value)
  | [] => .ok []
  | node :: nodes => do
    let value ← valueOf node
    return value :: (← valuesOf nodes)

/-- A table with the entries that are written between braces added to it. -/
def entriesOf : List (List Piece × Node) → Table → Except Fault Table
  | [], t => .ok t
  | (pieces, node) :: entries, t => do
    let (path, key) ← keysOf pieces
    let value ← valueOf node
    entriesOf entries (← t.add path key value)

end

/-! ## 4. Filling tables -/

/-- The header of the table that is being filled. -/
structure Header where
  isArray : Bool
  span : Span
  path : List Key
  key : Key

/-- A document in the middle: what is in place, and the table that is being filled, which has a
    header unless it is the first. -/
structure Filling where
  root : Table
  header : Option Header
  current : Table

/-- The span of what is not in the document. -/
def nowhere : Span := ⟨0, 0⟩

/-- Nothing is in place, and the table without a header is being filled. -/
def Filling.start : Filling := ⟨⟨nowhere, .opened, []⟩, none, ⟨nowhere, .opened, []⟩⟩

/-- Puts a table in its place, or last in the array of tables there. -/
def Header.place (h : Header) (value : Value) (t : Table) : Except Fault (Unit × Table) :=
  if h.isArray then
    match t.find? h.key.text with
    | none => .ok ((), t.put h.key (.array h.span true [value]))
    | some (.array span true items) =>
      .ok ((), t.put h.key (.array span true (items ++ [value])))
    | some _ => .error (duplicateKey h.key)
  else .ok ((), t.put h.key value)

/-- Puts the table that is being filled in its place; the document then. -/
def Filling.close (f : Filling) : Except Fault Table :=
  match f.header with
  | none => .ok f.current
  | some h => (f.root.changeAlong .header (h.place f.current.toValue) h.path).map Prod.snd

/-- Takes the entries of a table that is only implied out of its place. -/
def takeImplied (key : Key) (t : Table) : Except Fault (List (Key × Value) × Table) :=
  match t.find? key.text with
  | none => .ok ([], t)
  | some (.table _ .implied entries) => .ok (entries, t.erase key.text)
  | some _ => .error (duplicateKey key)

/-- Checks that a table may be put last in the array of tables of a key, which may be missing. -/
def checkRow (key : Key) (t : Table) : Except Fault (Unit × Table) :=
  match t.find? key.text with
  | none | some (.array _ true _) => .ok ((), t)
  | some _ => .error (duplicateKey key)

/-- Takes the next statement. A header is judged before the entries below it. -/
def Filling.take (f : Filling) : Statement → Except Fault Filling
  | .entry pieces node => do
    let (path, key) ← keysOf pieces
    let value ← valueOf node
    return { f with current := ← f.current.add path key value }
  | .header isArray span pieces => do
    let root ← f.close
    let (path, key) ← keysOf pieces
    let header : Header := ⟨isArray, span, path, key⟩
    if isArray then
      let (_, root) ← root.changeAlong .header (checkRow key) path
      return ⟨root, some header, ⟨span, .opened, []⟩⟩
    else
      let (entries, root) ← root.changeAlong .header (takeImplied key) path
      return ⟨root, some header, ⟨span, .opened, entries⟩⟩

/-- The entries of a document. -/
def document (text : List Char) : Except Fault (List (Key × Value)) := do
  let all ← statements text
  let filled ← all.foldlM Filling.take Filling.start
  return (← filled.close).entries

end ThresholdCheck.Toml
