import Broadsheet.Yaml.Node
import Broadsheet.Yaml.Value
import Broadsheet.Text.Search
import Broadsheet.Text.Word

/-!
# Broadsheet.Yaml.Resolve

From the tree of a document to its values.  A plain scalar stands for null, a
boolean or a number if it reads as one; a tag can say which.  How deep values
are nested, and how often aliases are followed, is limited.
-/

namespace Broadsheet.Yaml

open Decimal (hexDigit digitsValue decimalDigit isDigit natValue)

/-! ## Scalars -/

/-- Whether a text is null. -/
def isNull (s : List Char) : Bool :=
  s == ['~'] || s == "null".toList || s == "Null".toList || s == "NULL".toList

/-- A boolean. -/
def readBoolean (s : List Char) : Option Bool :=
  if s ∈ ["true".toList, "True".toList, "TRUE".toList] then some true
  else if s ∈ ["false".toList, "False".toList, "FALSE".toList] then some false
  else none

/-- Digits with a leading zero are no number. -/
def isZeroPadded (s : List Char) : Bool :=
  match (Decimal.takeSign s).2 with
  | '0' :: d :: ds => (d :: ds).all isDigit
  | _ => false

/-- Digits of a base, at least one. -/
def basedNumber (base : Nat) (s : List Char) : Option Nat :=
  let digit (c : Char) : Option Nat := (hexDigit c).filter (· < base)
  if !s.isEmpty && s.all fun c => (digit c).isSome then some (digitsValue base digit 0 s) else none

/-- The number after the mark of a base. -/
def markedNumber (s : List Char) : Option Nat :=
  match s with
  | '0' :: 'x' :: ds => basedNumber 16 ds
  | '0' :: 'o' :: ds => basedNumber 8 ds
  | '0' :: 'b' :: ds => basedNumber 2 ds
  | _ => none

/-- An integer of any size, with a sign if any. -/
def readAnyInteger (s : List Char) : Option Int :=
  let (negative, ds) := Decimal.takeSign s
  let magnitude := match markedNumber ds with
    | some n => some n
    | none => if isZeroPadded s then none else basedNumber 10 ds
  magnitude.map fun n => if negative then -(n : Int) else n

/-- What a text means that reads as an integer: one in 64 bits is a number, and one that only fits
into 128 is refused; a larger one does not count as an integer. -/
inductive IntegerReading
  | none
  | refused
  | number (n : Int)

/-- Reads a text as an integer. -/
def readInteger (s : List Char) : IntegerReading :=
  match readAnyInteger s with
  | Option.none => .none
  | some n =>
    if fitsWord 64 n then .number n
    else if fitsWord 128 n then .refused
    else .none

/-- The bits of a float that is no number. -/
def nanBits : UInt64 := 0x7FF8000000000000

/-- A float, as its bits.  Numbers too large for a float do not count as one. -/
def readFloat (s : List Char) : Option UInt64 :=
  let unsigned := match s with
    | '+' :: r => r
    | r => r
  if s.head? == some '+' && unsigned.head?.any (fun c => c == '+' || c == '-') then none
  else if unsigned ∈ [".inf".toList, ".Inf".toList, ".INF".toList] then some 0x7FF0000000000000
  else if s ∈ ["-.inf".toList, "-.Inf".toList, "-.INF".toList] then some 0xFFF0000000000000
  else if s ∈ [".nan".toList, ".NaN".toList, ".NAN".toList] then some nanBits
  else
    match Decimal.read? unsigned with
    | some d =>
      let bits := d.toBits
      if Decimal.magnitude bits == Decimal.infinityBits then none else some bits
    | none => none

/-- What a plain scalar without a tag stands for. -/
def readPlainValue (text : String) : Option Value :=
  let s := text.toList
  if s.isEmpty || isNull s then some .null
  else match readBoolean s with
    | some b => some (.boolean b)
    | none =>
      match readInteger s with
      | .number n => some (.integer n)
      | .refused => none
      | .none =>
        match if isZeroPadded s then none else readFloat s with
        | some bits => some (.float bits)
        | none => some (.string text)

/-- What a scalar with the tag of a type stands for; other tags leave it as text. -/
def readTyped (tag : String) (plain : Bool) (text : String) : Option Value :=
  let s := text.toList
  match tag with
  | "tag:yaml.org,2002:bool" => (readBoolean s).map .boolean
  | "tag:yaml.org,2002:int" =>
    match readInteger s with
    | .number n => some (.integer n)
    | _ => none
  | "tag:yaml.org,2002:float" => (readFloat s).map .float
  | "tag:yaml.org,2002:null" => if isNull s then some .null else none
  | _ =>
    if startsWithText "!" tag && plain then readPlainValue text else some (.string text)

/-! ## Tags -/

/-- The name of a local tag, without its mark if there is a name behind it. -/
def localName (tag : String) : Option String :=
  match tag.toList with
  | '!' :: [] => some "!"
  | '!' :: name => some (String.ofList name)
  | _ => none

/-- The local name of a tag, if there is one. -/
def localTag (tag : Option String) : Option String := tag.bind localName

/-- Puts a value under the local tag that it has, if any. -/
def tagWith (tag : Option String) (v : Value) : Value :=
  match localTag tag with
  | some name => .tagged name v
  | none => v

/-- What a scalar stands for without regard to a local tag. -/
def readScalar (tag : Option String) (plain : Bool) (text : String) : Option Value :=
  match tag with
  | none => if plain then readPlainValue text else some (.string text)
  | some t =>
    if (localName t).isSome then if plain then readPlainValue text else some (.string text)
    else readTyped t plain text

/-! ## Trees -/

/-- How deep collections may be nested. -/
def depthLimit : Nat := 128

/-- An entry added to a mapping, unless its key is there. -/
def addEntry (entries : List (Value × Value)) (key value : Value) :
    Option (List (Value × Value)) :=
  if entries.any fun e => e.1.same key then none else some (entries ++ [(key, value)])

mutual

/-- The value of a node, `depth` levels of collections being left, and the number of aliases that
may still be followed after it. -/
def Node.toValue : (fuel depth aliases : Nat) → Node → Option (Value × Nat)
  | 0, _, _, _ => none
  | _, _, aliases, .scalar tag plain text =>
    (readScalar tag plain text).map fun v => (tagWith tag v, aliases)
  | fuel + 1, depth, aliases, .alias target =>
    match aliases with
    | 0 => none
    | n + 1 => Node.toValue fuel depth n target
  | fuel + 1, depth, aliases, .sequence tag items =>
    match depth with
    | 0 => none
    | d + 1 => do
      let (vs, aliases) ← itemValues fuel d aliases items
      return (tagWith tag (.sequence vs), aliases)
  | fuel + 1, depth, aliases, .mapping tag entries =>
    match depth with
    | 0 => none
    | d + 1 => do
      let (vs, aliases) ← entryValues fuel d aliases [] entries
      return (tagWith tag (.mapping vs), aliases)

/-- The values of the items of a sequence. -/
def itemValues : (fuel depth aliases : Nat) → List Node → Option (List Value × Nat)
  | 0, _, _, _ => none
  | _, _, aliases, [] => some ([], aliases)
  | fuel + 1, depth, aliases, n :: ns => do
    let (v, aliases) ← Node.toValue fuel depth aliases n
    let (vs, aliases) ← itemValues fuel depth aliases ns
    return (v :: vs, aliases)

/-- The entries of a mapping after those before them. -/
def entryValues : (fuel depth aliases : Nat) → List (Value × Value) → List (Node × Node) →
    Option (List (Value × Value) × Nat)
  | 0, _, _, _, _ => none
  | _, _, aliases, done, [] => some (done, aliases)
  | fuel + 1, depth, aliases, done, (k, v) :: rest => do
    let (key, aliases) ← Node.toValue fuel depth aliases k
    let (value, aliases) ← Node.toValue fuel depth aliases v
    let done ← addEntry done key value
    entryValues fuel depth aliases done rest

end

/-- The text of a scalar, and the number of aliases that may still be followed after it. -/
def Node.toText : (fuel aliases : Nat) → Node → Option (String × Nat)
  | _, aliases, .scalar _ _ text => some (text, aliases)
  | fuel + 1, n + 1, .alias target => Node.toText fuel n target
  | _, _, _ => none

/-- The entries of the topmost mapping, by the texts of their keys. -/
def topEntries : (fuel aliases : Nat) → List (Node × Node) → Option (List (String × Value))
  | 0, _, _ => none
  | _, _, [] => some []
  | fuel + 1, aliases, (k, v) :: rest => do
    let (key, aliases) ← k.toText fuel aliases
    let (value, aliases) ← v.toValue fuel (depthLimit - 1) aliases
    return (key, value) :: (← topEntries fuel aliases rest)

/-- The entries of a document that is a mapping with scalar keys.  A document without content
counts as one without entries. -/
def Document.entries? (d : Document) (fuel : Nat) : Option (List (String × Value)) :=
  match d.root with
  | none => some []
  | some (.mapping _ entries) => topEntries fuel (100 * d.events) entries
  | some (.scalar _ true "") => some []
  | some _ => none

/-- The entries of a text that is a mapping.  No collection has more parts than the document has
events, and the parts of at most `depthLimit` collections are counted on the way to a value. -/
def readMapping (s : List Char) : Option (List (String × Value)) := do
  let d ← Document.ofText s
  d.entries? (200 * (d.events + 2) + 1000)

end Broadsheet.Yaml
