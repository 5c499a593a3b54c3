import SqlBuilder.Json.Number
import SqlBuilder.Json.Token

/-! # JSON text as a tree

Reading JSON text has two layers.  The grammar alone gives a `Tree`, which keeps what
the text says: all members of an object in order, numbers in decimal notation,
strings that may hold half characters.  `Tree.toJson?` then gives the document that a
tree denotes, and refuses a tree that denotes none: halves that do not pair up,
numbers beyond the range of the format, and containers nested too deep.  A reader
that skips a part of the text skips only the second layer for that part.

The grammar is a machine with a stack of open containers, driven by one token at a
time, so that reading is a fold over the tokens.
-/
namespace SqlBuilder
namespace JsonText

/-- JSON text as the grammar reads it. -/
inductive Tree where
  | null
  | bool (b : Bool)
  | number (negative : Bool) (parts : DecimalText)
  | string (units : List StringUnit)
  | array (items : List Tree)
  | object (members : List (List StringUnit × Tree))

/-! ### The grammar -/

/-- A container that is still open, with what it holds so far, the last first.  An
object waits for the value of a key. -/
inductive Frame where
  | array (items : List Tree)
  | object (members : List (List StringUnit × Tree)) (key : List StringUnit)

/-- What the reader waits for, inside the containers that are open. -/
inductive Reader where
  /-- A value must follow. -/
  | value (stack : List Frame)
  /-- An array was just opened: a value or its end must follow. -/
  | firstItem (stack : List Frame)
  /-- An object was just opened: a key or its end must follow. -/
  | firstKey (stack : List Frame)
  /-- A comma was read inside an object: a key must follow. -/
  | nextKey (members : List (List StringUnit × Tree)) (stack : List Frame)
  /-- A key was read: a colon must follow. -/
  | colon (members : List (List StringUnit × Tree)) (key : List StringUnit)
      (stack : List Frame)
  /-- A value is complete. -/
  | complete (tree : Tree) (stack : List Frame)

namespace Reader

/-- The token starts a value. -/
def startValue (stack : List Frame) : Token → Option Reader
  | .null => some (.complete .null stack)
  | .bool b => some (.complete (.bool b) stack)
  | .number negative parts => some (.complete (.number negative parts) stack)
  | .string units => some (.complete (.string units) stack)
  | .openArray => some (.firstItem stack)
  | .openObject => some (.firstKey stack)
  | _ => none

/-- The token follows a complete value inside a container. -/
def continueAfter (tree : Tree) : List Frame → Token → Option Reader
  | .array items :: stack, .comma => some (.value (.array (tree :: items) :: stack))
  | .array items :: stack, .closeArray =>
    some (.complete (.array (tree :: items).reverse) stack)
  | .object members key :: stack, .comma => some (.nextKey ((key, tree) :: members) stack)
  | .object members key :: stack, .closeObject =>
    some (.complete (.object ((key, tree) :: members).reverse) stack)
  | _, _ => none

/-- One token. -/
def step : Reader → Token → Option Reader
  | .value stack, token => startValue stack token
  | .firstItem stack, .closeArray => some (.complete (.array []) stack)
  | .firstItem stack, token => startValue (.array [] :: stack) token
  | .firstKey stack, .closeObject => some (.complete (.object []) stack)
  | .firstKey stack, .string key => some (.colon [] key stack)
  | .nextKey members stack, .string key => some (.colon members key stack)
  | .colon members key stack, .colon => some (.value (.object members key :: stack))
  | .complete tree stack, token => continueAfter tree stack token
  | _, _ => none

/-- The tree, when the text ended with a complete value and all containers closed. -/
def finish? : Reader → Option Tree
  | .complete tree [] => some tree
  | _ => none

end Reader

/-- The tree of a text that is one JSON value and nothing else. -/
def Tree.ofText? (text : String) : Option Tree := do
  let tokens ← Token.scanAll text.toList
  let reader ← tokens.foldlM Reader.step (.value [])
  reader.finish?

/-! ### The document -/

/-- The character that two halves denote together. -/
def pairHalves? (high low : Nat) : Option Char :=
  if high < 0xDC00 ∧ 0xDC00 ≤ low then
    some (Char.ofNat (0x10000 + (high - 0xD800) * 0x400 + (low - 0xDC00)))
  else none

/-- The characters of a string, when every half has its other half behind it. -/
def StringUnit.chars? : List StringUnit → Option (List Char)
  | [] => some []
  | .char c :: units => (chars? units).map (c :: ·)
  | .half high :: .half low :: units =>
    match pairHalves? high low, chars? units with
    | some c, some cs => some (c :: cs)
    | _, _ => none
  | .half _ :: _ => none

/-- The text of a string, when every half has its other half behind it. -/
def StringUnit.text? (units : List StringUnit) : Option String :=
  (StringUnit.chars? units).map String.ofList

/-- How many containers may be open at once. -/
def maxDepth : Nat := 127

mutual

/-- The document that a tree denotes, with at most `depth` containers open at once. -/
def Tree.toJson? (depth : Nat) : Tree → Option Json
  | .null => some .null
  | .bool b => some (.bool b)
  | .number negative parts => (JsonNumber.ofParts? negative parts).map Json.number
  | .string units => (StringUnit.text? units).map Json.string
  | .array items =>
    if depth = 0 then none else (Tree.items? (depth - 1) items).map Json.array
  | .object members =>
    if depth = 0 then none
    else (Tree.members? (depth - 1) members).map fun members => .object (Pairs.dedupe members)

/-- The documents that trees denote. -/
def Tree.items? (depth : Nat) : List Tree → Option (List Json)
  | [] => some []
  | tree :: trees =>
    match Tree.toJson? depth tree, Tree.items? depth trees with
    | some item, some items => some (item :: items)
    | _, _ => none

/-- The members that keys and trees denote, repeated keys included. -/
def Tree.members? (depth : Nat) :
    List (List StringUnit × Tree) → Option (List (String × Json))
  | [] => some []
  | (key, tree) :: rest =>
    match StringUnit.text? key, Tree.toJson? depth tree, Tree.members? depth rest with
    | some key, some value, some members => some ((key, value) :: members)
    | _, _, _ => none

end

end JsonText

/-- The document that a text denotes. -/
def Json.ofText? (text : String) : Option Json :=
  (JsonText.Tree.ofText? text).bind fun tree => tree.toJson? JsonText.maxDepth

end SqlBuilder
