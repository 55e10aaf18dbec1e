/-
**Structured values.**

A structured value is what a data format can hold: numbers, texts, lists and tables. A type with a
structured form can be written as such a value and read back from one; reading is strict about
types and ranges and looks at nothing else.

A structure is a table with a member for each field. It is also read from a list that holds its
fields in order. Members of other names are passed over.
-/

import Reputation.Hash.Basic

namespace Reputation

/-- A structured value. -/
inductive Datum where
  | null
  | bool (value : Bool)
  | int (value : Int)
  /-- A number that is no integer; its value is never asked for. -/
  | real
  | text (value : String)
  /-- A list; unless it is exact, items at its end that are not asked for are passed over. -/
  | list (exact : Bool) (items : List Datum)
  /-- A table, whose keys are all different. -/
  | table (members : List (String × Datum))
deriving Repr

/-- A type with a structured form. -/
class Form (α : Type) where
  /-- The value as a structured value. -/
  toDatum : α → Datum
  /-- The value that a structured value stands for. -/
  ofDatum? : Datum → Option α

/-- The values of some members of a structure, none where a member is missing. -/
abbrev Members := List (Option Datum)

namespace Datum

/-- The member of a table with the given name. -/
def member? (members : List (String × Datum)) (name : String) : Option Datum :=
  (members.find? (·.1 = name)).map (·.2)

/-- The number of an integer in a range. -/
def natBelow? (bound : Nat) : Datum → Option Nat
  | int value => if 0 ≤ value ∧ value < bound then some value.toNat else none
  | _ => none

/-- The members of a structure, all of which a list has to hold. -/
def members? (names : List String) : Datum → Option Members
  | table members => some (names.map (member? members))
  | list exact items =>
    if items.length = names.length || !exact && names.length < items.length then
      some ((items.take names.length).map some)
    else none
  | _ => none

/-- The members of a structure, the last of which a list may leave out. -/
def partialMembers? (names : List String) : Datum → Option Members
  | table members => some (names.map (member? members))
  | list exact items =>
    if items.length ≤ names.length || !exact then
      some ((items.take names.length).map some ++
        List.replicate (names.length - items.length) none)
    else none
  | _ => none

/-- The name of an alternative that carries nothing: a text, or a table with a null of that name. -/
def alternative? : Datum → Option String
  | text name => some name
  | table [(name, null)] => some name
  | _ => none

/-- An alternative with an empty table, taken as one that carries nothing. -/
def unburdened : Datum → Datum
  | table [(name, table [])] => table [(name, null)]
  | datum => datum

/-- The kind of a tagged structure and the rest of it, in which alternatives may come with an empty
table. -/
def tagged? : Datum → Option (String × Datum)
  | table members =>
    match member? members "kind" with
    | some (text kind) =>
      let rest := members.filter (·.1 ≠ "kind")
      some (kind, table (rest.map fun member => (member.1, member.2.unburdened)))
    | _ => none
  | list exact (text kind :: items) => some (kind, list exact (items.map unburdened))
  | _ => none

/-- The value of a member that has to be there. -/
def required {α : Type} [Form α] (member : Option Datum) : Option α := member.bind Form.ofDatum?

/-- The value of a member that may be missing. -/
def defaulting {α : Type} [Form α] (member : Option Datum) (value : α) : Option α :=
  member.elim (some value) Form.ofDatum?

end Datum

instance : Form Bool where
  toDatum := .bool
  ofDatum?
    | .bool value => some value
    | _ => none

instance : Form String where
  toDatum := .text
  ofDatum?
    | .text value => some value
    | _ => none

instance : Form UInt8 where
  toDatum value := .int value.toNat
  ofDatum? datum := (datum.natBelow? (2 ^ 8)).map UInt8.ofNat

instance : Form UInt32 where
  toDatum value := .int value.toNat
  ofDatum? datum := (datum.natBelow? (2 ^ 32)).map UInt32.ofNat

instance : Form UInt64 where
  toDatum value := .int value.toNat
  ofDatum? datum := (datum.natBelow? (2 ^ 64)).map UInt64.ofNat

instance : Form Bytes32 where
  toDatum bytes := .list true (bytes.toList.map Form.toDatum)
  ofDatum?
    | .list _ items => (items.mapM Form.ofDatum?).bind Bytes32.ofList?
    | _ => none

/-- A value that may be missing is null when it is. -/
instance {α : Type} [Form α] : Form (Option α) where
  toDatum value := value.elim .null Form.toDatum
  ofDatum?
    | .null => some none
    | datum => (Form.ofDatum? datum).map some

/-- The value of a member that may be missing or null. -/
def Datum.optional {α : Type} [Form α] (member : Option Datum) : Option (Option α) :=
  Datum.defaulting member none

end Reputation
