/-
  ScriptBridge/Value/Basic.lean
  =============================
  **The values that cross the bridge.**

  A value is plain data (nothing, a truth value, a word, a double, text, octets,
  lists, maps with text keys) or the handle of a host object.  Map entries are
  kept in key order.  Widgets are referred to by their id: a bare word, a handle
  map with the field `id`, or a triple that starts with the id.
-/
import ScriptBridge.Data.Assoc
import ScriptBridge.Number.Double

namespace ScriptBridge

/-- The id of a platform widget. -/
abbrev WidgetId := Int64

/-- A token for a host object.  Tokens are minted by counting and never repeat. -/
structure ObjectHandle where
  number : Nat
deriving DecidableEq, Repr, Inhabited

namespace ObjectHandle

instance : LT ObjectHandle := ⟨fun a b => a.number < b.number⟩

instance : DecidableLT ObjectHandle := fun a b => inferInstanceAs (Decidable (a.number < b.number))

/-- How a handle looks as text. -/
def text : String := "<host object>"

end ObjectHandle

inductive Value where
  | nil
  | bool (b : Bool)
  | int (n : Int64)
  | float (d : Double)
  | string (s : String)
  | list (items : List Value)
  | map (entries : List (String × Value))
  | bytes (octets : List UInt8)
  | object (handle : ObjectHandle)
deriving Repr, Inhabited

namespace Value

/-! ### Equality -/

mutual

/-- Values are built alike, floats compared by `f`. -/
def equalBy (f : Double → Double → Bool) : Value → Value → Bool
  | .nil, .nil => true
  | .bool a, .bool b => a == b
  | .int a, .int b => a == b
  | .float a, .float b => f a b
  | .string a, .string b => a == b
  | .list a, .list b => equalItemsBy f a b
  | .map a, .map b => equalEntriesBy f a b
  | .bytes a, .bytes b => a == b
  | .object a, .object b => a == b
  | _, _ => false

/-- Two lists of values are built alike. -/
def equalItemsBy (f : Double → Double → Bool) : List Value → List Value → Bool
  | [], [] => true
  | a :: as, b :: bs => equalBy f a b && equalItemsBy f as bs
  | _, _ => false

/-- Two lists of entries have the same keys and values built alike. -/
def equalEntriesBy (f : Double → Double → Bool) :
    List (String × Value) → List (String × Value) → Bool
  | [], [] => true
  | (k, a) :: as, (k', b) :: bs => k == k' && equalBy f a b && equalEntriesBy f as bs
  | _, _ => false

end

/-- Equality of values as numbers compare: both zeros are equal and a NaN equals nothing. -/
def agrees : Value → Value → Bool := equalBy Double.equals

mutual

theorem equalBy_iff {f : Double → Double → Bool} (hf : ∀ a b, f a b = true ↔ a = b) :
    ∀ a b : Value, equalBy f a b = true ↔ a = b
  | .nil, b => by cases b <;> simp [equalBy]
  | .bool _, b => by cases b <;> simp [equalBy]
  | .int _, b => by cases b <;> simp [equalBy]
  | .float _, b => by cases b <;> simp [equalBy, hf]
  | .string _, b => by cases b <;> simp [equalBy]
  | .list a, b => by cases b <;> simp [equalBy, equalItemsBy_iff hf a]
  | .map a, b => by cases b <;> simp [equalBy, equalEntriesBy_iff hf a]
  | .bytes _, b => by cases b <;> simp [equalBy]
  | .object _, b => by cases b <;> simp [equalBy]

theorem equalItemsBy_iff {f : Double → Double → Bool} (hf : ∀ a b, f a b = true ↔ a = b) :
    ∀ a b : List Value, equalItemsBy f a b = true ↔ a = b
  | [], b => by cases b <;> simp [equalItemsBy]
  | a :: as, b => by cases b <;> simp [equalItemsBy, equalBy_iff hf a, equalItemsBy_iff hf as]

theorem equalEntriesBy_iff {f : Double → Double → Bool} (hf : ∀ a b, f a b = true ↔ a = b) :
    ∀ a b : List (String × Value), equalEntriesBy f a b = true ↔ a = b
  | [], b => by cases b <;> simp [equalEntriesBy]
  | (k, a) :: as, b => by
    cases b with
    | nil => simp [equalEntriesBy]
    | cons e bs =>
      obtain ⟨k', b⟩ := e
      simp [equalEntriesBy, equalBy_iff hf a, equalEntriesBy_iff hf as, and_assoc]

end

/-- Two values are the same; floats are told apart by their bits. -/
instance : DecidableEq Value := fun a b =>
  decidable_of_iff (equalBy (· == ·) a b = true) (equalBy_iff (by simp) a b)

/-! ### Kinds and parts -/

/-- The name of the kind of a value, as error messages have it. -/
def typeName : Value → String
  | .nil => "nil"
  | .bool _ => "bool"
  | .int _ => "integer"
  | .float _ => "float"
  | .string _ => "string"
  | .list _ => "list"
  | .map _ => "map"
  | .bytes _ => "bytes"
  | .object _ => "object"

def asString? : Value → Option String
  | .string s => some s
  | _ => none

def asInt? : Value → Option Int64
  | .int n => some n
  | _ => none

/-- A number as a double; a word is rounded. -/
def asFloat? : Value → Option Double
  | .int n => some (Double.ofInt n.toInt)
  | .float d => some d
  | _ => none

def asList? : Value → Option (List Value)
  | .list items => some items
  | _ => none

def asMap? : Value → Option (List (String × Value))
  | .map entries => some entries
  | _ => none

def asObject? : Value → Option ObjectHandle
  | .object h => some h
  | _ => none

/-- The widget that a value refers to: an id, a map with an id, or a list that starts with one. -/
def widgetId? : Value → Option WidgetId
  | .int n => some n
  | .map entries => (Assoc.find? "id" entries).bind asInt?
  | .list (.int n :: _) => some n
  | _ => none

/-! ### Nesting and handles -/

mutual

/-- The largest number of lists and maps around any part of the value. -/
def depth : Value → Nat
  | .list items => depthItems items
  | .map entries => depthEntries entries
  | _ => 0

/-- The depth of a list that holds the given items. -/
def depthItems : List Value → Nat
  | [] => 0
  | v :: rest => max (depth v + 1) (depthItems rest)

/-- The depth of a map that holds the given entries. -/
def depthEntries : List (String × Value) → Nat
  | [] => 0
  | (_, v) :: rest => max (depth v + 1) (depthEntries rest)

end

mutual

/-- Every handle in the value, as often as it occurs. -/
def handles : Value → List ObjectHandle
  | .object h => [h]
  | .list items => handlesItems items
  | .map entries => handlesEntries entries
  | _ => []

def handlesItems : List Value → List ObjectHandle
  | [] => []
  | v :: rest => handles v ++ handlesItems rest

def handlesEntries : List (String × Value) → List ObjectHandle
  | [] => []
  | (_, v) :: rest => handles v ++ handlesEntries rest

end

end Value

/-! ### Widget handles -/

/-- What a script gets for a widget: its id and its size. -/
structure WidgetHandle where
  id : WidgetId
  width : Int64
  height : Int64
deriving DecidableEq, Repr

namespace WidgetHandle

def toValue (h : WidgetHandle) : Value :=
  .map [("height", .int h.height), ("id", .int h.id), ("width", .int h.width)]

/-- The handle as the list of id, width and height. -/
def toTriple (h : WidgetHandle) : Value := .list [.int h.id, .int h.width, .int h.height]

theorem widgetId?_toValue (h : WidgetHandle) : h.toValue.widgetId? = some h.id := by
  simp [toValue, Value.widgetId?, Assoc.find?, Value.asInt?]

end WidgetHandle

end ScriptBridge
