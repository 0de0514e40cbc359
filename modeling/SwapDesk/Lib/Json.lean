import Mathlib.Tactic.Common

/-!
# JSON values as untrusted data

What a JSON text decodes to, and the guarded reads that code makes on a value
whose shape nothing promises. A field of a value that has no fields is absent,
like a field that is missing; a read at a type fails on a value of another one.

Objects are lists of fields, so how many fields one has is visible.
-/

/-- A number: an integer, or any other by its printed form. -/
inductive JsonNum where
  | int (value : Int)
  | other (text : String)
deriving DecidableEq, Repr

inductive Json where
  | null
  | bool (value : Bool)
  | num (value : JsonNum)
  | str (value : String)
  | arr (items : List Json)
  | obj (fields : List (String × Json))

namespace Json

/-- An object or an array. -/
def isContainer : Json → Bool
  | arr _ => true
  | obj _ => true
  | _ => false

def isObject : Json → Bool
  | obj _ => true
  | _ => false

theorem isObject_iff {v : Json} : v.isObject = true ↔ ∃ fields, v = .obj fields := by
  cases v <;> simp [isObject]

def field? : Json → String → Option Json
  | obj fields, key => fields.lookup key
  | _, _ => none

/-- The names of the fields, in order. -/
def fieldNames : Json → List String
  | obj fields => fields.map Prod.fst
  | _ => []

/-! ## Reads at a type -/

def asText? : Json → Option String
  | str s => some s
  | _ => none

def asInt? : Json → Option Int
  | num (.int n) => some n
  | _ => none

def text? (v : Json) (key : String) : Option String :=
  match v.field? key with
  | some (str s) => some s
  | _ => none

def int? (v : Json) (key : String) : Option Int :=
  match v.field? key with
  | some (num (.int n)) => some n
  | _ => none

def items? (v : Json) (key : String) : Option (List Json) :=
  match v.field? key with
  | some (arr items) => some items
  | _ => none

/-- A field that is itself an object or an array. -/
def container? (v : Json) (key : String) : Option Json := (v.field? key).filter isContainer

theorem asText?_eq_some {v : Json} {s : String} : v.asText? = some s ↔ v = str s := by
  unfold asText?
  split <;> simp_all

theorem asInt?_eq_some {v : Json} {n : Int} : v.asInt? = some n ↔ v = num (.int n) := by
  unfold asInt?
  split <;> simp_all

theorem text?_eq_some {v : Json} {key s : String} :
    v.text? key = some s ↔ v.field? key = some (str s) := by
  unfold text?
  split <;> simp_all

theorem int?_eq_some {v : Json} {key : String} {n : Int} :
    v.int? key = some n ↔ v.field? key = some (num (.int n)) := by
  unfold int?
  split <;> simp_all

theorem items?_eq_some {v : Json} {key : String} {items : List Json} :
    v.items? key = some items ↔ v.field? key = some (arr items) := by
  unfold items?
  split <;> simp_all

end Json
