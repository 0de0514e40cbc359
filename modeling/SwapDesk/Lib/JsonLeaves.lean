import SwapDesk.Lib.Check
import SwapDesk.Lib.JsonText

/-!
# The texts inside a JSON value

A walk over a value that looks at every text in it, however deep, and the list of these texts. A
walk that ends without an error has looked at all of them.

Main result: `Json.looksAt_of_eachText`.
-/

namespace Json

open Check

/-! ## The texts -/

mutual

/-- Every text inside the value, in order. The names of fields are no part of it. -/
def texts : Json → List String
  | .str s => [s]
  | .arr items => itemTexts items
  | .obj fields => fieldTexts fields
  | _ => []

def itemTexts : List Json → List String
  | [] => []
  | item :: items => texts item ++ itemTexts items

def fieldTexts : List (String × Json) → List String
  | [] => []
  | (_, value) :: fields => texts value ++ fieldTexts fields

end

/-- Every text inside the value has the property. -/
def AllTexts (P : String → Prop) (v : Json) : Prop := ∀ s ∈ v.texts, P s

/-- Every text inside one of the fields has the property. -/
def AllFields (P : String → Prop) (fields : List (String × Json)) : Prop :=
  ∀ field ∈ fields, AllTexts P field.2

variable {P : String → Prop}

/-- The texts of items are those of each. -/
theorem mem_itemTexts {s : String} {items : List Json} :
    s ∈ itemTexts items ↔ ∃ item ∈ items, s ∈ item.texts := by
  induction items with
  | nil => simp [itemTexts]
  | cons item items ih => simp [itemTexts, ih]

/-- The texts of fields are those of each. -/
theorem mem_fieldTexts {s : String} {fields : List (String × Json)} :
    s ∈ fieldTexts fields ↔ ∃ field ∈ fields, s ∈ field.2.texts := by
  induction fields with
  | nil => simp [fieldTexts]
  | cons field fields ih => simp [fieldTexts, ih]

/-- A string is its only text. -/
@[simp] theorem allTexts_str {s : String} : AllTexts P (.str s) ↔ P s := by
  simp [AllTexts, texts]

/-- `null` has no text. -/
@[simp] theorem allTexts_null : AllTexts P .null := by simp [AllTexts, texts]

/-- A truth value has no text. -/
@[simp] theorem allTexts_bool {b : Bool} : AllTexts P (.bool b) := by simp [AllTexts, texts]

/-- A number has no text. -/
@[simp] theorem allTexts_num {n : JsonNum} : AllTexts P (.num n) := by simp [AllTexts, texts]

/-- The texts of an array are those of its items. -/
@[simp] theorem allTexts_arr {items : List Json} :
    AllTexts P (.arr items) ↔ ∀ item ∈ items, AllTexts P item := by
  unfold AllTexts
  simp only [texts, mem_itemTexts]
  constructor
  · intro h item hItem s hs
    exact h s ⟨item, hItem, hs⟩
  · rintro h s ⟨item, hItem, hs⟩
    exact h item hItem s hs

/-- The texts of an object are those of its fields. -/
@[simp] theorem allTexts_obj {fields : List (String × Json)} :
    AllTexts P (.obj fields) ↔ AllFields P fields := by
  unfold AllFields AllTexts
  simp only [texts, mem_fieldTexts]
  constructor
  · intro h field hField s hs
    exact h s ⟨field, hField, hs⟩
  · rintro h s ⟨field, hField, hs⟩
    exact h field hField s hs

/-- No fields have no text. -/
@[simp] theorem allFields_nil : AllFields P [] := by simp [AllFields]

/-- The texts of fields are those of the first and of the others. -/
@[simp] theorem allFields_cons {name : String} {v : Json} {fields : List (String × Json)} :
    AllFields P ((name, v) :: fields) ↔ AllTexts P v ∧ AllFields P fields := by
  simp [AllFields]

/-- The texts of fields joined are those of both. -/
@[simp] theorem allFields_append {fields others : List (String × Json)} :
    AllFields P (fields ++ others) ↔ AllFields P fields ∧ AllFields P others := by
  simp [AllFields, or_imp, forall_and]

/-! ## A walk with the path -/

variable {ε : Type} (visit : String → String → Except ε Unit)

/-- `<path>[<i>]` -/
def itemPath (path : String) (i : Nat) : String :=
  path ++ "[" ++ String.ofList (JsonText.printNat i) ++ "]"

mutual

/-- Look at every text, with the path it stands at. -/
def eachText : Json → String → Except ε Unit
  | .str s, path => visit s path
  | .arr items, path => eachItem items path 0
  | .obj fields, path => eachField fields path
  | _, _ => .ok ()

def eachItem : List Json → String → Nat → Except ε Unit
  | [], _, _ => .ok ()
  | item :: items, path, i => do
    eachText item (itemPath path i)
    eachItem items path (i + 1)

def eachField : List (String × Json) → String → Except ε Unit
  | [], _ => .ok ()
  | (name, value) :: fields, path => do
    eachText value (path ++ "." ++ name)
    eachField fields path

end

variable {visit}

/-- What a text that the walk has looked at has. -/
def Seen (visit : String → String → Except ε Unit) (s : String) : Prop :=
  ∃ path, visit s path = .ok ()

mutual

/-- A walk that ends well has looked at every text. -/
theorem looksAt_of_eachText (v : Json) {path : String} (h : eachText visit v path = .ok ()) :
    AllTexts (Seen visit) v := by
  match v with
  | .null => exact allTexts_null
  | .bool _ => exact allTexts_bool
  | .num _ => exact allTexts_num
  | .str s =>
    rw [eachText] at h
    exact allTexts_str.mpr ⟨path, h⟩
  | .arr items =>
    rw [eachText] at h
    exact allTexts_arr.mpr (looksAt_of_eachItem items h)
  | .obj fields =>
    rw [eachText] at h
    exact allTexts_obj.mpr (looksAt_of_eachField fields h)

/-- A visit of the items looks at every text in them. -/
theorem looksAt_of_eachItem (items : List Json) {path : String} {i : Nat}
    (h : eachItem visit items path i = .ok ()) : ∀ item ∈ items, AllTexts (Seen visit) item := by
  match items with
  | [] => exact List.forall_mem_nil _
  | item :: items =>
    rw [eachItem, bind_eq_ok] at h
    obtain ⟨⟨⟩, hHead, hRest⟩ := h
    exact List.forall_mem_cons.mpr ⟨looksAt_of_eachText item hHead,
      looksAt_of_eachItem items hRest⟩

/-- A visit of the fields looks at every text in them. -/
theorem looksAt_of_eachField (fields : List (String × Json)) {path : String}
    (h : eachField visit fields path = .ok ()) : AllFields (Seen visit) fields := by
  match fields with
  | [] => exact allFields_nil
  | (name, value) :: fields =>
    rw [eachField, bind_eq_ok] at h
    obtain ⟨⟨⟩, hHead, hRest⟩ := h
    exact allFields_cons.mpr ⟨looksAt_of_eachText value hHead, looksAt_of_eachField fields hRest⟩

end

end Json
