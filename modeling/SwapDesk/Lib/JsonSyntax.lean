import SwapDesk.Lib.JsonText

/-!
# JSON texts

The grammar of JSON as trees that keep every character: the white space, how each number is
written, and which characters of a string are escaped. `print` gives the text of a tree, so what a
function on texts does to a JSON text is a statement about trees.
-/

namespace JsonSyntax

open CharClass (isDigit isHex)

/-! ## Tokens -/

def isWs (c : Char) : Bool := c == ' ' || c == '\t' || c == '\n' || c == '\r'

/-- A run of white space. -/
abbrev Ws : Type := { text : List Char // text.all isWs = true }

/-- At least one digit. -/
abbrev Digits : Type := { text : List Char // text ≠ [] ∧ text.all isDigit = true }

structure Exponent where
  upper : Bool
  sign : Option Bool
  digits : Digits

structure Number where
  negative : Bool
  int : Digits
  noLeadingZero : int.val.head? = some '0' → int.val.length = 1
  fraction : Option Digits
  exponent : Option Exponent

def Exponent.print (exponent : Exponent) : List Char :=
  (if exponent.upper then 'E' else 'e') ::
    ((match exponent.sign with
      | none => []
      | some true => ['+']
      | some false => ['-']) ++ exponent.digits.val)

/-- What follows the integer part. -/
def Number.tail (number : Number) : List Char :=
  (match number.fraction with
    | none => []
    | some digits => '.' :: digits.val) ++
  match number.exponent with
    | none => []
    | some exponent => exponent.print

def Number.print (number : Number) : List Char :=
  (if number.negative then ['-'] else []) ++ (number.int.val ++ number.tail)

/-- One character of a string, as it is written. -/
inductive StringItem where
  | plain (c : Char) (h : c ≠ '"' ∧ c ≠ '\\' ∧ 0x20 ≤ c.toNat)
  | escape (c : Char) (h : c ∈ ['"', '\\', '/', 'b', 'f', 'n', 'r', 't'])
  | unicode (digits : List Char) (h : digits.length = 4 ∧ digits.all isHex = true)

def StringItem.print : StringItem → List Char
  | .plain c _ => [c]
  | .escape c _ => ['\\', c]
  | .unicode digits _ => '\\' :: 'u' :: digits

/-- The text between the quotes. -/
abbrev StringText : Type := List StringItem

def StringText.print (text : StringText) : List Char := text.flatMap StringItem.print

/-! ## Values -/

mutual

inductive Value where
  | null
  | «true»
  | «false»
  | number (number : Number)
  | string (text : StringText)
  | emptyArray (space : Ws)
  | array (items : Items)
  | emptyObject (space : Ws)
  | object (members : Members)

inductive Items where
  | one (before : Ws) (value : Value) (after : Ws)
  | more (before : Ws) (value : Value) (after : Ws) (rest : Items)

inductive Members where
  | one (before : Ws) (key : StringText) (beforeColon afterColon : Ws) (value : Value) (after : Ws)
  | more (before : Ws) (key : StringText) (beforeColon afterColon : Ws) (value : Value) (after : Ws)
    (rest : Members)

end

mutual

def Value.print : Value → List Char
  | .null => ['n', 'u', 'l', 'l']
  | .true => ['t', 'r', 'u', 'e']
  | .false => ['f', 'a', 'l', 's', 'e']
  | .number number => number.print
  | .string text => '"' :: (StringText.print text ++ ['"'])
  | .emptyArray space => '[' :: (space.val ++ [']'])
  | .array items => '[' :: (items.print ++ [']'])
  | .emptyObject space => '{' :: (space.val ++ ['}'])
  | .object members => '{' :: (members.print ++ ['}'])

def Items.print : Items → List Char
  | .one before value after => before.val ++ (value.print ++ after.val)
  | .more before value after rest =>
    before.val ++ (value.print ++ (after.val ++ ',' :: rest.print))

def Members.print : Members → List Char
  | .one before key beforeColon afterColon value after =>
    before.val ++ ('"' :: (StringText.print key ++ '"' :: (beforeColon.val ++ ':' ::
      (afterColon.val ++ (value.print ++ after.val)))))
  | .more before key beforeColon afterColon value after rest =>
    before.val ++ ('"' :: (StringText.print key ++ '"' :: (beforeColon.val ++ ':' ::
      (afterColon.val ++ (value.print ++ (after.val ++ ',' :: rest.print))))))

end

/-- A line of a text: a value, or nothing. -/
inductive Line where
  | blank (space : Ws)
  | value (before : Ws) (value : Value) (after : Ws)

def Line.print : Line → List Char
  | .blank space => space.val
  | .value before v after => before.val ++ (v.print ++ after.val)

/-- Values one after the other, each on lines of its own. One value alone is a JSON text. -/
abbrev Document : Type := List Line

def Document.print : Document → List Char
  | [] => []
  | [line] => line.print
  | line :: next :: rest => line.print ++ '\n' :: Document.print (next :: rest)

/-! ## Strings -/

/-- A string ends at its first quote that is not escaped. -/
theorem print_append_quote {text : StringText} {plain rest more : List Char}
    (hPlain : ∀ c ∈ plain, c ≠ '"' ∧ c ≠ '\\')
    (h : StringText.print text ++ '"' :: rest = plain ++ '"' :: more) :
    StringText.print text = plain ∧ rest = more := by
  -- item by item: a plain character is written as it is, an escape begins with what is not plain
  induction text generalizing plain with
  | nil =>
    cases plain with
    | nil => exact ⟨rfl, List.tail_eq_of_cons_eq h⟩
    | cons c plain => exact absurd (List.head_eq_of_cons_eq h).symm (hPlain c List.mem_cons_self).1
  | cons item text ih =>
    unfold StringText.print at h ih ⊢
    rw [List.flatMap_cons, List.append_assoc] at h
    rw [List.flatMap_cons]
    cases item with
    | plain c hc =>
      cases plain with
      | nil => exact absurd (List.head_eq_of_cons_eq h) hc.1
      | cons d plain =>
        obtain rfl : c = d := List.head_eq_of_cons_eq h
        obtain ⟨hText, hRest⟩ := ih (fun e he => hPlain e (List.mem_cons_of_mem c he))
          (List.tail_eq_of_cons_eq h)
        exact ⟨congrArg (c :: ·) hText, hRest⟩
    | escape c hc =>
      cases plain with
      | nil => exact absurd (List.head_eq_of_cons_eq h) (by decide)
      | cons d plain =>
        exact absurd (List.head_eq_of_cons_eq h).symm (hPlain d List.mem_cons_self).2
    | unicode digits hd =>
      cases plain with
      | nil => exact absurd (List.head_eq_of_cons_eq h) (by decide)
      | cons d plain =>
        exact absurd (List.head_eq_of_cons_eq h).symm (hPlain d List.mem_cons_self).2

end JsonSyntax
