import SwapDesk.Lib.Json
import SwapDesk.Lib.Hex
import Mathlib.Data.Nat.Digits.Lemmas

/-!
# JSON text

A printer and a parser of JSON. The printer writes no space and escapes what a
JSON string may not hold; the parser accepts every JSON text. A number whose text
is a plain integer that a double holds exactly is read as that integer, and the
reading of any other number is a parameter.

Main result: `parse_print`, which says that a printed value is read back, when its
objects name each field once and its numbers are integers that are read exactly.
-/

namespace JsonText

open Json
open CharClass (isDigit)

/-! ## Decimal digits -/

def digitValue (c : Char) : Nat := c.toNat - 48

def digitChar (n : Nat) : Char := Char.ofNat (48 + n)

def readNat (digits : List Char) : Nat :=
  digits.foldl (fun n c => 10 * n + digitValue c) 0

def printNat (n : Nat) : List Char :=
  if n = 0 then ['0'] else (Nat.digits 10 n).reverse.map digitChar

def printInt : Int → List Char
  | .ofNat n => printNat n
  | .negSucc n => '-' :: printNat (n + 1)

/-- A printed digit is a digit, of its own value. -/
theorem digitChar_facts {n : Nat} (h : n < 10) :
    isDigit (digitChar n) = true ∧ digitValue (digitChar n) = n := by
  have key : ∀ k : Fin 10,
      isDigit (digitChar k) = true ∧ digitValue (digitChar k) = k.val := by decide
  exact key ⟨n, h⟩

/-- A number prints as digits. -/
theorem all_isDigit_printNat (n : Nat) : ∀ c ∈ printNat n, isDigit c = true := by
  unfold printNat
  split
  · intro c hc
    obtain rfl := List.mem_singleton.mp hc
    rfl
  · intro c hc
    obtain ⟨d, hd, rfl⟩ := List.mem_map.mp hc
    exact (digitChar_facts (Nat.digits_lt_base (by decide) (List.mem_reverse.mp hd))).1

/-- A number prints as at least one digit. -/
theorem printNat_ne_nil (n : Nat) : printNat n ≠ [] := by
  unfold printNat
  split
  · simp
  · rename_i h
    simp [Nat.digits_ne_nil_iff_ne_zero.mpr h]

/-- Reading digits is evaluating them in base 10. -/
theorem readNat_map_digitChar {ds : List Nat} (h : ∀ d ∈ ds, d < 10) :
    readNat (ds.reverse.map digitChar) = Nat.ofDigits 10 ds := by
  induction ds with
  | nil => rfl
  | cons d ds ih =>
    have hTail := ih fun d hd => h d (List.mem_cons_of_mem _ hd)
    unfold readNat at hTail ⊢
    rw [List.reverse_cons, List.map_append, List.foldl_append, hTail, Nat.ofDigits_cons]
    simp only [List.map_cons, List.map_nil, List.foldl_cons, List.foldl_nil,
      (digitChar_facts (h d (List.mem_cons_self ..))).2]
    omega

/-- A printed number reads back. -/
theorem readNat_printNat (n : Nat) : readNat (printNat n) = n := by
  unfold printNat
  split
  · rename_i h
    rw [h]
    rfl
  · rw [readNat_map_digitChar fun d hd => Nat.digits_lt_base (by decide) hd, Nat.ofDigits_digits]

/-- A number that is not a single digit starts with another one than zero. -/
theorem head_printNat {n : Nat} (h : 10 ≤ n) : (printNat n).head? ≠ some '0' := by
  have hne : n ≠ 0 := by omega
  have hDigits : Nat.digits 10 n ≠ [] := Nat.digits_ne_nil_iff_ne_zero.mpr hne
  unfold printNat
  rw [if_neg hne, List.head?_map, List.head?_reverse, List.getLast?_eq_some_getLast hDigits]
  intro hZero
  have hLast := Nat.getLast_digit_ne_zero 10 hne
  have hLt : (Nat.digits 10 n).getLast hDigits < 10 :=
    Nat.digits_lt_base (by decide) (List.getLast_mem hDigits)
  have hValue := (digitChar_facts hLt).2
  rw [Option.some.inj hZero] at hValue
  exact hLast hValue.symm

/-! ## Numbers -/

/-- The largest integer below which a double holds every integer. -/
def maxExact : Nat := 9007199254740991

/-- Digits, without a zero in front of others. -/
def isNatText : List Char → Bool
  | [] => false
  | [c] => isDigit c
  | c :: cs => c != '0' && isDigit c && cs.all isDigit

/-- What may follow the integer part: a fraction, an exponent, or both. -/
def isExponentText : List Char → Bool
  | [] => true
  | e :: '+' :: cs => (e == 'e' || e == 'E') && !cs.isEmpty && cs.all isDigit
  | e :: '-' :: cs => (e == 'e' || e == 'E') && !cs.isEmpty && cs.all isDigit
  | e :: cs => (e == 'e' || e == 'E') && !cs.isEmpty && cs.all isDigit

def isFractionText : List Char → Bool
  | '.' :: cs => !(cs.takeWhile isDigit).isEmpty && isExponentText (cs.dropWhile isDigit)
  | cs => isExponentText cs

def isNumberChar (c : Char) : Bool :=
  isDigit c || c == '-' || c == '+' || c == '.' || c == 'e' || c == 'E'

/-- The integer that the text of an exact one denotes. -/
def exactInt? : List Char → Option Int
  | '-' :: cs => if isNatText cs && readNat cs ≤ maxExact then some (-readNat cs : Int) else none
  | cs => if isNatText cs && readNat cs ≤ maxExact then some (readNat cs) else none

/-- The text of a number. `real` reads those that are no exact integers. -/
def readNumber (real : List Char → JsonNum) (text : List Char) : Option JsonNum :=
  match exactInt? text with
  | some n => some (.int n)
  | none =>
    let unsigned := if text.head? = some '-' then text.tail else text
    if isNatText (unsigned.takeWhile isDigit) && isFractionText (unsigned.dropWhile isDigit) then
      some (real text)
    else none

/-- A printed number has no leading zero. -/
theorem isNatText_printNat (n : Nat) : isNatText (printNat n) = true := by
  have hDigits := all_isDigit_printNat n
  have hHead := @head_printNat n
  have hSmall : n < 10 → (printNat n).length = 1 := by
    intro h
    interval_cases n <;> rfl
  cases hPrint : printNat n with
  | nil => exact absurd hPrint (printNat_ne_nil n)
  | cons c cs =>
    rw [hPrint] at hDigits hHead hSmall
    cases cs with
    | nil => exact hDigits c (List.mem_cons_self ..)
    | cons d ds =>
      have hLarge : 10 ≤ n := by
        by_contra hNot
        have := hSmall (by omega)
        simp at this
      have hc : c ≠ '0' := fun h => hHead hLarge (by rw [h]; rfl)
      have hAll : (d :: ds).all isDigit = true :=
        List.all_eq_true.mpr fun x hx => hDigits x (List.mem_cons_of_mem _ hx)
      simp only [isNatText, hDigits c (List.mem_cons_self ..), hAll, Bool.and_true, bne_iff_ne, ne_eq,
        hc, not_false_eq_true]

/-- A printed integer in the exact range reads back. -/
theorem exactInt?_printInt {n : Int} (h : n.natAbs ≤ maxExact) :
    exactInt? (printInt n) = some n := by
  cases n with
  | ofNat n =>
    have hBound : n ≤ maxExact := h
    have hNotMinus : ∀ cs, printNat n ≠ '-' :: cs := by
      intro cs hEq
      have := all_isDigit_printNat n '-' (by rw [hEq]; exact List.mem_cons_self ..)
      revert this
      decide
    simp only [printInt]
    unfold exactInt?
    split
    · rename_i cs hEq
      exact absurd hEq (hNotMinus cs)
    · rw [isNatText_printNat, readNat_printNat, Bool.true_and, decide_eq_true hBound, if_pos rfl]
      rfl
  | negSucc n =>
    have hBound : n + 1 ≤ maxExact := h
    simp only [printInt, exactInt?, isNatText_printNat, readNat_printNat, Bool.true_and,
      decide_eq_true hBound, if_pos]
    rfl

/-! ## Strings -/

/-- The letter an escape stands for a character with. -/
def shortEscapes : List (Char × Char) :=
  [('"', '"'), ('\\', '\\'), ('n', '\n'), ('r', '\r'), ('t', '\t'), ('b', '\x08'), ('f', '\x0c')]

def escape (c : Char) : List Char :=
  match shortEscapes.find? fun e => e.2 = c with
  | some e => ['\\', e.1]
  | none =>
    if c.toNat < 32 then
      ['\\', 'u', '0', '0', Hex.digit (c.toNat / 16), Hex.digit (c.toNat % 16)]
    else [c]

def printString (s : String) : List Char := '"' :: (s.toList.flatMap escape ++ ['"'])

/-- Where in a string the parser stands: in the open, behind a backslash, or behind the digits
of a code unit. -/
inductive Mode where
  | plain
  | escaped
  | unit (value count : Nat)
deriving DecidableEq, Repr

/-- What a backslash and this letter stand for. -/
def unescape? (c : Char) : Option Char :=
  if c = '/' then some '/' else (shortEscapes.find? fun e => e.1 = c).map (·.2)

/-- The code points up to the closing quote, where an escaped surrogate is one of its own, and
what follows it. -/
def readString : Mode → List Char → Option (List Nat × List Char)
  | _, [] => none
  | .plain, c :: rest =>
    if c = '"' then some ([], rest)
    else if c = '\\' then readString .escaped rest
    else if c.toNat < 32 then none
    else (readString .plain rest).map fun r => (c.toNat :: r.1, r.2)
  | .escaped, c :: rest =>
    if c = 'u' then readString (.unit 0 0) rest
    else
      match unescape? c with
      | none => none
      | some x => (readString .plain rest).map fun r => (x.toNat :: r.1, r.2)
  | .unit value count, c :: rest =>
    match Hex.value? c with
    | none => none
    | some d =>
      if count = 3 then
        (readString .plain rest).map fun r => ((16 * value + d) :: r.1, r.2)
      else readString (.unit (16 * value + d) (count + 1)) rest

def isHighSurrogate (n : Nat) : Bool := 0xD800 ≤ n && n < 0xDC00

def isLowSurrogate (n : Nat) : Bool := 0xDC00 ≤ n && n < 0xE000

/-- Joins the two halves of a pair. A half without the other has no character: it is read as
the replacement character. -/
def joinSurrogates : List Nat → List Char
  | [] => []
  | [n] => [if isHighSurrogate n || isLowSurrogate n then '\ufffd' else Char.ofNat n]
  | hi :: lo :: rest =>
    if isHighSurrogate hi && isLowSurrogate lo then
      Char.ofNat (0x10000 + (hi - 0xD800) * 0x400 + (lo - 0xDC00)) :: joinSurrogates rest
    else
      (if isHighSurrogate hi || isLowSurrogate hi then '\ufffd' else Char.ofNat hi) ::
        joinSurrogates (lo :: rest)

/-- A character is no half of a surrogate pair. -/
theorem not_surrogate (c : Char) :
    isHighSurrogate c.toNat = false ∧ isLowSurrogate c.toNat = false := by
  have h : c.toNat < 0xD800 ∨ 0xDFFF < c.toNat ∧ c.toNat < 0x110000 := c.valid
  unfold isHighSurrogate isLowSurrogate
  simp only [Bool.and_eq_false_iff, decide_eq_false_iff_not]
  omega

/-- A character is joined to nothing. -/
theorem joinSurrogates_cons (c : Char) (ns : List Nat) :
    joinSurrogates (c.toNat :: ns) = c :: joinSurrogates ns := by
  obtain ⟨hHigh, hLow⟩ := not_surrogate c
  cases ns with
  | nil => simp [joinSurrogates, hHigh, hLow]
  | cons n ns => simp [joinSurrogates, hHigh, hLow]

/-- The code points of a text join to the text. -/
theorem joinSurrogates_map (cs : List Char) : joinSurrogates (cs.map Char.toNat) = cs := by
  induction cs with
  | nil => rfl
  | cons c cs ih => rw [List.map_cons, joinSurrogates_cons, ih]

/-- A character that is escaped by its letter is read back from it. -/
theorem readString_shortEscape {letter c : Char} (h : (letter, c) ∈ shortEscapes) (rest : List Char) :
    readString .plain ('\\' :: letter :: rest) =
      (readString .plain rest).map fun r => (c.toNat :: r.1, r.2) := by
  have key : ∀ e ∈ shortEscapes, e.1 ≠ 'u' ∧ unescape? e.1 = some e.2 := by decide
  obtain ⟨hNotU, hUnescape⟩ := key _ h
  dsimp only at hNotU hUnescape
  rw [readString, if_neg (by decide), if_pos rfl, readString, if_neg hNotU, hUnescape]

/-- One hexadecimal digit of a `\u` escape. -/
theorem readString_digit {c : Char} {d : Nat} (h : Hex.value? c = some d) (value count : Nat)
    (rest : List Char) : readString (.unit value count) (c :: rest) =
      if count = 3 then (readString .plain rest).map fun r => ((16 * value + d) :: r.1, r.2)
      else readString (.unit (16 * value + d) (count + 1)) rest := by
  rw [readString, h]

/-- A control character is read back from its code unit. -/
theorem readString_unit {n : Nat} (h : n < 32) (rest : List Char) :
    readString .plain ('\\' :: 'u' :: '0' :: '0' :: Hex.digit (n / 16) :: Hex.digit (n % 16) ::
        rest) =
      (readString .plain rest).map fun r => (n :: r.1, r.2) := by
  have hZero : Hex.value? '0' = some 0 := by decide
  have hHigh : Hex.value? (Hex.digit (n / 16)) = some (n / 16) := Hex.value?_digit (by omega)
  have hLow : Hex.value? (Hex.digit (n % 16)) = some (n % 16) := Hex.value?_digit (by omega)
  have hValue : 16 * (16 * (16 * (16 * 0 + 0) + 0) + n / 16) + n % 16 = n := by omega
  rw [readString, if_neg (by decide), if_pos rfl, readString, if_pos rfl, readString_digit hZero,
    if_neg (by decide), readString_digit hZero, if_neg (by decide), readString_digit hHigh,
    if_neg (by decide), readString_digit hLow, if_pos rfl, hValue]

/-- An escaped character reads as that character. -/
theorem readString_escape (c : Char) (rest : List Char) :
    readString .plain (escape c ++ rest) =
      (readString .plain rest).map fun r => (c.toNat :: r.1, r.2) := by
  unfold escape
  split
  · rename_i e hFind
    obtain rfl : e.2 = c := by simpa using List.find?_some hFind
    exact readString_shortEscape (List.mem_of_find?_eq_some hFind) rest
  · rename_i hFind
    split
    · rename_i hControl
      exact readString_unit hControl rest
    · rename_i hPrintable
      have hNot := List.find?_eq_none.mp hFind
      have hQuote : c ≠ '"' := by
        rintro rfl
        exact hNot ('"', '"') (by decide) (by decide)
      have hBackslash : c ≠ '\\' := by
        rintro rfl
        exact hNot ('\\', '\\') (by decide) (by decide)
      rw [List.cons_append, List.nil_append, readString, if_neg hQuote, if_neg hBackslash,
        if_neg hPrintable]

/-- An escaped text reads as its characters, up to the closing quote. -/
theorem readString_flatMap_escape (cs rest : List Char) :
    readString .plain (cs.flatMap escape ++ '"' :: rest) = some (cs.map Char.toNat, rest) := by
  induction cs with
  | nil => rw [List.flatMap_nil, List.nil_append, readString, if_pos rfl, List.map_nil]
  | cons c cs ih =>
    rw [List.flatMap_cons, List.append_assoc, readString_escape, ih]
    rfl

/-! ## Values -/

mutual

def print : Json → List Char
  | .null => ['n', 'u', 'l', 'l']
  | .bool true => ['t', 'r', 'u', 'e']
  | .bool false => ['f', 'a', 'l', 's', 'e']
  | .num (.int n) => printInt n
  | .num (.other text) => text.toList
  | .str s => printString s
  | .arr [] => ['[', ']']
  | .arr (item :: items) => '[' :: (print item ++ printItems items)
  | .obj [] => ['\x7b', '\x7d']
  | .obj (field :: fields) => '\x7b' :: (printField field ++ printFields fields)

/-- The items after the first, and the bracket that closes them. -/
def printItems : List Json → List Char
  | [] => [']']
  | item :: items => ',' :: (print item ++ printItems items)

def printField : String × Json → List Char
  | (key, value) => printString key ++ ':' :: print value

def printFields : List (String × Json) → List Char
  | [] => ['\x7d']
  | field :: fields => ',' :: (printField field ++ printFields fields)

end

def isSpace (c : Char) : Bool := c == ' ' || c == '\n' || c == '\r' || c == '\t'

def skip (cs : List Char) : List Char := cs.dropWhile isSpace

/-- A later field of the same name replaces the value of the earlier one. -/
def insertField (fields : List (String × Json)) (field : String × Json) : List (String × Json) :=
  if fields.any (·.1 = field.1) then
    fields.map fun f => if f.1 = field.1 then field else f
  else fields ++ [field]

def objectOf (fields : List (String × Json)) : Json := .obj (fields.foldl insertField [])

/-- The rest, if the text starts with the word. -/
def keyword? (word cs : List Char) : Option (List Char) :=
  if word.isPrefixOf cs then some (cs.drop word.length) else none

def readText (cs : List Char) : Option (String × List Char) :=
  (readString .plain cs).map fun r => (String.ofList (joinSurrogates r.1), r.2)

section Parser

variable (real : List Char → JsonNum)

mutual

/-- A value at the head of the text, and what follows it. -/
def parseValue : Nat → List Char → Option (Json × List Char)
  | 0, _ => none
  | fuel + 1, cs =>
    match skip cs with
    | [] => none
    | c :: rest =>
      if c = '"' then (readText rest).map fun r => (.str r.1, r.2)
      else if c = '[' then
        match skip rest with
        | ']' :: rest => some (.arr [], rest)
        | rest => (parseItems fuel rest).map fun r => (.arr r.1, r.2)
      else if c = '\x7b' then
        match skip rest with
        | '\x7d' :: rest => some (.obj [], rest)
        | rest => (parseFields fuel rest).map fun r => (objectOf r.1, r.2)
      else if c = 'n' then (keyword? ['u', 'l', 'l'] rest).map fun r => (.null, r)
      else if c = 't' then (keyword? ['r', 'u', 'e'] rest).map fun r => (.bool true, r)
      else if c = 'f' then (keyword? ['a', 'l', 's', 'e'] rest).map fun r => (.bool false, r)
      else
        let text := (c :: rest).takeWhile isNumberChar
        (readNumber real text).map fun n => (.num n, (c :: rest).dropWhile isNumberChar)

/-- Items up to the bracket that closes them. -/
def parseItems : Nat → List Char → Option (List Json × List Char)
  | 0, _ => none
  | fuel + 1, cs =>
    match parseValue fuel cs with
    | none => none
    | some (item, rest) =>
      match skip rest with
      | ',' :: rest => (parseItems fuel rest).map fun r => (item :: r.1, r.2)
      | ']' :: rest => some ([item], rest)
      | _ => none

/-- Fields up to the brace that closes them. -/
def parseFields : Nat → List Char → Option (List (String × Json) × List Char)
  | 0, _ => none
  | fuel + 1, cs =>
    match skip cs with
    | '"' :: rest =>
      match readText rest with
      | none => none
      | some (key, rest) =>
        match skip rest with
        | ':' :: rest =>
          match parseValue fuel rest with
          | none => none
          | some (value, rest) =>
            match skip rest with
            | ',' :: rest => (parseFields fuel rest).map fun r => ((key, value) :: r.1, r.2)
            | '\x7d' :: rest => some ([(key, value)], rest)
            | _ => none
        | _ => none
    | _ => none

end

/-- The value a text denotes, if the whole text is one. -/
def parse (cs : List Char) : Option Json :=
  match parseValue real (cs.length + 1) cs with
  | some (v, rest) => if (skip rest).isEmpty then some v else none
  | none => none

end Parser

/-! ## Reading back -/

mutual

/-- Every object of the value names each field once, and every number is an integer that a
double holds exactly. -/
def Plain : Json → Prop
  | .num (.int n) => n.natAbs ≤ maxExact
  | .num (.other _) => False
  | .arr items => PlainItems items
  | .obj fields => (fields.map Prod.fst).Nodup ∧ PlainFields fields
  | _ => True

def PlainItems : List Json → Prop
  | [] => True
  | item :: items => Plain item ∧ PlainItems items

def PlainFields : List (String × Json) → Prop
  | [] => True
  | (_, value) :: fields => Plain value ∧ PlainFields fields

end

/-- What follows a value does not continue a number. -/
def Stops (rest : List Char) : Prop := ∀ c ∈ rest.head?, isNumberChar c = false

/-- A field of a new name goes to the end. -/
theorem insertField_of_notMem {fields : List (String × Json)} {field : String × Json}
    (h : field.1 ∉ fields.map Prod.fst) : insertField fields field = fields ++ [field] := by
  unfold insertField
  rw [if_neg]
  intro hAny
  obtain ⟨f, hf, hEq⟩ := List.any_eq_true.mp hAny
  exact h (List.mem_map.mpr ⟨f, hf, of_decide_eq_true hEq⟩)

/-- Fields of different names keep their order. -/
theorem foldl_insertField {fields : List (String × Json)} : ∀ {seen : List (String × Json)},
    ((seen ++ fields).map Prod.fst).Nodup → fields.foldl insertField seen = seen ++ fields := by
  induction fields with
  | nil =>
    intro seen _
    rw [List.append_nil]
    rfl
  | cons field fields ih =>
    intro seen h
    have hNot : field.1 ∉ seen.map Prod.fst := by
      intro hMem
      rw [List.map_append] at h
      exact (List.nodup_append.mp h).2.2 _ hMem _ (List.mem_cons_self ..) rfl
    rw [List.foldl_cons, insertField_of_notMem hNot, ih (by simpa using h), List.append_assoc]
    rfl

/-- Fields with different names are all kept, in order. -/
theorem objectOf_of_nodup {fields : List (String × Json)} (h : (fields.map Prod.fst).Nodup) :
    objectOf fields = .obj fields := by
  unfold objectOf
  rw [foldl_insertField (by simpa using h), List.nil_append]

/-- Nothing is skipped before a character that is no white space. -/
theorem skip_cons {c : Char} (h : isSpace c = false) (cs : List Char) : skip (c :: cs) = c :: cs := by
  unfold skip
  rw [List.dropWhile_cons_of_neg (by rw [h]; decide)]

/-- A printed string reads back. -/
theorem readText_printString (s : String) (rest : List Char) :
    readText (s.toList.flatMap escape ++ '"' :: rest) = some (s, rest) := by
  unfold readText
  rw [readString_flatMap_escape, Option.map_some, joinSurrogates_map, String.ofList_toList]

/-- An integer prints as number characters. -/
theorem isNumberChar_printInt (n : Int) : ∀ c ∈ printInt n, isNumberChar c = true := by
  have hNat : ∀ (m : Nat), ∀ c ∈ printNat m, isNumberChar c = true := by
    intro m c hc
    simp only [isNumberChar, all_isDigit_printNat m c hc, Bool.true_or]
  cases n with
  | ofNat n => exact hNat n
  | negSucc n =>
    intro c hc
    rcases List.mem_cons.mp hc with rfl | hc
    · decide
    · exact hNat _ c hc

/-- An integer prints as something. -/
theorem printInt_ne_nil (n : Int) : printInt n ≠ [] := by
  cases n with
  | ofNat n => exact printNat_ne_nil n
  | negSucc n => simp [printInt]

/-- The run of number characters in front is cut off whole. -/
theorem span_isNumberChar {text rest : List Char} (hText : ∀ c ∈ text, isNumberChar c = true)
    (hRest : Stops rest) : (text ++ rest).takeWhile isNumberChar = text ∧
      (text ++ rest).dropWhile isNumberChar = rest := by
  induction text with
  | nil =>
    cases rest with
    | nil => exact ⟨rfl, rfl⟩
    | cons c rest =>
      have hc : isNumberChar c = false := hRest c rfl
      simp [hc]
  | cons c text ih =>
    obtain ⟨hTake, hDrop⟩ := ih fun x hx => hText x (List.mem_cons_of_mem _ hx)
    have hc := hText c (List.mem_cons_self ..)
    simp only [List.cons_append, List.takeWhile_cons, List.dropWhile_cons, hc, if_true, hTake, hDrop,
      and_self]

/-- A character of a number starts no other kind of value. -/
theorem not_opener_of_isNumberChar {c : Char} (h : isNumberChar c = true) :
    isSpace c = false ∧ c ≠ '"' ∧ c ≠ '[' ∧ c ≠ '\x7b' ∧ c ≠ 'n' ∧ c ≠ 't' ∧ c ≠ 'f' := by
  refine ⟨?_, ?_, ?_, ?_, ?_, ?_, ?_⟩
  · cases hSpace : isSpace c with
    | false => rfl
    | true =>
      simp only [isSpace, Bool.or_eq_true, beq_iff_eq] at hSpace
      rcases hSpace with ((rfl | rfl) | rfl) | rfl <;> revert h <;> decide
  all_goals
    rintro rfl
    revert h
    decide

variable {real : List Char → JsonNum}

/-- A printed integer parses, whatever stops it. -/
theorem parseValue_int {n : Int} (h : n.natAbs ≤ maxExact) {rest : List Char} (hRest : Stops rest)
    (fuel : Nat) :
    parseValue real (fuel + 1) (printInt n ++ rest) = some (.num (.int n), rest) := by
  have hChars := isNumberChar_printInt n
  obtain ⟨hTake, hDrop⟩ := span_isNumberChar hChars hRest
  have hExact := exactInt?_printInt h
  cases hPrint : printInt n with
  | nil => exact absurd hPrint (printInt_ne_nil n)
  | cons c cs =>
    rw [hPrint] at hChars hTake hDrop hExact
    obtain ⟨hSpace, h₁, h₂, h₃, h₄, h₅, h₆⟩ :=
      not_opener_of_isNumberChar (hChars c (List.mem_cons_self ..))
    rw [List.cons_append] at hTake hDrop ⊢
    rw [parseValue, skip_cons hSpace]
    dsimp only
    rw [if_neg h₁, if_neg h₂, if_neg h₃, if_neg h₄, if_neg h₅, if_neg h₆, hTake, hDrop, readNumber,
      hExact]
    rfl

/-- The printed text of a value starts with no space and closes nothing. -/
theorem head_print {v : Json} (h : Plain v) : ∃ c cs, print v = c :: cs ∧ isSpace c = false ∧
    c ≠ ']' ∧ c ≠ '\x7d' := by
  cases v with
  | null => exact ⟨_, _, rfl, by decide⟩
  | bool b => cases b <;> exact ⟨_, _, rfl, by decide⟩
  | str s => exact ⟨_, _, rfl, by decide⟩
  | arr items => cases items <;> exact ⟨_, _, rfl, by decide⟩
  | obj fields => cases fields <;> exact ⟨_, _, rfl, by decide⟩
  | num n =>
    cases n with
    | other text => exact h.elim
    | int n =>
      have hChars := isNumberChar_printInt n
      cases hPrint : printInt n with
      | nil => exact absurd hPrint (printInt_ne_nil n)
      | cons c cs =>
        rw [hPrint] at hChars
        have hc := hChars c (List.mem_cons_self ..)
        refine ⟨c, cs, hPrint, (not_opener_of_isNumberChar hc).1, ?_, ?_⟩
        all_goals
          rintro rfl
          revert hc
          decide

/-- A character that is in no number stops one. -/
theorem stops_cons {c : Char} (h : isNumberChar c = false) (cs : List Char) : Stops (c :: cs) := by
  intro x hx
  obtain rfl := Option.some.inj hx
  exact h

/-- The rest of an array stops a number. -/
theorem stops_printItems (items : List Json) (rest : List Char) :
    Stops (printItems items ++ rest) := by
  cases items <;> exact stops_cons (by decide) _

/-- The rest of an object stops a number. -/
theorem stops_printFields (fields : List (String × Json)) (rest : List Char) :
    Stops (printFields fields ++ rest) := by
  cases fields <;> exact stops_cons (by decide) _

/-- After a bracket comes no closing one, so items follow. -/
theorem parseValue_arr {text : List Char}
    (h : ∃ c cs, text = c :: cs ∧ isSpace c = false ∧ c ≠ ']') (fuel : Nat) :
    parseValue real (fuel + 1) ('[' :: text) =
      (parseItems real fuel text).map fun r => (.arr r.1, r.2) := by
  obtain ⟨c, cs, rfl, hSpace, hClose⟩ := h
  rw [parseValue, skip_cons (by decide)]
  dsimp only
  rw [if_neg (by decide), if_pos rfl, skip_cons hSpace]
  split
  · rename_i h
    exact absurd (List.cons.inj h).1 hClose
  · rfl

/-- A brace before a quote opens an object of fields. -/
theorem parseValue_obj {text : List Char} (h : ∃ cs, text = '"' :: cs) (fuel : Nat) :
    parseValue real (fuel + 1) ('\x7b' :: text) =
      (parseFields real fuel text).map fun r => (objectOf r.1, r.2) := by
  obtain ⟨cs, rfl⟩ := h
  rw [parseValue, skip_cons (by decide)]
  dsimp only
  rw [if_neg (by decide), if_neg (by decide), if_pos rfl, skip_cons (by decide)]
  split
  · rename_i h
    exact absurd (List.cons.inj h).1 (by decide)
  · rfl

/-- A field whose value is read back, and what the character after it decides. -/
theorem parseFields_field {key : String} {value : Json} {tail : List Char} {fuel : Nat}
    (h : parseValue real fuel (print value ++ tail) = some (value, tail)) :
    parseFields real (fuel + 1) (printField (key, value) ++ tail) =
      match skip tail with
      | ',' :: rest => (parseFields real fuel rest).map fun r => ((key, value) :: r.1, r.2)
      | '\x7d' :: rest => some ([(key, value)], rest)
      | _ => none := by
  rw [printField, printString]
  simp only [List.cons_append, List.append_assoc, List.nil_append]
  have hQuote : skip ('"' :: (key.toList.flatMap escape ++ '"' :: ':' :: (print value ++ tail))) =
      '"' :: (key.toList.flatMap escape ++ '"' :: ':' :: (print value ++ tail)) :=
    skip_cons (by decide) _
  have hColon : skip (':' :: (print value ++ tail)) = ':' :: (print value ++ tail) :=
    skip_cons (by decide) _
  rw [parseFields]
  simp only [hQuote, readText_printString, hColon, h]

mutual

/-- A plain value parses back, with fuel for its length. -/
theorem parseValue_print : ∀ (v : Json), Plain v → ∀ (rest : List Char) (fuel : Nat), Stops rest →
    (print v).length ≤ fuel → parseValue real fuel (print v ++ rest) = some (v, rest)
  | .null, _, rest, fuel, _, hFuel => by
    obtain ⟨f, rfl⟩ := Nat.exists_eq_add_of_lt hFuel
    rfl
  | .bool true, _, rest, fuel, _, hFuel => by
    obtain ⟨f, rfl⟩ := Nat.exists_eq_add_of_lt hFuel
    rfl
  | .bool false, _, rest, fuel, _, hFuel => by
    obtain ⟨f, rfl⟩ := Nat.exists_eq_add_of_lt hFuel
    rfl
  | .num (.other _), hPlain, _, _, _, _ => hPlain.elim
  -- a number is read as far as it goes, so what follows has to stop it
  | .num (.int n), hPlain, rest, fuel, hRest, hFuel => by
    have hNe : (printInt n).length ≠ 0 := by simp [printInt_ne_nil]
    rw [print] at hFuel
    obtain ⟨f, rfl⟩ : ∃ f, fuel = f + 1 := ⟨fuel - 1, by omega⟩
    exact parseValue_int hPlain hRest f
  | .str s, _, rest, fuel, _, hFuel => by
    rw [print, printString, List.length_cons] at hFuel
    obtain ⟨f, rfl⟩ : ∃ f, fuel = f + 1 := ⟨fuel - 1, by omega⟩
    rw [print, printString, List.cons_append, List.append_assoc, parseValue, skip_cons (by decide)]
    dsimp only
    rw [if_pos rfl, List.cons_append, List.nil_append, readText_printString]
    rfl
  | .arr [], _, rest, fuel, _, hFuel => by
    obtain ⟨f, rfl⟩ := Nat.exists_eq_add_of_lt hFuel
    rfl
  -- an array opens, and its items are mutual with this
  | .arr (item :: items), hPlain, rest, fuel, _, hFuel => by
    rw [print, List.length_cons] at hFuel
    obtain ⟨f, rfl⟩ : ∃ f, fuel = f + 1 := ⟨fuel - 1, by omega⟩
    obtain ⟨c, cs, hPrint, hSpace, hClose, -⟩ := head_print hPlain.1
    rw [print, List.cons_append, parseValue_arr ⟨c, _, by rw [hPrint]; rfl, hSpace, hClose⟩,
      parseItems_print item items hPlain rest f (by omega)]
    rfl
  | .obj [], _, rest, fuel, _, hFuel => by
    obtain ⟨f, rfl⟩ := Nat.exists_eq_add_of_lt hFuel
    rfl
  -- and so are the fields of an object
  | .obj ((key, value) :: fields), hPlain, rest, fuel, _, hFuel => by
    rw [print, List.length_cons] at hFuel
    obtain ⟨f, rfl⟩ : ∃ f, fuel = f + 1 := ⟨fuel - 1, by omega⟩
    have hQuote : ∃ cs, printField (key, value) ++ printFields fields ++ rest = '"' :: cs := by
      rw [printField, printString]
      exact ⟨_, rfl⟩
    rw [print, List.cons_append, parseValue_obj hQuote,
      parseFields_print key value fields hPlain.2 rest f (by omega), Option.map_some,
      objectOf_of_nodup hPlain.1]
termination_by v => sizeOf v

/-- Plain items parse back, mutually with `parseValue_print`. -/
theorem parseItems_print : ∀ (item : Json) (items : List Json), PlainItems (item :: items) →
    ∀ (rest : List Char) (fuel : Nat), (print item ++ printItems items).length ≤ fuel →
    parseItems real fuel (print item ++ printItems items ++ rest) = some (item :: items, rest)
  | item, [], hPlain, rest, fuel, hFuel => by
    rw [printItems, List.length_append, List.length_singleton] at hFuel
    obtain ⟨f, rfl⟩ : ∃ f, fuel = f + 1 := ⟨fuel - 1, by omega⟩
    rw [List.append_assoc, parseItems,
      parseValue_print item hPlain.1 _ f (stops_printItems [] rest) (by omega)]
    rfl
  | item, next :: items, hPlain, rest, fuel, hFuel => by
    rw [printItems, List.length_append, List.length_cons] at hFuel
    obtain ⟨f, rfl⟩ : ∃ f, fuel = f + 1 := ⟨fuel - 1, by omega⟩
    have hItems := parseItems_print next items hPlain.2 rest f (by omega)
    have hComma := skip_cons (show isSpace ',' = false by decide)
    rw [List.append_assoc, parseItems,
      parseValue_print item hPlain.1 _ f (stops_printItems (next :: items) rest) (by omega),
      printItems, List.cons_append]
    simp only [hComma, hItems, Option.map_some]
termination_by item items => sizeOf item + sizeOf items

/-- Plain fields parse back, mutually with `parseValue_print`. -/
theorem parseFields_print : ∀ (key : String) (value : Json) (fields : List (String × Json)),
    PlainFields ((key, value) :: fields) → ∀ (rest : List Char) (fuel : Nat),
    (printField (key, value) ++ printFields fields).length ≤ fuel →
    parseFields real fuel (printField (key, value) ++ printFields fields ++ rest) =
      some ((key, value) :: fields, rest)
  | key, value, [], hPlain, rest, fuel, hFuel => by
    rw [printFields, printField, List.length_append, List.length_append, List.length_cons,
      List.length_singleton] at hFuel
    obtain ⟨f, rfl⟩ : ∃ f, fuel = f + 1 := ⟨fuel - 1, by omega⟩
    have hValue := parseValue_print value hPlain.1 _ f (stops_printFields [] rest) (by omega)
    rw [List.append_assoc, parseFields_field hValue]
    rfl
  | key, value, (nextKey, nextValue) :: fields, hPlain, rest, fuel, hFuel => by
    rw [printFields, printField, List.length_append, List.length_append, List.length_cons,
      List.length_cons] at hFuel
    obtain ⟨f, rfl⟩ : ∃ f, fuel = f + 1 := ⟨fuel - 1, by omega⟩
    have hValue := parseValue_print value hPlain.1 _ f
      (stops_printFields ((nextKey, nextValue) :: fields) rest) (by omega)
    have hFields := parseFields_print nextKey nextValue fields hPlain.2 rest f (by omega)
    have hComma := skip_cons (show isSpace ',' = false by decide)
    rw [List.append_assoc, parseFields_field hValue, printFields, List.cons_append]
    simp only [hComma, hFields, Option.map_some]
termination_by _ value fields => sizeOf value + sizeOf fields

end

/-- A printed value is read back. -/
theorem parse_print {v : Json} (h : Plain v) : parse real (print v) = some v := by
  have hParse := @parseValue_print real v h [] ((print v).length + 1)
    (fun c hc => by cases hc) (Nat.le_succ _)
  rw [List.append_nil] at hParse
  rw [parse, hParse]
  rfl

end JsonText
