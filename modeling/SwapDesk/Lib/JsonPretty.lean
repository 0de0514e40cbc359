import SwapDesk.Lib.JsonText

/-!
# JSON text with a line for each item

A printer of JSON that puts every item and every field on a line of its own, one space in for
each level, as `JSON.stringify` does when it is asked to indent by one.

Main result: `parse_pretty`, which says that what is printed so is read back, with the line break
that files end in after it.
-/

namespace JsonText

open Json

/-- A line break, and the indentation of the next line. -/
def newline (depth : Nat) : List Char := '\n' :: List.replicate depth ' '

mutual

def pretty (depth : Nat) : Json → List Char
  | .arr (item :: items) =>
    '[' :: (newline (depth + 1) ++ (pretty (depth + 1) item ++ prettyItems depth items))
  | .obj (field :: fields) =>
    '\x7b' :: (newline (depth + 1) ++ (prettyField (depth + 1) field ++ prettyFields depth fields))
  | v => print v

/-- The items after the first, and the bracket that closes them. -/
def prettyItems (depth : Nat) : List Json → List Char
  | [] => newline depth ++ [']']
  | item :: items =>
    ',' :: (newline (depth + 1) ++ (pretty (depth + 1) item ++ prettyItems depth items))

def prettyField (depth : Nat) : String × Json → List Char
  | (key, value) => printString key ++ ':' :: ' ' :: pretty depth value

def prettyFields (depth : Nat) : List (String × Json) → List Char
  | [] => newline depth ++ ['\x7d']
  | field :: fields =>
    ',' :: (newline (depth + 1) ++ (prettyField (depth + 1) field ++ prettyFields depth fields))

end

/-! ## Spaces between the tokens -/

/-- The indentation is skipped. -/
theorem skip_newline (depth : Nat) (cs : List Char) : skip (newline depth ++ cs) = skip cs := by
  unfold skip newline
  rw [List.cons_append, List.dropWhile_cons_of_pos (by decide)]
  induction depth with
  | zero => rfl
  | succ depth ih =>
    rw [List.replicate_succ, List.cons_append, List.dropWhile_cons_of_pos (by decide), ih]

/-- A line break stops a number. -/
theorem stops_newline (depth : Nat) (cs : List Char) : Stops (newline depth ++ cs) :=
  stops_cons (by decide) _

/-- The rest of a printed array stops a number. -/
theorem stops_prettyItems (depth : Nat) (items : List Json) (rest : List Char) :
    Stops (prettyItems depth items ++ rest) := by
  cases items with
  | nil =>
    rw [prettyItems, List.append_assoc]
    exact stops_newline depth _
  | cons item items => exact stops_cons (by decide) _

/-- The rest of a printed object stops a number. -/
theorem stops_prettyFields (depth : Nat) (fields : List (String × Json)) (rest : List Char) :
    Stops (prettyFields depth fields ++ rest) := by
  cases fields with
  | nil =>
    rw [prettyFields, List.append_assoc]
    exact stops_newline depth _
  | cons field fields => exact stops_cons (by decide) _

variable {real : List Char → JsonNum}

/-- The parser of a value looks at nothing before its first character. -/
theorem parseValue_of_skip {cs cs' : List Char} (h : skip cs = skip cs') (fuel : Nat) :
    parseValue real fuel cs = parseValue real fuel cs' := by
  cases fuel with
  | zero => rfl
  | succ fuel => rw [parseValue, parseValue, h]

/-- Items parse through the indentation. -/
theorem parseItems_newline (depth fuel : Nat) (cs : List Char) :
    parseItems real fuel (newline depth ++ cs) = parseItems real fuel cs := by
  cases fuel with
  | zero => rfl
  | succ fuel =>
    rw [parseItems, parseItems, parseValue_of_skip (skip_newline depth cs)]

/-- Fields parse through the indentation. -/
theorem parseFields_newline (depth fuel : Nat) (cs : List Char) :
    parseFields real fuel (newline depth ++ cs) = parseFields real fuel cs := by
  cases fuel with
  | zero => rfl
  | succ fuel => rw [parseFields, parseFields, skip_newline]

/-- A line break behind an opening bracket is passed over. -/
theorem parseValue_arr_newline {text : List Char}
    (h : ∃ c cs, text = c :: cs ∧ isSpace c = false ∧ c ≠ ']') (depth fuel : Nat) :
    parseValue real (fuel + 1) ('[' :: (newline depth ++ text)) =
      (parseItems real fuel text).map fun r => (.arr r.1, r.2) := by
  obtain ⟨c, cs, rfl, hSpace, hClose⟩ := h
  rw [parseValue, skip_cons (by decide)]
  dsimp only
  rw [if_neg (by decide), if_pos rfl, skip_newline, skip_cons hSpace]
  split
  · rename_i h
    exact absurd (List.cons.inj h).1 hClose
  · rfl

/-- An object of fields opens through the indentation. -/
theorem parseValue_obj_newline {text : List Char} (h : ∃ cs, text = '"' :: cs)
    (depth fuel : Nat) :
    parseValue real (fuel + 1) ('\x7b' :: (newline depth ++ text)) =
      (parseFields real fuel text).map fun r => (objectOf r.1, r.2) := by
  obtain ⟨cs, rfl⟩ := h
  rw [parseValue, skip_cons (by decide)]
  dsimp only
  rw [if_neg (by decide), if_neg (by decide), if_pos rfl, skip_newline, skip_cons (by decide)]
  split
  · rename_i h
    exact absurd (List.cons.inj h).1 (by decide)
  · rfl

/-- A field whose value is read back, and what the character after it decides. -/
theorem parseFields_prettyField {key : String} {value : Json} {tail : List Char}
    {depth fuel : Nat}
    (h : parseValue real fuel (pretty depth value ++ tail) = some (value, tail)) :
    parseFields real (fuel + 1) (prettyField depth (key, value) ++ tail) =
      match skip tail with
      | ',' :: rest => (parseFields real fuel rest).map fun r => ((key, value) :: r.1, r.2)
      | '\x7d' :: rest => some ([(key, value)], rest)
      | _ => none := by
  have hSpace : parseValue real fuel (' ' :: (pretty depth value ++ tail)) =
      some (value, tail) := by
    have hSkip : skip (' ' :: (pretty depth value ++ tail)) = skip (pretty depth value ++ tail) :=
      List.dropWhile_cons_of_pos (by decide)
    rw [parseValue_of_skip hSkip, h]
  rw [prettyField, printString]
  simp only [List.cons_append, List.append_assoc, List.nil_append]
  have hQuote : skip ('"' :: (key.toList.flatMap escape ++ '"' :: ':' :: ' ' ::
      (pretty depth value ++ tail))) = '"' :: (key.toList.flatMap escape ++ '"' :: ':' :: ' ' ::
      (pretty depth value ++ tail)) := skip_cons (by decide) _
  have hColon : skip (':' :: ' ' :: (pretty depth value ++ tail)) =
      ':' :: ' ' :: (pretty depth value ++ tail) := skip_cons (by decide) _
  have hRead := parseFields.eq_def real (fuel + 1) ('"' :: (key.toList.flatMap escape ++
    '"' :: ':' :: ' ' :: (pretty depth value ++ tail)))
  simp only [hQuote, readText_printString, hColon, hSpace] at hRead
  exact hRead.trans rfl

/-! ## Reading back -/

/-- Items are plain when each is. -/
theorem plainItems_iff {items : List Json} : PlainItems items ↔ ∀ v ∈ items, Plain v := by
  induction items with
  | nil => exact ⟨fun _ => nofun, fun _ => trivial⟩
  | cons v items ih => rw [PlainItems, ih, List.forall_mem_cons]

/-- Fields are plain when each value is. -/
theorem plainFields_iff {fields : List (String × Json)} :
    PlainFields fields ↔ ∀ f ∈ fields, Plain f.2 := by
  induction fields with
  | nil => exact ⟨fun _ => nofun, fun _ => trivial⟩
  | cons f fields ih => rw [PlainFields, ih, List.forall_mem_cons]

/-- What the printer writes starts with no space and closes nothing. -/
theorem head_pretty {v : Json} (h : Plain v) (depth : Nat) :
    ∃ c cs, pretty depth v = c :: cs ∧ isSpace c = false ∧ c ≠ ']' := by
  have hPrint : ∃ c cs, print v = c :: cs ∧ isSpace c = false ∧ c ≠ ']' := by
    obtain ⟨c, cs, hPrint, hSpace, hClose, -⟩ := head_print h
    exact ⟨c, cs, hPrint, hSpace, hClose⟩
  unfold pretty
  split
  · exact ⟨_, _, rfl, by decide⟩
  · exact ⟨_, _, rfl, by decide⟩
  · exact hPrint

mutual

/-- A plain value parses back from its indented print. -/
theorem parseValue_pretty : ∀ (v : Json), Plain v → ∀ (depth : Nat) (rest : List Char) (fuel : Nat),
    Stops rest → (pretty depth v).length ≤ fuel →
    parseValue real fuel (pretty depth v ++ rest) = some (v, rest)
  | .null, hPlain, _, rest, fuel, hRest, hFuel => parseValue_print _ hPlain rest fuel hRest hFuel
  | .bool _, hPlain, _, rest, fuel, hRest, hFuel => parseValue_print _ hPlain rest fuel hRest hFuel
  | .num _, hPlain, _, rest, fuel, hRest, hFuel => parseValue_print _ hPlain rest fuel hRest hFuel
  | .str _, hPlain, _, rest, fuel, hRest, hFuel => parseValue_print _ hPlain rest fuel hRest hFuel
  | .arr [], hPlain, _, rest, fuel, hRest, hFuel => parseValue_print _ hPlain rest fuel hRest hFuel
  | .obj [], hPlain, _, rest, fuel, hRest, hFuel => parseValue_print _ hPlain rest fuel hRest hFuel
  | .arr (item :: items), hPlain, depth, rest, fuel, _, hFuel => by
    rw [pretty, List.length_cons, List.length_append] at hFuel
    obtain ⟨f, rfl⟩ : ∃ f, fuel = f + 1 := ⟨fuel - 1, by omega⟩
    obtain ⟨c, cs, hPretty, hSpace, hClose⟩ := head_pretty hPlain.1 (depth + 1)
    rw [pretty, List.cons_append, List.append_assoc,
      parseValue_arr_newline ⟨c, _, by rw [hPretty]; rfl, hSpace, hClose⟩,
      parseItems_pretty item items hPlain depth rest f (by omega)]
    rfl
  | .obj ((key, value) :: fields), hPlain, depth, rest, fuel, _, hFuel => by
    rw [pretty, List.length_cons, List.length_append] at hFuel
    obtain ⟨f, rfl⟩ : ∃ f, fuel = f + 1 := ⟨fuel - 1, by omega⟩
    have hQuote : ∃ cs, prettyField (depth + 1) (key, value) ++ prettyFields depth fields ++ rest =
        '"' :: cs := by
      rw [prettyField, printString]
      exact ⟨_, rfl⟩
    rw [pretty, List.cons_append, List.append_assoc, parseValue_obj_newline hQuote,
      parseFields_pretty key value fields hPlain.2 depth rest f (by omega), Option.map_some,
      objectOf_of_nodup hPlain.1]
termination_by v => sizeOf v

/-- Plain items parse back, mutually with `parseValue_pretty`. -/
theorem parseItems_pretty : ∀ (item : Json) (items : List Json), PlainItems (item :: items) →
    ∀ (depth : Nat) (rest : List Char) (fuel : Nat),
    (pretty (depth + 1) item ++ prettyItems depth items).length ≤ fuel →
    parseItems real fuel (pretty (depth + 1) item ++ prettyItems depth items ++ rest) =
      some (item :: items, rest)
  | item, [], hPlain, depth, rest, fuel, hFuel => by
    rw [prettyItems, List.length_append, List.length_append, List.length_singleton] at hFuel
    obtain ⟨f, rfl⟩ : ∃ f, fuel = f + 1 := ⟨fuel - 1, by omega⟩
    have hItem := parseValue_pretty item hPlain.1 (depth + 1) _ f
      (stops_prettyItems depth [] rest) (by omega)
    have hClose : skip (newline depth ++ ']' :: rest) = ']' :: rest := by
      rw [skip_newline, skip_cons (by decide)]
    rw [List.append_assoc, parseItems, hItem, prettyItems, List.append_assoc, List.singleton_append]
    simp only [hClose]
  | item, next :: items, hPlain, depth, rest, fuel, hFuel => by
    rw [prettyItems, List.length_append, List.length_cons, List.length_append] at hFuel
    obtain ⟨f, rfl⟩ : ∃ f, fuel = f + 1 := ⟨fuel - 1, by omega⟩
    have hItem := parseValue_pretty item hPlain.1 (depth + 1) _ f
      (stops_prettyItems depth (next :: items) rest) (by omega)
    have hItems := parseItems_pretty next items hPlain.2 depth rest f (by omega)
    have hComma := skip_cons (show isSpace ',' = false by decide)
    rw [List.append_assoc, parseItems, hItem, prettyItems, List.cons_append, List.append_assoc]
    simp only [hComma, parseItems_newline, hItems, Option.map_some]
termination_by item items => sizeOf item + sizeOf items

/-- Plain fields parse back, mutually with `parseValue_pretty`. -/
theorem parseFields_pretty : ∀ (key : String) (value : Json) (fields : List (String × Json)),
    PlainFields ((key, value) :: fields) → ∀ (depth : Nat) (rest : List Char) (fuel : Nat),
    (prettyField (depth + 1) (key, value) ++ prettyFields depth fields).length ≤ fuel →
    parseFields real fuel (prettyField (depth + 1) (key, value) ++ prettyFields depth fields ++
      rest) = some ((key, value) :: fields, rest)
  | key, value, [], hPlain, depth, rest, fuel, hFuel => by
    rw [prettyFields, prettyField, List.length_append, List.length_append, List.length_cons,
      List.length_cons, List.length_append, List.length_singleton] at hFuel
    obtain ⟨f, rfl⟩ : ∃ f, fuel = f + 1 := ⟨fuel - 1, by omega⟩
    have hValue := parseValue_pretty value hPlain.1 (depth + 1) _ f
      (stops_prettyFields depth [] rest) (by omega)
    have hClose : skip (newline depth ++ '\x7d' :: rest) = '\x7d' :: rest := by
      rw [skip_newline, skip_cons (by decide)]
    rw [List.append_assoc, parseFields_prettyField hValue, prettyFields, List.append_assoc,
      List.singleton_append]
    simp only [hClose]
  | key, value, (nextKey, nextValue) :: fields, hPlain, depth, rest, fuel, hFuel => by
    rw [prettyFields, prettyField, List.length_append, List.length_append, List.length_cons,
      List.length_cons, List.length_cons, List.length_append] at hFuel
    obtain ⟨f, rfl⟩ : ∃ f, fuel = f + 1 := ⟨fuel - 1, by omega⟩
    have hValue := parseValue_pretty value hPlain.1 (depth + 1) _ f
      (stops_prettyFields depth ((nextKey, nextValue) :: fields) rest) (by omega)
    have hFields := parseFields_pretty nextKey nextValue fields hPlain.2 depth rest f (by omega)
    have hComma := skip_cons (show isSpace ',' = false by decide)
    rw [List.append_assoc, parseFields_prettyField hValue, prettyFields, List.cons_append,
      List.append_assoc]
    simp only [hComma, parseFields_newline, hFields, Option.map_some]
termination_by _ value fields => sizeOf value + sizeOf fields

end

/-- What is printed is read back, with a line break after it. -/
theorem parse_pretty {v : Json} (h : Plain v) :
    parse real (pretty 0 v ++ ['\n']) = some v := by
  have hParse := @parseValue_pretty real v h 0 ['\n'] ((pretty 0 v ++ ['\n']).length + 1)
    (stops_cons (by decide) []) (by rw [List.length_append]; omega)
  rw [parse, hParse]
  rfl

end JsonText
