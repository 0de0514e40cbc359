import SwapDesk.Lib.JsonSyntax
import SwapDesk.Lib.Replace

/-!
# SwapDesk — nonces past the doubles

`quoteBigNonces` of `src/watcher.ts`: the venue prints nonces of nineteen digits as numbers, and a
JSON parser would round them, so the digits are quoted first.

Main result: `quoteBigNonces_print`. In a JSON text nothing is changed but the members that are
called `nonce` and hold the digits of a natural number.
-/

namespace SwapDesk.Watcher

open Replace JsonSyntax
open CharClass (isDigit isDigit_iff isSpace isSpace_eq_false)

-- ---------------------------------------------------------------------------
-- The expression
-- ---------------------------------------------------------------------------

def nonceKey : List Char := ['n', 'o', 'n', 'c', 'e']

/-- `\s*[,}\r\n]`: the end of a line is white space as well. -/
def endsMember (text : List Char) : Bool :=
  (text.takeWhile isSpace).any (fun c => c == '\r' || c == '\n') ||
    match text.dropWhile isSpace with
    | c :: _ => c == ',' || c == '}'
    | [] => false

/-- `(\s*:\s*)(\d+)(?=\s*[,}\r\n])`, the two groups. -/
def matchMember (text : List Char) : Option (List Char × List Char) :=
  match text.dropWhile isSpace with
  | ':' :: rest =>
    let value := rest.dropWhile isSpace
    let digits := value.takeWhile isDigit
    if digits ≠ [] ∧ endsMember (value.dropWhile isDigit) = true then
      some (text.takeWhile isSpace ++ ':' :: rest.takeWhile isSpace, digits)
    else none
  | _ => none

/-- `(?<!\\)"nonce"(\s*:\s*)(\d+)(?=\s*[,}\r\n])` with its replacement `"nonce"$1"$2"`. -/
def bigNonce : Pattern Char := fun previous text =>
  if previous = some '\\' then none
  else
    match text with
    | '"' :: 'n' :: 'o' :: 'n' :: 'c' :: 'e' :: '"' :: rest =>
      (matchMember rest).map fun (colon, digits) =>
        ('"' :: (nonceKey ++ '"' :: (colon ++ '"' :: (digits ++ ['"']))),
          7 + colon.length + digits.length)
    | _ => none

def quoteBigNonces (text : String) : String :=
  String.ofList (replaceFrom bigNonce none 0 text.toList)

-- ---------------------------------------------------------------------------
-- Its meaning
-- ---------------------------------------------------------------------------

/-- The digits of a number that has nothing else. -/
def natural? : Value → Option Digits
  | .number ⟨false, int, _, none, none⟩ => some int
  | _ => none

/-- A digit is neither a quote, a backslash nor a control character. -/
theorem isDigit_plain {c : Char} (h : isDigit c = true) :
    c ≠ '"' ∧ c ≠ '\\' ∧ 0x20 ≤ c.toNat := by
  have hBounds := isDigit_iff.mp h
  refine ⟨?_, ?_, by omega⟩
  · rintro rfl
    exact absurd hBounds (by decide)
  · rintro rfl
    exact absurd hBounds (by decide)

/-- Digits between quotes. -/
def quoted (digits : Digits) : Value :=
  .string (digits.val.attach.map fun c =>
    .plain c.val (isDigit_plain (List.all_eq_true.mp digits.property.2 c.val c.property)))

def quoteMember (key : StringText) (value rewritten : Value) : Value :=
  if StringText.print key = nonceKey then ((natural? value).map quoted).getD rewritten
  else rewritten

mutual

/-- The digits of every nonce quoted. -/
def quoteValue : Value → Value
  | .array items => .array (quoteItems items)
  | .object members => .object (quoteMembers members)
  | .null => .null
  | .true => .true
  | .false => .false
  | .number number => .number number
  | .string text => .string text
  | .emptyArray space => .emptyArray space
  | .emptyObject space => .emptyObject space

def quoteItems : Items → Items
  | .one before value after => .one before (quoteValue value) after
  | .more before value after rest => .more before (quoteValue value) after (quoteItems rest)

def quoteMembers : Members → Members
  | .one before key beforeColon afterColon value after =>
    .one before key beforeColon afterColon (quoteMember key value (quoteValue value)) after
  | .more before key beforeColon afterColon value after rest =>
    .more before key beforeColon afterColon (quoteMember key value (quoteValue value)) after
      (quoteMembers rest)

end

def quoteLine : Line → Line
  | .blank space => .blank space
  | .value before value after => .value before (quoteValue value) after

-- ---------------------------------------------------------------------------
-- White space and digits
-- ---------------------------------------------------------------------------

/-- What stands in a text after white space. -/
def AfterSpace (text : List Char) : Prop := ∀ c, text.head? = some c → isSpace c = false

/-- A run ends at once where the head does not belong to it. -/
theorem takeWhile_head {p : Char → Bool} {text : List Char}
    (h : ∀ c, text.head? = some c → p c = false) :
    text.takeWhile p = [] ∧ text.dropWhile p = text := by
  cases text with
  | nil => exact ⟨rfl, rfl⟩
  | cons c text =>
    have hc := h c rfl
    exact ⟨List.takeWhile_cons_of_neg (by simp [hc]), List.dropWhile_cons_of_neg (by simp [hc])⟩

/-- A run ends where its kind of character does. -/
theorem takeWhile_append {p : Char → Bool} {run text : List Char} (hRun : run.all p = true)
    (h : ∀ c, text.head? = some c → p c = false) :
    (run ++ text).takeWhile p = run ∧ (run ++ text).dropWhile p = text := by
  have hAll := List.all_eq_true.mp hRun
  obtain ⟨hTake, hDrop⟩ := takeWhile_head h
  rw [List.takeWhile_append_of_pos hAll, List.dropWhile_append_of_pos hAll, hTake, hDrop,
    List.append_nil]
  exact ⟨rfl, rfl⟩

/-- JSON white space is one of four characters. -/
theorem isWs_cases {c : Char} (h : isWs c = true) : c = ' ' ∨ c = '\t' ∨ c = '\n' ∨ c = '\r' := by
  unfold isWs at h
  simpa only [Bool.or_eq_true, beq_iff_eq, or_assoc] using h

/-- JSON white space is white space to the regular expression. -/
theorem ws_isSpace (space : Ws) : space.val.all isSpace = true := by
  rw [List.all_eq_true]
  intro c hc
  rcases isWs_cases (List.all_eq_true.mp space.property c hc) with rfl | rfl | rfl | rfl <;> decide

/-- Before something that is not white space, exactly the white space is taken. -/
theorem span_ws (space : Ws) {text : List Char} (h : AfterSpace text) :
    (space.val ++ text).takeWhile isSpace = space.val ∧
      (space.val ++ text).dropWhile isSpace = text :=
  takeWhile_append (ws_isSpace space) h

/-- No character of a number or of white space is one that the expression looks for first. -/
def Inert (text : List Char) : Prop := ∀ c ∈ text, c ≠ '"' ∧ c ≠ '\\'

instance (text : List Char) : Decidable (Inert text) :=
  decidable_of_iff (text.all (fun c => decide (c ≠ '"' ∧ c ≠ '\\')) = true) (by simp [Inert])

/-- Inert texts join to an inert text. -/
theorem inert_append {first second : List Char} (hFirst : Inert first) (hSecond : Inert second) :
    Inert (first ++ second) := fun c hc =>
  (List.mem_append.mp hc).elim (hFirst c) (hSecond c)

/-- A character that is no quote and no backslash keeps a text inert. -/
theorem inert_cons {c : Char} {text : List Char} (hc : c ≠ '"' ∧ c ≠ '\\') (h : Inert text) :
    Inert (c :: text) := fun d hd =>
  (List.mem_cons.mp hd).elim (fun hEq => hEq ▸ hc) (h d)

/-- The empty text is inert. -/
theorem inert_nil : Inert [] := fun _ hc => nomatch hc

/-- White space is inert. -/
theorem inert_ws (space : Ws) : Inert space.val := by
  intro c hc
  rcases isWs_cases (List.all_eq_true.mp space.property c hc) with rfl | rfl | rfl | rfl <;> decide

/-- Digits are inert. -/
theorem inert_digits (digits : Digits) : Inert digits.val := fun c hc =>
  have hPlain := isDigit_plain (List.all_eq_true.mp digits.property.2 c hc)
  ⟨hPlain.1, hPlain.2.1⟩

/-- An exponent is inert. -/
theorem inert_exponent (exponent : Exponent) : Inert exponent.print := by
  obtain ⟨upper, sign, digits⟩ := exponent
  have hMark : ∀ upper : Bool, (if upper then 'E' else 'e') ≠ '"' ∧
      (if upper then 'E' else 'e') ≠ '\\' := by decide
  refine inert_cons (hMark upper) (inert_append ?_ (inert_digits digits))
  rcases sign with _ | (_ | _)
  · exact inert_nil
  · exact inert_cons (by decide) inert_nil
  · exact inert_cons (by decide) inert_nil

/-- A number is inert. -/
theorem inert_number (number : Number) : Inert number.print := by
  obtain ⟨negative, int, -, fraction, exponent⟩ := number
  refine inert_append ?_ (inert_append (inert_digits int) (inert_append ?_ ?_))
  · cases negative
    · exact inert_nil
    · exact inert_cons (by decide) inert_nil
  · cases fraction with
    | none => exact inert_nil
    | some digits => exact inert_cons (by decide) (inert_digits digits)
  · cases exponent with
    | none => exact inert_nil
    | some exponent => exact inert_exponent exponent

-- ---------------------------------------------------------------------------
-- Where the expression matches
-- ---------------------------------------------------------------------------

/-- Nothing is rewritten at a character other than a quote. -/
theorem bigNonce_of_ne {c : Char} (h : c ≠ '"') (previous : Option Char) (rest : List Char) :
    bigNonce previous (c :: rest) = none := by
  unfold bigNonce
  split
  · rfl
  · split
    · rename_i hText
      exact absurd (List.head_eq_of_cons_eq hText) h
    · rfl

/-- Nothing is rewritten at an escaped quote. -/
theorem bigNonce_escaped (text : List Char) : bigNonce (some '\\') text = none := if_pos rfl

/-- A quote that is not followed by `n` opens no nonce member. -/
theorem bigNonce_close {rest : List Char} (h : rest.head? ≠ some 'n') (previous : Option Char) :
    bigNonce previous ('"' :: rest) = none := by
  unfold bigNonce
  split
  · rfl
  · split
    · rename_i hText
      exact absurd (by rw [List.tail_eq_of_cons_eq hText]; rfl) h
    · rfl

/-- A quote opens a match only of the string `nonce`. -/
theorem bigNonce_open {previous : Option Char} (hPrevious : previous ≠ some '\\')
    (text : StringText) (rest : List Char) :
    bigNonce previous ('"' :: (StringText.print text ++ '"' :: rest)) =
      if StringText.print text = nonceKey then
        (matchMember rest).map fun (colon, digits) =>
          ('"' :: (nonceKey ++ '"' :: (colon ++ '"' :: (digits ++ ['"']))),
            7 + colon.length + digits.length)
      else none := by
  unfold bigNonce
  rw [if_neg hPrevious]
  by_cases hKey : StringText.print text = nonceKey
  · rw [if_pos hKey, hKey]
    rfl
  · rw [if_neg hKey]
    split
    · rename_i more hText
      have hPlain : Inert nonceKey := by decide
      exact absurd (print_append_quote hPlain (List.tail_eq_of_cons_eq hText)).1 hKey
    · rfl

/-- Inside a string there is no match, nor at its end. -/
theorem replaceFrom_string (text : StringText) {rest : List Char} (h : rest.head? ≠ some 'n')
    (previous : Option Char) :
    replaceFrom bigNonce previous 0 (StringText.print text ++ '"' :: rest) =
      StringText.print text ++ '"' :: replaceFrom bigNonce (some '"') 0 rest := by
  -- by induction on the pieces of the text; a quote inside it is escaped
  induction text generalizing previous with
  | nil => exact replaceFrom_keep (bigNonce_close h previous)
  | cons item text ih =>
    unfold StringText.print at ih ⊢
    rw [List.flatMap_cons, List.append_assoc, List.append_assoc]
    cases item with
    | plain c hc =>
      show replaceFrom bigNonce previous 0 (c :: (_ ++ '"' :: rest)) = c :: _
      rw [replaceFrom_keep (bigNonce_of_ne hc.1 previous _), ih]
      rfl
    | escape c hc =>
      show replaceFrom bigNonce previous 0 ('\\' :: c :: (_ ++ '"' :: rest)) = '\\' :: c :: _
      rw [replaceFrom_keep (bigNonce_of_ne (by decide) previous _),
        replaceFrom_keep (bigNonce_escaped _), ih]
      rfl
    | unicode digits hd =>
      -- an escape of four digits holds no quote
      have hKeep : ∀ c ∈ '\\' :: 'u' :: digits, ∀ before after,
          bigNonce before (c :: after) = none := by
        intro c hc before after
        refine bigNonce_of_ne ?_ before after
        rintro rfl
        rcases List.mem_cons.mp hc with h | hc
        · exact absurd h (by decide)
        rcases List.mem_cons.mp hc with h | hc
        · exact absurd h (by decide)
        · exact absurd (List.all_eq_true.mp hd.2 _ hc) (by decide)
      show replaceFrom bigNonce previous 0 (('\\' :: 'u' :: digits) ++ (_ ++ '"' :: rest)) = _
      rw [replaceFrom_plain hKeep, ih]
      rfl

-- ---------------------------------------------------------------------------
-- Members
-- ---------------------------------------------------------------------------

/-- Without a colon there is no member to match. -/
theorem matchMember_eq_none {text : List Char}
    (h : (text.dropWhile isSpace).head? ≠ some ':') : matchMember text = none := by
  unfold matchMember
  split
  · rename_i rest hText
    exact absurd (by rw [hText]; rfl) h
  · rfl

/-- After the colon the digits are taken, as far as they go. -/
theorem matchMember_colon (beforeColon afterColon : Ws) {text : List Char}
    (h : AfterSpace text) :
    matchMember (beforeColon.val ++ ':' :: (afterColon.val ++ text)) =
      if text.takeWhile isDigit ≠ [] ∧ endsMember (text.dropWhile isDigit) = true then
        some (beforeColon.val ++ ':' :: afterColon.val, text.takeWhile isDigit)
      else none := by
  have hColon : AfterSpace (':' :: (afterColon.val ++ text)) := by
    intro c hc
    obtain rfl : ':' = c := Option.some.inj hc
    decide
  obtain ⟨hTake, hDrop⟩ := span_ws beforeColon hColon
  obtain ⟨hTakeAfter, hDropAfter⟩ := span_ws afterColon h
  unfold matchMember
  rw [hTake, hDrop]
  simp only [hTakeAfter, hDropAfter]

/-- Where no white space stands, a member ends at a comma or a closing brace. -/
theorem endsMember_cons {c : Char} (h : isSpace c = false) (rest : List Char) :
    endsMember (c :: rest) = (c == ',' || c == '}') := by
  unfold endsMember
  rw [List.takeWhile_cons_of_neg (by simp [h]), List.dropWhile_cons_of_neg (by simp [h])]
  rfl

/-- What follows a member's value: white space, and a comma or a brace. -/
def MemberEnd (text : List Char) : Prop :=
  ∃ (space : Ws) (c : Char) (rest : List Char), (c = ',' ∨ c = '}') ∧ text = space.val ++ c :: rest

/-- What follows the value of a member ends it. -/
theorem MemberEnd.ends {text : List Char} (h : MemberEnd text) : endsMember text = true := by
  obtain ⟨space, c, rest, hc, rfl⟩ := h
  have hAfter : AfterSpace (c :: rest) := by
    intro d hd
    obtain rfl : c = d := Option.some.inj hd
    rcases hc with rfl | rfl <;> decide
  unfold endsMember
  rw [(span_ws space hAfter).2, Bool.or_eq_true]
  rcases hc with rfl | rfl
  · exact .inr rfl
  · exact .inr rfl

/-- What follows the value of a member is no digit. -/
theorem MemberEnd.not_digit {text : List Char} (h : MemberEnd text) :
    ∀ c, text.head? = some c → isDigit c = false := by
  obtain ⟨⟨space, hSpace⟩, c, rest, hc, rfl⟩ := h
  intro d hd
  cases space with
  | nil =>
    obtain rfl : c = d := Option.some.inj hd
    rcases hc with rfl | rfl <;> decide
  | cons e space =>
    obtain rfl : e = d := Option.some.inj hd
    rcases isWs_cases (List.all_eq_true.mp hSpace e List.mem_cons_self) with
      rfl | rfl | rfl | rfl <;> decide

-- ---------------------------------------------------------------------------
-- Values
-- ---------------------------------------------------------------------------

/-- A digit is neither white space nor a colon. -/
theorem digit_facts {c : Char} (h : isDigit c = true) : isSpace c = false ∧ c ≠ ':' := by
  have hBounds := isDigit_iff.mp h
  refine ⟨isSpace_eq_false (by omega) (by omega), ?_⟩
  rintro rfl
  exact absurd hBounds.2 (by decide)

/-- A value begins with neither white space nor a colon, and only a number that is not negative
begins with a digit. -/
theorem head_value (value : Value) : ∃ c rest, value.print = c :: rest ∧
    isSpace c = false ∧ c ≠ ':' ∧
    (isDigit c = true → ∃ number : Number, value = .number number ∧ number.negative = false) := by
  cases value with
  | null => exact ⟨'n', _, rfl, by decide, by decide, fun h => absurd h (by decide)⟩
  | true => exact ⟨'t', _, rfl, by decide, by decide, fun h => absurd h (by decide)⟩
  | false => exact ⟨'f', _, rfl, by decide, by decide, fun h => absurd h (by decide)⟩
  | string text => exact ⟨'"', _, rfl, by decide, by decide, fun h => absurd h (by decide)⟩
  | emptyArray space => exact ⟨'[', _, rfl, by decide, by decide, fun h => absurd h (by decide)⟩
  | array items => exact ⟨'[', _, rfl, by decide, by decide, fun h => absurd h (by decide)⟩
  | emptyObject space => exact ⟨'{', _, rfl, by decide, by decide, fun h => absurd h (by decide)⟩
  | object members => exact ⟨'{', _, rfl, by decide, by decide, fun h => absurd h (by decide)⟩
  | number number =>
    -- a number begins with its sign or with a digit
    cases hSign : number.negative with
    | true =>
      refine ⟨'-', number.int.val ++ number.tail, ?_, by decide, by decide,
        fun h => absurd h (by decide)⟩
      show (if number.negative then _ else _) ++ _ = _
      rw [hSign]
      rfl
    | false =>
      obtain ⟨c, rest, hInt⟩ := List.exists_cons_of_ne_nil number.int.property.1
      have hDigit := List.all_eq_true.mp number.int.property.2 c
        (by rw [hInt]; exact List.mem_cons_self)
      obtain ⟨hSpace, hColon⟩ := digit_facts hDigit
      refine ⟨c, rest ++ number.tail, ?_, hSpace, hColon, fun _ => ⟨number, rfl, hSign⟩⟩
      show (if number.negative then _ else _) ++ (number.int.val ++ _) = _
      rw [hSign, hInt]
      rfl

/-- A printed value does not begin with white space. -/
theorem afterSpace_value (value : Value) (rest : List Char) : AfterSpace (value.print ++ rest) := by
  obtain ⟨c, more, hPrint, hSpace, -, -⟩ := head_value value
  intro d hd
  rw [hPrint] at hd
  obtain rfl : c = d := Option.some.inj hd
  exact hSpace

/-- A number that is not negative is its digits and what follows them. -/
theorem span_number {number : Number} (hSign : number.negative = false) {rest : List Char}
    (hRest : ∀ c, (number.tail ++ rest).head? = some c → isDigit c = false) :
    (number.print ++ rest).takeWhile isDigit = number.int.val ∧
      (number.print ++ rest).dropWhile isDigit = number.tail ++ rest := by
  unfold Number.print
  rw [hSign, if_neg Bool.false_ne_true, List.nil_append, List.append_assoc]
  exact takeWhile_append number.int.property.2 hRest

/-- The tail of a number is empty, or it begins as no end of a member does. -/
theorem tail_number (number : Number) : number.fraction = none ∧ number.exponent = none ∨
    ∃ c rest, number.tail = c :: rest ∧ (c = '.' ∨ c = 'e' ∨ c = 'E') := by
  unfold Number.tail
  cases number.fraction with
  | some digits => exact .inr ⟨'.', _, rfl, .inl rfl⟩
  | none =>
    cases number.exponent with
    | none => exact .inl ⟨rfl, rfl⟩
    | some exponent =>
      obtain ⟨upper, sign, digits⟩ := exponent
      cases upper with
      | true => exact .inr ⟨'E', _, rfl, .inr (.inr rfl)⟩
      | false => exact .inr ⟨'e', _, rfl, .inr (.inl rfl)⟩

/-- A value is a natural number when it is a number with no sign, fraction and exponent. -/
theorem natural?_eq_some {value : Value} {digits : Digits} (h : natural? value = some digits) :
    ∃ number : Number, value = .number number ∧ number.negative = false ∧ number.int = digits ∧
      number.tail = [] := by
  unfold natural? at h
  split at h
  · exact ⟨_, rfl, rfl, Option.some.inj h, rfl⟩
  · cases h

/-- The digits of a natural number are matched. -/
theorem matchMember_natural (beforeColon afterColon : Ws) {value : Value} {digits : Digits}
    (h : natural? value = some digits) {rest : List Char} (hRest : MemberEnd rest) :
    matchMember (beforeColon.val ++ ':' :: (afterColon.val ++ (value.print ++ rest))) =
      some (beforeColon.val ++ ':' :: afterColon.val, digits.val) := by
  rw [matchMember_colon _ _ (afterSpace_value value rest)]
  obtain ⟨number, rfl, hSign, rfl, hTail⟩ := natural?_eq_some h
  obtain ⟨hTake, hDrop⟩ := span_number hSign (by rw [hTail, List.nil_append]; exact hRest.not_digit)
  rw [hTail, List.nil_append] at hDrop
  rw [← Value.print.eq_4] at hTake hDrop
  rw [if_pos ⟨by rw [hTake]; exact number.int.property.1, by rw [hDrop]; exact hRest.ends⟩, hTake]

/-- No other value is. -/
theorem matchMember_other (beforeColon afterColon : Ws) {value : Value}
    (h : natural? value = none) (rest : List Char) :
    matchMember (beforeColon.val ++ ':' :: (afterColon.val ++ (value.print ++ rest))) = none := by
  rw [matchMember_colon _ _ (afterSpace_value value rest)]
  refine if_neg ?_
  rintro ⟨hDigits, hEnds⟩
  obtain ⟨c, more, hPrint, -, -, hNumber⟩ := head_value value
  -- a value with digits in front that is no natural number has a fraction or an exponent
  by_cases hDigit : isDigit c = true
  · obtain ⟨number, rfl, hSign⟩ := hNumber hDigit
    rcases tail_number number with ⟨hFraction, hExponent⟩ | ⟨d, tail, hTail, hd⟩
    · obtain ⟨negative, int, hZero, fraction, exponent⟩ := number
      obtain rfl : negative = false := hSign
      obtain rfl : fraction = none := hFraction
      obtain rfl : exponent = none := hExponent
      cases h
    -- where the run of digits ends, no member ends
    · have hFacts : isDigit d = false ∧ isSpace d = false ∧ (d == ',' || d == '}') = false := by
        rcases hd with rfl | rfl | rfl <;> decide
      have hRest : ∀ e, (number.tail ++ rest).head? = some e → isDigit e = false := by
        intro e he
        rw [hTail] at he
        obtain rfl : d = e := Option.some.inj he
        exact hFacts.1
      rw [Value.print, (span_number hSign hRest).2, hTail, List.cons_append, endsMember_cons hFacts.2.1,
        hFacts.2.2] at hEnds
      cases hEnds
  · refine hDigits ?_
    rw [hPrint, List.cons_append, List.takeWhile_cons_of_neg hDigit]

-- ---------------------------------------------------------------------------
-- Pieces of a text
-- ---------------------------------------------------------------------------

/-- Before a match there is no backslash. -/
def Ready (previous : Option Char) : Prop := previous ≠ some '\\'

/-- An inert text is copied. -/
theorem rewrites_inert {text : List Char} (h : Inert text) (rest : List Char) :
    Rewrites bigNonce Ready text text rest :=
  .plain (fun c hc hEq => (h c hc).2 (Option.some.inj hEq))
    fun c hc => bigNonce_of_ne (h c hc).1

/-- A character that is no quote and no backslash is copied. -/
theorem rewrites_cons {c : Char} (hc : c ≠ '"' ∧ c ≠ '\\') {text out rest : List Char}
    (h : Rewrites bigNonce Ready text out rest) :
    Rewrites bigNonce Ready (c :: text) (c :: out) rest :=
  (rewrites_inert (inert_cons hc inert_nil) (text ++ rest)).append h

/-- What may follow a string: it does not begin as the name does, and it holds no colon. -/
def Ends (text : List Char) : Prop :=
  text.head? ≠ some 'n' ∧ (text.dropWhile isSpace).head? ≠ some ':'

/-- White space before another character does not bring an `n` to the front. -/
theorem head_ws (space : Ws) {c : Char} (hc : c ≠ 'n') (rest : List Char) :
    (space.val ++ c :: rest).head? ≠ some 'n' := by
  obtain ⟨space, hSpace⟩ := space
  cases space with
  | nil => exact fun h => hc (Option.some.inj h)
  | cons d space =>
    intro hHead
    obtain rfl : d = 'n' := Option.some.inj hHead
    exact absurd (List.all_eq_true.mp hSpace 'n' List.mem_cons_self) (by decide)

/-- White space before a separator ends the value before it. -/
theorem ends_ws (space : Ws) {c : Char} (hc : c = ',' ∨ c = ']' ∨ c = '}') (rest : List Char) :
    Ends (space.val ++ c :: rest) := by
  have hFacts : isSpace c = false ∧ c ≠ 'n' ∧ c ≠ ':' := by
    rcases hc with rfl | rfl | rfl <;> decide
  have hAfter : AfterSpace (c :: rest) := fun d hd => Option.some.inj hd ▸ hFacts.1
  refine ⟨head_ws space hFacts.2.1 rest, ?_⟩
  rw [(span_ws space hAfter).2]
  exact fun h => hFacts.2.2 (Option.some.inj h)

/-- A string is kept where it is no match. -/
theorem rewrites_string {text : StringText} {rest : List Char} (hHead : rest.head? ≠ some 'n')
    (h : StringText.print text = nonceKey → matchMember rest = none) :
    Rewrites bigNonce Ready ('"' :: (StringText.print text ++ ['"']))
      ('"' :: (StringText.print text ++ ['"'])) rest := by
  intro previous hReady
  have hNone : bigNonce previous ('"' :: (StringText.print text ++ '"' :: rest)) = none := by
    rw [bigNonce_open hReady]
    by_cases hKey : StringText.print text = nonceKey
    · rw [if_pos hKey, h hKey]
      rfl
    · rw [if_neg hKey]
  have hQuote : Ready (some '"') := fun h => absurd (Option.some.inj h) (by decide)
  refine ⟨some '"', hQuote, ?_⟩
  rw [List.cons_append, List.append_assoc, List.singleton_append, replaceFrom_keep hNone,
    replaceFrom_string text hHead, List.cons_append, List.append_assoc, List.singleton_append]

/-- A quoted number prints as its digits between quotes. -/
theorem print_quoted (digits : Digits) :
    (quoted digits).print = '"' :: (digits.val ++ ['"']) := by
  unfold quoted
  rw [Value.print, StringText.print, List.flatMap_map]
  show '"' :: ((digits.val.attach.flatMap fun c => [c.val]) ++ ['"']) = _
  rw [← List.map_eq_flatMap, List.attach_map_subtype_val]

/-- A natural number prints as its digits. -/
theorem print_natural {value : Value} {digits : Digits} (h : natural? value = some digits) :
    value.print = digits.val := by
  obtain ⟨number, rfl, hSign, rfl, hTail⟩ := natural?_eq_some h
  rw [Value.print, Number.print, hSign, hTail, List.append_nil]
  rfl

/-- A nonce is replaced as a whole. -/
theorem rewrites_nonce (beforeColon afterColon : Ws) {value : Value} {digits : Digits}
    (h : natural? value = some digits) {rest : List Char} (hRest : MemberEnd rest) :
    Rewrites bigNonce Ready
      ('"' :: (nonceKey ++ '"' :: (beforeColon.val ++ ':' :: (afterColon.val ++ digits.val))))
      ('"' :: (nonceKey ++ '"' :: (beforeColon.val ++ ':' ::
        (afterColon.val ++ (quoted digits).print)))) rest := by
  intro previous hReady
  have hMember := matchMember_natural beforeColon afterColon h hRest
  rw [print_natural h] at hMember
  -- the quote of the key opens a match that takes the whole member
  have hMatch : bigNonce previous (('"' :: (nonceKey ++ '"' :: (beforeColon.val ++ ':' ::
      (afterColon.val ++ digits.val)))) ++ rest) =
      some ('"' :: (nonceKey ++ '"' :: (beforeColon.val ++ ':' ::
        (afterColon.val ++ (quoted digits).print))),
        ('"' :: (nonceKey ++ '"' :: (beforeColon.val ++ ':' ::
          (afterColon.val ++ digits.val)))).length) := by
    unfold bigNonce
    rw [if_neg hReady]
    simp only [nonceKey, List.cons_append, List.nil_append, List.append_assoc]
    rw [hMember, Option.map_some, print_quoted]
    simp only [Option.some.injEq, Prod.mk.injEq, List.append_assoc, List.cons_append,
      List.length_cons, List.length_append, true_and]
    omega
  refine ⟨_, ?_, replaceFrom_match (List.cons_ne_nil _ _) hMatch⟩
  -- the last character taken is a digit, so what follows is ready again
  have hLast : ('"' :: (nonceKey ++ '"' :: (beforeColon.val ++ ':' ::
      (afterColon.val ++ digits.val)))).getLast? = digits.val.getLast? := by
    rw [show '"' :: (nonceKey ++ '"' :: (beforeColon.val ++ ':' :: (afterColon.val ++ digits.val))) =
      ('"' :: (nonceKey ++ '"' :: (beforeColon.val ++ ':' :: afterColon.val))) ++ digits.val by simp]
    exact List.getLast?_append_of_ne_nil _ digits.property.1
  rw [hLast]
  exact fun hEq => (inert_digits digits _ (List.mem_of_getLast? hEq)).2 rfl

/-- A member's name, its colon and its value. -/
theorem rewrites_member (key : StringText) (beforeColon afterColon : Ws) {value rewritten : Value}
    {rest : List Char} (hRest : MemberEnd rest)
    (hValue : Rewrites bigNonce Ready value.print rewritten.print rest) :
    Rewrites bigNonce Ready
      ('"' :: (StringText.print key ++ '"' :: (beforeColon.val ++ ':' ::
        (afterColon.val ++ value.print))))
      ('"' :: (StringText.print key ++ '"' :: (beforeColon.val ++ ':' ::
        (afterColon.val ++ (quoteMember key value rewritten).print)))) rest := by
  -- a member that is no natural nonce is copied up to its value
  have hKept (hOther : StringText.print key = nonceKey → natural? value = none) :
      Rewrites bigNonce Ready
        (('"' :: (StringText.print key ++ ['"'])) ++ ((beforeColon.val ++ ':' :: afterColon.val) ++
          value.print))
        (('"' :: (StringText.print key ++ ['"'])) ++ ((beforeColon.val ++ ':' :: afterColon.val) ++
          rewritten.print)) rest := by
    have hColon : Inert (beforeColon.val ++ ':' :: afterColon.val) :=
      inert_append (inert_ws beforeColon) (inert_cons (by decide) (inert_ws afterColon))
    refine .append (rewrites_string ?_ fun hKey => ?_) (.append (rewrites_inert hColon _) hValue)
    · rw [List.append_assoc, List.append_assoc, List.cons_append]
      exact head_ws beforeColon (by decide) _
    · rw [List.append_assoc, List.append_assoc, List.cons_append]
      exact matchMember_other beforeColon afterColon (hOther hKey) rest
  simp only [List.cons_append, List.append_assoc, List.nil_append] at hKept
  unfold quoteMember
  by_cases hKey : StringText.print key = nonceKey
  · rw [if_pos hKey]
    cases hNatural : natural? value with
    | none => exact hKept fun _ => hNatural
    | some digits =>
      rw [hKey, print_natural hNatural]
      exact rewrites_nonce beforeColon afterColon hNatural hRest
  · rw [if_neg hKey]
    exact hKept fun h => absurd h hKey

-- ---------------------------------------------------------------------------
-- Texts
-- ---------------------------------------------------------------------------

mutual

/-- One case for each kind of value. -/
theorem rewrites_value (value : Value) {rest : List Char} (h : Ends rest) :
    Rewrites bigNonce Ready value.print (quoteValue value).print rest := by
  have hSpace (space : Ws) {first last : Char} (hFirst : first ≠ '"' ∧ first ≠ '\\')
      (hLast : last ≠ '"' ∧ last ≠ '\\') : Inert (first :: (space.val ++ [last])) :=
    inert_cons hFirst (inert_append (inert_ws space) (inert_cons hLast inert_nil))
  match value with
  | .null => exact rewrites_inert (show Inert ['n', 'u', 'l', 'l'] by decide) rest
  | .true => exact rewrites_inert (show Inert ['t', 'r', 'u', 'e'] by decide) rest
  | .false => exact rewrites_inert (show Inert ['f', 'a', 'l', 's', 'e'] by decide) rest
  | .number number => exact rewrites_inert (inert_number number) rest
  | .string text => exact rewrites_string h.1 fun _ => matchMember_eq_none h.2
  | .emptyArray space => exact rewrites_inert (hSpace space (by decide) (by decide)) rest
  | .emptyObject space => exact rewrites_inert (hSpace space (by decide) (by decide)) rest
  | .array items =>
    exact rewrites_cons (by decide) ((rewrites_items items rest).append
      (rewrites_cons (by decide) .nil))
  | .object members =>
    exact rewrites_cons (by decide) ((rewrites_members members rest).append
      (rewrites_cons (by decide) .nil))

/-- The items of an array are rewritten one by one, mutually with the values. -/
theorem rewrites_items (items : Items) (rest : List Char) :
    Rewrites bigNonce Ready items.print (quoteItems items).print (']' :: rest) := by
  match items with
  | .one before value after =>
    exact (rewrites_inert (inert_ws before) _).append
      ((rewrites_value value (ends_ws after (.inr (.inl rfl)) rest)).append
        (rewrites_inert (inert_ws after) _))
  | .more before value after more =>
    refine (rewrites_inert (inert_ws before) _).append (.append (rewrites_value value ?_)
      ((rewrites_inert (inert_ws after) _).append
        (rewrites_cons (by decide) (rewrites_items more rest))))
    rw [List.append_assoc, List.cons_append]
    exact ends_ws after (.inl rfl) _

/-- The members of an object are rewritten one by one, mutually with the values. -/
theorem rewrites_members (members : Members) (rest : List Char) :
    Rewrites bigNonce Ready members.print (quoteMembers members).print ('}' :: rest) := by
  match members with
  | .one before key beforeColon afterColon value after =>
    have hEnd : MemberEnd (after.val ++ '}' :: rest) := ⟨after, '}', rest, .inr rfl, rfl⟩
    have hValue := rewrites_value value (ends_ws after (.inr (.inr rfl)) rest)
    have hMember := (rewrites_member key beforeColon afterColon hEnd hValue).append
      (rewrites_inert (inert_ws after) ('}' :: rest))
    simp only [List.cons_append, List.append_assoc] at hMember
    exact (rewrites_inert (inert_ws before) _).append hMember
  | .more before key beforeColon afterColon value after more =>
    have hEnd : MemberEnd ((after.val ++ ',' :: more.print) ++ '}' :: rest) :=
      ⟨after, ',', more.print ++ '}' :: rest, .inl rfl, List.append_assoc ..⟩
    have hEnds : Ends ((after.val ++ ',' :: more.print) ++ '}' :: rest) := by
      rw [List.append_assoc, List.cons_append]
      exact ends_ws after (.inl rfl) _
    have hMember := (rewrites_member key beforeColon afterColon hEnd
      (rewrites_value value hEnds)).append ((rewrites_inert (inert_ws after) _).append
        (rewrites_cons (c := ',') (by decide) (rewrites_members more rest)))
    simp only [List.cons_append, List.append_assoc] at hMember
    exact (rewrites_inert (inert_ws before) _).append hMember

end

def NoColon (text : List Char) : Prop := (text.dropWhile isSpace).head? ≠ some ':'

/-- White space brings no colon to the front. -/
theorem noColon_ws (space : Ws) {rest : List Char} (h : NoColon rest) :
    NoColon (space.val ++ rest) := by
  unfold NoColon
  rwa [List.dropWhile_append_of_pos (List.all_eq_true.mp (ws_isSpace space))]

/-- A line break brings no colon to the front. -/
theorem noColon_newline {rest : List Char} (h : NoColon rest) : NoColon ('\n' :: rest) := h

/-- A printed value does not begin with a colon. -/
theorem noColon_value (value : Value) (rest : List Char) : NoColon (value.print ++ rest) := by
  obtain ⟨c, more, hPrint, hSpace, hColon, -⟩ := head_value value
  unfold NoColon
  rw [hPrint, List.cons_append, List.dropWhile_cons_of_neg (by simp [hSpace])]
  exact fun h => hColon (Option.some.inj h)

/-- A printed line does not begin with a colon. -/
theorem noColon_line (line : Line) {rest : List Char} (h : NoColon rest) :
    NoColon (line.print ++ rest) := by
  cases line with
  | blank space => exact noColon_ws space h
  | value before value after =>
    unfold Line.print
    rw [List.append_assoc, List.append_assoc]
    exact noColon_ws before (noColon_value value _)

/-- A printed document does not begin with a colon. -/
theorem noColon_document (document : Document) : NoColon (Document.print document) := by
  have hNil : NoColon [] := fun h => nomatch h
  induction document with
  | nil => exact hNil
  | cons line rest ih =>
    cases rest with
    | nil =>
      rw [Document.print, ← List.append_nil line.print]
      exact noColon_line line hNil
    | cons next rest => exact noColon_line line (noColon_newline ih)

/-- A line ends with the text, or before another one. -/
theorem rewrites_line (line : Line) {rest : List Char} (hHead : rest.head? ≠ some 'n')
    (h : NoColon rest) : Rewrites bigNonce Ready line.print (quoteLine line).print rest := by
  cases line with
  | blank space => exact rewrites_inert (inert_ws space) rest
  | value before value after =>
    have hEnds : Ends (after.val ++ rest) := by
      refine ⟨?_, noColon_ws after h⟩
      obtain ⟨after, hAfter⟩ := after
      cases after with
      | nil => exact hHead
      | cons c after =>
        intro hEq
        obtain rfl : c = 'n' := Option.some.inj hEq
        exact absurd (List.all_eq_true.mp hAfter 'n' List.mem_cons_self) (by decide)
    exact (rewrites_inert (inert_ws before) _).append ((rewrites_value value hEnds).append
      (rewrites_inert (inert_ws after) rest))

/-- A document is rewritten line by line. -/
theorem rewrites_document (document : Document) :
    Rewrites bigNonce Ready (Document.print document)
      (Document.print (document.map quoteLine)) [] := by
  induction document with
  | nil => exact .nil
  | cons line rest ih =>
    cases rest with
    | nil => exact rewrites_line line (fun h => nomatch h) fun h => nomatch h
    | cons next rest =>
      have hNewline : '\n' ≠ '"' ∧ '\n' ≠ '\\' := by decide
      refine (rewrites_line line ?_ ?_).append (rewrites_cons hNewline ih)
      · exact fun h => absurd (Option.some.inj h) (by decide)
      · rw [List.append_nil]
        exact noColon_newline (noColon_document (next :: rest))

-- ---------------------------------------------------------------------------
-- Once is enough
-- ---------------------------------------------------------------------------

/-- Quoting inside a value leaves it the natural number it was, or none. -/
theorem natural?_quoteValue (value : Value) : natural? (quoteValue value) = natural? value := by
  cases value <;> simp only [quoteValue] <;> rfl

/-- A quoted nonce is not quoted again, and no other member becomes one. -/
theorem quoteMember_quoteMember (key : StringText) {value : Value}
    (h : quoteValue (quoteValue value) = quoteValue value) :
    quoteMember key (quoteMember key value (quoteValue value))
      (quoteValue (quoteMember key value (quoteValue value))) =
      quoteMember key value (quoteValue value) := by
  unfold quoteMember
  by_cases hKey : StringText.print key = nonceKey
  · simp only [if_pos hKey]
    cases hNatural : natural? value with
    | none =>
      rw [Option.map_none, Option.getD_none, natural?_quoteValue, hNatural, h]
      rfl
    | some digits => rfl
  · simp only [if_neg hKey]
    exact h

mutual

/-- Quoting a value twice is quoting it once. -/
theorem quoteValue_quoteValue (value : Value) :
    quoteValue (quoteValue value) = quoteValue value := by
  match value with
  | .array items => exact congrArg Value.array (quoteItems_quoteItems items)
  | .object members => exact congrArg Value.object (quoteMembers_quoteMembers members)
  | .null => rfl
  | .true => rfl
  | .false => rfl
  | .number number => rfl
  | .string text => rfl
  | .emptyArray space => rfl
  | .emptyObject space => rfl

/-- Quoting items twice is quoting them once. -/
theorem quoteItems_quoteItems (items : Items) : quoteItems (quoteItems items) = quoteItems items := by
  match items with
  | .one before value after =>
    simp only [quoteItems, quoteValue_quoteValue value]
  | .more before value after rest =>
    simp only [quoteItems, quoteValue_quoteValue value, quoteItems_quoteItems rest]

/-- Quoting members twice is quoting them once. -/
theorem quoteMembers_quoteMembers (members : Members) :
    quoteMembers (quoteMembers members) = quoteMembers members := by
  match members with
  | .one before key beforeColon afterColon value after =>
    simp only [quoteMembers, quoteMember_quoteMember key (quoteValue_quoteValue value)]
  | .more before key beforeColon afterColon value after rest =>
    simp only [quoteMembers, quoteMember_quoteMember key (quoteValue_quoteValue value),
      quoteMembers_quoteMembers rest]

end

/-- Quoting a line twice is quoting it once. -/
theorem quoteLine_quoteLine (line : Line) : quoteLine (quoteLine line) = quoteLine line := by
  cases line with
  | blank space => rfl
  | value before value after => simp only [quoteLine, quoteValue_quoteValue value]

/-- The text rewrite computes the rewrite of the document. -/
theorem quoteBigNonces_document (document : Document) :
    quoteBigNonces (String.ofList (Document.print document)) =
      String.ofList (Document.print (document.map quoteLine)) := by
  have hReady : Ready none := fun h => nomatch h
  obtain ⟨next, -, hOut⟩ := rewrites_document document none hReady
  rw [List.append_nil, replaceFrom_nil, List.append_nil] at hOut
  unfold quoteBigNonces
  rw [String.toList_ofList, hOut]

/-- Of a JSON text, or of several on lines of their own, nothing changes but the digits of the
natural numbers called `nonce`, which are quoted, and quoting twice is quoting once. -/
theorem quoteBigNonces_print (document : Document) :
    quoteBigNonces (String.ofList (Document.print document)) =
      String.ofList (Document.print (document.map quoteLine)) ∧
    quoteBigNonces (quoteBigNonces (String.ofList (Document.print document))) =
      quoteBigNonces (String.ofList (Document.print document)) := by
  refine ⟨quoteBigNonces_document document, ?_⟩
  have hTwice : (document.map quoteLine).map quoteLine = document.map quoteLine := by
    rw [List.map_map]
    exact List.map_congr_left fun line _ => quoteLine_quoteLine line
  rw [quoteBigNonces_document, quoteBigNonces_document, hTwice]

end SwapDesk.Watcher
