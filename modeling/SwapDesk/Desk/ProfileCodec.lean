import SwapDesk.Lib.Check
import SwapDesk.Lib.Decimal
import SwapDesk.Lib.Json
import SwapDesk.Lib.Separated
import SwapDesk.Desk.Profile

/-!
# SwapDesk — writing and reading swap contexts

`legAContext` and `legBContext` of `src/profile.ts`, which write the context of a leg, and the
documented grammar of contexts.

Main result: `swapContext_codec`. `parseSwapContext` reads exactly the texts of the grammar, as
what the grammar says they are; it reads back what the builders write, and the builders write
again what it reads.
-/

namespace SwapDesk.Desk

open Check
open CharClass (isDigit isDigit_eq isHexLower)

-- ---------------------------------------------------------------------------
-- Builders
-- ---------------------------------------------------------------------------

def FEE_BPS_MAX : Nat := 10000

/-- Why a text is not written. -/
inductive FormatError where
  | error (message : String)
  /-- What the library throws on a rail id it does not know. -/
  | unknownRail (value : String)
deriving DecidableEq, Repr

/-- What the Buyer wants; `none` is a fee that is left out. -/
structure LegAWant where
  wantAsset : String
  wantAmount : String
  wantRail : String
  feeBps : Option JsonNum
deriving DecidableEq, Repr

/-- An integer from 0 to `FEE_BPS_MAX`. -/
def checkFeeBps : JsonNum → Option Nat
  | .int value => if 0 ≤ value ∧ value ≤ FEE_BPS_MAX then some value.toNat else none
  | .other _ => none

def legAContext (t : Tclk) (want : LegAWant) : Except FormatError String := do
  require (isAsset want.wantAsset) (.error "swap: wantAsset is not a tclk asset id")
  require (isAmount want.wantAmount) (.error "swap: wantAmount must be a decimal integer")
  let rail ← need (t.normalizeRailId want.wantRail) (.unknownRail want.wantRail)
  let feeBps ← need (checkFeeBps (want.feeBps.getD (.int 0)))
    (.error ("swap: feeBps must be an integer 0.." ++ toString FEE_BPS_MAX))
  return "a|" ++ want.wantAsset ++ "|" ++ want.wantAmount ++ "|" ++ rail ++ "|" ++ toString feeBps

def legBContext (legAOfferId : String) : Except FormatError String := do
  require (hex32 legAOfferId) (.error "swap: legAOfferId must be a 0x-prefixed sha256")
  return "b|" ++ legAOfferId

-- ---------------------------------------------------------------------------
-- The grammar
-- ---------------------------------------------------------------------------

/-- What leg A wants, each part as `docs/PROFILE.md` has it. -/
structure Terms (t : Tclk) (wantAsset wantAmount wantRail : String) : Prop where
  asset : isAsset wantAsset = true
  /-- A decimal integer with no leading zero. -/
  amount : ∃ n : Nat, 0 < n ∧ wantAmount = toString n
  /-- Spelled as the library spells it. -/
  rail : t.normalizeRailId wantRail = some wantRail

/-- The contexts, and what each says. -/
inductive Documented (t : Tclk) : String → SwapContext → Prop
  | base {asset amount rail : String} : Terms t asset amount rail →
      Documented t ("a|" ++ asset ++ "|" ++ amount ++ "|" ++ rail) (.a ⟨asset, amount, rail, 0⟩)
  | fee {asset amount rail : String} {feeBps : Nat} : Terms t asset amount rail →
      feeBps ≤ FEE_BPS_MAX →
      Documented t ("a|" ++ asset ++ "|" ++ amount ++ "|" ++ rail ++ "|" ++ toString feeBps)
        (.a ⟨asset, amount, rail, feeBps⟩)
  | answer {digits : List Char} : digits.length = 64 → (∀ c ∈ digits, isHexLower c = true) →
      Documented t ("b|" ++ ("0x" ++ String.ofList digits)) (.b ⟨"0x" ++ String.ofList digits⟩)

/-- What the desk relies on in the library's rail ids. -/
structure RailIds (t : Tclk) : Prop where
  /-- The spelling of a known id is that of itself. -/
  idempotent : ∀ value rail, t.normalizeRailId value = some rail →
    t.normalizeRailId rail = some rail
  /-- No id of the closed registry has a separator of contexts in it. -/
  plain : ∀ value rail, t.normalizeRailId value = some rail → '|' ∉ rail.toList

-- ---------------------------------------------------------------------------
-- Fields
-- ---------------------------------------------------------------------------

/-- The value of digits in base 10. -/
theorem decimal_eq (digits : List Char) : decimal digits = Nat.ofDigitChars 10 digits 0 := rfl

/-- A number prints as its digits. -/
theorem toList_toString (n : Nat) : (toString n).toList = Nat.toDigits 10 n := by
  rw [Nat.toString_eq_ofList_toDigits, String.toList_ofList]

/-- A text is a printed number when it is canonical and has its value. -/
theorem eq_toString_iff {text : String} {n : Nat} :
    text = toString n ↔ Decimal.Canonical text.toList ∧ decimal text.toList = n := by
  rw [decimal_eq, Decimal.canonical_iff, ← toList_toString, String.toList_inj]

/-- An amount is a printed positive number. -/
theorem isAmount_iff {text : String} : isAmount text = true ↔ ∃ n : Nat, 0 < n ∧ text = toString n := by
  -- digits without a leading zero
  have hShape : isAmount text = true ↔
      Decimal.Canonical text.toList ∧ text.toList.head? ≠ some '0' := by
    unfold isAmount
    cases text.toList with
    | nil => exact ⟨nofun, fun h => absurd rfl h.1.1⟩
    | cons first rest =>
      simp only [Bool.and_eq_true, bne_iff_ne, List.all_eq_true, isDigit_eq, List.head?_cons,
        ne_eq, Option.some.injEq]
      constructor
      · rintro ⟨⟨hFirst, hNe⟩, hRest⟩
        exact ⟨⟨nofun, List.forall_mem_cons.mpr ⟨hFirst, hRest⟩, fun h =>
          hNe (Option.some.inj h.1)⟩, hNe⟩
      · rintro ⟨⟨-, hDigits, -⟩, hNe⟩
        obtain ⟨hFirst, hRest⟩ := List.forall_mem_cons.mp hDigits
        exact ⟨⟨hFirst, hNe⟩, hRest⟩
  rw [hShape]
  constructor
  · rintro ⟨hCanonical, hHead⟩
    exact ⟨decimal text.toList, Decimal.ofDigitChars_pos hCanonical hHead,
      eq_toString_iff.mpr ⟨hCanonical, rfl⟩⟩
  · rintro ⟨n, hPos, rfl⟩
    refine ⟨(eq_toString_iff.mp rfl).1, ?_⟩
    rw [toList_toString]
    exact Decimal.head?_toDigits hPos

/-- A fee is a printed number up to the maximum. -/
theorem feeBpsPattern_iff {text : String} :
    feeBpsPattern text = true ↔ ∃ n : Nat, n ≤ FEE_BPS_MAX ∧ text = toString n := by
  have hLength : ∀ n : Nat, (toString n).toList.length ≤ 4 ↔ n < 10000 := fun n => by
    rw [toList_toString]
    exact Nat.length_toDigits_le_iff (by decide) (by decide)
  unfold feeBpsPattern
  rw [Bool.or_eq_true, Bool.or_eq_true, Bool.and_eq_true, beq_iff_eq, beq_iff_eq, isAmount_iff,
    decide_eq_true_eq]
  constructor
  · rintro ((rfl | ⟨⟨n, -, rfl⟩, hShort⟩) | rfl)
    · exact ⟨0, by decide, rfl⟩
    · exact ⟨n, ((hLength n).mp hShort).le, rfl⟩
    · exact ⟨10000, by decide, rfl⟩
  · rintro ⟨n, hMax, rfl⟩
    rcases Nat.eq_zero_or_pos n with rfl | hPos
    · exact .inl (.inl rfl)
    rcases Nat.lt_or_eq_of_le hMax with hLt | rfl
    · exact .inl (.inr ⟨⟨n, hPos, rfl⟩, (hLength n).mpr hLt⟩)
    · exact .inr rfl

/-- A hash is `0x` and 64 hexadecimal digits in lower case. -/
theorem hex32_iff {text : String} :
    hex32 text = true ↔ ∃ digits : List Char, digits.length = 64 ∧
      (∀ c ∈ digits, isHexLower c = true) ∧ text = "0x" ++ String.ofList digits := by
  have hText : ∀ digits : List Char, text = "0x" ++ String.ofList digits ↔
      text.toList = '0' :: 'x' :: digits := fun digits => by
    rw [← String.toList_inj, String.toList_append, String.toList_ofList, String.toList_ofList]
    rfl
  simp only [hText]
  unfold hex32
  split
  · rename_i digits hList
    rw [hList, Bool.and_eq_true, beq_iff_eq, List.all_eq_true]
    constructor
    · rintro ⟨hLength, hHex⟩
      exact ⟨digits, hLength, hHex, rfl⟩
    · rintro ⟨digits', hLength, hHex, hEq⟩
      cases hEq
      exact ⟨hLength, hHex⟩
  · rename_i hOther
    exact ⟨nofun, fun ⟨digits, _, _, hList⟩ => absurd hList (hOther digits)⟩

-- ---------------------------------------------------------------------------
-- No field has a separator in it
-- ---------------------------------------------------------------------------

/-- A character without the property is not in a text that has it throughout. -/
theorem not_mem_of_all {p : Char → Bool} {c : Char} {text : List Char}
    (h : ∀ d ∈ text, p d = true) (hc : p c = false) : c ∉ text := fun hMem => by
  rw [h c hMem] at hc
  cases hc

/-- A printed number holds no separator. -/
theorem not_mem_toString (n : Nat) : '|' ∉ (toString n).toList :=
  not_mem_of_all (p := Char.isDigit) (eq_toString_iff.mp rfl).1.2.1 rfl

/-- An asset name holds no separator. -/
theorem not_mem_asset {text : String} (h : isAsset text = true) : '|' ∉ text.toList := by
  unfold isAsset at h
  rw [Bool.and_eq_true] at h
  exact not_mem_of_all (List.all_eq_true.mp h.2) (by decide)

/-- A hash holds no separator. -/
theorem not_mem_hex32 {digits : List Char} (h : ∀ c ∈ digits, isHexLower c = true) :
    '|' ∉ ("0x" ++ String.ofList digits).toList := by
  rw [String.toList_append, String.toList_ofList, String.toList_ofList, List.mem_append, not_or]
  exact ⟨by decide, not_mem_of_all h (by decide)⟩

-- ---------------------------------------------------------------------------
-- Contexts and their fields
-- ---------------------------------------------------------------------------

/-- The fields that a context is split into. -/
def segments (context : String) : List String := (context.toList.splitOn '|').map String.ofList

/-- Splitting at the separator inverts joining by it. -/
theorem segments_eq_iff {context : String} {parts : List String} :
    segments context = parts ↔ parts ≠ [] ∧ (∀ part ∈ parts, '|' ∉ part.toList) ∧
      context = "|".intercalate parts :=
  Separated.fields_eq_iff

/-- What the parts of a leg A context must be. -/
theorem parseLegAContext_eq_some {t : Tclk} {asset amount rail : String} {fee : Option String}
    {context : SwapContext} :
    parseLegAContext t asset amount rail fee = some context ↔
      Terms t asset amount rail ∧ ∃ feeBps : Nat, context = .a ⟨asset, amount, rail, feeBps⟩ ∧
        ((fee = none ∧ feeBps = 0) ∨ (feeBps ≤ FEE_BPS_MAX ∧ fee = some (toString feeBps))) := by
  unfold parseLegAContext
  constructor
  · intro h
    -- each check in the order of the source
    split at h
    · cases h
    rename_i hShape
    rw [Bool.or_eq_true, not_or, Bool.not_eq_true', Bool.not_eq_true', Bool.not_eq_false,
      Bool.not_eq_false] at hShape
    split at h
    · cases h
    rename_i rail' hRail
    split at h
    · cases h
    rename_i hCanonical
    obtain rfl := not_not.mp hCanonical
    refine ⟨⟨hShape.1, isAmount_iff.mp hShape.2, hRail⟩, ?_⟩
    split at h
    · cases h
      exact ⟨0, rfl, .inl ⟨rfl, rfl⟩⟩
    rename_i feeBps
    split at h
    · cases h
    rename_i hFee
    rw [Bool.not_eq_true', Bool.not_eq_false] at hFee
    obtain ⟨n, hMax, rfl⟩ := feeBpsPattern_iff.mp hFee
    cases h
    exact ⟨n, by rw [(eq_toString_iff.mp rfl).2], .inr ⟨hMax, rfl⟩⟩
  -- and what passes them all is read
  · rintro ⟨⟨hAsset, hAmount, hRail⟩, n, rfl, hFee⟩
    have hShape : ¬ (!isAsset asset || !isAmount amount) = true := by
      rw [hAsset, isAmount_iff.mpr hAmount]
      exact Bool.false_ne_true
    rw [if_neg hShape, hRail]
    dsimp only
    rw [if_neg (not_not.mpr rfl)]
    rcases hFee with ⟨rfl, rfl⟩ | ⟨hMax, rfl⟩
    · rfl
    · have hPattern : ¬ (!feeBpsPattern (toString n)) = true := by
        rw [feeBpsPattern_iff.mpr ⟨n, hMax, rfl⟩]
        exact Bool.false_ne_true
      dsimp only
      rw [if_neg hPattern, (eq_toString_iff.mp rfl).2]

/-- The four parts of a context without a fee. -/
theorem join_base (asset amount rail : String) :
    "|".intercalate ["a", asset, amount, rail] = "a|" ++ asset ++ "|" ++ amount ++ "|" ++ rail := by
  rw [← String.toList_inj]
  simp

/-- The five parts of a context with a fee. -/
theorem join_fee (asset amount rail fee : String) :
    "|".intercalate ["a", asset, amount, rail, fee] =
      "a|" ++ asset ++ "|" ++ amount ++ "|" ++ rail ++ "|" ++ fee := by
  rw [← String.toList_inj]
  simp

/-- The two parts of an answer. -/
theorem join_answer (legAOfferId : String) :
    "|".intercalate ["b", legAOfferId] = "b|" ++ legAOfferId := by
  rw [← String.toList_inj]
  simp

section

variable {t : Tclk} {text asset amount rail : String} {context : SwapContext}

/-- Terms hold no separator. -/
theorem Terms.plain (h : Terms t asset amount rail) (hRails : RailIds t) :
    '|' ∉ asset.toList ∧ '|' ∉ amount.toList ∧ '|' ∉ rail.toList := by
  obtain ⟨n, -, rfl⟩ := h.amount
  exact ⟨not_mem_asset h.asset, not_mem_toString n, hRails.plain rail rail h.rail⟩

/-- A context without a fee splits into its four parts. -/
theorem segments_base (h : Terms t asset amount rail) (hRails : RailIds t) :
    segments ("a|" ++ asset ++ "|" ++ amount ++ "|" ++ rail) = ["a", asset, amount, rail] := by
  obtain ⟨hAsset, hAmount, hRail⟩ := h.plain hRails
  refine segments_eq_iff.mpr ⟨nofun, ?_, (join_base asset amount rail).symm⟩
  simp only [List.forall_mem_cons]
  exact ⟨by decide, hAsset, hAmount, hRail, List.forall_mem_nil _⟩

/-- A context with a fee splits into its five parts. -/
theorem segments_fee (h : Terms t asset amount rail) (hRails : RailIds t) (fee : Nat) :
    segments ("a|" ++ asset ++ "|" ++ amount ++ "|" ++ rail ++ "|" ++ toString fee) =
      ["a", asset, amount, rail, toString fee] := by
  obtain ⟨hAsset, hAmount, hRail⟩ := h.plain hRails
  refine segments_eq_iff.mpr ⟨nofun, ?_, (join_fee asset amount rail (toString fee)).symm⟩
  simp only [List.forall_mem_cons]
  exact ⟨by decide, hAsset, hAmount, hRail, not_mem_toString fee, List.forall_mem_nil _⟩

/-- An answer splits into its two parts. -/
theorem segments_answer {digits : List Char} (hHex : ∀ c ∈ digits, isHexLower c = true) :
    segments ("b|" ++ ("0x" ++ String.ofList digits)) = ["b", "0x" ++ String.ofList digits] := by
  refine segments_eq_iff.mpr ⟨nofun, ?_, (join_answer _).symm⟩
  simp only [List.forall_mem_cons]
  exact ⟨by decide, not_mem_hex32 hHex, List.forall_mem_nil _⟩

/-- What is read of a text follows from its fields. -/
theorem parseSwapContext_eq :
    parseSwapContext t (some text) =
      match segments text with
      | ["a", wantAsset, wantAmount, wantRail] =>
        parseLegAContext t wantAsset wantAmount wantRail none
      | ["a", wantAsset, wantAmount, wantRail, feeBpsRaw] =>
        parseLegAContext t wantAsset wantAmount wantRail (some feeBpsRaw)
      | ["b", legAOfferId] => if hex32 legAOfferId then some (.b ⟨legAOfferId⟩) else none
      | _ => none := rfl

/-- A context is read as what the grammar says it is. -/
theorem documented_of_parse (h : parseSwapContext t (some text) = some context) :
    Documented t text context := by
  rw [parseSwapContext_eq] at h
  split at h
  · rename_i asset amount rail hSegments
    obtain ⟨hTerms, n, rfl, ⟨-, rfl⟩ | ⟨-, hNone⟩⟩ := parseLegAContext_eq_some.mp h
    · rw [(segments_eq_iff.mp hSegments).2.2, join_base]
      exact .base hTerms
    · cases hNone
  · rename_i asset amount rail fee hSegments
    obtain ⟨hTerms, n, rfl, ⟨hNone, -⟩ | ⟨hMax, hFee⟩⟩ := parseLegAContext_eq_some.mp h
    · cases hNone
    · cases hFee
      rw [(segments_eq_iff.mp hSegments).2.2, join_fee]
      exact .fee hTerms hMax
  · rename_i legAOfferId hSegments
    split at h
    · rename_i hHex
      cases h
      obtain ⟨digits, hLength, hDigits, rfl⟩ := hex32_iff.mp hHex
      rw [(segments_eq_iff.mp hSegments).2.2, join_answer]
      exact .answer hLength hDigits
    · cases h
  · cases h

/-- A text of the documented form parses to its context. -/
theorem parse_of_documented (hRails : RailIds t) (h : Documented t text context) :
    parseSwapContext t (some text) = some context := by
  rw [parseSwapContext_eq]
  cases h with
  | base hTerms =>
    rw [segments_base hTerms hRails]
    exact parseLegAContext_eq_some.mpr ⟨hTerms, 0, rfl, .inl ⟨rfl, rfl⟩⟩
  | @fee _ _ _ feeBps hTerms hMax =>
    rw [segments_fee hTerms hRails]
    exact parseLegAContext_eq_some.mpr ⟨hTerms, feeBps, rfl, .inr ⟨hMax, rfl⟩⟩
  | @answer digits hLength hDigits =>
    rw [segments_answer hDigits]
    exact if_pos (hex32_iff.mpr ⟨digits, hLength, hDigits, rfl⟩)

-- ---------------------------------------------------------------------------
-- Writing
-- ---------------------------------------------------------------------------

/-- A fee is accepted when it is an integer up to the maximum. -/
theorem checkFeeBps_eq_some {feeBps : JsonNum} {n : Nat} :
    checkFeeBps feeBps = some n ↔ feeBps = .int n ∧ n ≤ FEE_BPS_MAX := by
  cases feeBps with
  | other text => exact ⟨nofun, nofun⟩
  | int value =>
    unfold checkFeeBps
    rw [Option.ite_none_right_eq_some, Option.some.injEq, JsonNum.int.injEq]
    omega

/-- Leg A's builder writes the form with a fee, in the library's spelling of the rail. -/
theorem legAContext_eq_ok {want : LegAWant} :
    legAContext t want = .ok text ↔
      isAsset want.wantAsset = true ∧ isAmount want.wantAmount = true ∧
        ∃ rail, t.normalizeRailId want.wantRail = some rail ∧
          ∃ feeBps : Nat, want.feeBps.getD (.int 0) = .int feeBps ∧ feeBps ≤ FEE_BPS_MAX ∧
            text = "a|" ++ want.wantAsset ++ "|" ++ want.wantAmount ++ "|" ++ rail ++ "|" ++
              toString feeBps := by
  unfold legAContext
  simp only [require_bind_eq_ok, need_bind_eq_ok, checkFeeBps_eq_some, pure, Except.pure,
    Except.ok.injEq, and_assoc, eq_comm (a := text)]

/-- An answer is built for an offer id of the right shape. -/
theorem legBContext_eq_ok {legAOfferId : String} :
    legBContext legAOfferId = .ok text ↔ hex32 legAOfferId = true ∧ text = "b|" ++ legAOfferId := by
  unfold legBContext
  simp only [require_bind_eq_ok, pure, Except.pure, Except.ok.injEq, eq_comm (a := text)]

/-- What leg A's builder writes is in the grammar. -/
theorem documented_legAContext (hRails : RailIds t) {want : LegAWant}
    (h : legAContext t want = .ok text) :
    ∃ rail, t.normalizeRailId want.wantRail = some rail ∧
      ∃ feeBps : Nat, want.feeBps.getD (.int 0) = .int feeBps ∧
        Documented t text (.a ⟨want.wantAsset, want.wantAmount, rail, feeBps⟩) := by
  obtain ⟨hAsset, hAmount, rail, hRail, feeBps, hFee, hMax, rfl⟩ := legAContext_eq_ok.mp h
  have hTerms : Terms t want.wantAsset want.wantAmount rail :=
    ⟨hAsset, isAmount_iff.mp hAmount, hRails.idempotent _ rail hRail⟩
  exact ⟨rail, hRail, feeBps, hFee, .fee hTerms hMax⟩

/-- An answer that is built has the documented form. -/
theorem documented_legBContext {legAOfferId : String} (h : legBContext legAOfferId = .ok text) :
    Documented t text (.b ⟨legAOfferId⟩) := by
  obtain ⟨hHex, rfl⟩ := legBContext_eq_ok.mp h
  obtain ⟨digits, hLength, hDigits, rfl⟩ := hex32_iff.mp hHex
  exact .answer hLength hDigits

/-- What was read of a context of five fields, to be written again. -/
def LegAContext.want (context : LegAContext) : LegAWant :=
  ⟨context.wantAsset, context.wantAmount, context.wantRail, some (.int context.feeBps)⟩

/-- A documented offer with a fee is built from its context. -/
theorem legAContext_of_documented (hRails : RailIds t) {context : LegAContext}
    (h : Documented t text (.a context)) (hFive : (segments text).length = 5) :
    legAContext t context.want = .ok text := by
  cases h with
  | base hTerms =>
    rw [segments_base hTerms hRails] at hFive
    exact absurd hFive (by simp)
  | @fee _ _ _ feeBps hTerms hMax =>
    exact legAContext_eq_ok.mpr ⟨hTerms.asset, isAmount_iff.mpr hTerms.amount, _, hTerms.rail,
      feeBps, rfl, hMax, rfl⟩

/-- A documented answer is built from its context. -/
theorem legBContext_of_documented {context : LegBContext} (h : Documented t text (.b context)) :
    legBContext context.legAOfferId = .ok text := by
  cases h with
  | @answer digits hLength hDigits =>
    exact legBContext_eq_ok.mpr ⟨hex32_iff.mpr ⟨digits, hLength, hDigits, rfl⟩, rfl⟩

end

/-- Contexts are read by the documented grammar, which has one reading of each text, and what the
builders write is read back and written again. -/
theorem swapContext_codec (t : Tclk) (hRails : RailIds t) :
    -- what is read is in the grammar, and the grammar is what is read
    (∀ text context, parseSwapContext t (some text) = some context ↔ Documented t text context) ∧
    parseSwapContext t none = none ∧
    -- a text has one reading
    (∀ text context context', Documented t text context → Documented t text context' →
      context = context') ∧
    -- what is written is read back
    (∀ want text, legAContext t want = .ok text →
      ∃ rail, t.normalizeRailId want.wantRail = some rail ∧
        ∃ feeBps : Nat, want.feeBps.getD (.int 0) = .int feeBps ∧
          parseSwapContext t (some text) =
            some (.a ⟨want.wantAsset, want.wantAmount, rail, feeBps⟩)) ∧
    (∀ legAOfferId text, legBContext legAOfferId = .ok text →
      parseSwapContext t (some text) = some (.b ⟨legAOfferId⟩)) ∧
    -- what is read is written again
    (∀ text context, parseSwapContext t (some text) = some (.a context) →
      (segments text).length = 5 → legAContext t context.want = .ok text) ∧
    (∀ text context, parseSwapContext t (some text) = some (.b context) →
      legBContext context.legAOfferId = .ok text) := by
  refine ⟨fun text context => ⟨documented_of_parse, parse_of_documented hRails⟩, rfl, ?_, ?_, ?_,
    ?_, ?_⟩
  · intro text context context' h h'
    have hRead := parse_of_documented hRails h
    rw [parse_of_documented hRails h'] at hRead
    exact (Option.some.inj hRead).symm
  · intro want text h
    obtain ⟨rail, hRail, feeBps, hFee, hDocumented⟩ := documented_legAContext hRails h
    exact ⟨rail, hRail, feeBps, hFee, parse_of_documented hRails hDocumented⟩
  · intro legAOfferId text h
    exact parse_of_documented hRails (documented_legBContext h)
  · intro text context h hFive
    exact legAContext_of_documented hRails (documented_of_parse h) hFive
  · intro text context h
    exact legBContext_of_documented (documented_of_parse h)

/-! ### A sample -/

namespace Sample

/-- A library of two rails, one of them with a second spelling. -/
def railTclk : Tclk where
  offerRoom := "tclk-offers"
  dealRoom := id
  verifyTranscriptRecord _ := false
  tryDecodeFrame _ := none
  foldTranscript _ := ⟨none, []⟩
  lockTerms _ := none
  contractId _ _ := none
  normalizeRailId rail :=
    if rail = "evm-htlc" then some "evm-htlc"
    else if rail = "flop-htlc" ∨ rail = "FLOP-HTLC" then some "flop-htlc"
    else none

/-- The sample knows its rails. -/
theorem railIds : RailIds railTclk where
  idempotent value rail h := by
    have h : (if value = "evm-htlc" then some "evm-htlc"
      else if value = "flop-htlc" ∨ value = "FLOP-HTLC" then some "flop-htlc" else none) =
        some rail := h
    split at h
    · cases h
      rfl
    · split at h
      · cases h
        rfl
      · cases h
  plain value rail h := by
    have h : (if value = "evm-htlc" then some "evm-htlc"
      else if value = "flop-htlc" ∨ value = "FLOP-HTLC" then some "flop-htlc" else none) =
        some rail := h
    split at h
    · cases h
      decide
    · split at h
      · cases h
        decide
      · cases h

end Sample

theorem swapContext_codec_sample :
    Documented Sample.railTclk "a|FLOP|1000|flop-htlc" (.a ⟨"FLOP", "1000", "flop-htlc", 0⟩) ∧
    parseSwapContext Sample.railTclk (some "a|FLOP|1000|flop-htlc|30") =
      some (.a ⟨"FLOP", "1000", "flop-htlc", 30⟩) :=
  have hCodec := swapContext_codec Sample.railTclk Sample.railIds
  ⟨(hCodec.1 "a|FLOP|1000|flop-htlc" _).mp (by decide), by
    obtain ⟨rail, hRail, feeBps, hFee, hRead⟩ := hCodec.2.2.2.1
      ⟨"FLOP", "1000", "FLOP-HTLC", some (.int 30)⟩ "a|FLOP|1000|flop-htlc|30" (by decide)
    cases hRail
    cases hFee
    exact hRead⟩

end SwapDesk.Desk
