import SwapDesk.Client.FlowRecordReader

/-!
# SwapDesk — the secret in flow records

Where the preimage of a swap can stand in a record. The reader of `src/client/flow-record.ts`
refuses a Buyer's record that has it as a run of digits of its own, and `redactFlowRecord`
replaces the texts of a Seller's record that it knows may have it.

Main results:

* `not_standsAlone_of_parseRecord`, for the records of a Buyer;
* `hidden_redactFlowRecord_iff`, which Seller's records redaction hides the preimage of.
-/

namespace SwapDesk.Client.Flow

open Check
open CharClass (isHex isHexLower isHexLower_iff toLower_of_isHexLower)

/-- The text has the digits somewhere in it, in any case. -/
def Holds (digits : List Char) (text : String) : Prop :=
  digits <:+: text.toList.map Char.toLower

instance (digits : List Char) (text : String) : Decidable (Holds digits text) :=
  inferInstanceAs (Decidable (_ <:+: _))

/-- The text has the digits, in any case, with no further digit on either side. -/
def StandsAlone (digits : List Char) (text : String) : Prop :=
  ∃ before run after, text.toList = before ++ (run ++ after) ∧ run.map Char.toLower = digits ∧
    (∀ c ∈ before.getLast?, isHex c = false) ∧ Runs.Stops isHex after

/-- `0x` and the digits of the bytes. -/
def hexText (bytes : List UInt8) : String := "0x" ++ String.ofList (Hex.encode bytes)

-- ---------------------------------------------------------------------------
-- Characters
-- ---------------------------------------------------------------------------

/-- A digit that is hexadecimal in lower case is hexadecimal. -/
theorem isHex_of_toLower {c : Char} (h : isHexLower c.toLower = true) : isHex c = true := by
  have key : ∀ n : Fin 128, isHexLower (Char.ofNat n).toLower = true →
      isHex (Char.ofNat n) = true := by decide
  by_cases hAscii : c.toNat < 128
  · have hKey := key ⟨c.toNat, hAscii⟩
    rw [Char.ofNat_toNat] at hKey
    exact hKey h
  · -- no other character has a lower case
    have hSame : c.toLower = c := by
      unfold Char.toLower
      rw [dif_neg]
      rintro ⟨-, hLe⟩
      have hLe : c.toNat ≤ 90 := hLe
      omega
    rw [hSame, isHexLower_iff] at h
    omega

/-- A text in lower case has the digits in any case only where it has them as they are. -/
theorem holds_iff_occurs {digits : List Char} {text : String}
    (h : text.toList.all isHexLower = true) : Holds digits text ↔ digits <:+: text.toList := by
  have hSame : text.toList.map Char.toLower = text.toList :=
    (List.map_congr_left fun c hc =>
      toLower_of_isHexLower (List.all_eq_true.mp h c hc)).trans (List.map_id _)
  unfold Holds
  rw [hSame]

/-- A shorter text does not hold the digits. -/
theorem not_holds_of_length_lt {digits : List Char} {text : String}
    (h : text.toList.length < digits.length) : ¬ Holds digits text := by
  intro hHolds
  have hLe := hHolds.length_le
  rw [List.length_map] at hLe
  omega

-- ---------------------------------------------------------------------------
-- A Buyer's record
-- ---------------------------------------------------------------------------

/-- A run of 64 digits that stands alone is one that the scan looks at. -/
theorem mem_HEX64_RUN {text : String} {before run after : List Char}
    (hText : text.toList = before ++ (run ++ after)) (hLength : run.length = 64)
    (hRun : ∀ c ∈ run, isHex c = true) (hBefore : ∀ c ∈ before.getLast?, isHex c = false)
    (hAfter : Runs.Stops isHex after) : run ∈ Reader.HEX64_RUN text := by
  have hNonempty : run ≠ [] := by
    rintro rfl
    cases hLength
  have hMem : run ∈ Runs.runs isHex text.toList :=
    Runs.mem_runs_iff.mpr ⟨hNonempty, hRun, before, after, hText, hBefore, hAfter⟩
  exact List.mem_filter.mpr ⟨hMem, decide_eq_true hLength⟩

/-- No text of a Buyer's record has the 64 digits of the preimage that opens the record's hash
lock, in any case, unless further digits stand next to them. -/
theorem not_standsAlone_of_parseRecord {rt : FlowRuntime} {r : Reader} {value : Option Json}
    {record : BuyerFlowRecord} {hashLock : Shaped HEX32} {preimage : List UInt8}
    (hVerify : ∀ bytes : List UInt8, bytes.length = 32 →
      rt.verifyHashPreimage (hexText (rt.sha256 bytes)) (hexText bytes) = true)
    (h : parseRecord rt r value = .ok (.buyer record))
    (hLock : record.rest.state.lock.hashLock = some hashLock) (hLength : preimage.length = 32)
    (hOpens : hexText (rt.sha256 preimage) = hashLock.val) :
    ∀ text ∈ (buyerJson record).texts, ¬ StandsAlone (Hex.encode preimage) text := by
  rintro text hText ⟨before, run, after, hSplit, hDigits, hBefore, hAfter⟩
  have hScan := noPreimageOf_of_parseRecord h hLock
  obtain ⟨path, hSeen⟩ := Json.looksAt_of_eachText _ hScan text hText
  rw [require_eq_ok] at hSeen
  have hRunLength : run.length = 64 := by
    rw [← List.length_map (f := Char.toLower), hDigits, Hex.length_encode, hLength]
  have hRun : ∀ c ∈ run, isHex c = true := by
    intro c hc
    refine isHex_of_toLower (List.all_eq_true.mp (Hex.all_isHexLower_encode preimage) _ ?_)
    rw [← hDigits]
    exact List.mem_map_of_mem hc
  have hFalse := hSeen run (mem_HEX64_RUN hSplit hRunLength hRun hBefore hAfter)
  have hTrue := hVerify preimage hLength
  rw [hDigits, ← hOpens] at hFalse
  exact Bool.false_ne_true (hFalse.symm.trans hTrue)

-- ---------------------------------------------------------------------------
-- A run
-- ---------------------------------------------------------------------------

namespace Kept

/-- `0x` and 64 times the same digit. -/
def digits (c : Char) : String := "0x" ++ String.ofList (List.replicate 64 c)

def zeros : List UInt8 := List.replicate 32 0

/-- The digest of `zeros`. -/
def statement : String := "0x66687aadf862bd776c8fc18b8e9f8e20089714856ee233b3902a591d0d5f2925"

def statement32 : Shaped HEX32 := ⟨statement, by decide⟩

/-- The digest of the body that is stored in the run of `Seller`. -/
def bodyDigest : String := "b084130a8049804a90ab3506c3fe06d240fa072ee950c6392f94ea5373a02f17"

def sha256 (bytes : List UInt8) : List UInt8 :=
  ((Hex.decode (if bytes = zeros then statement.toList.drop 2 else bodyDigest.toList))).getD []

def rt : FlowRuntime where
  offerRoom := "mb-p-tclk-offers"
  dealRoom contract := "mb-p-tclk-" ++ contract
  verifyHashPreimage hash preimage :=
    (Hex.decode (preimage.toList.drop 2)).any fun bytes => hash = hexText (sha256 bytes)
  sha256 := sha256
  decodeUtf8 bytes := (Utf8.decode bytes).map String.ofList
  jsonParse text := JsonText.parse (fun number => .other (String.ofList number)) text.toList

/-- The sample's UTF-8 text decodes. -/
theorem decodeUtf8_encode (text : List Char) :
    rt.decodeUtf8 (Utf8.encode text) = some (String.ofList text) := by
  have hDecode : Utf8.decode (Utf8.encode text) = some text := Utf8.decode_eq_some.mpr rfl
  show (Utf8.decode (Utf8.encode text)).map String.ofList = some (String.ofList text)
  rw [hDecode, Option.map_some]

/-- The sample's plain JSON parses back. -/
theorem jsonParse_print {v : Json} (h : JsonText.Plain v) :
    rt.jsonParse (String.ofList (JsonText.print v)) = some v := by
  have hParse := @JsonText.parse_print (fun number => .other (String.ofList number)) _ h
  show JsonText.parse (fun number => .other (String.ofList number))
    (String.ofList (JsonText.print v)).toList = some v
  rw [String.toList_ofList, hParse]

/-- The sample's preimage verifies against its hash. -/
theorem verifies (bytes : List UInt8) (_ : bytes.length = 32) :
    rt.verifyHashPreimage (hexText (rt.sha256 bytes)) (hexText bytes) = true := by
  have hDrop : (hexText bytes).toList.drop 2 = Hex.encode bytes := by
    rw [hexText, String.toList_append]
    show (String.ofList (Hex.encode bytes)).toList = Hex.encode bytes
    rw [String.toList_ofList]
  show ((Hex.decode ((hexText bytes).toList.drop 2)).any fun b =>
    hexText (sha256 bytes) = hexText (sha256 b)) = true
  rw [hDrop, Hex.decode_encode]
  exact decide_eq_true rfl

def reader : Reader := ⟨ANY_KEY, false⟩

def commonFields (role : String) (ledger : List Json) : List (String × Json) :=
  [("v", .num (.int 1)), ("role", .str role), ("swapId", .str (digits '1')),
    ("did", .str "did:key:z6Mk"), ("railId", .str "btc-htlc"), ("caip2", .str "bip122:00"),
    ("deploymentId", .str "rail:btc-htlc"), ("createdAtMs", .num (.int 1)),
    ("updatedAtMs", .num (.int 2)), ("revision", .num (.int 1)), ("frames", .obj []),
    ("ledger", .arr ledger)]

/-- A transaction that pushes the 32 bytes. -/
def rawTx : String := "20" ++ String.ofList (List.replicate 64 '0') ++ "51"

/-- A Buyer's record with the transaction in the evidence of its lock. -/
def buyer : Json :=
  .obj (commonFields "buyer" [] ++
    [("legBVerified", .bool false),
      ("lock", .obj [("attempted", .bool true), ("framePosted", .bool false),
        ("hashLock", .str statement),
        ("evidence", .obj [("ref", .str "00:0"), ("raw", .arr []), ("rawTx", .str rawTx)])]),
      ("legBClaimAttempted", .bool false), ("legBClaimed", .bool false),
      ("refund", .obj [("attempted", .bool false), ("framesPosted", .bool false)]),
      ("refundNotes", .arr [])])

/-- A Buyer's record under the statement, with the transaction. -/
def showsTx : StoredRecord → Bool
  | .buyer record => decide (record.rest.state.lock.hashLock = some statement32 ∧
      rawTx ∈ (buyerJson record).texts)
  | _ => false

/-- The sample's Buyer record is read, with the raw transaction in it. -/
theorem buyer_read : ∃ record, parseRecord rt reader (some buyer) = .ok (.buyer record) ∧
    record.rest.state.lock.hashLock = some statement32 ∧ rawTx ∈ (buyerJson record).texts := by
  have hCheck : (parseRecord rt reader (some buyer)).toOption.any showsTx = true := by
    decide +kernel
  cases hRead : parseRecord rt reader (some buyer) with
  | error e =>
    rw [hRead] at hCheck
    cases hCheck
  | ok stored =>
    rw [hRead] at hCheck
    cases stored with
    | buyer record => exact ⟨record, rfl, of_decide_eq_true hCheck⟩
    | seller record => cases hCheck

end Kept

/-- The Buyer record that is kept shows no secret on its own. -/
theorem not_standsAlone_kept : ∃ record,
    parseRecord Kept.rt Kept.reader (some Kept.buyer) = .ok (.buyer record) ∧
      ∀ text ∈ (buyerJson record).texts, ¬ StandsAlone (Hex.encode Kept.zeros) text := by
  obtain ⟨record, hRead, hLock, -⟩ := Kept.buyer_read
  exact ⟨record, hRead, not_standsAlone_of_parseRecord Kept.verifies hRead hLock
    (by decide) (by decide)⟩

/-- A Buyer's record may have the preimage inside of a longer run of digits. -/
theorem holds_kept : (∃ record,
    parseRecord Kept.rt Kept.reader (some Kept.buyer) = .ok (.buyer record) ∧
      record.rest.state.lock.hashLock = some Kept.statement32 ∧
      ∃ text ∈ (buyerJson record).texts, Holds (Hex.encode Kept.zeros) text) ∧
    Kept.zeros.length = 32 ∧ hexText (Kept.rt.sha256 Kept.zeros) = Kept.statement32.val := by
  obtain ⟨record, hRead, hLock, hText⟩ := Kept.buyer_read
  exact ⟨⟨record, hRead, hLock, Kept.rawTx, hText, by decide⟩, by decide,
    by decide⟩

-- ---------------------------------------------------------------------------
-- Redaction
-- ---------------------------------------------------------------------------

def REDACTED : String := "[redacted]"

/-- `preimage.replace(/^0x/, "")` -/
def secretHexOf (preimage : String) : List Char :=
  match preimage.toList with
  | '0' :: 'x' :: rest => rest
  | digits => digits

/-- `[redacted]`, if the text has the digits as they are. -/
def mask (secretHex : List Char) (text : String) : String :=
  if secretHex ≠ [] ∧ secretHex <:+: text.toList then REDACTED else text

/-- An entry with other texts. -/
def withTexts (f : String → String) (entry : LedgerEntry) : LedgerEntry :=
  { entry with
    text := f entry.text
    landed := entry.landed.map fun landed =>
      { landed with
        record := landed.record.map fun record => { record with line := f record.line } } }

/-- A copy with other texts in the ledger and the claim transaction. -/
def copyWith (f : String → String) (preimage : String) (record : SellerFlowRecord) : SellerCopy :=
  let copy := sellerCopy record
  ⟨copy.ledger.map (withTexts f), preimage, copy.rawTx.map f⟩

/-- A Buyer's record has no preimage to replace. -/
def redactFlowRecord : StoredRecord → Json
  | .buyer record => buyerJson record
  | .seller record =>
    let secretHex := secretHexOf record.rest.state.preimage.val
    sellerCopyJson record (copyWith (mask secretHex) REDACTED record)

/-- The record without what redaction looks at: the texts of its ledger, the bytes of its claim
and its preimage. -/
def unmasked (record : SellerFlowRecord) : Json :=
  sellerCopyJson record (copyWith (fun _ => "") "" record)

-- ---------------------------------------------------------------------------
-- What it hides
-- ---------------------------------------------------------------------------

section

variable {P : String → Prop}

/-- A field that may be missing adds the texts of its value. -/
@[simp] theorem allFields_member {α : Type} {name : String} {value : Option α} {toJson : α → Json} :
    Json.AllFields P (member name value toJson) ↔ ∀ a ∈ value, Json.AllTexts P (toJson a) := by
  cases value <;> simp [member]

/-- The texts of an entry with others in their places. -/
theorem allTexts_withTexts (hEmpty : P "") (f : String → String) (entry : LedgerEntry) :
    Json.AllTexts P (ledgerEntryJson (withTexts f entry)) ↔
      Json.AllTexts P (ledgerEntryJson (withTexts (fun _ => "") entry)) ∧ P (f entry.text) ∧
        ∀ landed ∈ entry.landed, ∀ record ∈ landed.record, P (f record.line) := by
  obtain ⟨kind, room, text, landed⟩ := entry
  cases landed with
  | none => simp [ledgerEntryJson, withTexts, hEmpty, and_assoc]
  | some landed =>
    obtain ⟨seq, nonce, record⟩ := landed
    cases record with
    | none =>
      simp [ledgerEntryJson, landedJson, withTexts, hEmpty, jsonNat]
      tauto
    | some record =>
      simp [ledgerEntryJson, landedJson, transcriptJson, withTexts, hEmpty, jsonNat]
      tauto

/-- The texts of a ledger are those of its entries. -/
theorem allTexts_ledgerJson (f : String → String) (ledger : List LedgerEntry) :
    Json.AllTexts P (ledgerJson (ledger.map (withTexts f))) ↔
      ∀ entry ∈ ledger, Json.AllTexts P (ledgerEntryJson (withTexts f entry)) := by
  simp [ledgerJson]

/-- The texts of the claim transaction. -/
theorem allFields_claimTx (f : String → String) (claimTx : Option ClaimTxRecord) :
    Json.AllFields P (member "claimTx" claimTx
        (claimTxJson (((claimTx.map (·.rawTx.val)).map f).getD ""))) ↔
      ∀ claimTx' ∈ claimTx, P claimTx'.txid.val ∧ P (f claimTx'.rawTx.val) := by
  cases claimTx with
  | none => simp
  | some claimTx => cases hSent : claimTx.sent <;> simp [claimTxJson, flag, hSent]

/-- The texts of a copy with others in their places. -/
theorem allTexts_copyWith (hEmpty : P "") (f : String → String) (preimage : String)
    (record : SellerFlowRecord) :
    Json.AllTexts P (sellerCopyJson record (copyWith f preimage record)) ↔
      Json.AllTexts P (unmasked record) ∧ P preimage ∧
        (∀ entry ∈ record.ledger, P (f entry.text) ∧
          ∀ landed ∈ entry.landed, ∀ line ∈ landed.record, P (f line.line)) ∧
        ∀ claimTx ∈ record.rest.state.claimTx, P (f claimTx.rawTx.val) := by
  unfold unmasked sellerCopyJson copyWith sellerCopy
  simp only [Json.allTexts_obj, Json.allFields_append, Json.allFields_cons, Json.allFields_nil,
    allTexts_ledgerJson, allFields_claimTx, Json.allTexts_str, hEmpty, and_true]
  constructor
  · rintro ⟨⟨⟨⟨hCommon, hLedger⟩, hState⟩, hPreimage⟩, hClaim⟩
    have hEntry := fun entry hMem => (allTexts_withTexts hEmpty f entry).mp (hLedger entry hMem)
    exact ⟨⟨⟨⟨hCommon, fun entry hMem => (hEntry entry hMem).1⟩, hState⟩,
        fun claimTx hMem => (hClaim claimTx hMem).1⟩, hPreimage,
      fun entry hMem => (hEntry entry hMem).2, fun claimTx hMem => (hClaim claimTx hMem).2⟩
  · rintro ⟨⟨⟨⟨hCommon, hBare⟩, hState⟩, hTxid⟩, hPreimage, hTexts, hRaw⟩
    exact ⟨⟨⟨⟨hCommon, fun entry hMem => (allTexts_withTexts hEmpty f entry).mpr
        ⟨hBare entry hMem, hTexts entry hMem⟩⟩, hState⟩, hPreimage⟩,
      fun claimTx hMem => ⟨hTxid claimTx hMem, hRaw claimTx hMem⟩⟩

end

/-- What is left of a text once it is masked, when it has the digits in any case only where it
has them as they are. -/
theorem not_holds_mask_iff {digits : List Char} (hLength : digits.length = 64) {text : String}
    (hDigits : digits.all isHexLower = true) :
    ¬ Holds digits (mask digits text) ↔ (Holds digits text → digits <:+: text.toList) := by
  have hNonempty : digits ≠ [] := by
    rintro rfl
    cases hLength
  unfold mask
  by_cases hInfix : digits <:+: text.toList
  · rw [if_pos ⟨hNonempty, hInfix⟩]
    have hShort : REDACTED.toList.length < digits.length := by
      rw [hLength]
      decide
    exact ⟨fun _ _ => hInfix, fun _ => not_holds_of_length_lt hShort⟩
  · rw [if_neg fun h => hInfix h.2]
    exact ⟨fun hNot hHolds => absurd hHolds hNot, fun h hHolds => hInfix (h hHolds)⟩

/-- The digits of a preimage of the right shape. -/
theorem secretHexOf_shape (preimage : Shaped HEX32) :
    (secretHexOf preimage.val).length = 64 ∧
      (secretHexOf preimage.val).all isHexLower = true := by
  obtain ⟨text, hShape⟩ := preimage
  rw [HEX32, FlowStore.KEY_ID_SHAPE, Bool.and_eq_true, Bool.and_eq_true, decide_eq_true_eq,
    List.isPrefixOf_iff_prefix] at hShape
  obtain ⟨⟨hLength, rest, hRest⟩, hLower⟩ := hShape
  have hRest : '0' :: 'x' :: rest = text.toList := hRest
  show (secretHexOf text).length = 64 ∧ (secretHexOf text).all isHexLower = true
  unfold secretHexOf
  rw [← hRest] at hLength hLower ⊢
  rw [List.length_cons, List.length_cons] at hLength
  show rest.length = 64 ∧ rest.all isHexLower = true
  exact ⟨by omega, hLower⟩

/-- The preimage, in any case, is in no text of the redacted record of a Seller exactly when it is
in none that redaction leaves alone, and every text of the ledger that has it in some case has it
in lower case. -/
theorem hidden_redactFlowRecord_iff {rt : FlowRuntime} {bytes : List UInt8} {key : String}
    {record : SellerFlowRecord} (h : decodeFlowRecord rt bytes key = .ok (.seller record)) :
    let secretHex := secretHexOf record.rest.state.preimage.val
    (∀ text ∈ (redactFlowRecord (.seller record)).texts, ¬ Holds secretHex text) ↔
      (∀ text ∈ (unmasked record).texts, ¬ Holds secretHex text) ∧
        ∀ entry ∈ record.ledger, Holds secretHex entry.text →
          secretHex <:+: entry.text.toList := by
  intro secretHex
  obtain ⟨hLength, hDigits⟩ := secretHexOf_shape record.rest.state.preimage
  have hMask (text : String) := @not_holds_mask_iff secretHex hLength text hDigits
  have hLines := ledger_of_decodeFlowRecord h
  -- the empty text and the placeholder are too short to hold it
  have hEmpty : ¬ Holds secretHex "" := not_holds_of_length_lt (by rw [hLength]; decide)
  have hRedacted : ¬ Holds secretHex REDACTED := not_holds_of_length_lt (by rw [hLength]; decide)
  have hSplit := allTexts_copyWith (P := fun text => ¬ Holds secretHex text) hEmpty
    (mask secretHex) REDACTED record
  refine hSplit.trans ⟨?_, ?_⟩
  -- what is masked holds nothing, what is not masked has to be free of it
  · rintro ⟨hUnmasked, -, hTexts, -⟩
    exact ⟨hUnmasked, fun entry hMem => (hMask _).mp (hTexts entry hMem).1⟩
  · rintro ⟨hUnmasked, hLower⟩
    refine ⟨hUnmasked, hRedacted, fun entry hMem => ?_, fun claimTx hMem => ?_⟩
    · have hText := (hMask entry.text).mpr (hLower entry hMem)
      refine ⟨hText, fun landed hLanded line hLine => ?_⟩
      rw [hLines entry hMem landed hLanded line hLine]
      exact hText
    · -- the bytes of a claim are in lower case
      have hShape := claimTx.rawTx.property
      rw [HEX_EVEN, Bool.and_eq_true] at hShape
      exact (hMask _).mpr (holds_iff_occurs hShape.2).mp

-- ---------------------------------------------------------------------------
-- A run of it
-- ---------------------------------------------------------------------------

namespace Kept

/-- A Seller's record with the preimage in the ref of leg A's lock. -/
def seller : Json :=
  .obj (commonFields "seller" [.obj [("kind", .str "reveal-a"),
      ("room", .str ("mb-p-tclk-" ++ digits '2')),
      ("text", .str ("tclk1 reveal " ++ digits '0'))]] ++
    [("contractA", .str (digits '2')), ("preimage", .str (digits '0')),
      ("statement", .str statement), ("claimAttempted", .bool false), ("claimRecords", .arr []),
      ("neverLandedClaims", .num (.int 0)), ("claimOutcome", .str "none"),
      ("revealPosted", .bool false), ("receiptPosted", .bool false),
      ("legBRefund", .obj [("attempted", .bool false), ("done", .bool false),
        ("framesPosted", .bool false)]),
      ("frozenLegARailRef", .str (digits '0'))])

def envelopeText (inner : Json) : List Char := JsonText.print (envelopeOf rt inner)

/-- The checksum is a text of 64 digits in quotes. -/
theorem length_sum (inner : Json) :
    (JsonText.printString (sha256Hex rt (canonical inner))).length = 66 := by
  show (JsonText.printString (String.ofList (Hex.encode (sha256 _)))).length = 66
  by_cases hZeros : Utf8.encode (canonical inner) = zeros
  · rw [hZeros]
    decide +kernel
  · rw [sha256, if_neg hZeros]
    decide +kernel

/-- The length of an envelope over that of its content. -/
theorem length_envelopeText (inner : Json) :
    (envelopeText inner).length = (JsonText.print inner).length + 90 := by
  have hSum := length_sum inner
  unfold envelopeText envelopeOf
  simp only [JsonText.print, JsonText.printField, JsonText.printFields, List.length_cons,
    List.length_append, hSum]
  have hNames : (JsonText.printString "v").length = 3 ∧ (JsonText.printString "sum").length = 5 ∧
      (JsonText.printString "record").length = 8 ∧
      (JsonText.printInt FLOW_RECORD_VERSION).length = 1 := by decide
  obtain ⟨hV, hS, hR, hInt⟩ := hNames
  rw [hV, hS, hR, hInt, List.length_nil]
  omega

/-- A sealed content opens again. -/
theorem openEnvelope_envelopeText {inner : Json} (hPlain : JsonText.Plain (envelopeOf rt inner))
    (hLength : (JsonText.print inner).length ≤ 262000)
    (hVersion : isVersion (inner.field? "v") = true) :
    openEnvelope rt (Utf8.encode (envelopeText inner)) ANY_KEY = .ok inner := by
  have hSize : (Utf8.encode (envelopeText inner)).length ≤ MAX_FLOW_RECORD_BYTES := by
    have hBytes := Utf8.length_encode_le (envelopeText inner)
    have hText := length_envelopeText inner
    have hMax : MAX_FLOW_RECORD_BYTES = 1048576 := rfl
    omega
  exact openEnvelope_envelopeOf hSize (decodeUtf8_encode _) (jsonParse_print hPlain) hVersion

def stored : List UInt8 := Utf8.encode (envelopeText seller)

/-- The sample's stored record opens. -/
theorem openEnvelope_stored : openEnvelope rt stored ANY_KEY = .ok seller := by
  refine openEnvelope_envelopeText ?_ (by decide +kernel) (by decide +kernel)
  simp [envelopeOf, seller, commonFields, JsonText.Plain, JsonText.PlainItems,
    JsonText.PlainFields, JsonText.maxExact, FLOW_RECORD_VERSION]

/-- A Seller's record that shows its preimage after all. -/
def showsPreimage : StoredRecord → Bool
  | .seller record => decide (∃ text ∈ (redactFlowRecord (.seller record)).texts,
      Holds (secretHexOf record.rest.state.preimage.val) text)
  | _ => false

/-- The sample's Seller record is read, and still shows its preimage redacted. -/
theorem seller_read : ∃ record, decodeFlowRecord rt stored = .ok (.seller record) ∧
    ∃ text ∈ (redactFlowRecord (.seller record)).texts,
      Holds (secretHexOf record.rest.state.preimage.val) text := by
  have hCheck : (parseRecord rt reader (some seller)).toOption.any showsPreimage = true := by
    decide +kernel
  cases hRead : parseRecord rt reader (some seller) with
  | error e =>
    rw [hRead] at hCheck
    cases hCheck
  | ok parsed =>
    rw [hRead] at hCheck
    cases parsed with
    | seller record =>
      exact ⟨record, decodeFlowRecord_of_openEnvelope openEnvelope_stored hRead,
        of_decide_eq_true hCheck⟩
    | buyer record => cases hCheck

end Kept

theorem hidden_redactFlowRecord_kept : ∃ record,
    decodeFlowRecord Kept.rt Kept.stored = .ok (.seller record) ∧
      ((∀ text ∈ (redactFlowRecord (.seller record)).texts,
          ¬ Holds (secretHexOf record.rest.state.preimage.val) text) ↔
        (∀ text ∈ (unmasked record).texts,
          ¬ Holds (secretHexOf record.rest.state.preimage.val) text) ∧
        ∀ entry ∈ record.ledger, Holds (secretHexOf record.rest.state.preimage.val) entry.text →
          secretHexOf record.rest.state.preimage.val <:+: entry.text.toList) := by
  obtain ⟨record, hRead, -⟩ := Kept.seller_read
  exact ⟨record, hRead, hidden_redactFlowRecord_iff hRead⟩

/-- A redacted record may still have the preimage. -/
theorem shown_redactFlowRecord_kept : ∃ record,
    decodeFlowRecord Kept.rt Kept.stored = .ok (.seller record) ∧
      ∃ text ∈ (redactFlowRecord (.seller record)).texts,
        Holds (secretHexOf record.rest.state.preimage.val) text := Kept.seller_read

end SwapDesk.Client.Flow
