import SwapDesk.Rails.BtcEvidence
import SwapDesk.Rails.Recorded

/-!
# SwapDesk — what Bitcoin evidence rests on

What an observation of the Bitcoin reader has to be backed by, and when it is. The
reader takes any reply to `gettxout` but `null` for an unspent output, a reply
without a result among them, so that a `locked` observation is backed only when the
reply is an object.

Main results: `btcEvidence_supported_iff`, and `locked_without_reply`, a capture that
shows what goes wrong.
-/

namespace SwapDesk.Rails

open Check Desk

/-! ## What an observation has to be backed by -/

/-- The capture's configuration passes its check and asks for no less than the auditor's. -/
structure BtcConfigAgrees (input : BtcEvidenceInput) (captured : BtcRailConfig) : Prop where
  checked : checkBtcRailConfig input.capture.config = .ok captured
  network : captured.pin.network = input.config.pin.network
  genesis : toLowerCase captured.pin.genesisHash = toLowerCase input.config.pin.genesisHash
  name : captured.pin.name = input.config.pin.name
  finality : input.config.pin.finality.confirmations ≤ captured.pin.finality.confirmations
  window : scanWindowFor input.config ≤ scanWindowFor captured

/-- The reads are of the pinned chain, which has reached this height. -/
structure ChainPinned (rt : Runtime) (capture : Capture) (pin : BtcChainPin) (tipHeight : Int) :
    Prop where
  chain : ∃ params info, AnsweredAt rt capture 0 "getblockchaininfo" params info ∧
    info.text? "chain" = some pin.network ∧ info.int? "blocks" = some tipHeight
  genesis : ∃ hash, toLowerCase hash = toLowerCase pin.genesisHash ∧
    AnsweredAt rt capture 1 "getblockhash" (some (.arr [.num (.int 0)])) (.str hash)

/-- The raw transaction has this output at the outpoint. -/
def HoldsOutput (rt : BtcRuntime) (tx : Json) (vout : Nat) (output : FundingOutput) : Prop :=
  ∃ hex bytes outputs, tx.text? "hex" = some hex ∧ hexToBytes hex = some bytes ∧
    rt.transactionFromRaw bytes = some outputs ∧
    outputs[vout]? = some ⟨some output.scriptPubKey, some output.amountSats⟩

/-- The funding transaction is in a block of the chain, at this height. -/
structure FundingShown (rt : BtcRuntime) (capture : Capture) (outpoint : Outpoint)
    (tipHeight : Int) (funding : Funding) : Prop where
  transaction : ∃ tx hash,
    AnsweredAt rt.toRuntime capture 2 "getrawtransaction"
      (some (.arr [.str outpoint.txid, .bool true])) tx ∧
    HoldsOutput rt tx outpoint.vout funding.output ∧
    tx.int? "confirmations" = some funding.confirmations ∧ 1 ≤ funding.confirmations ∧
    tx.text? "blockhash" = some hash ∧ toLowerCase hash = funding.blockHash
  header : ∃ rest header,
    AnsweredAt rt.toRuntime capture 4 "getblockheader"
      (some (.arr (.str funding.blockHash :: rest))) header ∧
    header.int? "height" = some funding.height ∧ 1 ≤ funding.height ∧ funding.height ≤ tipHeight

/-- The output is the one that the terms and the keys of both parties call for. -/
def OutputMatches (rt : BtcRuntime) (input : BtcEvidenceInput) (output : FundingOutput) : Prop :=
  ∃ payee payer payeeKey payerKey hash locktime script,
    input.accounts.payeePubkey = some payee ∧ hexToBytes payee = some payeeKey ∧
    input.accounts.payerPubkey = some payer ∧ hexToBytes payer = some payerKey ∧
    hexToBytes (sliceFrom input.terms.statement 2) = some hash ∧
    input.terms.refundAfterMs = 1000 * locktime ∧
    buildHtlcScript rt ⟨hash, payeeKey, payerKey, locktime⟩
      (networkParamsFor input.config.pin.network) = .ok script ∧
    output.scriptPubKey = script.scriptPubKey ∧
    rt.bigInt input.terms.amount = some output.amountSats

/-- What every observation rests on. -/
structure BtcBacked (rt : BtcRuntime) (input : BtcEvidenceInput) (outpoint : Outpoint)
    (captured : BtcRailConfig) (tipHeight : Int) (funding : Funding) : Prop where
  complete : input.capture.error = none
  lockKind : input.terms.lock = "hash"
  refParses : parseRef input.capture.ref = some outpoint
  statement : HASH_LOCK_SHAPE input.terms.statement = true
  asset : input.terms.asset = assetIdFor input.config
  configAgrees : BtcConfigAgrees input captured
  chain : ChainPinned rt.toRuntime input.capture.toCapture input.config.pin tipHeight
  funded : FundingShown rt input.capture.toCapture outpoint tipHeight funding
  matchesLeg : OutputMatches rt input funding.output

/-- The call that asks whether the outpoint is unspent. -/
def gettxoutParams (outpoint : Outpoint) : Option Json :=
  some (.arr [.str outpoint.txid, .num (.int outpoint.vout), .bool false])

/-- The output is among the unspent ones, under enough confirmations. -/
structure BtcBackedLocked (rt : Runtime) (input : BtcEvidenceInput) (outpoint : Outpoint)
    (funding : Funding) : Prop where
  unspent : ∃ fields, AnsweredAt rt input.capture.toCapture 3 "gettxout" (gettxoutParams outpoint)
    (.obj fields)
  deep : input.config.pin.finality.confirmations ≤ funding.confirmations

/-- The block holds an input that spends the outpoint, with this witness. -/
def SpendsIn (block : Json) (outpoint : Outpoint) (witness : List String) : Prop :=
  ∃ txs tx inputs input txid, block.items? "tx" = some txs ∧ tx ∈ txs ∧
    tx.items? "vin" = some inputs ∧ input ∈ inputs ∧
    input.text? "txid" = some txid ∧ toLowerCase txid = toLowerCase outpoint.txid ∧
    input.int? "vout" = some (outpoint.vout : Int) ∧
    witness = ((input.items? "txinwitness").getD []).filterMap Json.asText?

/-- An item of the witness is 32 bytes long and hashes to the hash lock. -/
def Reveals (rt : Runtime) (statement : String) (witness : List String) : Prop :=
  ∃ item ∈ witness, ∃ bytes, hexToBytes item = some bytes ∧ bytes.length = 32 ∧
    hexToBytes (sliceFrom statement 2) = some (rt.sha256 bytes)

/-- The block at a height of the scan window holds the spend, under enough confirmations. -/
structure BtcBackedSpent (rt : Runtime) (input : BtcEvidenceInput) (outpoint : Outpoint)
    (captured : BtcRailConfig) (tipHeight : Int) (funding : Funding) (witness : List String) :
    Prop where
  spent : AnsweredAt rt input.capture.toCapture 3 "gettxout" (gettxoutParams outpoint) .null
  block : ∃ height hash block, ∃ position : Nat,
    funding.height ≤ height ∧ height < funding.height + scanWindowFor captured ∧
    height ≤ tipHeight ∧
    input.config.pin.finality.confirmations ≤ tipHeight - height + 1 ∧
    (position : Int) = 5 + 2 * (height - funding.height) ∧
    AnsweredAt rt input.capture.toCapture position "getblockhash"
      (some (.arr [.num (.int height)])) (.str hash) ∧
    AnsweredAt rt input.capture.toCapture (position + 1) "getblock"
      (some (.arr [.str hash, .num (.int 2)])) block ∧
    SpendsIn block outpoint witness

/-- Everything an observation says is shown by the capture. -/
def BtcSupported (rt : BtcRuntime) (input : BtcEvidenceInput) (rail : RailObservation) : Prop :=
  ∃ outpoint captured tipHeight funding,
    BtcBacked rt input outpoint captured tipHeight funding ∧
    match rail.status with
    | .locked => BtcBackedLocked rt.toRuntime input outpoint funding
    | .claimed => ∃ witness, Reveals rt.toRuntime input.terms.statement witness ∧
        BtcBackedSpent rt.toRuntime input outpoint captured tipHeight funding witness
    | .refunded => ∃ witness, ¬ Reveals rt.toRuntime input.terms.statement witness ∧
        BtcBackedSpent rt.toRuntime input outpoint captured tipHeight funding witness

/-- The exchange that stands for `gettxout` was answered with this reply, which may be missing. -/
def GettxoutReply (rt : Runtime) (capture : Capture) (reply : Option Json) : Prop :=
  ∃ e params, capture.exchanges[3]? = some e ∧ Answered rt capture e params reply

/-- Whatever the reply to `gettxout` is, it is an object or null. -/
def GettxoutReadable (rt : Runtime) (capture : Capture) : Prop :=
  ∀ reply, GettxoutReply rt capture reply →
    reply = some .null ∨ ∃ fields, reply = some (.obj fields)

/-! ## Requests -/

/-- Values that are strictly equal are the same. -/
theorem strictEquals_eq {a b : Json} (h : strictEquals a b = true) : a = b := by
  unfold strictEquals at h
  split at h <;> simp_all

/-- The params of a request are its array of them. -/
theorem requestParams_eq_some {request : ParsedRequest} {items : List Json} :
    requestParams request = some items ↔ request.params = some (.arr items) := by
  unfold requestParams
  split <;> simp_all

/-- The parameters are the expected ones, item by item. -/
theorem params_of_paramsAre {request : ParsedRequest} {expected : List Json}
    (h : paramsAre request expected = true) : request.params = some (.arr expected) := by
  obtain ⟨params, hParams, hSame⟩ := (Option.any_eq_true _ _).mp h
  rw [Bool.and_eq_true, decide_eq_true_eq, List.all_eq_true] at hSame
  rw [requestParams_eq_some.mp hParams]
  congr 2
  refine List.ext_getElem hSame.1 fun i h₁ h₂ => ?_
  refine strictEquals_eq (hSame.2 (params[i], expected[i]) ?_)
  rw [List.mem_iff_getElem]
  exact ⟨i, by simp [h₁, h₂], by simp⟩

/-- The first param is at the front of the array. -/
theorem params_of_firstParamIs {request : ParsedRequest} {expected : Json}
    (h : firstParamIs request expected = true) :
    ∃ rest, request.params = some (.arr (expected :: rest)) := by
  obtain ⟨params, hParams, hFirst⟩ := (Option.any_eq_true _ _).mp h
  cases params with
  | nil => cases hFirst
  | cons first rest =>
    obtain rfl := strictEquals_eq hFirst
    exact ⟨rest, requestParams_eq_some.mp hParams⟩

/-- An exchange has one answer. -/
theorem Answered.unique {rt : Runtime} {capture : Capture} {e : CaptureIndexExchange}
    {params params' value value' : Option Json} (h : Answered rt capture e params value)
    (h' : Answered rt capture e params' value') : value = value' := by
  obtain ⟨_, _, bytes, text, envelope, -, -, -, -, -, -, hBytes, hText, hEnvelope, -, -, rfl⟩ := h
  obtain ⟨_, _, bytes', text', envelope', -, -, -, -, -, -, hBytes', hText', hEnvelope', -, -,
    rfl⟩ := h'
  obtain rfl := Option.some.inj (hBytes.symm.trans hBytes')
  obtain rfl := Option.some.inj (hText.symm.trans hText')
  obtain rfl := Option.some.inj (hEnvelope.symm.trans hEnvelope')
  rfl

/-! ## Reading the blocks back -/

section

variable {rt : BtcRuntime} {capture : Capture}

/-- A position, read and bound, with the value that its exchange was answered with. -/
theorem answered_of_read {rt : Runtime} {i : Nat} {method label reason : String}
    {bound : BoundExchange} {reply : Option Json} {value : Json}
    (hBound : bindBtcExchange rt capture (exchangeAt capture.exchanges i method) label = .ok bound)
    (hReply : resultOf bound.outcome reason = .ok reply) (hValue : reply = some value) :
    AnsweredAt rt capture i method bound.request.params value :=
  answeredAt_of_bindExchange hBound (hValue ▸ resultOf_eq_ok.mp hReply)

/-- A ref that is not refused belongs to a hash lock of the right shape. -/
theorem parseRef_shape {terms : LockTerms} {ref : String}
    (h : btcLockRefInvalid terms ref = false) :
    terms.lock = "hash" ∧ HASH_LOCK_SHAPE terms.statement = true := by
  unfold btcLockRefInvalid at h
  rw [Bool.or_eq_false_iff, Bool.or_eq_false_iff] at h
  obtain ⟨⟨hLock, -⟩, hShape⟩ := h
  exact ⟨by simpa using hLock, by simpa using hShape⟩

/-- What admission has checked of a capture. -/
theorem admitBtcCapture_ok {input : BtcEvidenceInput} {admitted : BtcAdmitted}
    (h : admitBtcCapture input = .ok admitted) :
    input.capture.error = none ∧ input.terms.lock = "hash" ∧
      parseRef input.capture.ref = some admitted.outpoint ∧
      HASH_LOCK_SHAPE input.terms.statement = true ∧
      input.terms.asset = assetIdFor input.config ∧ BtcConfigAgrees input admitted.captured := by
  unfold admitBtcCapture at h
  simp only [bind_eq_ok, need_eq_ok, refute_eq_ok, require_eq_ok, mapError_eq_ok,
    exists_const] at h
  obtain ⟨hComplete, hRef, hAsset, outpoint, hParse, captured, hCaptured, ⟨hNetwork,
    hGenesis, hName⟩, hFinality, hWindow, h⟩ := h
  obtain rfl := Except.ok.inj h
  obtain ⟨hKind, hShape⟩ := parseRef_shape hRef
  exact ⟨hComplete, hKind, hParse, hShape, hAsset, hCaptured, hNetwork, hGenesis, hName, hFinality,
    hWindow⟩

/-- A tip that is read pins the chain. -/
theorem readTip_ok {rt : Runtime} {config : BtcRailConfig} {tipHeight : Int}
    (h : readTip rt capture config = .ok tipHeight) :
    ChainPinned rt capture config.pin tipHeight := by
  unfold readTip at h
  simp only [bind_eq_ok, need_eq_ok, require_eq_ok, exists_const] at h
  obtain ⟨info, hInfo, value, hValue, v, hObject, chain, hChain, tip, hTip, hNetwork, genesis,
    hGenesis, reply, hReply, hParams, hHash, h⟩ := h
  obtain rfl := Except.ok.inj h
  subst hNetwork
  obtain ⟨hash, hText, hSame⟩ := (Option.any_eq_true _ _).mp hHash
  obtain ⟨w, hReplyIs, hText⟩ := Option.bind_eq_some_iff.mp hText
  obtain rfl := Json.asText?_eq_some.mp hText
  refine ⟨⟨_, v, answered_of_read hInfo hValue (Option.filter_eq_some_iff.mp hObject).1,
    hChain, hTip⟩, hash, of_decide_eq_true hSame, ?_⟩
  rw [← params_of_paramsAre hParams]
  exact answered_of_read hGenesis hReply hReplyIs

/-- A decoded output is held by the transaction. -/
theorem decodeFundingOutput_eq_some {value : Option Json} {vout : Nat} {output : FundingOutput}
    (h : decodeFundingOutput rt value vout = some output) :
    ∃ tx, value = some tx ∧ HoldsOutput rt tx vout output := by
  unfold decodeFundingOutput at h
  simp only [Option.bind_eq_bind, Option.bind_eq_some_iff] at h
  obtain ⟨tx, hTx, hex, hHex, bytes, hBytes, outputs, hOutputs, ⟨script, amount⟩, hOutput, s,
    hScript, a, hAmount, h⟩ := h
  dsimp only at hScript hAmount
  subst hScript hAmount
  obtain rfl := Option.some.inj h
  exact ⟨tx, (Option.filter_eq_some_iff.mp hTx).1, hex, bytes, outputs, hHex, hBytes, hOutputs,
    hOutput⟩

/-- Confirmations are read off the transaction. -/
theorem rawTxConfirmations_eq_some {tx : Json} {n : Int}
    (h : rawTxConfirmations (some tx) = some n) : tx.int? "confirmations" = some n := by
  unfold rawTxConfirmations at h
  obtain ⟨v, hV, h⟩ := Option.bind_eq_some_iff.mp h
  obtain rfl := Option.some.inj (Option.filter_eq_some_iff.mp hV).1
  exact (Option.filter_eq_some_iff.mp h).1

/-- The block hash is read off the transaction, in lower case. -/
theorem rawTxBlockHash_eq_some {tx : Json} {hash : String}
    (h : rawTxBlockHash (some tx) = some hash) :
    ∃ text, tx.text? "blockhash" = some text ∧ toLowerCase text = hash := by
  unfold rawTxBlockHash at h
  simp only [Option.bind_eq_bind, Option.bind_eq_some_iff] at h
  obtain ⟨v, hV, text, hText, h⟩ := h
  obtain rfl := Option.some.inj (Option.filter_eq_some_iff.mp hV).1
  exact ⟨text, (Option.filter_eq_some_iff.mp hText).1, Option.some.inj h⟩

/-- The height is read off the header. -/
theorem blockHeaderHeight_eq_some {value : Option Json} {height : Int}
    (h : blockHeaderHeight value = some height) :
    ∃ header, value = some header ∧ header.int? "height" = some height := by
  unfold blockHeaderHeight at h
  obtain ⟨header, hHeader, h⟩ := Option.bind_eq_some_iff.mp h
  exact ⟨header, (Option.filter_eq_some_iff.mp hHeader).1, (Option.filter_eq_some_iff.mp h).1⟩

/-- What is read of the funding transaction, and the reply to `gettxout` along with it. -/
theorem readFunding_ok {outpoint : Outpoint} {tipHeight : Int} {funding : Funding}
    (h : readFunding rt capture outpoint tipHeight = .ok funding) :
    FundingShown rt capture outpoint tipHeight funding ∧
      ∃ e, capture.exchanges[3]? = some e ∧ e.method = "gettxout" ∧
        Answered rt.toRuntime capture e (gettxoutParams outpoint) funding.txout := by
  unfold readFunding readFundingTx readTxout readHeader at h
  simp only [bind_eq_ok, need_eq_ok, require_eq_ok, exists_const] at h
  -- transaction, output and header, in the order of the reads
  obtain ⟨⟨output, confirmations, blockHash⟩,
    ⟨rawTx, hRawTx, hRawTxParams, tx, hTx, o, hOutput, c, hConfirmations, b, hBlockHash, hPart⟩,
    txout, ⟨bound, hBound, hTxoutParams, hTxout⟩,
    height, ⟨header, hHeader, hHeaderParams, value, hValue, hHeight⟩, h⟩ := h
  cases hPart
  obtain rfl := Except.ok.inj h
  obtain ⟨hConfirmations, hConfirmed⟩ := Option.filter_eq_some_iff.mp hConfirmations
  obtain ⟨hHeight, hRange⟩ := Option.filter_eq_some_iff.mp hHeight
  rw [Bool.and_eq_true, decide_eq_true_eq, decide_eq_true_eq] at hRange
  obtain ⟨w, rfl, hHolds⟩ := decodeFundingOutput_eq_some hOutput
  obtain ⟨text, hText, hLower⟩ := rawTxBlockHash_eq_some hBlockHash
  obtain ⟨rest, hFirst⟩ := params_of_firstParamIs hHeaderParams
  obtain ⟨v, hHeaderIs, hHeight⟩ := blockHeaderHeight_eq_some hHeight
  refine ⟨⟨⟨w, text, ?_, hHolds, rawTxConfirmations_eq_some hConfirmations,
    by simpa using hConfirmed, hText, hLower⟩, rest, v, ?_, hHeight, hRange⟩, ?_⟩
  -- each is what the capture has at its place
  · rw [← params_of_paramsAre hRawTxParams]
    exact answered_of_read hRawTx hTx rfl
  · rw [← hFirst]
    exact answered_of_read hHeader hValue hHeaderIs
  · obtain ⟨request, outcome⟩ := bound
    obtain rfl := resultOf_eq_ok.mp hTxout
    obtain ⟨e, he, hAnswered⟩ := answered_of_bindExchange hBound
    obtain ⟨hAt, hMethod⟩ := exchangeAt_eq_some.mp he
    have hCall : request.params = gettxoutParams outpoint := params_of_paramsAre hTxoutParams
    rw [hCall] at hAnswered
    exact ⟨e, hAt, hMethod, hAnswered⟩

/-- A witness is that of an input which spends the outpoint. -/
theorem inputWitness_eq_some {txid : String} {vout : Nat} {input : Json} {witness : List String}
    (h : inputWitness txid vout input = some witness) :
    ∃ inTxid, input.text? "txid" = some inTxid ∧ toLowerCase inTxid = toLowerCase txid ∧
      input.int? "vout" = some (vout : Int) ∧
      witness = ((input.items? "txinwitness").getD []).filterMap Json.asText? := by
  unfold inputWitness at h
  simp only [Option.bind_eq_bind, Option.bind_eq_some_iff] at h
  obtain ⟨inTxid, hTxid, inVout, hVout, h⟩ := h
  split at h
  · rename_i hSame
    obtain ⟨hLower, rfl⟩ := hSame
    exact ⟨inTxid, hTxid, hLower, hVout, (Option.some.inj h).symm⟩
  · cases h

/-- A witness found in a block is that of a spend in it. -/
theorem findSpendWitness_eq_some {value : Option Json} {outpoint : Outpoint}
    {witness : List String}
    (h : findSpendWitness value outpoint.txid outpoint.vout = some witness) :
    ∃ block, value = some block ∧ SpendsIn block outpoint witness := by
  unfold findSpendWitness at h
  simp only [Option.bind_eq_bind, Option.bind_eq_some_iff] at h
  obtain ⟨block, hBlock, txs, hTxs, h⟩ := h
  obtain ⟨tx, hTx, h⟩ := List.exists_of_findSome?_eq_some h
  obtain ⟨input, hInput, h⟩ := List.exists_of_findSome?_eq_some h
  obtain ⟨txid, hSpends⟩ := inputWitness_eq_some h
  -- an input of a transaction that lists none is not there
  cases hInputs : tx.items? "vin" with
  | none =>
    rw [hInputs] at hInput
    cases hInput
  | some inputs =>
    rw [hInputs] at hInput
    exact ⟨block, (Option.filter_eq_some_iff.mp hBlock).1, txs, tx, inputs, input, txid, hTxs, hTx,
      hInputs, hInput, hSpends⟩

/-- A spend found in a block was answered for that height. -/
theorem scanBlock_ok {rt : Runtime} {outpoint : Outpoint} {i : Nat} {height : Int}
    {found : FoundSpend} (h : scanBlock rt capture outpoint i height = .ok (some found)) :
    found.height = height ∧ ∃ hash block,
      AnsweredAt rt capture i "getblockhash" (some (.arr [.num (.int height)])) (.str hash) ∧
      AnsweredAt rt capture (i + 1) "getblock" (some (.arr [.str hash, .num (.int 2)])) block ∧
      SpendsIn block outpoint found.witness := by
  unfold scanBlock at h
  simp only [bind_eq_ok, need_eq_ok, require_eq_ok, exists_const] at h
  obtain ⟨hashBound, hHashBound, hashValue, hHashValue, hHashParams, hash, hHash, blockBound,
    hBlockBound, value, hValue, hBlockParams, h⟩ := h
  obtain ⟨witness, hWitness, rfl⟩ := Option.map_eq_some_iff.mp (Except.ok.inj h)
  obtain ⟨block, hBlockIs, hSpends⟩ := findSpendWitness_eq_some hWitness
  obtain ⟨w, hHashIs, hText⟩ := Option.bind_eq_some_iff.mp (Option.filter_eq_some_iff.mp hHash).1
  obtain rfl := Json.asText?_eq_some.mp hText
  refine ⟨rfl, hash, block, ?_, ?_, hSpends⟩
  · rw [← params_of_paramsAre hHashParams]
    exact answered_of_read hHashBound hHashValue hHashIs
  · rw [← params_of_paramsAre hBlockParams]
    exact answered_of_read hBlockBound hValue hBlockIs

/-- A spend that the loop finds is in one of the blocks it looks at, and each height has its pair
of exchanges. -/
theorem scanBlocks_ok {rt : Runtime} {outpoint : Outpoint} {found : FoundSpend} {left : Nat} :
    ∀ {i : Nat} {height : Int}, scanBlocks rt capture outpoint left i height = .ok (some found) →
      ∃ k < left, scanBlock rt capture outpoint (i + 2 * k) (height + k) = .ok (some found) := by
  induction left with
  | zero =>
    intro i height h
    cases Except.ok.inj h
  | succ left ih =>
    intro i height h
    rw [scanBlocks, bind_eq_ok] at h
    obtain ⟨result, hBlock, h⟩ := h
    cases result with
    | some here =>
      obtain rfl := Option.some.inj (Except.ok.inj h)
      exact ⟨0, by omega, by simpa using hBlock⟩
    | none =>
      obtain ⟨k, hk, hFound⟩ := ih h
      refine ⟨k + 1, by omega, ?_⟩
      rw [show i + 2 * (k + 1) = i + 2 + 2 * k by omega,
        show height + ((k + 1 : Nat) : Int) = height + 1 + k by omega]
      exact hFound

/-- An item of 64 hexadecimal digits is one of 32 bytes. -/
theorem opensHashLock_iff {rt : Runtime} {hash : List UInt8} {item : String} :
    opensHashLock rt hash item = true ↔
      ∃ bytes, hexToBytes item = some bytes ∧ bytes.length = 32 ∧ rt.sha256 bytes = hash := by
  unfold opensHashLock HEX64_ANY_CASE
  rw [Bool.and_eq_true, Bool.and_eq_true, decide_eq_true_eq, Option.any_eq_true, List.all_eq_true]
  constructor
  · rintro ⟨⟨hLength, -⟩, bytes, hBytes, hHash⟩
    have hTwice := Hex.length_of_decode hBytes
    exact ⟨bytes, hBytes, by omega, of_decide_eq_true hHash⟩
  · rintro ⟨bytes, hBytes, hLength, hHash⟩
    have hTwice := Hex.length_of_decode hBytes
    exact ⟨⟨by omega, Hex.isHex_of_decode hBytes⟩, bytes, hBytes, decide_eq_true hHash⟩

/-- A witness that opens the hash lock is a claim. -/
theorem classifySpend_claimed {rt : Runtime} {hash : List UInt8} {witness : List String}
    (h : ∃ item ∈ witness, opensHashLock rt hash item = true) :
    (classifySpend rt witness hash).label = .claimed := by
  obtain ⟨item, hItem, hOpens⟩ := h
  unfold classifySpend
  cases hFind : witness.find? (opensHashLock rt hash) with
  | some found => rfl
  | none => exact absurd hOpens (List.find?_eq_none.mp hFind item hItem)

/-- A witness that does not open the hash lock is a refund. -/
theorem classifySpend_refunded {rt : Runtime} {hash : List UInt8} {witness : List String}
    (h : ¬ ∃ item ∈ witness, opensHashLock rt hash item = true) :
    (classifySpend rt witness hash).label = .refunded := by
  unfold classifySpend
  cases hFind : witness.find? (opensHashLock rt hash) with
  | some found => exact absurd ⟨found, List.mem_of_find?_eq_some hFind, List.find?_some hFind⟩ h
  | none => rfl

/-- The label says whether the witness reveals a preimage. -/
theorem classifySpend_label {rt : Runtime} {statement : String} {hash : List UInt8}
    (hHash : hexToBytes (sliceFrom statement 2) = some hash) (witness : List String) :
    (Reveals rt statement witness ∧ (classifySpend rt witness hash).label = .claimed) ∨
      (¬ Reveals rt statement witness ∧ (classifySpend rt witness hash).label = .refunded) := by
  have hReveals : Reveals rt statement witness ↔
      ∃ item ∈ witness, opensHashLock rt hash item = true := by
    unfold Reveals
    simp only [opensHashLock_iff, hHash, Option.some.injEq, eq_comm (a := hash)]
  rw [hReveals]
  by_cases hOpens : ∃ item ∈ witness, opensHashLock rt hash item = true
  · exact .inl ⟨hOpens, classifySpend_claimed hOpens⟩
  · exact .inr ⟨hOpens, classifySpend_refunded hOpens⟩

/-- A spend that is read lies in one of the heights scanned. -/
theorem readSpend_ok {rt : Runtime} {captured : BtcRailConfig} {outpoint : Outpoint}
    {tipHeight fundingHeight : Int} {found : FoundSpend}
    (h : readSpend rt capture captured outpoint tipHeight fundingHeight = .ok found) :
    ∃ k : Nat, found.height = fundingHeight + k ∧
      found.height ≤ scanEnd captured tipHeight fundingHeight ∧
      scanBlock rt capture outpoint (5 + 2 * k) found.height = .ok (some found) := by
  unfold readSpend at h
  simp only [bind_eq_ok, need_eq_ok] at h
  obtain ⟨result, hScan, rfl⟩ := h
  obtain ⟨k, hk, hFound⟩ := scanBlocks_ok hScan
  have hHeight := (scanBlock_ok hFound).1
  refine ⟨k, hHeight, ?_, hHeight ▸ hFound⟩
  omega

/-- An output that a block of the scan window spends, under enough confirmations. -/
theorem btcBackedSpent_of_found {rt : Runtime} {input : BtcEvidenceInput} {outpoint : Outpoint}
    {captured : BtcRailConfig} {tipHeight : Int} {funding : Funding} {found : FoundSpend}
    (hSpent : AnsweredAt rt input.capture.toCapture 3 "gettxout" (gettxoutParams outpoint) .null)
    (hFound : readSpend rt input.capture.toCapture captured outpoint tipHeight funding.height =
      .ok found)
    (hDeep : input.config.pin.finality.confirmations ≤ tipHeight - found.height + 1) :
    BtcBackedSpent rt input outpoint captured tipHeight funding found.witness := by
  obtain ⟨k, hHeight, hEnd, hBlock⟩ := readSpend_ok hFound
  obtain ⟨-, hash, block, hHash, hBlock, hSpends⟩ := scanBlock_ok hBlock
  unfold scanEnd at hEnd
  exact ⟨hSpent, found.height, hash, block, 5 + 2 * k, by omega, by omega, by omega, hDeep,
    by omega, hHash, hBlock, hSpends⟩

/-- What the output is seen as: unspent, unless the reply is null. -/
theorem observeOutput_ok {rt : Runtime} {input : BtcEvidenceInput} {admitted : BtcAdmitted}
    {tipHeight : Int} {funding : Funding} {view : OutputView}
    (h : observeOutput rt capture input admitted tipHeight funding = .ok view) :
    (funding.txout ≠ some .null ∧ view.status = .locked ∧
        input.config.pin.finality.confirmations ≤ funding.confirmations) ∨
      (funding.txout = some .null ∧ ∃ found hash,
        readSpend rt capture admitted.captured admitted.outpoint tipHeight funding.height =
          .ok found ∧
        input.config.pin.finality.confirmations ≤ tipHeight - found.height + 1 ∧
        hexToBytes (sliceFrom input.terms.statement 2) = some hash ∧
        view.status = (classifySpend rt found.witness hash).label) := by
  have hNull : isNull funding.txout = true ↔ funding.txout = some .null := by
    unfold isNull
    split <;> simp_all
  unfold observeOutput at h
  dsimp only at h
  split at h
  · rename_i hUnspent
    simp only [bind_eq_ok, require_eq_ok, exists_const] at h
    obtain ⟨hDeep, h⟩ := h
    obtain rfl := Except.ok.inj h
    exact .inl ⟨by simpa [← hNull] using hUnspent, rfl, hDeep⟩
  · rename_i hSpent
    simp only [bind_eq_ok, need_eq_ok, require_eq_ok, exists_const] at h
    obtain ⟨found, hFound, hDeep, hash, hHash, h⟩ := h
    obtain rfl := Except.ok.inj h
    exact .inr ⟨by simpa [hNull] using hSpent, found, hash, hFound, hDeep, hHash, rfl⟩

/-- The script that funding is expected to pay. -/
theorem expectedFunding_ok {terms : LockTerms} {network payee payer : String}
    {expected : ExpectedFunding}
    (h : expectedFunding rt terms network payee payer = .ok expected) :
    ∃ payeeKey payerKey hash locktime script, hexToBytes payee = some payeeKey ∧
      hexToBytes payer = some payerKey ∧ hexToBytes (sliceFrom terms.statement 2) = some hash ∧
      terms.refundAfterMs = 1000 * locktime ∧
      buildHtlcScript rt ⟨hash, payeeKey, payerKey, locktime⟩ (networkParamsFor network) =
        .ok script ∧
      expected.scriptPubKey = script.scriptPubKey ∧
      rt.bigInt terms.amount = some expected.amount := by
  unfold expectedFunding at h
  simp only [bind_eq_ok, need_eq_ok] at h
  obtain ⟨locktime, hLocktime, hash, hHash, payeeKey, hPayee, payerKey, hPayer, script,
    hScript, amount, hAmount, h⟩ := h
  obtain rfl := Except.ok.inj h
  exact ⟨payeeKey, payerKey, hash, locktime, script, hPayee, hPayer, hHash,
    (locktimeFromRefundAfterMs_ok hLocktime).1, hScript, rfl, hAmount⟩

/-- Nothing is attached before the output is known to be the leg's own. -/
theorem judgeFunding_ok {input : BtcEvidenceInput} {captured : BtcRailConfig}
    {output : FundingOutput} {status : RailStatus} {verdict : Verdict}
    (hNetwork : captured.pin.network = input.config.pin.network)
    (h : judgeFunding rt input captured output status = .ok verdict) :
    verdict.status = status ∧ OutputMatches rt input output := by
  unfold judgeFunding at h
  simp only [bind_eq_ok, need_eq_ok, require_eq_ok, mapError_eq_ok, exists_const] at h
  obtain ⟨payee, hPayee, payer, hPayer, -, expected, hExpected, h⟩ := h
  obtain ⟨payeeKey, payerKey, hash, locktime, script, hPayeeKey, hPayerKey, hHash, hLocktime,
    hScript, hScriptIs, hAmount⟩ := expectedFunding_ok hExpected
  have hMatches : output.scriptPubKey = expected.scriptPubKey →
      output.amountSats = expected.amount →
      OutputMatches rt input output :=
    fun hSame hSats => ⟨payee, payer, payeeKey, payerKey, hash, locktime, script, hPayee, hPayeeKey,
      hPayer, hPayerKey, hHash, hLocktime, hNetwork ▸ hScript, hSame.trans hScriptIs,
      hSats ▸ hAmount⟩
  split at h
  · rename_i hLocked
    simp only [bind_eq_ok, require_eq_ok, exists_const] at h
    obtain ⟨hSame, hSats, h⟩ := h
    obtain rfl := Except.ok.inj h
    exact ⟨hLocked.symm, hMatches hSame hSats⟩
  · simp only [bind_eq_ok, require_eq_ok, exists_const] at h
    obtain ⟨⟨hSame, hSats⟩, h⟩ := h
    obtain rfl := Except.ok.inj h
    exact ⟨rfl, hMatches hSame hSats⟩

/-! ## The reader -/

/-- An observation is attached only when no block refused. -/
theorem btcEvidence_eq_some {input : BtcEvidenceInput} {rail : RailObservation}
    (h : (btcEvidence rt input).rail = some rail) :
    ∃ admitted funding view verdict, admitBtcCapture input = .ok admitted ∧
      readOutput rt input admitted = .ok (funding, view) ∧
      judgeFunding rt input admitted.captured funding.output view.status = .ok verdict ∧
      rail.status = verdict.status := by
  unfold btcEvidence at h
  dsimp only at h
  split at h
  · cases h
  · rename_i admitted hAdmit
    split at h
    · cases h
    · rename_i funding view hRead
      split at h
      · cases h
      · rename_i verdict hJudge
        obtain rfl := Option.some.inj h
        exact ⟨admitted, funding, view, verdict, hAdmit, hRead, hJudge, rfl⟩

/-- The other way around: when no block refuses, the verdict is attached. -/
theorem btcEvidence_of_blocks {input : BtcEvidenceInput} {admitted : BtcAdmitted}
    {funding : Funding} {view : OutputView} {verdict : Verdict}
    (hAdmit : admitBtcCapture input = .ok admitted)
    (hRead : readOutput rt input admitted = .ok (funding, view))
    (hJudge : judgeFunding rt input admitted.captured funding.output view.status = .ok verdict) :
    ∃ rail, (btcEvidence rt input).rail = some rail ∧ rail.status = verdict.status := by
  unfold btcEvidence
  simp only [hAdmit, hRead, hJudge]
  exact ⟨_, rfl, rfl⟩

/-- A supported observation saw a reply that is null or an object, whichever exchange it is. -/
theorem readable_of_supported {input : BtcEvidenceInput} {rail : RailObservation}
    {reply : Option Json} (hReply : GettxoutReply rt.toRuntime input.capture.toCapture reply)
    (h : BtcSupported rt input rail) :
    reply = some .null ∨ ∃ fields, reply = some (.obj fields) := by
  obtain ⟨e, params, hAt, hAnswered⟩ := hReply
  -- the exchange has one reply, so that knowing one is knowing all
  have hIs : ∀ {params value},
      AnsweredAt rt.toRuntime input.capture.toCapture 3 "gettxout" params value →
      reply = some value := by
    rintro params value ⟨e', hAt', -, hAnswered'⟩
    obtain rfl := Option.some.inj (hAt.symm.trans hAt')
    exact hAnswered.unique hAnswered'
  obtain ⟨outpoint, captured, tipHeight, funding, -, hOutcome⟩ := h
  split at hOutcome
  · obtain ⟨⟨fields, hUnspent⟩, -⟩ := hOutcome
    exact .inr ⟨fields, hIs hUnspent⟩
  · obtain ⟨witness, -, hSpent⟩ := hOutcome
    exact .inl (hIs hSpent.spent)
  · obtain ⟨witness, -, hSpent⟩ := hOutcome
    exact .inl (hIs hSpent.spent)

/-- An observation is supported by its capture exactly when the reply to `gettxout` is null or an
object. Any other reply, and a response without one, is taken for an unspent output. -/
theorem btcEvidence_supported_iff {input : BtcEvidenceInput} {rail : RailObservation}
    (h : (btcEvidence rt input).rail = some rail) :
    BtcSupported rt input rail ↔ GettxoutReadable rt.toRuntime input.capture.toCapture := by
  -- the rail that is reported comes of a reading and a judgement
  obtain ⟨admitted, funding, view, verdict, hAdmit, hRead, hJudge, hRail⟩ := btcEvidence_eq_some h
  unfold readOutput at hRead
  simp only [bind_eq_ok] at hRead
  obtain ⟨tipHeight, hTip, funding', hFunding, view', hView, hRead⟩ := hRead
  cases hRead
  obtain ⟨hComplete, hKind, hRef, hStatement, hAsset, hConfig⟩ := admitBtcCapture_ok hAdmit
  obtain ⟨hShown, e, hAt, hMethod, hAnswered⟩ := readFunding_ok hFunding
  obtain ⟨hStatus, hMatches⟩ := judgeFunding_ok hConfig.network hJudge
  have hReply : GettxoutReply rt.toRuntime input.capture.toCapture funding.txout :=
    ⟨e, _, hAt, hAnswered⟩
  constructor
  · intro hSupported reply hSome
    exact readable_of_supported hSome hSupported
  · intro hReadable
    refine ⟨admitted.outpoint, admitted.captured, tipHeight, funding, ⟨hComplete, hKind, hRef,
      hStatement, hAsset, hConfig, readTip_ok hTip, hShown, hMatches⟩, ?_⟩
    rw [hRail, hStatus]
    -- unspent, where `result` is missing or null, or spent in a block that was found
    rcases observeOutput_ok hView with ⟨hUnspent, hLocked, hDeep⟩ |
      ⟨hSpent, found, hash, hFound, hDeep, hHash, hLabel⟩
    · rw [hLocked]
      rcases hReadable _ hReply with hNull | ⟨fields, hFields⟩
      · exact absurd hNull hUnspent
      · exact ⟨⟨fields, e, hAt, hMethod, hFields ▸ hAnswered⟩, hDeep⟩
    · have hBacked : BtcBackedSpent rt.toRuntime input admitted.outpoint admitted.captured tipHeight
          funding found.witness :=
        btcBackedSpent_of_found ⟨e, hAt, hMethod, hSpent ▸ hAnswered⟩ hFound hDeep
      rw [hLabel]
      -- the witness opens the lock or does not
      rcases classifySpend_label hHash found.witness with ⟨hReveals, hClaimed⟩ | ⟨hHides, hRefunded⟩
      · rw [hClaimed]
        exact ⟨found.witness, hReveals, hBacked⟩
      · rw [hRefunded]
        exact ⟨found.witness, hHides, hBacked⟩

end

/-! ## Recorded reads -/

/-- A value that is no container strictly equals itself. -/
theorem strictEquals_self {v : Json} (h : v.isContainer = false) : strictEquals v v = true := by
  cases v <;> simp_all [Json.isContainer, strictEquals]

/-- The params of a request are the expected ones when they are these values. -/
theorem paramsAre_of_params {request : ParsedRequest} {expected : List Json}
    (h : request.params = some (.arr expected)) (hPlain : ∀ v ∈ expected, v.isContainer = false) :
    paramsAre request expected = true := by
  refine (Option.any_eq_true _ _).mpr ⟨expected, requestParams_eq_some.mpr h, ?_⟩
  rw [Bool.and_eq_true, decide_eq_true_eq, List.all_eq_true]
  refine ⟨rfl, fun pair hPair => ?_⟩
  obtain ⟨i, hi, rfl⟩ := List.mem_iff_getElem.mp hPair
  rw [List.getElem_zip]
  exact strictEquals_self (hPlain _ (List.getElem_mem _))

/-- The first param is the expected one when it is this value. -/
theorem firstParamIs_of_params {request : ParsedRequest} {expected : Json} {rest : List Json}
    (h : request.params = some (.arr (expected :: rest))) (hPlain : expected.isContainer = false) :
    firstParamIs request expected = true :=
  (Option.any_eq_true _ _).mpr
    ⟨_, requestParams_eq_some.mpr h,
      (Option.any_eq_true _ _).mpr ⟨_, rfl, strictEquals_self hPlain⟩⟩

/-- Printed hex reads back. -/
theorem hexToBytes_bytesToHex (bytes : List UInt8) :
    hexToBytes (bytesToHex bytes) = some bytes := by
  simp [hexToBytes, bytesToHex]

/-! ## A sample capture

One lock on a local chain, seven blocks deep. The bytes are those of a script and a
transaction that pays to it. -/

namespace BtcSample

def be (width n : Nat) : List UInt8 :=
  (List.range width).map fun i => UInt8.ofNat (n / 256 ^ (width - 1 - i))

def payee : List UInt8 := be 33 0x0279be667ef9dcbbac55a06295ce870b07029bfcdb2dce28d959f2815b16f81798
def payer : List UInt8 := be 33 0x02c6047f9441ed7d6d3045406e95c07cd85c778e4b8cef3ca7abac09b95c709ee5
def hash : List UInt8 := be 32 0x4bb06f8e4e3a7715d201d573d0aa423762e55dabd61a2c02278fa56cc6d294e0

def witnessScript : List UInt8 :=
  0x21 :: payee ++ [0xac, 0x64, 0x21] ++ payer ++
    [0xad, 4, 0, 210, 73, 107, 0xb1, 0x67, 0x82, 1, 32, 0x88, 0xa8, 0x20] ++ hash ++ [0x87, 0x68]

def scriptPubKey : List UInt8 :=
  be 34 0x002091ac6ca13fa8ef61d2d4054d25b1baf1557840612bbf986d1700b250b995ca30

def rawTx : List UInt8 :=
  [2, 0, 0, 0, 1] ++ List.replicate 32 0x11 ++
    [0, 0, 0, 0, 0, 0xfd, 0xff, 0xff, 0xff, 1, 0x50, 0xc3, 0, 0, 0, 0, 0, 0, 0x22] ++
    scriptPubKey ++ [0, 0, 0, 0]

def txid : String :=
  bytesToHex (be 32 0x773aeefb159288fadb6b4566aa2b2c3d7ef81edfa41e1b04d56f1b50aa73c390)

def blockHash : String := bytesToHex (List.replicate 32 0x0b)

def sha256 (bytes : List UInt8) : List UInt8 :=
  if bytes = witnessScript then scriptPubKey.drop 2 else []

def address : String := "bcrt1qjxkxegfl4rhkr5k5q4xjtvd6792hssrp9wlesmghqze9pwv4egcqzs6xxt"

def runtime : BtcRuntime where
  toRuntime := textRuntime (fun text => text) sha256
  scriptEncode := encodeElements
  p2wsh script _ := .ok ⟨[0x00, 0x20] ++ sha256 script, address⟩
  transactionFromRaw bytes :=
    if bytes = rawTx then some [⟨some scriptPubKey, some 50000⟩] else none

def config : BtcRailConfig := ⟨BTC_REGTEST_PIN, "http://rpc", none, none⟩

def configJson : Json :=
  .obj [("pin", .obj [("name", .str BTC_REGTEST_PIN.name),
      ("network", .str BTC_REGTEST_PIN.network), ("caip2", .str BTC_REGTEST_PIN.caip2),
      ("genesisHash", .str BTC_REGTEST_PIN.genesisHash),
      ("finality", .obj [("confirmations", .num (.int 1))])]),
    ("endpoint", .str "http://rpc")]

/-- The reads, with this reply to `gettxout`. -/
def calls (reply : Option Json) : List Call :=
  [⟨"getblockchaininfo", .arr [],
      some (.obj [("chain", .str "regtest"), ("blocks", .num (.int 120))])⟩,
    ⟨"getblockhash", .arr [.num (.int 0)], some (.str BTC_REGTEST_PIN.genesisHash)⟩,
    ⟨"getrawtransaction", .arr [.str txid, .bool true],
      some (.obj [("hex", .str (bytesToHex rawTx)), ("confirmations", .num (.int 7)),
        ("blockhash", .str blockHash)])⟩,
    ⟨"gettxout", .arr [.str txid, .num (.int 0), .bool false], reply⟩,
    ⟨"getblockheader", .arr [.str blockHash], some (.obj [("height", .num (.int 114))])⟩]

def ref : String := txid ++ ":0"

def input (reply : Option Json) : BtcEvidenceInput where
  terms := ⟨"c", "hash", "0x" ++ bytesToHex hash, "50000", "BTC", "did:a", "did:b", 1700000000000,
    1800000000000⟩
  config := config
  accounts := ⟨some (bytesToHex payee), some (bytesToHex payer)⟩
  capture :=
    { recordedCapture runtime.toRuntime ref 10 "nonce" (calls reply) with
      config := some configJson
      error := none }

/-- The sample's JSON text reads back. -/
theorem readsBack : ReadsBack runtime.toRuntime := readsBack_textRuntime _ _

def admitted : BtcAdmitted := ⟨config, ⟨txid, 0⟩⟩

/-- The sample's config is accepted. -/
theorem checks_config : checkBtcRailConfig (some configJson) = .ok config := by decide

example : parseRef (txid ++ ":") = none := by decide

/-- The sample's ref parses. -/
theorem parseRef_ref : parseRef ref = some ⟨txid, 0⟩ := by
  have hText : ref.toList = Hex.encode (be 32
      0x773aeefb159288fadb6b4566aa2b2c3d7ef81edfa41e1b04d56f1b50aa73c390) ++ [':', '0'] := by
    rw [ref, txid, String.toList_append, bytesToHex, String.toList_ofList]
    rfl
  have hShape : GENESIS_HASH_SHAPE txid = true := by
    simp only [GENESIS_HASH_SHAPE, txid, bytesToHex, String.toList_ofList]
    decide
  have hTxid : String.ofList (ref.toList.take 64) = txid := by
    rw [hText, List.take_left' (by decide)]
    rfl
  have hRest : ref.toList.drop 65 = ['0'] ∧ ref.toList[64]? = some ':' := by
    rw [hText]
    decide
  simp only [parseRef, hTxid, hShape, hRest.1, hRest.2]
  rfl

/-- The sample's capture is admitted. -/
theorem admits (reply : Option Json) : admitBtcCapture (input reply) = .ok admitted := by
  have hStatement : HASH_LOCK_SHAPE ("0x" ++ bytesToHex hash) = true := by
    unfold HASH_LOCK_SHAPE NEAR_HASH_LOCK_SHAPE
    decide
  have hParse : parseRef (input reply).capture.ref = some ⟨txid, 0⟩ := parseRef_ref
  have hValid : btcLockRefInvalid (input reply).terms (input reply).capture.ref = false := by
    rw [btcLockRefInvalid, hParse]
    show (false || false || !HASH_LOCK_SHAPE ("0x" ++ bytesToHex hash)) = false
    rw [hStatement]
    rfl
  unfold admitBtcCapture
  simp only [bind_eq_ok, need_eq_ok, refute_eq_ok, require_eq_ok, mapError_eq_ok, exists_const]
  exact ⟨rfl, hValid, rfl, _, hParse, config, checks_config, ⟨rfl, rfl, rfl⟩, le_refl (1 : Int),
    le_refl DEFAULT_SCAN_WINDOW_BLOCKS, rfl⟩

/-- The calls of the sample are plain JSON. -/
theorem plain_calls (reply : Option Json) (hReply : ∀ value ∈ reply, JsonText.Plain value) :
    ∀ call ∈ calls reply,
      JsonText.Plain call.params ∧ ∀ value ∈ call.result, JsonText.Plain value := by
  simp [calls, JsonText.Plain, JsonText.PlainItems, JsonText.PlainFields, JsonText.maxExact]
  exact hReply

/-- Every call of the sample binds, whatever its label. -/
theorem binds {reply : Option Json} (hReply : ∀ value ∈ reply, JsonText.Plain value) {i : Nat}
    {method label : String} {params : Json} {result : Option Json}
    (h : (calls reply)[i]? = some ⟨method, params, result⟩) :
    bindBtcExchange runtime.toRuntime (input reply).capture.toCapture
        (exchangeAt (input reply).capture.exchanges i method) label =
      .ok ⟨⟨.str (recordedId runtime.toRuntime ref 10 "nonce" i), method, some params⟩,
        .result result⟩ := by
  obtain ⟨hParams, hResult⟩ := plain_calls reply hReply _ (List.mem_of_getElem? h)
  exact bindExchange_recordedCapture readsBack h hParams hResult

variable {reply : Option Json} (hReply : ∀ value ∈ reply, JsonText.Plain value)

include hReply

/-- The tip of the sample is read. -/
theorem reads_tip : readTip runtime.toRuntime (input reply).capture.toCapture config = .ok 120 := by
  unfold readTip
  simp only [bind_eq_ok, need_eq_ok, require_eq_ok, exists_const, resultOf_eq_ok]
  refine ⟨_, binds hReply rfl, _, rfl, _, rfl, "regtest", rfl, 120, rfl, rfl, _, binds hReply rfl,
    _, rfl, paramsAre_of_params rfl (by simp [Json.isContainer]), ?_, rfl⟩
  exact (Option.any_eq_true _ _).mpr ⟨BTC_REGTEST_PIN.genesisHash, rfl, decide_eq_true rfl⟩

/-- What is read of the funding transaction. -/
def funding (reply : Option Json) : Funding := ⟨⟨scriptPubKey, 50000⟩, 7, blockHash, 114, reply⟩

omit hReply in
/-- The sample's block hash is in lower case. -/
theorem toLowerCase_blockHash : toLowerCase blockHash = blockHash := by
  rw [toLowerCase, blockHash, bytesToHex, String.toList_ofList]
  congr 1

/-- The funding of the sample is read. -/
theorem reads_funding :
    readFunding runtime (input reply).capture.toCapture ⟨txid, 0⟩ 120 = .ok (funding reply) := by
  have hOutput : decodeFundingOutput runtime (some (.obj [("hex", .str (bytesToHex rawTx)),
      ("confirmations", .num (.int 7)), ("blockhash", .str blockHash)])) 0 =
      some ⟨scriptPubKey, 50000⟩ := by
    have hBytes := hexToBytes_bytesToHex rawTx
    have hOutputs : runtime.transactionFromRaw rawTx = some [⟨some scriptPubKey, some 50000⟩] := by
      show (if rawTx = rawTx then some [TxOutput.mk (some scriptPubKey) (some 50000)] else none) = _
      exact if_pos rfl
    unfold decodeFundingOutput
    simp only [Option.bind_eq_bind, Option.bind_eq_some_iff]
    exact ⟨_, rfl, _, rfl, rawTx, hBytes, _, hOutputs, _, rfl, _, rfl, _, rfl, rfl⟩
  have hShape : HEX64_ANY_CASE blockHash = true := by
    simp only [HEX64_ANY_CASE, blockHash, bytesToHex, String.toList_ofList]
    decide
  have hHash : rawTxBlockHash (some (.obj [("hex", .str (bytesToHex rawTx)),
      ("confirmations", .num (.int 7)), ("blockhash", .str blockHash)])) = some blockHash := by
    unfold rawTxBlockHash
    simp only [Option.bind_eq_bind, Option.bind_eq_some_iff]
    exact ⟨_, rfl, blockHash, Option.filter_eq_some_iff.mpr ⟨rfl, hShape⟩,
      congrArg some toLowerCase_blockHash⟩
  unfold readFunding readFundingTx readTxout readHeader
  simp only [bind_eq_ok, need_eq_ok, require_eq_ok, exists_const, resultOf_eq_ok]
  refine ⟨(⟨scriptPubKey, 50000⟩, 7, blockHash), ⟨_, binds hReply rfl,
    paramsAre_of_params rfl (by simp [Json.isContainer]), _, rfl, _, hOutput, 7, rfl, blockHash,
    hHash, rfl⟩, reply, ⟨_, binds hReply rfl, paramsAre_of_params rfl (by simp [Json.isContainer]),
    rfl⟩, 114, ⟨_, binds hReply rfl, firstParamIs_of_params rfl rfl, _, rfl, rfl⟩, rfl⟩

/-- Any reply but null is taken for an unspent output. -/
theorem reads_output (hUnspent : isNull reply = false) :
    readOutput runtime (input reply) admitted = .ok (funding reply, ⟨.locked, 114, blockHash⟩) := by
  unfold readOutput observeOutput
  simp only [bind_eq_ok]
  refine ⟨120, reads_tip hReply, funding reply, reads_funding hReply, ⟨.locked, 114, blockHash⟩,
    ?_, rfl⟩
  rw [if_pos (show (!isNull (funding reply).txout) = true by rw [funding, hUnspent]; rfl),
    bind_eq_ok]
  exact ⟨(), require_eq_ok.mpr (by decide : (1 : Int) ≤ 7), rfl⟩

omit hReply in
/-- The funding of the sample matches its terms. -/
theorem judges : judgeFunding runtime (input reply) config ⟨scriptPubKey, 50000⟩ .locked =
    .ok ⟨.locked, true, "btc-htlc: locked and on-chain state matches terms"⟩ := by
  have hKeys : PUBKEY_SHAPE (bytesToHex payee) = true ∧ PUBKEY_SHAPE (bytesToHex payer) = true := by
    simp only [PUBKEY_SHAPE, bytesToHex, String.toList_ofList]
    decide
  have hAmount : runtime.bigInt "50000" = some 50000 := by decide
  have hScript : buildHtlcScript runtime ⟨hash, payee, payer, 1800000000⟩ BTC_REGTEST_NETWORK =
      .ok ⟨witnessScript, scriptPubKey, address, 1800000000⟩ := by
    decide
  have hExpected : expectedFunding runtime (input reply).terms "regtest" (bytesToHex payee)
      (bytesToHex payer) = .ok ⟨scriptPubKey, 50000⟩ := by
    unfold expectedFunding
    simp only [bind_eq_ok, need_eq_ok]
    exact ⟨1800000000, rfl, hash, hexToBytes_sliceFrom hash, payee, hexToBytes_bytesToHex payee,
      payer, hexToBytes_bytesToHex payer, _, hScript, 50000, hAmount, rfl⟩
  unfold judgeFunding
  simp only [bind_eq_ok, need_eq_ok, require_eq_ok, mapError_eq_ok, exists_const]
  refine ⟨bytesToHex payee, rfl, bytesToHex payer, rfl, hKeys, _, hExpected, ?_⟩
  rfl

/-- The sample is observed as locked when its output is unspent. -/
theorem observes (hUnspent : isNull reply = false) :
    ∃ rail, (btcEvidence runtime (input reply)).rail = some rail ∧ rail.status = .locked :=
  btcEvidence_of_blocks (admits reply) (reads_output hReply hUnspent) judges

/-- The exchange that stands for `gettxout` did answer it, with this reply. -/
theorem replied : GettxoutReply runtime.toRuntime (input reply).capture.toCapture reply := by
  obtain ⟨e, he, hAnswered⟩ := answered_of_bindExchange
    (binds hReply rfl : bindBtcExchange _ _ (exchangeAt _ 3 "gettxout") "gettxout" = _)
  exact ⟨e, _, (exchangeAt_eq_some.mp he).1, hAnswered⟩

/-- The reply for an output that is unspent. -/
def unspent : Json := .obj [("confirmations", .num (.int 7))]

example : isNull (some unspent) = false := by decide

omit hReply in
/-- The unspent output of the sample is plain JSON. -/
theorem plain_unspent : ∀ value ∈ some unspent, JsonText.Plain value := by
  rintro _ ⟨⟩
  simp [unspent, JsonText.Plain, JsonText.PlainFields, JsonText.maxExact]

omit hReply in
/-- The sample's output can be read. -/
theorem readable :
    GettxoutReadable runtime.toRuntime (input (some unspent)).capture.toCapture := by
  rintro reply ⟨e, params, hAt, hAnswered⟩
  obtain ⟨e', params', hAt', hAnswered'⟩ := replied plain_unspent
  obtain rfl := Option.some.inj (hAt.symm.trans hAt')
  exact .inr ⟨_, hAnswered.unique hAnswered'⟩

end BtcSample

/-- The lock observed from the sample is supported. -/
theorem btcEvidence_supported_iff_sample :
    ∃ rail, (btcEvidence BtcSample.runtime (BtcSample.input (some BtcSample.unspent))).rail =
        some rail ∧ rail.status = .locked ∧
      BtcSupported BtcSample.runtime (BtcSample.input (some BtcSample.unspent)) rail := by
  obtain ⟨rail, hRail, hStatus⟩ := BtcSample.observes BtcSample.plain_unspent rfl
  exact ⟨rail, hRail, hStatus, (btcEvidence_supported_iff hRail).mpr BtcSample.readable⟩

/-- A response to `gettxout` without a result: the output is reported as locked, and nothing in the
capture says that it is unspent. -/
theorem locked_without_reply :
    ∃ rail, (btcEvidence BtcSample.runtime (BtcSample.input none)).rail = some rail ∧
      rail.status = .locked ∧ ¬ BtcSupported BtcSample.runtime (BtcSample.input none) rail := by
  have hPlain : ∀ value ∈ (none : Option Json), JsonText.Plain value := by simp
  obtain ⟨rail, hRail, hStatus⟩ := BtcSample.observes hPlain rfl
  refine ⟨rail, hRail, hStatus, fun hSupported => ?_⟩
  rcases readable_of_supported (BtcSample.replied hPlain) hSupported with h | ⟨fields, h⟩
  · cases h
  · cases h

end SwapDesk.Rails
