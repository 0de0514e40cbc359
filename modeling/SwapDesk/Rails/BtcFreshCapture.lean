import SwapDesk.Rails.BtcCapture

/-!
# SwapDesk — what a fresh Bitcoin capture holds

`captureBtcLeg` and `btcEvidence` meet at the log. A capture that ran to completion has asked for
all that the reader looks for, at the positions where it looks (`Complete`), and each exchange of
it binds. Replies that go far enough do make such a capture.

Main results: `complete_of_captureReads`, `endOf_captureReads` and `bind_kept`.
-/

namespace SwapDesk.Rails.BtcLeg

open Check Desk

/-! ## What is in a log -/

section

variable {rt : CapturingRuntime} {call : CaptureCall} {log log' final : List Exchange}

/-- The exchange at a position of the log asks for this, and was answered so. -/
def Kept (rt : CapturingRuntime) (call : CaptureCall) (log : List Exchange) (i : Nat)
    (method : String) (params : List Json) (outcome : EnvelopeOutcome) : Prop :=
  ∃ responseBytes envelope,
    log[i]? = some ⟨method, params, call.requestText rt i method params, responseBytes⟩ ∧
    call.replies i = .received responseBytes ∧
    rt.jsonParse (rt.decodeLossy responseBytes) = some envelope ∧
    envelope.isContainer = true ∧
    outcome = if rejects envelope then .error else .result (envelope.field? "result")

/-- Every exchange of the log has the response that was received for it. -/
def Logged (call : CaptureCall) (log : List Exchange) : Prop :=
  ∀ i exchange, log[i]? = some exchange → call.replies i = .received exchange.responseBytes

/-- What is kept in a log is kept in every longer one. -/
theorem Kept.mono {i : Nat} {method : String} {params : List Json} {outcome : EnvelopeOutcome}
    (h : Kept rt call log i method params outcome) (hPrefix : log <+: final) :
    Kept rt call final i method params outcome := by
  obtain ⟨responseBytes, envelope, hAt, hRest⟩ := h
  obtain ⟨more, rfl⟩ := hPrefix
  refine ⟨responseBytes, envelope, ?_, hRest⟩
  obtain ⟨hLt, -⟩ := List.getElem?_eq_some_iff.mp hAt
  rw [List.getElem?_append_left hLt, hAt]

/-- A reply that is pushed is logged in its place. -/
theorem Logged.push (h : Logged call log) {exchange : Exchange}
    (hReply : call.replies log.length = .received exchange.responseBytes) :
    Logged call (log ++ [exchange]) := by
  intro i other hAt
  rcases Nat.lt_or_ge i log.length with hLt | hGe
  · rw [List.getElem?_append_left hLt] at hAt
    exact h i other hAt
  · rw [List.getElem?_append_right hGe] at hAt
    obtain ⟨hZero, hOther⟩ := List.getElem?_eq_some_iff.mp hAt
    have hLast : i = log.length := by
      rw [List.length_singleton] at hZero
      omega
    subst hLast
    simp only [Nat.sub_self, List.getElem_cons_zero] at hOther
    rw [hReply, hOther]

/-- What is known once a request was answered. -/
structure Asked (rt : CapturingRuntime) (call : CaptureCall) (log log' : List Exchange)
    (method : String) (params : List Json) (outcome : EnvelopeOutcome) : Prop where
  isPrefix : log <+: log'
  length : log'.length = log.length + 1
  kept : Kept rt call log' log.length method params outcome
  logged : Logged call log → Logged call log'

/-- A request either breaks off or is answered. -/
theorem asked_of_request {method : String} {params : List Json}
    {answer : Except RpcFailure (Option Json)}
    (h : request rt call log method params = (log', answer)) :
    (∃ message, answer = .error (.broken message)) ∨
      (∃ message, answer = .error (.rejected message) ∧
        Asked rt call log log' method params .error) ∨
      ∃ value, answer = .ok value ∧ Asked rt call log log' method params (.result value) := by
  unfold request at h
  split at h
  · exact .inl ⟨_, (Prod.mk.inj h).2.symm⟩
  · rename_i responseBytes hReply
    -- an envelope that parses is an answer, with an error or with a result
    have hAsked (envelope : Json) (outcome : EnvelopeOutcome)
        (hParse : rt.jsonParse (rt.decodeLossy responseBytes) = some envelope)
        (hObject : envelope.isContainer = true)
        (hOutcome : outcome = if rejects envelope then .error
          else .result (envelope.field? "result")) :
        Asked rt call log (log ++ [⟨method, params, call.requestText rt log.length method params,
          responseBytes⟩]) method params outcome := by
      refine ⟨List.prefix_append _ _, by simp, ?_, fun hLogged => hLogged.push hReply⟩
      exact ⟨responseBytes, envelope, by simp, hReply, hParse, hObject, hOutcome⟩
    dsimp only at h
    split at h
    · exact .inl ⟨_, (Prod.mk.inj h).2.symm⟩
    · rename_i envelope hParse
      split at h
      · exact .inl ⟨_, (Prod.mk.inj h).2.symm⟩
      · rename_i hObject
        have hObject : envelope.isContainer = true := by simpa using hObject
        split at h
        · rename_i hRejects
          obtain ⟨rfl, rfl⟩ := Prod.mk.inj h
          exact .inr (.inl ⟨_, rfl, hAsked envelope _ hParse hObject (by rw [if_pos hRejects])⟩)
        · rename_i hRejects
          obtain ⟨rfl, rfl⟩ := Prod.mk.inj h
          exact .inr (.inr ⟨_, rfl, hAsked envelope _ hParse hObject (by rw [if_neg hRejects])⟩)

/-- An ask either ends the capture or is answered. -/
theorem ask_cases (rt : CapturingRuntime) (call : CaptureCall) (log : List Exchange)
    (method : String) (params : List Json) :
    (∃ log' message, ask rt call log method params = .error (.finished log' (some message))) ∨
      ∃ log' value, ask rt call log method params = .ok (log', value) ∧
        Asked rt call log log' method params (.result value) := by
  unfold ask
  split
  · rename_i log' value hRequest
    rcases asked_of_request hRequest with ⟨_, h⟩ | ⟨_, h, -⟩ | ⟨_, h, hAsked⟩
    · cases h
    · cases h
    · obtain rfl := Except.ok.inj h
      exact .inr ⟨log', value, rfl, hAsked⟩
  · exact .inl ⟨_, _, rfl⟩

/-- Asking for the funding transaction either ends the capture or is answered. -/
theorem askRawTx_cases (rt : CapturingRuntime) (call : CaptureCall) (log : List Exchange)
    (outpoint : Outpoint) :
    (∃ log' message, askRawTx rt call log outpoint = .error (.finished log' (some message))) ∨
      (∃ log', askRawTx rt call log outpoint = .error (.finished log' none) ∧
        Asked rt call log log' "getrawtransaction" [.str outpoint.txid, .bool true] .error) ∨
      ∃ log' value, askRawTx rt call log outpoint = .ok (log', value) ∧
        Asked rt call log log' "getrawtransaction" [.str outpoint.txid, .bool true]
          (.result value) := by
  unfold askRawTx
  split
  · rename_i log' value hRequest
    rcases asked_of_request hRequest with ⟨_, h⟩ | ⟨_, h, -⟩ | ⟨_, h, hAsked⟩
    · cases h
    · cases h
    · obtain rfl := Except.ok.inj h
      exact .inr (.inr ⟨log', value, rfl, hAsked⟩)
  · rename_i log' message hRequest
    rcases asked_of_request hRequest with ⟨_, h⟩ | ⟨_, h, hAsked⟩ | ⟨_, h, -⟩
    · cases h
    · exact .inr (.inl ⟨log', rfl, hAsked⟩)
    · cases h
  · exact .inl ⟨_, _, rfl⟩

/-! ## What a capture that ran to completion has read -/

/-- The pairs of the scan, up to the block that ends it. -/
def CompleteScan (rt : CapturingRuntime) (call : CaptureCall) (final : List Exchange)
    (outpoint : Outpoint) : Nat → Nat → Int → Prop
  | 0, _, _ => True
  | left + 1, i, height =>
    ∃ value, Kept rt call final i "getblockhash" [.num (.int height)] (.result value) ∧
      ∀ hash, value.bind Json.asText? = some hash →
        ∃ block, Kept rt call final (i + 1) "getblock" [.str hash, .num (.int 2)]
            (.result block) ∧
          (findSpendWitness block outpoint.txid outpoint.vout = none →
            CompleteScan rt call final outpoint left (i + 2) (height + 1))

/-- The header of the funding block, and the scan when the output is spent. -/
def CompleteHeader (rt : CapturingRuntime) (call : CaptureCall) (final : List Exchange)
    (outpoint : Outpoint) (tipHeight : Int) (rawTx txout : Option Json) : Prop :=
  ∀ confirmations hash, (rawTxConfirmations rawTx).filter (1 ≤ ·) = some confirmations →
    rawTxBlockHash rawTx = some hash →
    ∃ header, Kept rt call final 4 "getblockheader" [.str hash] (.result header) ∧
      ∀ height, blockHeaderHeight header = some height → isNull txout = true →
        CompleteScan rt call final outpoint
          (scanEnd call.config tipHeight height + 1 - height).toNat 5 height

def CompleteFunding (rt : CapturingRuntime) (call : CaptureCall) (final : List Exchange)
    (outpoint : Outpoint) (tipHeight : Int) : Prop :=
  ∃ outcome, Kept rt call final 2 "getrawtransaction" [.str outpoint.txid, .bool true] outcome ∧
    ∀ rawTx, outcome = .result rawTx →
      ∃ txout, Kept rt call final 3 "gettxout"
          [.str outpoint.txid, .num (.int outpoint.vout), .bool false] (.result txout) ∧
        CompleteHeader rt call final outpoint tipHeight rawTx txout

def Complete (rt : CapturingRuntime) (call : CaptureCall) (final : List Exchange)
    (outpoint : Outpoint) : Prop :=
  ∃ info, Kept rt call final 0 "getblockchaininfo" [] (.result (some info)) ∧
    ∀ tipHeight, info.int? "blocks" = some tipHeight →
      (∃ genesis, Kept rt call final 1 "getblockhash" [.num (.int 0)] (.result genesis)) ∧
        CompleteFunding rt call final outpoint tipHeight

/-- A stop ends the capture. -/
theorem endOf_error_bind {α : Type} {x : Except Stop α} {stop : Stop} {f : α → Except Stop Stop}
    (h : x = .error stop) : endOf (x >>= f) = stop := by
  rw [h]
  rfl

/-- What does not stop goes on. -/
theorem endOf_ok_bind {α : Type} {x : Except Stop α} {a : α} {f : α → Except Stop Stop}
    (h : x = .ok a) : endOf (x >>= f) = endOf (f a) := by
  rw [h]
  rfl

/-- A missing value stops where it is needed. -/
theorem endOf_need_bind {α : Type} {x : Option α} {stop : Stop} {f : α → Except Stop Stop} :
    endOf (need x stop >>= f) = match x with | none => stop | some a => endOf (f a) := by
  cases x <;> rfl

/-- The log goes on from where it was, and stays true. -/
def Continues (call : CaptureCall) (log final : List Exchange) : Prop :=
  log <+: final ∧ (Logged call log → Logged call final)

/-- A log continues itself. -/
theorem Continues.refl : Continues call log log := ⟨List.prefix_refl _, id⟩

/-- What continues after an ask continues what was before it. -/
theorem Asked.continues {method : String} {params : List Json} {outcome : EnvelopeOutcome}
    (h : Asked rt call log log' method params outcome) (hNext : Continues call log' final) :
    Continues call log final :=
  ⟨h.isPrefix.trans hNext.1, fun hLogged => hNext.2 (h.logged hLogged)⟩

/-- A scan that finishes is complete, by induction on the blocks left. -/
theorem complete_of_captureScan {outpoint : Outpoint} {left : Nat} {height : Int}
    (h : endOf (captureScan rt call outpoint left height log) = .finished final none) :
    Continues call log final ∧ CompleteScan rt call final outpoint left log.length height := by
  induction left generalizing log height with
  | zero =>
    obtain ⟨rfl, -⟩ := Stop.finished.inj h
    exact ⟨.refl, trivial⟩
  | succ left ih =>
    rw [captureScan] at h
    rcases ask_cases rt call log "getblockhash" [.num (.int height)] with
      ⟨_, _, hAsk⟩ | ⟨logH, value, hAsk, hHash⟩
    · rw [endOf_error_bind hAsk] at h
      cases h
    rw [endOf_ok_bind hAsk, endOf_need_bind] at h
    split at h
    · rename_i hNone
      obtain ⟨rfl, -⟩ := Stop.finished.inj h
      refine ⟨hHash.continues .refl, value, hHash.kept, fun hash hSome => ?_⟩
      rw [hNone] at hSome
      cases hSome
    · rename_i hash hText
      rcases ask_cases rt call logH "getblock" [.str hash, .num (.int 2)] with
        ⟨_, _, hAsk⟩ | ⟨logB, block, hAsk, hBlock⟩
      · rw [endOf_error_bind hAsk] at h
        cases h
      rw [endOf_ok_bind hAsk] at h
      dsimp only at h
      have hAt : logH.length = log.length + 1 := hHash.length
      have hNext : log.length + 2 = logB.length := by
        rw [hBlock.length, hAt]
      -- the block that spends the output ends the scan
      have hRest : Continues call logB final ∧
          (findSpendWitness block outpoint.txid outpoint.vout = none →
            CompleteScan rt call final outpoint left (log.length + 2) (height + 1)) := by
        cases hFound : findSpendWitness block outpoint.txid outpoint.vout with
        | some witness =>
          rw [hFound] at h
          obtain ⟨rfl, -⟩ := Stop.finished.inj h
          exact ⟨.refl, fun hNone => by cases hNone⟩
        | none =>
          rw [hFound] at h
          obtain ⟨hContinues, hScan⟩ := ih h
          exact ⟨hContinues, fun _ => hNext ▸ hScan⟩
      have hFromH := hBlock.continues hRest.1
      refine ⟨hHash.continues hFromH, value, hHash.kept.mono hFromH.1, fun hash' hSome => ?_⟩
      obtain rfl := Option.some.inj (hText.symm.trans hSome)
      exact ⟨block, hAt ▸ hBlock.kept.mono hRest.1.1, hRest.2⟩

/-- A capture of the funding that finishes is complete. -/
theorem complete_of_captureFunding {outpoint : Outpoint} {tipHeight : Int}
    (hLength : log.length = 2)
    (h : endOf (captureFunding rt call outpoint tipHeight log) = .finished final none) :
    Continues call log final ∧ CompleteFunding rt call final outpoint tipHeight := by
  rw [captureFunding] at h
  -- request 2; where it is refused the capture ends with what it has
  rcases askRawTx_cases rt call log outpoint with
    ⟨_, _, hAsk⟩ | ⟨logR, hAsk, hRaw⟩ | ⟨logR, rawTx, hAsk, hRaw⟩
  · rw [endOf_error_bind hAsk] at h
    cases h
  · rw [endOf_error_bind hAsk] at h
    obtain ⟨rfl, -⟩ := Stop.finished.inj h
    exact ⟨hRaw.continues .refl, .error, hLength ▸ hRaw.kept, fun _ hResult => by cases hResult⟩
  rw [endOf_ok_bind hAsk] at h
  dsimp only at h
  -- request 3, the output
  rcases ask_cases rt call logR "gettxout"
      [.str outpoint.txid, .num (.int outpoint.vout), .bool false] with
    ⟨_, _, hAsk⟩ | ⟨logT, txout, hAsk, hTxout⟩
  · rw [endOf_error_bind hAsk] at h
    cases h
  rw [endOf_ok_bind hAsk] at h
  dsimp only at h
  have hThree : logR.length = 3 := by
    rw [hRaw.length, hLength]
  have hFour : logT.length = 4 := by
    rw [hTxout.length, hThree]
  have hRest : Continues call logT final ∧
      CompleteHeader rt call final outpoint tipHeight rawTx txout := by
    -- without confirmations or a block the capture ends here
    rw [endOf_need_bind] at h
    split at h
    · rename_i hNone
      obtain ⟨rfl, -⟩ := Stop.finished.inj h
      refine ⟨.refl, fun confirmations hash hSome => ?_⟩
      rw [hNone] at hSome
      cases hSome
    rw [endOf_need_bind] at h
    split at h
    · rename_i hNone
      obtain ⟨rfl, -⟩ := Stop.finished.inj h
      refine ⟨.refl, fun confirmations hash _ hSome => ?_⟩
      rw [hNone] at hSome
      cases hSome
    rename_i hash hHash
    -- request 4, the header
    rcases ask_cases rt call logT "getblockheader" [.str hash] with
      ⟨_, _, hAsk⟩ | ⟨logH, header, hAsk, hHeader⟩
    · rw [endOf_error_bind hAsk] at h
      cases h
    rw [endOf_ok_bind hAsk] at h
    dsimp only at h
    have hFive : logH.length = 5 := by
      rw [hHeader.length, hFour]
    have hScan : Continues call logH final ∧
        ∀ height, blockHeaderHeight header = some height → isNull txout = true →
          CompleteScan rt call final outpoint
            (scanEnd call.config tipHeight height + 1 - height).toNat 5 height := by
      rw [endOf_need_bind] at h
      split at h
      · rename_i hNone
        obtain ⟨rfl, -⟩ := Stop.finished.inj h
        refine ⟨.refl, fun height hSome => ?_⟩
        rw [hNone] at hSome
        cases hSome
      rename_i height hHeight
      -- an unspent output is the end, a spent one is looked for block by block
      by_cases hSpent : isNull txout = true
      · rw [require, if_pos hSpent] at h
        obtain ⟨hContinues, hScan⟩ := complete_of_captureScan h
        refine ⟨hContinues, fun height' hSome _ => ?_⟩
        obtain rfl := Option.some.inj (hHeight.symm.trans hSome)
        exact hFive ▸ hScan
      · rw [require, if_neg hSpent] at h
        obtain ⟨rfl, -⟩ := Stop.finished.inj h
        exact ⟨.refl, fun _ _ hNull => absurd hNull hSpent⟩
    refine ⟨hHeader.continues hScan.1, fun _ hash' _ hSome => ?_⟩
    obtain rfl := Option.some.inj (hHash.symm.trans hSome)
    exact ⟨header, hFour ▸ hHeader.kept.mono hScan.1.1, hScan.2⟩
  have hFromT := hTxout.continues hRest.1
  refine ⟨hRaw.continues hFromT, .result rawTx, hLength ▸ hRaw.kept.mono hFromT.1, ?_⟩
  intro rawTx' hResult
  obtain rfl := EnvelopeOutcome.result.inj hResult
  exact ⟨txout, hThree ▸ hTxout.kept.mono hRest.1.1, hRest.2⟩

/-- A capture without an error has read all that there was to read. -/
theorem complete_of_captureReads {outpoint : Outpoint}
    (h : endOf (captureReads rt call outpoint) = .finished final none) :
    Logged call final ∧ Complete rt call final outpoint := by
  have hStart : Logged call [] := fun i exchange hAt => by
    rw [List.getElem?_nil] at hAt
    cases hAt
  rw [captureReads] at h
  -- request 0, the chain
  rcases ask_cases rt call [] "getblockchaininfo" [] with
    ⟨_, _, hAsk⟩ | ⟨logI, value, hAsk, hInfo⟩
  · rw [endOf_error_bind hAsk] at h
    cases h
  rw [endOf_ok_bind hAsk] at h
  dsimp only at h
  rw [endOf_need_bind] at h
  split at h
  · cases h
  rename_i info hFilter
  obtain ⟨rfl, -⟩ := Option.filter_eq_some_iff.mp hFilter
  rw [endOf_need_bind] at h
  split at h
  · rename_i hNone
    obtain ⟨rfl, -⟩ := Stop.finished.inj h
    refine ⟨hInfo.logged hStart, info, hInfo.kept, fun tipHeight hSome => ?_⟩
    rw [hNone] at hSome
    cases hSome
  rename_i tipHeight hBlocks
  -- request 1, the genesis hash
  rcases ask_cases rt call logI "getblockhash" [.num (.int 0)] with
    ⟨_, _, hAsk⟩ | ⟨logG, genesis, hAsk, hGenesis⟩
  · rw [endOf_error_bind hAsk] at h
    cases h
  rw [endOf_ok_bind hAsk] at h
  dsimp only at h
  have hOne : logI.length = 1 := hInfo.length
  have hTwo : logG.length = 2 := by
    rw [hGenesis.length, hOne]
  obtain ⟨hContinues, hFunding⟩ := complete_of_captureFunding hTwo h
  have hFromI := hGenesis.continues hContinues
  refine ⟨(hInfo.continues hFromI).2 hStart, info, hInfo.kept.mono hFromI.1, ?_⟩
  intro tipHeight' hSome
  obtain rfl := Option.some.inj (hBlocks.symm.trans hSome)
  exact ⟨⟨genesis, hOne ▸ hGenesis.kept.mono hContinues.1⟩, hFunding⟩

end

/-! ## What the replies say -/

def Reply.received? : Reply → Option (List UInt8)
  | .failed _ => none
  | .received responseBytes => some responseBytes

/-- What is answered to the request that follows `i` others. -/
def CaptureCall.answer (rt : CapturingRuntime) (call : CaptureCall) (i : Nat) :
    Option EnvelopeOutcome := do
  let responseBytes ← (call.replies i).received?
  let envelope ← (rt.jsonParse (rt.decodeLossy responseBytes)).filter Json.isContainer
  return if rejects envelope then .error else .result (envelope.field? "result")

/-- The chain is the one that is asked for, and this is its tip. -/
structure ChainAnswered (rt : CapturingRuntime) (call : CaptureCall) (config : BtcRailConfig)
    (tipHeight : Int) : Prop where
  info : ∃ info, call.answer rt 0 = some (.result (some info)) ∧ info.isContainer = true ∧
    info.text? "chain" = some config.pin.network ∧ info.int? "blocks" = some tipHeight
  genesis : ∃ value hash, call.answer rt 1 = some (.result value) ∧
    value.bind Json.asText? = some hash ∧
    toLowerCase hash = toLowerCase config.pin.genesisHash

/-- The funding transaction has the output, and it is in a block. -/
structure FundingAnswered (rt : CapturingRuntime) (call : CaptureCall) (outpoint : Outpoint)
    (rawTx : Option Json) : Prop where
  answered : call.answer rt 2 = some (.result rawTx)
  output : ∃ output, decodeFundingOutput rt.toBtcRuntime rawTx outpoint.vout = some output
  confirmed : ∃ confirmations, rawTxConfirmations rawTx = some confirmations ∧ 1 ≤ confirmations
  mined : ∃ hash, rawTxBlockHash rawTx = some hash

/-- Each block of the scan is answered, up to the one that ends it. -/
def ScanAnswered (rt : CapturingRuntime) (call : CaptureCall) (outpoint : Outpoint) :
    Nat → Nat → Prop
  | 0, _ => True
  | left + 1, i =>
    ∃ value, call.answer rt i = some (.result value) ∧
      ∀ hash, value.bind Json.asText? = some hash →
        ∃ block, call.answer rt (i + 1) = some (.result block) ∧
          (findSpendWitness block outpoint.txid outpoint.vout = none →
            ScanAnswered rt call outpoint left (i + 2))

/-- The terms and the configuration are those of the capture. -/
structure Fits (input : BtcEvidenceInput) (call : CaptureCall) (outpoint : Outpoint)
    (captured : BtcRailConfig) : Prop where
  ref : parseRef call.ref = some outpoint
  lock : btcLockRefInvalid input.terms call.ref = false
  asset : input.terms.asset = assetIdFor input.config
  config : checkBtcRailConfig (some (effectiveConfigJson call.config)) = .ok captured
  chain : captured.pin.network = input.config.pin.network ∧
    toLowerCase captured.pin.genesisHash = toLowerCase input.config.pin.genesisHash ∧
    captured.pin.name = input.config.pin.name
  finality : input.config.pin.finality.confirmations ≤ captured.pin.finality.confirmations
  window : scanWindowFor input.config ≤ scanWindowFor captured

/-- The header is that of a block up to the tip. -/
def HeightInRange (header : Option Json) (tipHeight : Int) : Prop :=
  ∃ height, blockHeaderHeight header = some height ∧ 1 ≤ height ∧ height ≤ tipHeight

/-- The replies go as far as the header of the funding block, and it is that of no block up to the
tip that was read before: the block was mined in between, or it is no block of this chain. -/
def HeaderOutOfRange (rt : CapturingRuntime) (input : BtcEvidenceInput) (call : CaptureCall) :
    Prop :=
  ∃ outpoint captured tipHeight rawTx txout header, Fits input call outpoint captured ∧
    ChainAnswered rt call input.config tipHeight ∧ FundingAnswered rt call outpoint rawTx ∧
    call.answer rt 3 = some (.result txout) ∧ call.answer rt 4 = some (.result header) ∧
    (∀ height, blockHeaderHeight header = some height → isNull txout = true →
      ScanAnswered rt call outpoint (scanEnd call.config tipHeight height + 1 - height).toNat 5) ∧
    ¬ HeightInRange header tipHeight

section

variable {rt : CapturingRuntime} {call : CaptureCall} {log log' final : List Exchange}

/-- An answer is an envelope that parses from the reply. -/
theorem answer_eq_some {i : Nat} {outcome : EnvelopeOutcome} :
    call.answer rt i = some outcome ↔ ∃ responseBytes envelope,
      call.replies i = .received responseBytes ∧
      rt.jsonParse (rt.decodeLossy responseBytes) = some envelope ∧ envelope.isContainer = true ∧
      outcome = if rejects envelope then .error else .result (envelope.field? "result") := by
  have hReceived (reply : Reply) (responseBytes : List UInt8) :
      reply.received? = some responseBytes ↔ reply = .received responseBytes := by
    cases reply <;> simp [Reply.received?]
  unfold CaptureCall.answer
  simp only [Option.bind_eq_bind, Option.bind_eq_some_iff, hReceived, Option.filter_eq_some_iff,
    Option.pure_def, Option.some.injEq, eq_comm (b := outcome), exists_and_left, and_assoc]

/-- What is kept was answered. -/
theorem Kept.answer {i : Nat} {method : String} {params : List Json} {outcome : EnvelopeOutcome}
    (h : Kept rt call log i method params outcome) : call.answer rt i = some outcome := by
  obtain ⟨responseBytes, envelope, -, hRest⟩ := h
  exact answer_eq_some.mpr ⟨responseBytes, envelope, hRest⟩

/-- A request that is answered with a result returns it. -/
theorem ask_of_answer (method : String) (params : List Json) {value : Option Json}
    (h : call.answer rt log.length = some (.result value)) :
    ∃ log', ask rt call log method params = .ok (log', value) ∧ log'.length = log.length + 1 := by
  obtain ⟨responseBytes, envelope, hReply, hParse, hObject, hOutcome⟩ := answer_eq_some.mp h
  have hRejects : rejects envelope = false := by
    cases hRejects : rejects envelope
    · rfl
    · rw [hRejects] at hOutcome
      cases hOutcome
  rw [hRejects] at hOutcome
  obtain rfl := EnvelopeOutcome.result.inj hOutcome
  refine ⟨log ++ [⟨method, params, call.requestText rt log.length method params, responseBytes⟩],
    ?_, List.length_append⟩
  unfold ask request
  simp only [hReply, hParse, hObject, hRejects]
  rfl

/-- A scan that is answered throughout finishes. -/
theorem endOf_captureScan {outpoint : Outpoint} {left : Nat} {height : Int}
    (h : ScanAnswered rt call outpoint left log.length) :
    ∃ final, endOf (captureScan rt call outpoint left height log) = .finished final none := by
  induction left generalizing log height with
  | zero => exact ⟨log, rfl⟩
  | succ left ih =>
    obtain ⟨value, hValue, hBlock⟩ := h
    obtain ⟨logH, hAsk, hLength⟩ := ask_of_answer "getblockhash" [.num (.int height)] hValue
    rw [captureScan, endOf_ok_bind hAsk, endOf_need_bind]
    cases hHash : value.bind Json.asText? with
    | none => exact ⟨logH, rfl⟩
    | some hash =>
      obtain ⟨block, hAnswer, hRest⟩ := hBlock hash hHash
      rw [← hLength] at hAnswer
      obtain ⟨logB, hAsk, hLengthB⟩ := ask_of_answer "getblock" [.str hash, .num (.int 2)] hAnswer
      dsimp only
      rw [endOf_ok_bind hAsk]
      dsimp only
      cases hFound : findSpendWitness block outpoint.txid outpoint.vout with
      | some witness => exact ⟨logB, rfl⟩
      | none =>
        have hNext : logB.length = log.length + 2 := by omega
        exact ih (hNext ▸ hRest hFound)

/-- A funding transaction that is answered is asked for once. -/
theorem askRawTx_of_answer (outpoint : Outpoint) {value : Option Json}
    (h : call.answer rt log.length = some (.result value)) :
    ∃ log', askRawTx rt call log outpoint = .ok (log', value) ∧
      log'.length = log.length + 1 := by
  obtain ⟨log', hAsk, hLength⟩ :=
    ask_of_answer "getrawtransaction" [.str outpoint.txid, .bool true] h
  refine ⟨log', ?_, hLength⟩
  unfold ask at hAsk
  unfold askRawTx
  split at hAsk
  · rename_i hRequest
    rw [hRequest]
    exact hAsk
  · cases hAsk

/-- Replies that go as far as the header, and on to the end of the scan, are all of a capture. -/
theorem endOf_captureReads {outpoint : Outpoint} {config : BtcRailConfig} {tipHeight : Int}
    {rawTx txout header : Option Json} (hChain : ChainAnswered rt call config tipHeight)
    (hFunding : FundingAnswered rt call outpoint rawTx)
    (hTxout : call.answer rt 3 = some (.result txout))
    (hHeader : call.answer rt 4 = some (.result header))
    (hScan : ∀ height, blockHeaderHeight header = some height → isNull txout = true →
      ScanAnswered rt call outpoint
        (scanEnd call.config tipHeight height + 1 - height).toNat 5) :
    ∃ final, endOf (captureReads rt call outpoint) = .finished final none := by
  obtain ⟨⟨info, hInfo, hObject, -, hBlocks⟩, genesis, -, hGenesis, -⟩ := hChain
  obtain ⟨hRawTx, -, ⟨confirmations, hConfirmations, hConfirmed⟩, hash, hHash⟩ := hFunding
  obtain ⟨logI, hAsk, hOne⟩ : ∃ logI, ask rt call [] "getblockchaininfo" [] =
      .ok (logI, some info) ∧ logI.length = ([] : List Exchange).length + 1 :=
    ask_of_answer "getblockchaininfo" [] hInfo
  have hNotNull : (some info).filter (fun v => !isNull (some v)) = some info := by
    cases info <;> first | rfl | cases hObject
  -- each request is answered, and the log is one longer after it
  rw [captureReads, endOf_ok_bind hAsk]
  dsimp only
  rw [hNotNull, endOf_need_bind]
  dsimp only
  rw [hBlocks, endOf_need_bind]
  rw [List.length_nil, Nat.zero_add] at hOne
  rw [← hOne] at hGenesis
  obtain ⟨logG, hAsk, hTwo⟩ := ask_of_answer "getblockhash" [.num (.int 0)] hGenesis
  have hTwo : logG.length = 2 := by omega
  dsimp only
  rw [endOf_ok_bind hAsk]
  dsimp only
  rw [captureFunding]
  rw [← hTwo] at hRawTx
  obtain ⟨logR, hAsk, hThree⟩ := askRawTx_of_answer outpoint hRawTx
  have hThree : logR.length = 3 := by omega
  rw [endOf_ok_bind hAsk]
  dsimp only
  rw [← hThree] at hTxout
  obtain ⟨logT, hAsk, hFour⟩ := ask_of_answer "gettxout"
    [.str outpoint.txid, .num (.int outpoint.vout), .bool false] hTxout
  have hFour : logT.length = 4 := by omega
  rw [endOf_ok_bind hAsk]
  dsimp only
  -- the funding is confirmed, so the header is asked for
  have hFilter : (rawTxConfirmations rawTx).filter (1 ≤ ·) = some confirmations :=
    Option.filter_eq_some_iff.mpr ⟨hConfirmations, decide_eq_true hConfirmed⟩
  rw [hFilter, hHash, endOf_need_bind]
  dsimp only
  rw [endOf_need_bind]
  rw [← hFour] at hHeader
  obtain ⟨logH, hAsk, hFive⟩ := ask_of_answer "getblockheader" [.str hash] hHeader
  have hFive : logH.length = 5 := by omega
  dsimp only
  rw [endOf_ok_bind hAsk]
  dsimp only
  rw [endOf_need_bind]
  cases hHeight : blockHeaderHeight header with
  | none => exact ⟨logH, rfl⟩
  | some height =>
    by_cases hSpent : isNull txout = true
    · dsimp only
      rw [require, if_pos hSpent]
      exact endOf_captureScan (hFive ▸ hScan height hHeight hSpent)
    · dsimp only
      rw [require, if_neg hSpent]
      exact ⟨logH, rfl⟩

/-- What the scan of a capture has read was answered. -/
theorem CompleteScan.answered {outpoint : Outpoint} {left i : Nat} {height : Int}
    (h : CompleteScan rt call final outpoint left i height) :
    ScanAnswered rt call outpoint left i := by
  induction left generalizing i height with
  | zero => trivial
  | succ left ih =>
    obtain ⟨value, hHash, hBlock⟩ := h
    refine ⟨value, hHash.answer, fun hash hSome => ?_⟩
    obtain ⟨block, hKept, hRest⟩ := hBlock hash hSome
    exact ⟨block, hKept.answer, fun hNone => ih (hRest hNone)⟩

end

/-! ## Binding -/

/-- What is documented of the functions and of the endpoint that a capture rests on. -/
structure Documented (rt : CapturingRuntime) (call : CaptureCall) (capture : Capture) : Prop where
  /-- `JSON.parse` reads back what `JSON.stringify` wrote for a request of the capture. -/
  readsBack : ∀ i exchange, capture.exchanges[i]? = some exchange →
    ∀ params, exchange.params = some params → rt.jsonParse exchange.requestBody =
      some (requestBody (call.requestId rt i) exchange.method params)
  /-- A JSON-RPC response is a text in UTF-8, and has the id of its request. -/
  answers : ∀ i responseBytes envelope, call.replies i = .received responseBytes →
    rt.jsonParse (rt.decodeLossy responseBytes) = some envelope → envelope.isContainer = true →
    rt.decodeUtf8 responseBytes = some (rt.decodeLossy responseBytes) ∧
      RequestId.ofJson? (envelope.field? "id") = some (.str (call.requestId rt i))
  /-- No two responses have the same sha256. -/
  distinct : ∀ i j a b, call.replies i = .received a → call.replies j = .received b →
    rt.sha256 a = rt.sha256 b → a = b

section

variable {rt : CapturingRuntime} {call : CaptureCall} {log : List Exchange}

/-- Digests printed alike are the same. -/
theorem responseSha256_inj {rt : Runtime} {a b : List UInt8}
    (h : responseSha256 rt a = responseSha256 rt b) : rt.sha256 a = rt.sha256 b := by
  have hBytes := congrArg hexToBytes h
  unfold responseSha256 at hBytes
  rw [hexToBytes_bytesToHex, hexToBytes_bytesToHex] at hBytes
  exact Option.some.inj hBytes

/-- The bytes of an exchange are found under their name. -/
theorem bytes_builtCapture (hLogged : Logged call log)
    (hDoc : Documented rt call (builtCapture rt.toRuntime call log none).toCapture) {i : Nat}
    {exchange : Exchange} (hAt : log[i]? = some exchange) :
    (builtCapture rt.toRuntime call log none).bytes
      (responseSha256 rt.toRuntime exchange.responseBytes) = some exchange.responseBytes := by
  show (log.find? fun other => responseSha256 rt.toRuntime other.responseBytes =
    responseSha256 rt.toRuntime exchange.responseBytes).map (·.responseBytes) = _
  cases hFind : log.find? fun other => responseSha256 rt.toRuntime other.responseBytes =
      responseSha256 rt.toRuntime exchange.responseBytes with
  | none =>
    have hNone := List.find?_eq_none.mp hFind exchange (List.mem_of_getElem? hAt)
    exact absurd (decide_eq_true rfl) hNone
  | some other =>
    have hName := List.find?_some hFind
    rw [decide_eq_true_eq] at hName
    obtain ⟨j, hOther⟩ := List.getElem?_of_mem (List.mem_of_find?_eq_some hFind)
    have hSame := hDoc.distinct j i _ _ (hLogged j other hOther) (hLogged i exchange hAt)
      (responseSha256_inj hName)
    rw [Option.map_some, hSame]

/-- What is kept binds, as it was answered. -/
theorem bind_kept (hLogged : Logged call log)
    (hDoc : Documented rt call (builtCapture rt.toRuntime call log none).toCapture) {i : Nat}
    {method label : String} {params : List Json} {outcome : EnvelopeOutcome}
    (h : Kept rt call log i method params outcome) :
    bindBtcExchange rt.toRuntime (builtCapture rt.toRuntime call log none).toCapture
        (exchangeAt (builtCapture rt.toRuntime call log none).exchanges i method) label =
      .ok ⟨⟨.str (call.requestId rt i), method, some (.arr params)⟩, outcome⟩ := by
  -- the request and the response of this position are those of the log
  obtain ⟨responseBytes, envelope, hAt, hReply, hParse, hObject, hOutcome⟩ := h
  obtain ⟨hText, hEcho⟩ := hDoc.answers i responseBytes envelope hReply hParse hObject
  have hBytes := bytes_builtCapture hLogged hDoc hAt
  have hExchange : (builtCapture rt.toRuntime call log none).exchanges[i]? =
      some ⟨method, some (.arr params), call.requestText rt i method params,
        responseSha256 rt.toRuntime responseBytes⟩ := by
    show (log.map _)[i]? = _
    rw [List.getElem?_map, hAt, Option.map_some]
  have hBody := hDoc.readsBack i _ hExchange _ rfl
  have hFound := exchangeAt_eq_some.mpr ⟨hExchange, rfl⟩
  have hRequest : parseRequestBody rt.toRuntime ⟨method, some (.arr params),
      call.requestText rt i method params, responseSha256 rt.toRuntime responseBytes⟩ =
      some ⟨.str (call.requestId rt i), method, some (.arr params)⟩ := by
    unfold parseRequestBody
    rw [hBody]
    rfl
  have hSame : sameJson rt.toRuntime (some (.arr params)) (some (.arr params)) = true :=
    decide_eq_true rfl
  -- and the id begins with the capture's own prefix
  have hBound : idBoundToCapture rt.toRuntime (builtCapture rt.toRuntime call log none).toCapture
      (.str (call.requestId rt i)) = true := by
    refine List.isPrefixOf_iff_prefix.mpr ?_
    show (call.ref ++ ":" ++ rt.intText call.nowMs ++ ":" ++ call.nonce ++ ":").toList <+:
      (call.ref ++ ":" ++ rt.intText call.nowMs ++ ":" ++ call.nonce ++ ":" ++
        rt.intText (i + 1)).toList
    exact ⟨(rt.intText (i + 1)).toList, (String.toList_append).symm⟩
  unfold bindBtcExchange bindExchangeTo
  simp only [hFound, need, hRequest, require, hSame, hBytes, hText, hParse, hObject, hEcho, hBound,
    bind, Except.bind, and_self, if_true, hOutcome]
  rfl

end

end SwapDesk.Rails.BtcLeg
