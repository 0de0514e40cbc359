import SwapDesk.Rails.BtcSoundness
import SwapDesk.Rails.EvmEvidence

/-!
# SwapDesk — what EVM evidence rests on

What an observation of the EVM reader has to be bound to, and when it is. For a lock
that stands the reader makes the observation before it looks at the accounts and the
fields, so that such an observation is bound only where they happen to agree.

Main results: `evmEvidence_bound_iff`, and `locked_for_another_payee`, a capture that
shows what goes wrong.
-/

namespace SwapDesk.Rails.Evm

open Check Desk

/-! ## What an observation has to be bound to -/

/-- The block that a request numbers, `confirmations` below the latest one. -/
def NumberedView (rt : EvmRuntime) (capture : Capture) (confirmations : Int)
    (finalized : FinalizedBlock) : Prop :=
  ∃ latestCall latestParams latest latestNumber blockCall number block,
    findByMethod capture.exchanges "eth_blockNumber" = some latestCall ∧
    Answered rt.toRuntime capture latestCall latestParams latest ∧
    parseHexNumber rt latest = some latestNumber ∧
    blockCall ∈ capture.exchanges ∧ blockCall.method = "eth_getBlockByNumber" ∧
    Answered rt.toRuntime capture blockCall (some (.arr [number, .bool false])) block ∧
    parseHexNumber rt (some number) = some finalized.number ∧
    finalized.number = latestNumber - confirmations ∧
    blockResultHash block = some finalized.hash

/-- The block under a tag. -/
def TaggedView (rt : EvmRuntime) (capture : Capture) (tag : String)
    (finalized : FinalizedBlock) : Prop :=
  ∃ blockCall block, blockCall ∈ capture.exchanges ∧ blockCall.method = "eth_getBlockByNumber" ∧
    Answered rt.toRuntime capture blockCall (some (.arr [.str tag, .bool false])) block ∧
    blockResultHash block = some finalized.hash ∧
    blockResultNumber rt block = some finalized.number

/-- The block is final, in the sense of the configuration that the capture was taken under. -/
def FinalizedView (rt : EvmRuntime) (capture : Capture) (finality : EvmFinality)
    (finalized : FinalizedBlock) : Prop :=
  match finality with
  | .confirmations n => NumberedView rt capture n finalized
  | .tag tag fallback => TaggedView rt capture tag finalized ∨
      ∃ n, fallback = some n ∧ NumberedView rt capture n finalized

/-- The exchange that calls the contract for this lock at the block was answered with the lock. -/
def LockShown (rt : EvmRuntime) (input : EvmEvidenceInput) (finalized : FinalizedBlock)
    (lock : LocksResult) : Prop :=
  ∃ call callObject selector value target data blockHash,
    findByMethod input.capture.exchanges "eth_call" = some call ∧
    Answered rt.toRuntime input.capture.toCapture call (some (.arr [callObject, selector])) value ∧
    callObject.field? "to" = some (.str target) ∧
    rt.isAddressEqual target input.config.contract = .ok true ∧
    callObject.text? "data" = some data ∧
    toLowerCase data = toLowerCase (rt.encodeLocksCall input.capture.ref) ∧
    selector.text? "blockHash" = some blockHash ∧
    toLowerCase blockHash = toLowerCase finalized.hash ∧
    rt.decodeLocksResult value = some lock

/-- Each field of the lock is the leg's, with both accounts resolved. -/
def LockMatches (rt : EvmRuntime) (input : EvmEvidenceInput) (lock : LocksResult) : Prop :=
  ∃ payee payer token, input.accounts.payee = some payee ∧ input.accounts.payer = some payer ∧
    assetToken input.config input.terms.asset = some token ∧
    rt.isAddressEqual lock.payee payee = .ok true ∧
    rt.isAddressEqual lock.payer payer = .ok true ∧
    rt.isAddressEqual lock.token token = .ok true ∧
    rt.bigInt input.terms.amount = some lock.amount ∧
    lock.claimByMs = input.terms.claimByMs ∧
    lock.refundAfterMs = input.terms.refundAfterMs

/-- The endpoint said it serves the pinned chain, and where the auditor pins the contract's code,
what it returned as that code. -/
def ChainShown (rt : EvmRuntime) (capture : Capture) (config : EvmRailConfig) : Prop :=
  (∃ call params value, findByMethod capture.exchanges "eth_chainId" = some call ∧
    Answered rt.toRuntime capture call params value ∧
    parseHexNumber rt value = some config.pin.chainId) ∧
  ∀ pinned, config.contractCodeHash = some pinned → ∃ call address value code observed bytes,
    findByMethod capture.exchanges "eth_getCode" = some call ∧
    Answered rt.toRuntime capture call (some (.arr [.str address, .str "latest"])) value ∧
    rt.isAddressEqual address config.contract = .ok true ∧ value = some (.str code) ∧
    judgeRuntimeCode rt value pinned = .ok observed bytes

/-- What every observation rests on: the lock as it is at the final block. -/
structure EvmBacked (rt : EvmRuntime) (input : EvmEvidenceInput) (captured : EvmRailConfig)
    (finalized : FinalizedBlock) (lock : LocksResult) : Prop where
  complete : input.capture.error = none
  lockKind : input.terms.lock = "hash"
  statement : input.capture.ref = input.terms.statement
  checked : checkEvmRailConfig rt input.capture.config = .ok captured
  chainId : captured.pin.chainId = input.config.pin.chainId
  contract : rt.isAddressEqual captured.contract input.config.contract = .ok true
  finality : finalityAtLeastAsStrong captured.pin.finality input.config.pin.finality = true
  chain : ChainShown rt input.capture.toCapture input.config
  view : FinalizedView rt input.capture.toCapture captured.pin.finality finalized
  shown : LockShown rt input finalized lock

def onChainStatus : RailStatus → Int
  | .locked => 1
  | .claimed => 2
  | .refunded => 3

/-- The observation says what the lock is at the final block, and the lock is the leg's own. -/
def EvmBound (rt : EvmRuntime) (input : EvmEvidenceInput) (rail : RailObservation) : Prop :=
  ∃ captured finalized lock, EvmBacked rt input captured finalized lock ∧
    lock.status = onChainStatus rail.status ∧ LockMatches rt input lock

/-- A lock that stands, as the capture holds it, would pass the comparison that the reader makes
for one that was settled. -/
def LockedComparable (rt : EvmRuntime) (input : EvmEvidenceInput) : Prop :=
  ∀ call params value lock, findByMethod input.capture.exchanges "eth_call" = some call →
    Answered rt.toRuntime input.capture.toCapture call params value →
    rt.decodeLocksResult value = some lock → lock.status = 1 →
    ∃ payee payer token, input.accounts.payee = some payee ∧ input.accounts.payer = some payer ∧
      assetToken input.config input.terms.asset = some token ∧
      firstFieldMismatch rt lock payee payer token input.terms = .ok none

/-! ## The comparison -/

variable {rt : EvmRuntime}

/-- A check that names what differs, and goes on when nothing does. -/
theorem named_eq_none {c : Prop} [Decidable c] {reason : String}
    {rest : Except String (Option String)} :
    (if c then pure (some reason) else rest) = .ok none ↔ ¬ c ∧ rest = .ok none := by
  split
  · rename_i hc
    exact ⟨fun h => (by cases h), fun h => absurd hc h.1⟩
  · rename_i hc
    exact ⟨fun h => ⟨hc, h⟩, fun h => h.2⟩

/-- The comparison finds nothing exactly when every field agrees. -/
theorem firstFieldMismatch_eq_none {lock : LocksResult} {payee payer token : String}
    {terms : LockTerms} :
    firstFieldMismatch rt lock payee payer token terms = .ok none ↔
      rt.isAddressEqual lock.payee payee = .ok true ∧
      rt.isAddressEqual lock.payer payer = .ok true ∧
      rt.isAddressEqual lock.token token = .ok true ∧
      rt.bigInt terms.amount = some lock.amount ∧
      lock.claimByMs = terms.claimByMs ∧ lock.refundAfterMs = terms.refundAfterMs := by
  unfold firstFieldMismatch
  simp only [bind_eq_ok, need_eq_ok, named_eq_none, Bool.not_eq_false, not_not]
  constructor
  · rintro ⟨_, hPayee, rfl, _, hToken, rfl, amount, hAmount, rfl, hClaimBy, hRefundAfter, _, hPayer,
      rfl, -⟩
    exact ⟨hPayee, hPayer, hToken, hAmount, hClaimBy, hRefundAfter⟩
  · rintro ⟨hPayee, hPayer, hToken, hAmount, hClaimBy, hRefundAfter⟩
    exact ⟨_, hPayee, rfl, _, hToken, rfl, _, hAmount, rfl, hClaimBy, hRefundAfter, _, hPayer,
      rfl, rfl⟩

/-! ## Reading the blocks back -/

section

variable {capture : Capture}

/-- A bound exchange with a result, which may be missing. -/
theorem answered_of_call {parts label reason : String} {exchange : Option CaptureIndexExchange}
    {bound : BoundExchange} {value : Option Json}
    (hBound : bindExchangeTo parts rt.toRuntime capture exchange label = .ok bound)
    (hValue : resultOf bound.outcome reason = .ok value) :
    ∃ e, exchange = some e ∧ Answered rt.toRuntime capture e bound.request.params value := by
  obtain ⟨request, outcome⟩ := bound
  obtain rfl := resultOf_eq_ok.mp hValue
  exact answered_of_bindExchange hBound

/-- What is found by its method is one of the exchanges, and of that method. -/
theorem mem_of_findByMethod {exchanges : List CaptureIndexExchange} {method : String}
    {e : CaptureIndexExchange} (h : findByMethod exchanges method = some e) :
    e ∈ exchanges ∧ e.method = method := by
  unfold findByMethod at h
  exact ⟨List.mem_of_find?_eq_some h, by simpa using List.find?_some h⟩

/-- The request of a block by its number has the number, and asks for no transactions. -/
theorem numbered_params {request : ParsedRequest} {number : Int}
    (hNumber : requestedBlockNumberArg rt request = some number)
    (hShape : (requestParams request).any (fun params =>
      params.length = 2 && params[1]?.any (strictEquals · (.bool false))) = true) :
    ∃ first, request.params = some (.arr [first, .bool false]) ∧
      parseHexNumber rt (some first) = some number := by
  obtain ⟨params, hParams, hShape⟩ := (Option.any_eq_true _ _).mp hShape
  rw [Bool.and_eq_true, decide_eq_true_eq] at hShape
  obtain ⟨first, second, rfl⟩ := List.length_eq_two.mp hShape.1
  obtain rfl : second = .bool false := strictEquals_eq (by simpa using hShape.2)
  unfold requestedBlockNumberArg at hNumber
  rw [hParams] at hNumber
  exact ⟨first, requestParams_eq_some.mp hParams, hNumber⟩

/-- A numbered block that is read was answered. -/
theorem readNumberedBlock_ok {confirmations : Int} {blockCall : Option CaptureIndexExchange}
    {finalized : FinalizedBlock}
    (hCall : ∀ e, blockCall = some e → e ∈ capture.exchanges ∧ e.method = "eth_getBlockByNumber")
    (h : readNumberedBlock rt capture confirmations blockCall = .ok finalized) :
    NumberedView rt capture confirmations finalized := by
  unfold readNumberedBlock at h
  simp only [bind_eq_ok, need_eq_ok] at h
  obtain ⟨latest, hLatest, value, hValue, latestNumber, hLatestNumber, block, hBlock, reply, hReply,
    number, hNumber, hash, hHash, h⟩ := h
  obtain rfl := Except.ok.inj h
  obtain ⟨hNumber, hTargets⟩ := Option.filter_eq_some_iff.mp hNumber
  rw [Bool.and_eq_true, decide_eq_true_eq] at hTargets
  obtain ⟨first, hParams, hFirst⟩ := numbered_params hNumber hTargets.1
  obtain ⟨latestCall, hLatestCall, hLatestAnswered⟩ := answered_of_call hLatest hValue
  obtain ⟨call, hCallIs, hAnswered⟩ := answered_of_call hBlock hReply
  rw [hParams] at hAnswered
  obtain ⟨hMem, hMethod⟩ := hCall call hCallIs
  exact ⟨latestCall, _, value, latestNumber, call, first, reply, hLatestCall, hLatestAnswered,
    hLatestNumber, hMem, hMethod, hAnswered, hFirst, hTargets.2, hHash⟩

/-- A tagged block that is read was answered for its tag. -/
theorem taggedBlock_ok {tag : String} {bound : BoundExchange} {finalized : FinalizedBlock}
    (h : taggedBlock rt tag bound = .ok (some finalized)) :
    ∃ value, bound.outcome = .result value ∧
      bound.request.params = some (.arr [.str tag, .bool false]) ∧
      blockResultHash value = some finalized.hash ∧
      blockResultNumber rt value = some finalized.number := by
  unfold taggedBlock at h
  split at h
  · cases h
  · rename_i value hOutcome
    simp only [bind_eq_ok, require_eq_ok, exists_const] at h
    obtain ⟨hParams, hBlock⟩ := h
    obtain ⟨hash, hHash, hBlock⟩ := Option.bind_eq_some_iff.mp (Except.ok.inj hBlock)
    obtain ⟨number, hNumber, rfl⟩ := Option.map_eq_some_iff.mp hBlock
    exact ⟨value, hOutcome, params_of_paramsAre hParams, hHash, hNumber⟩

/-- A block is read under its tag, or under the number that stands in for it. -/
theorem readTaggedBlock_ok {tag : String} {fallback : Option Int} {finalized : FinalizedBlock}
    (h : readTaggedBlock rt capture tag fallback = .ok finalized) :
    TaggedView rt capture tag finalized ∨
      ∃ n, fallback = some n ∧ NumberedView rt capture n finalized := by
  have hCalls : ∀ e ∈ capture.exchanges.filter fun exchange =>
      exchange.method = "eth_getBlockByNumber",
      e ∈ capture.exchanges ∧ e.method = "eth_getBlockByNumber" := by
    intro e he
    rw [List.mem_filter, decide_eq_true_eq] at he
    exact he
  unfold readTaggedBlock at h
  simp only [bind_eq_ok] at h
  obtain ⟨bound, hBound, tagged, hTagged, h⟩ := h
  -- the tagged block, or the one of the number that stands in
  cases tagged with
  | some block =>
    obtain rfl := Except.ok.inj h
    obtain ⟨value, hOutcome, hParams, hHash, hNumber⟩ := taggedBlock_ok hTagged
    have hResult : resultOf bound.outcome "" = .ok value := resultOf_eq_ok.mpr hOutcome
    obtain ⟨e, he, hAnswered⟩ := answered_of_call hBound hResult
    obtain ⟨i, -, hAt⟩ := Option.bind_eq_some_iff.mp he
    obtain ⟨hMem, hMethod⟩ := hCalls e (List.mem_of_getElem? hAt)
    rw [hParams] at hAnswered
    exact .inl ⟨e, value, hMem, hMethod, hAnswered, hHash, hNumber⟩
  | none =>
    simp only [bind_eq_ok, need_eq_ok] at h
    obtain ⟨n, hFallback, hNumbered⟩ := h
    refine .inr ⟨n, hFallback, readNumberedBlock_ok ?_ hNumbered⟩
    intro e he
    obtain ⟨i, -, hHead⟩ := Option.bind_eq_some_iff.mp he
    exact hCalls e (List.mem_of_mem_eraseIdx (List.mem_of_head? hHead))

/-- The block resolved is final in the pinned sense. -/
theorem resolveFinalizedBlock_ok {captured : EvmRailConfig} {finalized : FinalizedBlock}
    (h : resolveFinalizedBlock rt captured capture = .ok finalized) :
    FinalizedView rt capture captured.pin.finality finalized := by
  unfold resolveFinalizedBlock at h
  unfold FinalizedView
  cases hFinality : captured.pin.finality with
  | confirmations n =>
    rw [hFinality] at h
    exact readNumberedBlock_ok (fun e he => mem_of_findByMethod he) h
  | tag tag fallback =>
    rw [hFinality] at h
    exact readTaggedBlock_ok h

/-- Addresses are compared by the library. -/
theorem addressEqual_ok {a b : String} {same : Bool} (h : addressEqual rt a b = .ok same) :
    rt.isAddressEqual a b = .ok same :=
  mapError_eq_ok.mp h

/-- What admission has checked of a capture. -/
theorem admitEvmCapture_ok {input : EvmEvidenceInput} {captured : EvmRailConfig}
    (h : admitEvmCapture rt input = .ok captured) :
    input.capture.error = none ∧ input.terms.lock = "hash" ∧
      input.capture.ref = input.terms.statement ∧
      checkEvmRailConfig rt input.capture.config = .ok captured ∧
      captured.pin.chainId = input.config.pin.chainId ∧
      rt.isAddressEqual captured.contract input.config.contract = .ok true ∧
      finalityAtLeastAsStrong captured.pin.finality input.config.pin.finality = true := by
  unfold admitEvmCapture at h
  simp only [bind_eq_ok, need_eq_ok, refute_eq_ok, require_eq_ok, mapError_eq_ok,
    exists_const] at h
  obtain ⟨hComplete, hRef, config, hChecked, token, -, hChain, contract, hContract, rfl, same, -, -,
    hFinality, h⟩ := h
  obtain rfl := Except.ok.inj h
  unfold hashLockRefMismatch at hRef
  rw [Bool.or_eq_false_iff, Bool.or_eq_false_iff] at hRef
  exact ⟨hComplete, by simpa using hRef.1.1, by simpa using hRef.2, hChecked, hChain,
    addressEqual_ok hContract, hFinality⟩

/-- An address is read off a text as it stands. -/
theorem addressShape_eq_some {value : Option Json} {address : String}
    (h : addressShape rt value = some address) : value = some (.str address) := by
  obtain ⟨v, rfl, hText⟩ := Option.bind_eq_some_iff.mp (Option.filter_eq_some_iff.mp h).1
  rw [Json.asText?_eq_some.mp hText]

/-- Code that raises no problem was answered, and hashes to what is pinned. -/
theorem judgeRuntimeCode_text {value : Option Json} {contract pinned : String}
    (h : describeCodeProblem rt (judgeRuntimeCode rt value pinned) contract pinned = none) :
    ∃ code observed bytes, value = some (.str code) ∧
      judgeRuntimeCode rt value pinned = .ok observed bytes := by
  unfold judgeRuntimeCode at h ⊢
  split at h
  · cases h
  · rename_i code hCode
    obtain ⟨v, rfl, hText⟩ := Option.bind_eq_some_iff.mp (Option.filter_eq_some_iff.mp hCode).1
    split at h
    · cases h
    · rename_i hLong
      rw [if_neg hLong]
      dsimp only at h ⊢
      split at h
      · rename_i hSame
        rw [if_pos hSame]
        exact ⟨code, _, _, congrArg some (Json.asText?_eq_some.mp hText), rfl⟩
      · cases h

/-- A capture that passes shows the pinned chain and code. -/
theorem checkChain_ok {input : EvmEvidenceInput} {captured : EvmRailConfig}
    (h : checkChain rt input captured = .ok ()) :
    ChainShown rt input.capture.toCapture input.config := by
  unfold checkChain at h
  simp only [bind_eq_ok, need_eq_ok, require_eq_ok, mapError_eq_ok, exists_const] at h
  obtain ⟨bound, hBound, value, hValue, chainId, hChainId, rfl, contract, -, same, -, -, h⟩ := h
  obtain ⟨call, hCall, hAnswered⟩ := answered_of_call hBound hValue
  refine ⟨⟨call, _, value, hCall, hAnswered, hChainId⟩, fun pinned hPinned => ?_⟩
  rw [hPinned] at h
  unfold codePin at h
  simp only [bind_eq_ok, need_eq_ok, require_eq_ok, refute_eq_ok, mapError_eq_ok,
    exists_const] at h
  obtain ⟨-, bound, hBound, value, hValue, params, hParams, address, hAddress, same, hSame,
    ⟨rfl, hLatest⟩, hCode⟩ := h
  obtain ⟨hParams, hLength⟩ := Option.filter_eq_some_iff.mp hParams
  obtain ⟨first, second, rfl⟩ := List.length_eq_two.mp (of_decide_eq_true hLength)
  obtain rfl : first = .str address := Option.some.inj (addressShape_eq_some hAddress)
  obtain rfl : second = .str "latest" := strictEquals_eq (by simpa using hLatest)
  obtain ⟨call, hCall, hAnswered⟩ := answered_of_call hBound hValue
  rw [requestParams_eq_some.mp hParams] at hAnswered
  obtain ⟨code, observed, bytes, hText, hJudged⟩ := judgeRuntimeCode_text hCode
  exact ⟨call, address, value, code, observed, bytes, hCall, hAnswered, addressEqual_ok hSame,
    hText, hJudged⟩

/-- A lock that is read was answered by the contract at the final block. -/
theorem readLock_ok {input : EvmEvidenceInput} {finalized : FinalizedBlock} {lock : LocksResult}
    (h : readLock rt input finalized = .ok lock) : LockShown rt input finalized lock := by
  unfold readLock validateLocksCallRequest at h
  simp only [bind_eq_ok, need_eq_ok, require_eq_ok, mapError_eq_ok, exists_const] at h
  obtain ⟨bound, hBound, value, hValue, ⟨params, hParams, callObject, hObject, target,
    hTarget, same, hSame, rfl, hData, selector, hSelector, hBlock⟩, hDecoded⟩ := h
  obtain ⟨hParams, hLength⟩ := Option.filter_eq_some_iff.mp hParams
  obtain ⟨first, second, rfl⟩ := List.length_eq_two.mp (of_decide_eq_true hLength)
  obtain rfl : first = callObject := Option.some.inj (Option.filter_eq_some_iff.mp hObject).1
  obtain rfl : second = selector := Option.some.inj (Option.filter_eq_some_iff.mp hSelector).1
  obtain ⟨data, hDataText, hData⟩ := (Option.any_eq_true _ _).mp hData
  obtain ⟨blockHash, hHashText, hBlock⟩ := (Option.any_eq_true _ _).mp hBlock
  rw [Bool.and_eq_true, decide_eq_true_eq] at hBlock
  obtain ⟨call, hCall, hAnswered⟩ := answered_of_call hBound hValue
  rw [requestParams_eq_some.mp hParams] at hAnswered
  exact ⟨call, first, second, value, target, data, blockHash, hCall, hAnswered,
    addressShape_eq_some hTarget, addressEqual_ok hSame, hDataText, of_decide_eq_true hData,
    hHashText, hBlock.2, hDecoded⟩

/-- An observation of a lock that was settled is made after the comparison. -/
theorem judgeSettled_ok {input : EvmEvidenceInput} {lock : LocksResult} {label status : RailStatus}
    {verdict : EvmVerdict} (h : judgeSettled rt input lock label = .ok verdict)
    (hRail : verdict.rail = some status) : status = label ∧ LockMatches rt input lock := by
  unfold judgeSettled at h
  split at h
  · obtain rfl := Except.ok.inj h
    cases hRail
  · rename_i payee hPayee
    split at h
    · obtain rfl := Except.ok.inj h
      cases hRail
    · rename_i payer hPayer
      split at h
      · obtain rfl := Except.ok.inj h
        cases hRail
      · rename_i token hToken
        obtain ⟨mismatch, hMismatch, h⟩ := bind_eq_ok.mp h
        cases mismatch with
        | some reason =>
          obtain rfl := Except.ok.inj h
          cases hRail
        | none =>
          obtain rfl := Except.ok.inj h
          exact ⟨(Option.some.inj hRail).symm, payee, payer, token, hPayee, hPayer, hToken,
            firstFieldMismatch_eq_none.mp hMismatch⟩

/-- One of a lock that stands is made whatever the comparison finds. -/
theorem judgeStanding_ok {input : EvmEvidenceInput} {lock : LocksResult} {verdict : EvmVerdict}
    (h : judgeStanding rt input lock = .ok verdict) : verdict.rail = some .locked := by
  unfold judgeStanding at h
  split at h
  · obtain rfl := Except.ok.inj h
    rfl
  · split at h
    · obtain rfl := Except.ok.inj h
      rfl
    · split at h
      · obtain rfl := Except.ok.inj h
        rfl
      · obtain ⟨mismatch, -, h⟩ := bind_eq_ok.mp h
        cases mismatch with
        | some reason =>
          obtain rfl := Except.ok.inj h
          rfl
        | none =>
          obtain rfl := Except.ok.inj h
          rfl

/-- The label is the lock's own status, and all but one status comes with the comparison. -/
theorem judgeLock_ok {input : EvmEvidenceInput} {lock : LocksResult} {verdict : EvmVerdict}
    {status : RailStatus} (h : judgeLock rt input lock = .ok verdict)
    (hRail : verdict.rail = some status) :
    lock.status = onChainStatus status ∧ (lock.status ≠ 1 → LockMatches rt input lock) := by
  unfold judgeLock at h
  split at h
  · obtain rfl := Except.ok.inj h
    cases hRail
  · split at h
    · rename_i hStanding
      obtain rfl := Option.some.inj (hRail.symm.trans (judgeStanding_ok h))
      exact ⟨hStanding, fun hOther => absurd hStanding hOther⟩
    · split at h
      · rename_i hClaimed
        obtain ⟨rfl, hMatches⟩ := judgeSettled_ok h hRail
        exact ⟨hClaimed, fun _ => hMatches⟩
      · split at h
        · rename_i hRefunded
          obtain ⟨rfl, hMatches⟩ := judgeSettled_ok h hRail
          exact ⟨hRefunded, fun _ => hMatches⟩
        · obtain rfl := Except.ok.inj h
          cases hRail

/-! ## The reader -/

/-- Evidence that stops early reports no rail. -/
theorem evmStop_rail {base : LockEvidence} {stop : EvmStop} {result : EvmEvidenceResult}
    (h : evmStop base stop = .ok result) : result.rail = none := by
  cases stop with
  | refused refusal =>
    obtain rfl := Except.ok.inj h
    rfl
  | threw message => cases h

/-- An observation is attached only when no block refused. -/
theorem evmEvidence_eq_some {input : EvmEvidenceInput} {result : EvmEvidenceResult}
    {rail : RailObservation} (h : evmEvidence rt input = .ok result)
    (hRail : result.rail = some rail) :
    ∃ captured finalized lock verdict, admitEvmCapture rt input = .ok captured ∧
      checkChain rt input captured = .ok () ∧
      resolveFinalizedBlock rt captured input.capture.toCapture = .ok finalized ∧
      readLock rt input finalized = .ok lock ∧ judgeLock rt input lock = .ok verdict ∧
      verdict.rail = some rail.status := by
  -- a stop reports no rail
  have hStops : ∀ {base stop}, evmStop base stop ≠ .ok result := by
    intro base stop hStop
    rw [evmStop_rail hStop] at hRail
    cases hRail
  unfold evmEvidence at h
  dsimp only at h
  split at h
  · exact absurd h hStops
  · rename_i captured hAdmit
    split at h
    · exact absurd h hStops
    · rename_i hChain
      split at h
      · exact absurd h hStops
      · rename_i finalized hFinal
        split at h
        · exact absurd h hStops
        · rename_i lock hLock
          cases hJudge : judgeLock rt input lock with
          -- a judgement that fails is an error of the whole
          | error message =>
            rw [hJudge] at h
            cases h
          | ok verdict =>
            rw [hJudge] at h
            obtain rfl := Except.ok.inj h
            obtain ⟨status, hStatus, rfl⟩ := Option.map_eq_some_iff.mp hRail
            exact ⟨captured, finalized, lock, verdict, hAdmit, hChain, hFinal, hLock, hJudge,
              hStatus⟩

/-- Where no block refuses, the verdict on the lock is the result. -/
theorem evmEvidence_of_blocks {input : EvmEvidenceInput} {captured : EvmRailConfig}
    {finalized : FinalizedBlock} {lock : LocksResult} {verdict : EvmVerdict}
    (hAdmit : admitEvmCapture rt input = .ok captured) (hChain : checkChain rt input captured =
    .ok ()) (hFinal : resolveFinalizedBlock rt captured input.capture.toCapture = .ok finalized)
    (hLock : readLock rt input finalized = .ok lock)
    (hJudge : judgeLock rt input lock = .ok verdict) :
    ∃ base, evmEvidence rt input = .ok (evmAttach base verdict) := by
  unfold evmEvidence
  dsimp only
  simp only [hAdmit, hChain, hFinal, hLock, hJudge]
  exact ⟨_, rfl⟩

/-- A bound observation saw a lock that passes the comparison, whichever exchange it is. -/
theorem comparable_of_bound {input : EvmEvidenceInput} {rail : RailObservation}
    (h : EvmBound rt input rail) : LockedComparable rt input := by
  obtain ⟨captured, finalized, lock, hBacked, -, payee, payer, token, hPayee, hPayer, hToken,
    hFields⟩ := h
  obtain ⟨call, _, _, value, _, _, _, hCall, hAnswered, -, -, -, -, -, -, hDecoded⟩ := hBacked.shown
  intro call' params' value' lock' hCall' hAnswered' hDecoded' _
  obtain rfl := Option.some.inj (hCall.symm.trans hCall')
  obtain rfl := hAnswered.unique hAnswered'
  obtain rfl := Option.some.inj (hDecoded.symm.trans hDecoded')
  exact ⟨payee, payer, token, hPayee, hPayer, hToken, firstFieldMismatch_eq_none.mpr hFields⟩

/-- An observation is bound to the leg exactly when a lock that stands would pass the comparison
that is made for one that was settled. -/
theorem evmEvidence_bound_iff {input : EvmEvidenceInput} {result : EvmEvidenceResult}
    {rail : RailObservation} (h : evmEvidence rt input = .ok result)
    (hRail : result.rail = some rail) : EvmBound rt input rail ↔ LockedComparable rt input := by
  refine ⟨comparable_of_bound, fun hComparable => ?_⟩
  obtain ⟨captured, finalized, lock, verdict, hAdmit, hChain, hFinal, hLock, hJudge, hVerdict⟩ :=
    evmEvidence_eq_some h hRail
  obtain ⟨hComplete, hKind, hStatement, hChecked, hChainId, hContract, hFinality⟩ :=
    admitEvmCapture_ok hAdmit
  obtain ⟨hStatus, hSettled⟩ := judgeLock_ok hJudge hVerdict
  have hShown := readLock_ok hLock
  refine ⟨captured, finalized, lock, ⟨hComplete, hKind, hStatement, hChecked, hChainId, hContract,
    hFinality, checkChain_ok hChain, resolveFinalizedBlock_ok hFinal, hShown⟩, hStatus, ?_⟩
  by_cases hStands : lock.status = 1
  · obtain ⟨call, _, _, value, _, _, _, hCall, hAnswered, -, -, -, -, -, -, hDecoded⟩ := hShown
    obtain ⟨payee, payer, token, hPayee, hPayer, hToken, hMismatch⟩ :=
      hComparable call _ value lock hCall hAnswered hDecoded hStands
    exact ⟨payee, payer, token, hPayee, hPayer, hToken, firstFieldMismatch_eq_none.mp hMismatch⟩
  · exact hSettled hStands

end

/-! ## A sample capture

One lock that stands on a local chain, and its terms. The payee is resolved as the
lock's own, or as somebody else. -/

namespace Sample

def word (n : Nat) : List Char :=
  Hex.encode ((List.range 32).map fun i => UInt8.ofNat (n / 256 ^ (31 - i)))

def repeated (c : Char) (n : Nat) : String := String.ofList ('0' :: 'x' :: List.replicate n c)

def payer : String := repeated '1' 40
def payee : String := repeated '2' 40
def token : String := repeated '3' 40
def contract : String := repeated '4' 40
def other : String := repeated '5' 40
def hashLock : String := repeated '6' 64
def blockHash : String := repeated '7' 64

def lock : LocksResult := ⟨payer, payee, token, 50000, 1700000000000, 1800000000000, 1⟩

/-- The bytes of the lock: three addresses, three numbers, and the status. -/
def answer : String :=
  String.ofList ('0' :: 'x' :: (List.replicate 24 '0' ++ List.replicate 40 '1' ++
    List.replicate 24 '0' ++ List.replicate 40 '2' ++ List.replicate 24 '0' ++
    List.replicate 40 '3' ++ word 50000 ++ word 1700000000000 ++ word 1800000000000 ++ word 1))

def hexValue (digits : List Char) : Nat :=
  digits.foldl (fun n c => 16 * n + (Hex.value? c).getD 0) 0

def decodeLocks (value : Option Json) : Option LocksResult :=
  if value.bind Json.asText? = some answer then some lock else none

def runtime : EvmRuntime where
  toRuntime := textRuntime (fun text => text) fun bytes => bytes
  isAddress := HEX_ADDRESS
  isAddressEqual a b :=
    if HEX_ADDRESS a && HEX_ADDRESS b then .ok (toLowerCase a = toLowerCase b)
    else .error ("Address \"" ++ a ++ "\" is invalid.")
  hexToNumber text :=
    let n := hexValue (text.toList.drop 2)
    if n ≤ 9007199254740991 then some n else none
  encodeLocksCall hashLock := "0xed5e8437" ++ sliceFrom hashLock 2
  decodeLocksResult := decodeLocks
  keccak256 text := text

def config : EvmRailConfig :=
  ⟨ANVIL_LOCAL_PIN, "http://rpc", contract, [("USDC", token)], none, none, none, none⟩

def configJson : Json :=
  .obj [("pin", .obj [("chainId", .num (.int 31337)), ("name", .str "anvil-local"),
      ("caip2", .str "eip155:31337"),
      ("finality", .obj [("mode", .str "tag"), ("tag", .str "finalized")])]),
    ("endpoint", .str "http://rpc"), ("contract", .str contract),
    ("assets", .obj [("USDC", .str token)])]

/-- The parameters of a call of `locks` at a block. -/
def locksCall (hashLock blockHash : String) : Json :=
  .arr [.obj [("to", .str contract), ("data", .str (runtime.encodeLocksCall hashLock))],
    .obj [("blockHash", .str blockHash)]]

def calls : List Call :=
  [⟨"eth_chainId", .arr [], some (.str "0x7a69")⟩,
    ⟨"eth_getBlockByNumber", .arr [.str "finalized", .bool false],
      some (.obj [("hash", .str blockHash), ("number", .str "0x5")])⟩,
    ⟨"eth_call", locksCall hashLock blockHash, some (.str answer)⟩]

def input (resolved : String) : EvmEvidenceInput where
  terms := ⟨"c", "hash", hashLock, "50000", "USDC", "did:a", "did:b", 1700000000000, 1800000000000⟩
  config := config
  accounts := ⟨some resolved, some payer⟩
  capture :=
    { recordedCapture runtime.toRuntime hashLock 10 "nonce" calls with
      contract := some (.str contract)
      config := some configJson
      error := none }

/-- The sample's JSON text reads back. -/
theorem readsBack : ReadsBack runtime.toRuntime := readsBack_textRuntime _ _

/-- The calls of the sample are plain JSON. -/
theorem plain_calls : ∀ call ∈ calls,
    JsonText.Plain call.params ∧ ∀ value ∈ call.result, JsonText.Plain value := by
  simp [calls, locksCall, JsonText.Plain, JsonText.PlainItems, JsonText.PlainFields]

variable {resolved : String}

/-- The call of a method is the only one of it, and binds. -/
theorem binds {i : Nat} {call : Call} {label : String} (h : calls[i]? = some call) :
    bindEvmExchange runtime.toRuntime (input resolved).capture.toCapture
        (some (recordedExchange (recordedId runtime.toRuntime hashLock 10 "nonce" i) i call)) label
        =
      .ok ⟨⟨.str (recordedId runtime.toRuntime hashLock 10 "nonce" i), call.method,
        some call.params⟩, .result call.result⟩ := by
  obtain ⟨hParams, hResult⟩ := plain_calls call (List.mem_of_getElem? h)
  exact bindExchange_recordedExchange readsBack h hParams hResult

set_option maxRecDepth 8000 in
/-- The sample's config is accepted. -/
theorem checks_config : checkEvmRailConfig runtime (some configJson) = .ok config := by
  decide

/-- The sample's library finds an address equal to itself. -/
theorem equal_self {address : String} (h : HEX_ADDRESS address = true) :
    runtime.isAddressEqual address address = .ok true := by
  show (if HEX_ADDRESS address && HEX_ADDRESS address then _ else _) = _
  rw [h]
  exact congrArg Except.ok (decide_eq_true rfl)

/-- An address is equal to itself. -/
theorem addressEqual_self {address : String} (h : HEX_ADDRESS address = true) :
    addressEqual runtime address address = .ok true :=
  mapError_eq_ok.mpr (equal_self h)

/-- The shapes of the sample's texts. -/
theorem shapes : (HEX_ADDRESS payer = true ∧ HEX_ADDRESS payee = true ∧
    HEX_ADDRESS token = true ∧ HEX_ADDRESS contract = true) ∧ HEX_ADDRESS other = true ∧
    BLOCK_HASH_SHAPE blockHash = true ∧ HASH_LOCK_SHAPE hashLock = true := by
  unfold HASH_LOCK_SHAPE NEAR_HASH_LOCK_SHAPE
  simp only [HEX_ADDRESS, BLOCK_HASH_SHAPE, hexText, payer, payee, token, contract, other,
    blockHash, repeated, String.toList_ofList]
  decide

/-- The sample's addresses have the shape of addresses. -/
theorem addresses : HEX_ADDRESS payer = true ∧ HEX_ADDRESS payee = true ∧
    HEX_ADDRESS token = true ∧ HEX_ADDRESS contract = true := shapes.1

/-- The sample's numbers parse. -/
theorem numbers : parseHexNumber runtime (some (.str "0x7a69")) = some 31337 ∧
    parseHexNumber runtime (some (.str "0x5")) = some 5 ∧
    runtime.bigInt "50000" = some 50000 := by
  decide

example : parseHexNumber runtime (some (.str "7a69")) = none := by decide

/-- The sample's capture is admitted. -/
theorem admits : admitEvmCapture runtime (input resolved) = .ok config := by
  have hRef : hashLockRefMismatch (input resolved).terms (input resolved).capture.ref = false := by
    have hShape : HASH_LOCK_SHAPE hashLock = true := shapes.2.2.2
    show (false || !HASH_LOCK_SHAPE hashLock || decide (hashLock ≠ hashLock)) = false
    rw [hShape]
    simp
  obtain ⟨-, -, hToken, hContract⟩ := addresses
  have hSame : sameToken runtime token (assetToken config "USDC") = .ok true :=
    addressEqual_self hToken
  unfold admitEvmCapture
  simp only [bind_eq_ok, need_eq_ok, refute_eq_ok, require_eq_ok, mapError_eq_ok, exists_const]
  exact ⟨rfl, hRef, config, checks_config, token, rfl, rfl, true,
    addressEqual_self hContract, rfl, true, hSame, rfl, rfl, rfl⟩

/-- The sample shows the pinned chain. -/
theorem reads_chain : checkChain runtime (input resolved) config = .ok () := by
  obtain ⟨-, -, -, hContract⟩ := addresses
  have hShape : addressShape runtime (input resolved).capture.contract = some contract :=
    Option.filter_eq_some_iff.mpr ⟨rfl, hContract⟩
  unfold checkChain
  simp only [bind_eq_ok, need_eq_ok, require_eq_ok, mapError_eq_ok, exists_const, resultOf_eq_ok]
  exact ⟨_, binds (i := 0) rfl, _, rfl, 31337, numbers.1, rfl, contract, hShape, true,
    addressEqual_self hContract, rfl, rfl⟩

def finalized : FinalizedBlock := ⟨5, blockHash, "finalized"⟩

/-- The sample's block hash has the shape of one. -/
theorem blockHash_shape : BLOCK_HASH_SHAPE blockHash = true := shapes.2.2.1

/-- The final block of the sample is read. -/
theorem reads_block :
    resolveFinalizedBlock runtime config (input resolved).capture.toCapture = .ok finalized := by
  have hTagged : taggedBlock runtime "finalized" ⟨⟨.str (recordedId runtime.toRuntime hashLock 10
      "nonce" 1), "eth_getBlockByNumber", some (.arr [.str "finalized", .bool false])⟩,
      .result (some (.obj [("hash", .str blockHash), ("number", .str "0x5")]))⟩ =
      .ok (some finalized) := by
    have hHash : blockResultHash (some (.obj [("hash", .str blockHash), ("number", .str "0x5")])) =
        some blockHash := Option.filter_eq_some_iff.mpr ⟨rfl, blockHash_shape⟩
    have hBlockNumber : blockResultNumber runtime
        (some (.obj [("hash", .str blockHash), ("number", .str "0x5")])) = some 5 := numbers.2.1
    unfold taggedBlock
    simp only [bind_eq_ok, require_eq_ok, exists_const]
    refine ⟨paramsAre_of_params rfl (by simp [Json.isContainer]), ?_⟩
    rw [hHash, hBlockNumber]
    rfl
  show readTaggedBlock runtime (input resolved).capture.toCapture "finalized" none = .ok finalized
  unfold readTaggedBlock
  simp only [bind_eq_ok]
  exact ⟨_, binds (i := 1) rfl, some finalized, hTagged, rfl⟩

/-- The sample's call is the one expected. -/
theorem validates {id : RequestId} {ref hash : String} (hHash : BLOCK_HASH_SHAPE hash = true) :
    validateLocksCallRequest runtime ⟨id, "eth_call", some (locksCall ref hash)⟩ config ref hash =
      .ok () := by
  obtain ⟨-, -, -, hContract⟩ := addresses
  have hShape : addressShape runtime (some (.str contract)) = some contract :=
    Option.filter_eq_some_iff.mpr ⟨rfl, hContract⟩
  unfold validateLocksCallRequest
  simp only [bind_eq_ok, need_eq_ok, require_eq_ok, exists_const]
  refine ⟨_, rfl, _, rfl, contract, hShape, true, addressEqual_self hContract, rfl, ?_, _, rfl, ?_⟩
  · exact (Option.any_eq_true _ _).mpr ⟨_, rfl, decide_eq_true rfl⟩
  · refine (Option.any_eq_true _ _).mpr ⟨hash, rfl, ?_⟩
    rw [Bool.and_eq_true]
    exact ⟨hHash, decide_eq_true rfl⟩

/-- The sample's answer decodes. -/
theorem decodes : runtime.decodeLocksResult (some (.str answer)) = some lock := by
  have hDecoder (value : Option Json) : runtime.decodeLocksResult value = decodeLocks value := rfl
  rw [hDecoder, decodeLocks]
  exact if_pos rfl

/-- The lock of the sample is read. -/
theorem reads_lock : readLock runtime (input resolved) finalized = .ok lock := by
  unfold readLock
  simp only [bind_eq_ok, need_eq_ok, mapError_eq_ok, resultOf_eq_ok]
  exact ⟨_, binds (i := 2) rfl, some (.str answer), rfl, (), validates blockHash_shape, decodes⟩

/-- The payee and the other address differ. -/
theorem differs : runtime.isAddressEqual payee other = .ok false := by
  obtain ⟨-, hPayee, -, -⟩ := addresses
  have hOther : HEX_ADDRESS other = true := shapes.2.1
  have hText : toLowerCase payee ≠ toLowerCase other := by
    simp only [toLowerCase, payee, other, repeated, String.toList_ofList]
    decide
  show (if HEX_ADDRESS payee && HEX_ADDRESS other
    then .ok (toLowerCase payee = toLowerCase other)
    else .error ("Address \"" ++ payee ++ "\" is invalid.") : Except String Bool) = _
  rw [hPayee, hOther]
  exact congrArg Except.ok (decide_eq_false hText)

/-- The comparison finds nothing where the payee is the lock's own. -/
theorem matches_own :
    firstFieldMismatch runtime lock payee payer token (input payee).terms = .ok none := by
  obtain ⟨hPayer, hPayee, hToken, -⟩ := addresses
  exact firstFieldMismatch_eq_none.mpr
    ⟨equal_self hPayee, equal_self hPayer, equal_self hToken, numbers.2.2, rfl, rfl⟩

/-- It finds the payee where that is somebody else. -/
theorem mismatches_other :
    firstFieldMismatch runtime lock other payer token (input other).terms =
      .ok (some "evm-htlc: on-chain payee differs from the payee account line") := by
  unfold firstFieldMismatch
  have hPayee : runtime.isAddressEqual lock.payee other = .ok false := differs
  rw [hPayee]
  rfl

/-- The observation is made whatever the comparison finds. -/
theorem observes {mismatch : Option String}
    (h : firstFieldMismatch runtime lock resolved payer token (input resolved).terms =
      .ok mismatch) :
    ∃ result rail, evmEvidence runtime (input resolved) = .ok result ∧ result.rail = some rail ∧
      rail.status = .locked := by
  obtain ⟨verdict, hVerdict, hRail⟩ : ∃ verdict,
      judgeLock runtime (input resolved) lock = .ok verdict ∧ verdict.rail = some .locked := by
    show ∃ verdict, (firstFieldMismatch runtime lock resolved payer token (input resolved).terms >>=
      _) = .ok verdict ∧ _
    rw [h]
    cases mismatch
    · exact ⟨_, rfl, rfl⟩
    · exact ⟨_, rfl, rfl⟩
  obtain ⟨base, hEvidence⟩ := evmEvidence_of_blocks admits reads_chain reads_block reads_lock
    hVerdict
  refine ⟨_, railObservation base .locked, hEvidence, ?_, rfl⟩
  rw [evmAttach, hRail]
  rfl

/-- The capture shows one lock. -/
theorem shows {call : CaptureIndexExchange} {params value : Option Json} {shown : LocksResult}
    (hCall : findByMethod (input resolved).capture.exchanges "eth_call" = some call)
    (hAnswered : Answered runtime.toRuntime (input resolved).capture.toCapture call params value)
    (hDecoded : runtime.decodeLocksResult value = some shown) : shown = lock := by
  have hValue : resultOf (.result (some (.str answer))) "" = .ok (some (.str answer)) := rfl
  obtain ⟨e, he, hRecorded⟩ := answered_of_call (@binds resolved 2 _ "" rfl) hValue
  obtain rfl := Option.some.inj (hCall.symm.trans he)
  obtain rfl := hAnswered.unique hRecorded
  exact Option.some.inj (hDecoded.symm.trans decodes)

end Sample

/-- The lock of the sample pays the payee that the terms resolve, and its observation is bound. -/
theorem evmEvidence_bound_iff_sample : ∃ result rail,
    evmEvidence Sample.runtime (Sample.input Sample.payee) = .ok result ∧ result.rail = some rail ∧
      rail.status = .locked ∧ EvmBound Sample.runtime (Sample.input Sample.payee) rail := by
  obtain ⟨result, rail, hEvidence, hRail, hStatus⟩ := Sample.observes Sample.matches_own
  refine ⟨result, rail, hEvidence, hRail, hStatus, (evmEvidence_bound_iff hEvidence hRail).mpr ?_⟩
  intro call params value shown hCall hAnswered hDecoded _
  obtain rfl := Sample.shows hCall hAnswered hDecoded
  exact ⟨_, _, _, rfl, rfl, rfl, Sample.matches_own⟩

/-- The same lock is observed for terms whose payee is somebody else, whom it does not pay. -/
theorem locked_for_another_payee : ∃ result rail,
    evmEvidence Sample.runtime (Sample.input Sample.other) = .ok result ∧ result.rail = some rail ∧
      rail.status = .locked ∧ ¬ EvmBound Sample.runtime (Sample.input Sample.other) rail := by
  obtain ⟨result, rail, hEvidence, hRail, hStatus⟩ := Sample.observes Sample.mismatches_other
  refine ⟨result, rail, hEvidence, hRail, hStatus, ?_⟩
  rintro ⟨captured, finalized, shown, hBacked, -, payee, payer, token, hPayee, -, -, hSame, -⟩
  obtain ⟨call, _, _, value, _, _, _, hCall, hAnswered, -, -, -, -, -, -, hDecoded⟩ := hBacked.shown
  obtain rfl := Sample.shows hCall hAnswered hDecoded
  obtain rfl : Sample.other = payee := Option.some.inj hPayee
  cases Except.ok.inj (hSame.symm.trans Sample.differs)

end SwapDesk.Rails.Evm
