import SwapDesk.Lib.OrdMap
import SwapDesk.Rails.NearEvidence
import Mathlib.Data.List.Perm.Subperm

/-!
# SwapDesk — what NEAR evidence rests on

An observation of a NEAR lock is only as good as the captured bytes behind it.
The predicates here say, of the exchanges of a capture alone, what a read shows;
`Backed` collects what has to be shown for an observation, and the reader's blocks
are matched with it one by one.

Main result: `nearEvidence_sound`, which says that every observation, and every
lock reported as verified, is backed.
-/

namespace SwapDesk.Rails

open Check Desk

variable {rt : Runtime} {capture : Capture}

/-! ## What an exchange shows -/

/-- The parameters of a query of this kind, of this account, at this block. -/
structure Targets (params : Json) (requestType accountId blockHash : String) : Prop where
  requestType : params.field? "request_type" = some (.str requestType)
  accountId : params.field? "account_id" = some (.str accountId)
  blockId : params.field? "block_id" = some (.str blockHash)

/-- The call passes these arguments to a view method. -/
structure CallsView (rt : Runtime) (params : Json) (methodName : String)
    (args : List (String × Json)) : Prop where
  methodName : params.field? "method_name" = some (.str methodName)
  args : ∃ argsBase64, params.field? "args_base64" = some (.str argsBase64) ∧
    rt.jsonParse (rt.base64Text argsBase64) = some (.obj args)

/-- The value of a view call is the JSON text of `returned`, and no panic. -/
structure Returns (rt : Runtime) (value returned : Json) : Prop where
  text : ∃ items text, value.field? "result" = some (.arr items) ∧
    rt.decodeUtf8 (rt.uint8Array items) = some text ∧ rt.jsonParse text = some returned
  noPanic : ∀ error, value.field? "error" ≠ some (.str error)

def StatusShows (rt : Runtime) (capture : Capture) (chainId : String) : Prop :=
  ∃ params value, AnsweredAt rt capture 0 "status" params value ∧
    value.field? "chain_id" = some (.str chainId)

/-- The block was asked for at final finality. -/
def FinalBlockShows (rt : Runtime) (capture : Capture) (block : NearBlock) : Prop :=
  ∃ params value header, AnsweredAt rt capture 1 "block" (some params) value ∧
    params.field? "finality" = some (.str "final") ∧
    value.field? "header" = some header ∧
    header.field? "hash" = some (.str block.hash) ∧
    header.field? "height" = some (.num (.int block.height))

/-- The fields of a lock as the contract returns them. -/
structure IsViewOf (rt : Runtime) (returned : Json) (view : NearLockView) : Prop where
  status : returned.field? "status" = some (.str view.status.text)
  payer : returned.field? "payer" = some (.str view.payer)
  payee : returned.field? "payee" = some (.str view.payee)
  token : returned.field? "token" = some (.str view.token)
  amount : returned.field? "amount" = some (.str view.amount)
  claimByMs : ∃ text, returned.field? "claim_by_ms" = some (.str text) ∧
    rt.number text = some view.claimByMs
  refundAfterMs : ∃ text, returned.field? "refund_after_ms" = some (.str text) ∧
    rt.number text = some view.refundAfterMs
  preimage : ∀ text, returned.field? "preimage" = some (.str text) →
    view.preimage = some ("0x" ++ text)

/-- `get_lock` of exactly the ref's pair, at the block, returned this lock. -/
def LockShows (rt : Runtime) (capture : Capture) (contract blockHash : String) (ref : NearRef)
    (view : NearLockView) : Prop :=
  ∃ params args value returned, AnsweredAt rt capture 2 "query" (some params) value ∧
    Targets params "call_function" contract blockHash ∧
    CallsView rt params "get_lock" args ∧
    args.Perm [("hash_lock", .str (sliceFrom ref.hashLock 2)), ("payer", .str ref.payer)] ∧
    Returns rt value returned ∧ IsViewOf rt returned view

/-- The contract runs the code of this hash at the block. -/
def CodeShows (rt : Runtime) (capture : Capture) (contract blockHash codeHash : String) : Prop :=
  ∃ params value, AnsweredAt rt capture 3 "query" (some params) value ∧
    Targets params "view_account" contract blockHash ∧
    value.field? "block_hash" = some (.str blockHash) ∧
    value.field? "code_hash" = some (.str codeHash)

/-- The contract has no access key at the block. -/
def KeylessShows (rt : Runtime) (capture : Capture) (contract blockHash : String) : Prop :=
  ∃ params value, AnsweredAt rt capture 4 "query" (some params) value ∧
    Targets params "view_access_key_list" contract blockHash ∧
    value.field? "block_hash" = some (.str blockHash) ∧
    value.field? "keys" = some (.arr [])

/-- The key is a FullAccess key of the account at the block. -/
def FullAccessShows (rt : Runtime) (capture : Capture) (account key blockHash : String) : Prop :=
  ∃ e ∈ capture.exchanges, ∃ params value, e.method = "query" ∧
    Answered rt capture e (some params) (some value) ∧
    Targets params "view_access_key" account blockHash ∧
    params.field? "public_key" = some (.str key) ∧
    value.field? "block_hash" = some (.str blockHash) ∧
    value.field? "permission" = some (.str "FullAccess")

/-- The payee has a storage balance on the token at the block. -/
def RegisteredShows (rt : Runtime) (capture : Capture) (token payee blockHash : String) : Prop :=
  ∃ params args value returned total available,
    AnsweredAt rt capture 5 "query" (some params) value ∧
    Targets params "call_function" token blockHash ∧
    CallsView rt params "storage_balance_of" args ∧
    args.lookup "account_id" = some (.str payee) ∧
    Returns rt value returned ∧
    returned.field? "total" = some (.str total) ∧
    returned.field? "available" = some (.str available)

/-! ## What an observation has to be backed by -/

/-- The capture's configuration is checked, agrees with the reader's, and is the one the
index names. -/
structure ConfigAgrees (input : NearEvidenceInput) (captured : NearRailConfig) : Prop where
  checked : checkNearRailConfig input.capture.config = .ok captured
  chainId : captured.pin.chainId = input.config.pin.chainId
  name : captured.pin.name = input.config.pin.name
  contract : captured.contract = input.config.contract
  token : captured.assets.USDC = input.config.assets.USDC
  codeHash : captured.htlcCodeHash = input.config.htlcCodeHash
  indexPin : input.capture.pin = captured.pin.name
  indexCaip2 : input.capture.caip2 = captured.pin.caip2
  indexEndpoint : input.capture.endpoint = captured.endpoint

/-- The lock is the leg's own: the parties of the lines, the token, and the terms. -/
structure LockMatches (rt : Runtime) (input : NearEvidenceInput) (ref : NearRef)
    (view : NearLockView) : Prop where
  refPayer : view.payer = ref.payer
  payer : input.accounts.payer = some view.payer
  payee : input.accounts.payee = some view.payee
  token : view.token = input.config.assets.USDC
  amount : ∃ n, rt.bigInt view.amount = some n ∧ rt.bigInt input.terms.amount = some n
  claimByMs : view.claimByMs = .int input.terms.claimByMs
  refundAfterMs : view.refundAfterMs = .int input.terms.refundAfterMs

/-- A party's account is held by the key its line carries. -/
def KeyHeld (rt : Runtime) (capture : Capture) (blockHash : String) (account key : Option String) :
    Prop :=
  ∃ a k, account = some a ∧ key = some k ∧ FullAccessShows rt capture a k blockHash

structure Backed (rt : Runtime) (input : NearEvidenceInput) (ref : NearRef)
    (captured : NearRailConfig) (block : NearBlock) (view : NearLockView) : Prop where
  complete : input.capture.error = none
  lockKind : input.terms.lock = "hash"
  refParses : parseNearRef input.capture.ref = some ref
  statement : ref.hashLock = input.terms.statement
  asset : input.terms.asset = NEAR_ASSET_ID
  configAgrees : ConfigAgrees input captured
  statusShows : StatusShows rt input.capture.toCapture captured.pin.chainId
  blockShows : FinalBlockShows rt input.capture.toCapture block
  lockShows : LockShows rt input.capture.toCapture captured.contract block.hash ref view
  codeShows : ∃ codeHash, captured.htlcCodeHash = some codeHash ∧
    CodeShows rt input.capture.toCapture captured.contract block.hash codeHash
  keylessShows : KeylessShows rt input.capture.toCapture captured.contract block.hash
  keyControl : input.keyControl = .required →
    KeyHeld rt input.capture.toCapture block.hash input.accounts.payee input.accounts.payeeKey ∧
    KeyHeld rt input.capture.toCapture block.hash input.accounts.payer input.accounts.payerKey
  matchesLeg : LockMatches rt input ref view

/-- What a `locked` observation needs beyond that. -/
structure BackedLocked (rt : Runtime) (input : NearEvidenceInput) (ref : NearRef)
    (block : NearBlock) (view : NearLockView) : Prop where
  status : view.status = .locked
  unrevealed : ∀ preimage, view.preimage = some preimage →
    preimageOpensHashLock rt preimage (sliceFrom ref.hashLock 2) = false
  registered : RegisteredShows rt input.capture.toCapture input.config.assets.USDC view.payee
    block.hash

/-! ## Reading the blocks back -/

/-- The check of a target decides it. -/
theorem targets_iff {params : Json} {requestType accountId blockHash : String} :
    targets params requestType accountId blockHash = true ↔
      Targets params requestType accountId blockHash := by
  unfold targets
  rw [Bool.and_eq_true, Bool.and_eq_true, decide_eq_true_eq, decide_eq_true_eq,
    decide_eq_true_eq, Json.text?_eq_some, Json.text?_eq_some, Json.text?_eq_some]
  exact ⟨fun ⟨⟨h₁, h₂⟩, h₃⟩ => ⟨h₁, h₂, h₃⟩, fun ⟨h₁, h₂, h₃⟩ => ⟨⟨h₁, h₂⟩, h₃⟩⟩

/-- Parameters that pass a test are there to be tested. -/
theorem params_of_any {request : ParsedRequest} {p : Json → Bool}
    (h : (requestParamsObject request).any p = true) :
    ∃ params, request.params = some params ∧ p params = true := by
  cases hparams : requestParamsObject request with
  | none =>
    rw [hparams] at h
    cases h
  | some params =>
    rw [hparams] at h
    exact ⟨params, (Option.filter_eq_some_iff.mp hparams).1, h⟩

/-- The arguments of a call are an object. -/
theorem decodeCallArgs_eq_some {params args : Json} (h : decodeCallArgs rt params = some args) :
    ∃ argsBase64 fields, params.field? "args_base64" = some (.str argsBase64) ∧
      rt.jsonParse (rt.base64Text argsBase64) = some (.obj fields) ∧ args = .obj fields := by
  unfold decodeCallArgs at h
  obtain ⟨argsBase64, hText, h⟩ := Option.bind_eq_some_iff.mp h
  obtain ⟨hParse, hObject⟩ := Option.filter_eq_some_iff.mp h
  obtain ⟨fields, rfl⟩ := Json.isObject_iff.mp hObject
  exact ⟨argsBase64, fields, Json.text?_eq_some.mp hText, hParse, rfl⟩

/-- What a view call returned, when it did not panic. -/
theorem decodeCallFunctionResult_text {value : Option Json} {text : String}
    (h : decodeCallFunctionResult rt value = some (.text text)) :
    ∃ v, value = some v ∧ (∀ error, v.field? "error" ≠ some (.str error)) ∧
      ∃ items, v.field? "result" = some (.arr items) ∧
        rt.decodeUtf8 (rt.uint8Array items) = some text := by
  unfold decodeCallFunctionResult at h
  split at h
  · cases h
  · rename_i v hv
    split at h
    · cases Option.some.inj h
    · rename_i hError
      simp only [Option.bind_eq_bind, Option.bind_eq_some_iff, Option.pure_def] at h
      obtain ⟨items, hItems, text', hText, h⟩ := h
      obtain rfl := CallFunctionResult.text.inj (Option.some.inj h)
      refine ⟨v, (Option.filter_eq_some_iff.mp hv).1, ?_, items, ?_, hText⟩
      · intro error hField
        rw [Json.text?_eq_some.mpr hField] at hError
        cases hError
      · unfold Json.items? at hItems
        split at hItems
        · rename_i items' hField
          obtain rfl := Option.some.inj hItems
          exact hField
        · cases hItems

/-- A value that is read was parsed from its text. -/
theorem parseOption_ok {α : Type} {read : Json → Option α} {text : String} {a : α}
    (h : parseOption rt read text = .ok a) :
    ∃ v, rt.jsonParse text = some v ∧ read v = some a := by
  unfold parseOption at h
  split at h
  · cases h
  · cases h
  · rename_i v _ hv
    split at h
    · cases h
    · rename_i b hb
      obtain rfl := Parsed.ok.inj h
      exact ⟨v, hv, hb⟩

/-- A status is read off its own text. -/
theorem ofText?_eq_some {text : String} {status : NearLockStatus}
    (h : NearLockStatus.ofText? text = some status) : status.text = text := by
  unfold NearLockStatus.ofText? at h
  split at h <;> cases h <;> rfl

/-- A lock that is read has the fields of the view. -/
theorem isViewOf_of_read {v : Json} {view : NearLockView} (h : readLockView rt v = some view) :
    IsViewOf rt v view := by
  unfold readLockView at h
  simp only [Option.bind_eq_bind, Option.bind_eq_some_iff, Option.pure_def] at h
  obtain ⟨status, ⟨statusText, hStatus, hOf⟩, payer, hPayer, payee, hPayee, token, hToken, amount,
    hAmount, claimByMs, hClaim, refundAfterMs, hRefund, h⟩ := h
  obtain rfl := Option.some.inj h
  have hNumber : ∀ {key : String} {n : JsonNum},
      (∃ text, v.text? key = some text ∧ rt.number text = some n) →
        ∃ text, v.field? key = some (.str text) ∧ rt.number text = some n := by
    rintro key n ⟨text, hText, hn⟩
    exact ⟨text, Json.text?_eq_some.mp hText, hn⟩
  refine ⟨?_, Json.text?_eq_some.mp hPayer, Json.text?_eq_some.mp hPayee,
    Json.text?_eq_some.mp hToken, Json.text?_eq_some.mp hAmount, hNumber hClaim,
    hNumber hRefund, ?_⟩
  · rw [ofText?_eq_some hOf]
    exact Json.text?_eq_some.mp hStatus
  · intro text hText
    show (v.text? "preimage").map _ = _
    rw [Json.text?_eq_some.mpr hText]
    rfl

/-- Two fields, with these two names, are all there is. -/
theorem perm_of_two_fields {fields : List (String × Json)} {k₁ k₂ : String} {v₁ v₂ : Json}
    (hne : k₁ ≠ k₂) (hlen : fields.length = 2) (h₁ : fields.lookup k₁ = some v₁)
    (h₂ : fields.lookup k₂ = some v₂) : fields.Perm [(k₁, v₁), (k₂, v₂)] := by
  have hNodup : [(k₁, v₁), (k₂, v₂)].Nodup := by simp [hne]
  have hSubset : [(k₁, v₁), (k₂, v₂)] ⊆ fields := by
    intro p hp
    rcases List.mem_cons.mp hp with rfl | hp
    · exact Entries.mem_of_lookup h₁
    · obtain rfl := List.mem_singleton.mp hp
      exact Entries.mem_of_lookup h₂
  have hSubperm := List.subperm_of_subset hNodup hSubset
  exact (hSubperm.perm_of_length_le (Nat.le_of_eq hlen)).symm

/-! ## What each block establishes -/

/-- What admission has checked of a capture. -/
theorem admitCapture_ok {input : NearEvidenceInput} {captured : NearRailConfig}
    (h : admitCapture input = .ok captured) :
    input.capture.error = none ∧ nearLockRefInvalid input.terms input.capture.ref = false ∧
      input.terms.asset = NEAR_ASSET_ID ∧ ConfigAgrees input captured := by
  unfold admitCapture at h
  simp only [bind_eq_ok, refute_eq_ok, require_eq_ok, mapError_eq_ok, exists_const] at h
  obtain ⟨hComplete, hRef, hAsset, config, hChecked, ⟨hChain, hName, hContract, hToken, hCode⟩,
    ⟨hPin, hCaip2, hEndpoint⟩, h⟩ := h
  obtain rfl := Except.ok.inj h
  exact ⟨hComplete, hRef, hAsset, hChecked, hChain, hName, hContract, hToken, hCode, hPin, hCaip2,
    hEndpoint⟩

/-- A ref that is not refused names the hash lock of the terms. -/
theorem ref_of_not_invalid {terms : LockTerms} {ref : String} {parts : NearRef}
    (h : nearLockRefInvalid terms ref = false) (hParts : parseNearRef ref = some parts) :
    terms.lock = "hash" ∧ parts.hashLock = terms.statement := by
  unfold nearLockRefInvalid at h
  rw [hParts] at h
  split at h
  · cases h
  · rename_i hLock
    exact ⟨not_not.mp hLock, not_not.mp (of_decide_eq_false h)⟩

/-- A status that passes shows the pinned chain. -/
theorem checkStatus_ok {captured : NearRailConfig} (h : checkStatus rt capture captured = .ok ()) :
    StatusShows rt capture captured.pin.chainId := by
  unfold checkStatus at h
  simp only [bind_eq_ok, need_eq_ok, require_eq_ok, resultOf_eq_ok] at h
  obtain ⟨bound, hBound, value, hResult, status, hStatus, hChain⟩ := h
  unfold decodeStatusResult at hStatus
  simp only [Option.bind_eq_bind, Option.bind_eq_some_iff, Option.pure_def] at hStatus
  obtain ⟨v, hv, chainId, hChainId, version, -, hStatus⟩ := hStatus
  obtain rfl := Option.some.inj hStatus
  obtain rfl := (Option.filter_eq_some_iff.mp hv).1
  refine ⟨_, v, answeredAt_of_bindExchange hBound hResult, ?_⟩
  rw [← hChain]
  exact nonEmptyText?_eq_some hChainId

/-- A block that is read was answered as final. -/
theorem readBlock_ok {block : NearBlock} (h : readBlock rt capture = .ok block) :
    FinalBlockShows rt capture block := by
  unfold readBlock at h
  simp only [bind_eq_ok, need_eq_ok, require_eq_ok, resultOf_eq_ok, exists_const] at h
  obtain ⟨bound, hBound, hFinal, value, hResult, hBlock⟩ := h
  obtain ⟨params, hParams, hFinal⟩ := params_of_any hFinal
  unfold decodeBlockResult at hBlock
  simp only [Option.bind_eq_bind, Option.bind_eq_some_iff, Option.pure_def] at hBlock
  obtain ⟨v, hv, header, hHeader, height, hHeight, hash, hHash, timestampNs, -, hBlock⟩ := hBlock
  obtain rfl := Option.some.inj hBlock
  obtain rfl := (Option.filter_eq_some_iff.mp hv).1
  refine ⟨params, v, header, hParams ▸ answeredAt_of_bindExchange hBound hResult,
    Json.text?_eq_some.mp (of_decide_eq_true hFinal), (Option.filter_eq_some_iff.mp hHeader).1,
    Json.text?_eq_some.mp (Option.filter_eq_some_iff.mp hHash).1,
    Json.int?_eq_some.mp (Option.filter_eq_some_iff.mp hHeight).1⟩

/-- Both names are there, and nothing else. -/
theorem lockArgs_perm {ref : NearRef} {fields : List (String × Json)}
    (hLen : (Json.obj fields).fieldNames.length = 2)
    (hHash : (Json.obj fields).text? "hash_lock" = some (sliceFrom ref.hashLock 2))
    (hPayer : (Json.obj fields).text? "payer" = some ref.payer) :
    fields.Perm [("hash_lock", .str (sliceFrom ref.hashLock 2)), ("payer", .str ref.payer)] := by
  refine perm_of_two_fields (by decide) ?_ (Json.text?_eq_some.mp hHash)
    (Json.text?_eq_some.mp hPayer)
  rwa [Json.fieldNames, List.length_map] at hLen

/-- A lock that is read was answered by the contract at that block. -/
theorem readLock_ok {captured : NearRailConfig} {block : NearBlock} {ref : NearRef}
    {view : NearLockView} (h : readLock rt capture captured block ref = .ok (some view)) :
    LockShows rt capture captured.contract block.hash ref view := by
  -- what was checked of the exchange, then of its value
  unfold readLock at h
  simp only [bind_eq_ok, need_eq_ok, require_eq_ok, resultOf_eq_ok, exists_const] at h
  obtain ⟨bound, hBound, hTargets, value, hResult, call, hCall, h⟩ := h
  obtain ⟨params, hParams, hTargets⟩ := params_of_any hTargets
  unfold targetsLock at hTargets
  rw [Bool.and_eq_true, Bool.and_eq_true, targets_iff, decide_eq_true_eq] at hTargets
  obtain ⟨⟨hTargets, hMethod⟩, hArgs⟩ := hTargets
  -- the arguments of the call name the lock
  cases hDecoded : decodeCallArgs rt params with
  | none =>
    rw [hDecoded] at hArgs
    cases hArgs
  | some args =>
    rw [hDecoded, Option.any_some, Bool.and_eq_true, Bool.and_eq_true, decide_eq_true_eq,
      decide_eq_true_eq, decide_eq_true_eq] at hArgs
    obtain ⟨⟨hLen, hHash⟩, hPayer⟩ := hArgs
    obtain ⟨argsBase64, fields, hBase64, hParse, rfl⟩ := decodeCallArgs_eq_some hDecoded
    split at h
    · cases h
    · rename_i text
      obtain ⟨v, rfl, hNoPanic, items, hItems, hText⟩ := decodeCallFunctionResult_text hCall
      -- the row that the contract returned
      split at h
      · cases h
      · cases h
      · rename_i view' hView
        obtain rfl := Option.some.inj (Except.ok.inj h)
        obtain ⟨returned, hReturned, hRead⟩ := parseOption_ok hView
        exact ⟨params, fields, v, returned,
          hParams ▸ answeredAt_of_bindExchange hBound hResult, hTargets,
          ⟨Json.text?_eq_some.mp hMethod, argsBase64, hBase64, hParse⟩,
          lockArgs_perm hLen hHash hPayer, ⟨⟨items, text, hItems, hText, hReturned⟩, hNoPanic⟩,
          isViewOf_of_read hRead⟩

/-- Code that raises no reason hashes to what is pinned. -/
theorem contractCodeReason_ok {config : NearRailConfig} {block : NearBlock}
    (h : contractCodeReason rt capture config block = .ok ()) :
    ∃ codeHash, config.htlcCodeHash = some codeHash ∧
      CodeShows rt capture config.contract block.hash codeHash := by
  unfold contractCodeReason at h
  simp only [bind_eq_ok, need_eq_ok, require_eq_ok, resultOf_eq_ok, exists_const] at h
  obtain ⟨bound, hBound, hTargets, value, hResult, a, ha, codeHash, hCode, hPinned⟩ := h
  obtain ⟨params, hParams, hTargets⟩ := params_of_any hTargets
  obtain rfl := (Option.filter_eq_some_iff.mp ha).1
  obtain ⟨hCode, hBlock⟩ := Option.filter_eq_some_iff.mp hCode
  exact ⟨codeHash, hPinned.symm, params, a, hParams ▸ answeredAt_of_bindExchange hBound hResult,
    targets_iff.mp hTargets, Json.text?_eq_some.mp (of_decide_eq_true hBlock),
    nonEmptyText?_eq_some hCode⟩

/-- Keys that raise no reason are none. -/
theorem contractKeysReason_ok {config : NearRailConfig} {block : NearBlock}
    (h : contractKeysReason rt capture config block = .ok ()) :
    KeylessShows rt capture config.contract block.hash := by
  unfold contractKeysReason at h
  simp only [bind_eq_ok, need_eq_ok, require_eq_ok, resultOf_eq_ok, exists_const] at h
  obtain ⟨bound, hBound, hTargets, value, hResult, k, hk, keys, hKeys, hEmpty⟩ := h
  obtain ⟨params, hParams, hTargets⟩ := params_of_any hTargets
  obtain rfl := (Option.filter_eq_some_iff.mp hk).1
  obtain ⟨hKeys, hBlock⟩ := Option.filter_eq_some_iff.mp hKeys
  obtain rfl := List.length_eq_zero_iff.mp hEmpty
  exact ⟨params, k, hParams ▸ answeredAt_of_bindExchange hBound hResult, targets_iff.mp hTargets,
    Json.text?_eq_some.mp (of_decide_eq_true hBlock), Json.items?_eq_some.mp hKeys⟩

/-- A key read is an exchange of its method. -/
theorem keyReadOf_eq_some {role account key : String} {e : CaptureIndexExchange} {params : Json}
    {outcome : EnvelopeOutcome}
    (h : keyReadOf rt capture role account key e = some (params, outcome)) :
    e.method = "query" ∧ params.field? "request_type" = some (.str "view_access_key") ∧
      params.field? "account_id" = some (.str account) ∧
      params.field? "public_key" = some (.str key) ∧
      ∀ value, outcome = .result (some value) → Answered rt capture e (some params) (some value) := by
  unfold keyReadOf at h
  -- a key read is an exchange that binds and asks for this key
  split at h
  · cases h
  · rename_i hMethod
    split at h
    · cases h
    · rename_i bound hBound
      split at h
      · cases h
      · rename_i params' hParams
        split at h
        · cases h
        · rename_i hFields
          simp only [not_or, not_not, Json.text?_eq_some] at hFields
          obtain ⟨rfl, rfl⟩ := Prod.mk.inj (Option.some.inj h)
          refine ⟨not_not.mp hMethod, hFields.1, hFields.2.1, hFields.2.2, ?_⟩
          intro value hValue
          obtain ⟨request, outcome⟩ := bound
          dsimp only at hValue
          subst hValue
          obtain ⟨e', he', hAnswered⟩ := answered_of_bindExchange hBound
          obtain rfl := Option.some.inj he'
          rw [← (Option.filter_eq_some_iff.mp hParams).1]
          exact hAnswered

/-- The scan passes only on a read that shows a FullAccess key. -/
theorem accountKeyScan_ok {role account key : String} {block : NearBlock} :
    ∀ {es : List CaptureIndexExchange}, es ⊆ capture.exchanges →
      accountKeyScan rt capture role account key block es = .ok () →
      FullAccessShows rt capture account key block.hash
  | [], _, h => by cases h
  | e :: rest, hSub, h => by
    rw [accountKeyScan] at h
    split at h
    · exact accountKeyScan_ok (List.subset_of_cons_subset hSub) h
    · rename_i params outcome hRead
      obtain ⟨hMethod, hType, hAccount, hKey, hAnswered⟩ := keyReadOf_eq_some hRead
      unfold keyReadReason at h
      simp only [bind_eq_ok, need_eq_ok, require_eq_ok, resultOf_eq_ok, exists_const] at h
      obtain ⟨hAt, value, hResult, result, hValue, -, hBlock, hPermission⟩ := h
      obtain rfl := (Option.filter_eq_some_iff.mp hValue).1
      exact ⟨e, hSub List.mem_cons_self, params, result, hMethod, hAnswered result hResult,
        ⟨hType, hAccount, Json.text?_eq_some.mp hAt⟩, hKey, Json.text?_eq_some.mp hBlock,
        Json.text?_eq_some.mp hPermission⟩

/-- A party with an account is shown to hold it. -/
theorem partyKeyReason_ok {role account : String} {key : Option String} {block : NearBlock}
    (h : partyKeyReason rt capture block role (some account) key = .ok ()) :
    KeyHeld rt capture block.hash (some account) key := by
  unfold partyKeyReason at h
  split at h
  · contradiction
  · cases h
  · contradiction
  · rename_i k a hAccount
    obtain rfl := Option.some.inj hAccount
    exact ⟨account, k, rfl, rfl, accountKeyScan_ok (fun _ he => he) h⟩

/-- A payee that raises no reason is registered. -/
theorem payoutReason_ok {token payee : String} {block : NearBlock}
    (h : payoutReason rt capture token payee block = .ok ()) :
    RegisteredShows rt capture token payee block.hash := by
  -- what was checked of the exchange, then of its value
  unfold payoutReason at h
  simp only [bind_eq_ok, need_eq_ok, require_eq_ok, mapError_eq_ok, resultOf_eq_ok,
    exists_const] at h
  obtain ⟨bound, hBound, hTargets, value, hResult, call, hCall, h⟩ := h
  obtain ⟨params, hParams, hTargets⟩ := params_of_any hTargets
  unfold targetsStorage at hTargets
  rw [Bool.and_eq_true, Bool.and_eq_true, targets_iff, decide_eq_true_eq] at hTargets
  obtain ⟨⟨hTargets, hMethod⟩, hArgs⟩ := hTargets
  cases hDecoded : decodeCallArgs rt params with
  | none =>
    rw [hDecoded] at hArgs
    cases hArgs
  | some args =>
    rw [hDecoded, Option.any_some, decide_eq_true_eq] at hArgs
    obtain ⟨argsBase64, fields, hBase64, hParse, rfl⟩ := decodeCallArgs_eq_some hDecoded
    split at h
    · cases h
    · rename_i text
      obtain ⟨v, rfl, hNoPanic, items, hItems, hText⟩ := decodeCallFunctionResult_text hCall
      split at h
      · cases h
      · cases h
      · rename_i balance hBalance
        obtain ⟨returned, hReturned, hRead⟩ := parseOption_ok hBalance
        -- a registered account has a balance
        unfold readStorageBalance at hRead
        simp only [Option.bind_eq_bind, Option.bind_eq_some_iff, Option.pure_def] at hRead
        obtain ⟨total, hTotal, available, hAvailable, -⟩ := hRead
        exact ⟨params, fields, v, returned, total, available,
          hParams ▸ answeredAt_of_bindExchange hBound hResult, hTargets,
          ⟨Json.text?_eq_some.mp hMethod, argsBase64, hBase64, hParse⟩,
          Json.text?_eq_some.mp hArgs, ⟨⟨items, text, hItems, hText, hReturned⟩, hNoPanic⟩,
          Json.text?_eq_some.mp hTotal, Json.text?_eq_some.mp hAvailable⟩

/-- No mismatch leaves nothing that differs. -/
theorem lockMatches_of_no_mismatch {input : NearEvidenceInput} {ref : NearRef}
    {view : NearLockView} {payee payer : String} (hPayee : input.accounts.payee = some payee)
    (hPayer : input.accounts.payer = some payer)
    (h : firstFieldMismatch rt ref.payer view payee (some payer) input.config.assets.USDC
      input.terms = none) : LockMatches rt input ref view := by
  unfold firstFieldMismatch at h
  split_ifs at h with hRef hLine hToken hAmount hClaim hRefund hPayerLine
  rw [not_not] at hRef hLine hToken hClaim hRefund
  rw [Bool.not_eq_true, Bool.not_eq_false', amountsEqual_iff] at hAmount
  have hPayerLine : view.payer = payer := by simpa using hPayerLine
  exact ⟨hRef, hPayerLine ▸ hPayer, hLine ▸ hPayee, hToken, hAmount, hClaim, hRefund⟩

/-- A final view that is read was answered throughout. -/
theorem readFinalView_ok {captured : NearRailConfig} {view : FinalView}
    (h : readFinalView rt capture captured = .ok view) :
    StatusShows rt capture captured.pin.chainId ∧ FinalBlockShows rt capture view.block ∧
      parseNearRef capture.ref = some view.ref ∧
      ∀ onChain, view.lock = some onChain →
        LockShows rt capture captured.contract view.block.hash view.ref onChain := by
  unfold readFinalView at h
  simp only [bind_eq_ok, need_eq_ok, mapError_eq_ok] at h
  obtain ⟨u, hStatus, block, hBlock, ref, hRef, lock, hLock, h⟩ := h
  obtain rfl := Except.ok.inj h
  refine ⟨checkStatus_ok hStatus, readBlock_ok hBlock, hRef, ?_⟩
  rintro onChain rfl
  exact readLock_ok hLock

/-- A locked row that is judged matches its terms. -/
theorem judgeLocked_ok {input : NearEvidenceInput} {view : FinalView} {onChain : NearLockView}
    {payee : String} {mismatch : Option String} {verdict : Verdict}
    (h : judgeLocked rt input view onChain payee mismatch = .ok verdict) :
    mismatch = none ∧ verdict.status = .locked ∧
      (∀ preimage, onChain.preimage = some preimage →
        preimageOpensHashLock rt preimage (sliceFrom view.ref.hashLock 2) = false) ∧
      RegisteredShows rt input.capture.toCapture input.config.assets.USDC payee
        view.block.hash := by
  unfold judgeLocked at h
  simp only [bind_eq_ok, refute_eq_ok, require_eq_ok, exists_const] at h
  obtain ⟨hMismatch, hUnrevealed, u, hPayout, h⟩ := h
  obtain rfl := Except.ok.inj h
  refine ⟨hMismatch, rfl, ?_, payoutReason_ok hPayout⟩
  intro preimage hPreimage
  rw [hPreimage, Option.any_some] at hUnrevealed
  exact Bool.not_eq_true _ ▸ hUnrevealed

/-- A settled row that is judged shows how it ended. -/
theorem judgeSettled_ok {input : NearEvidenceInput} {onChain : NearLockView}
    {mismatch : Option String} {verdict : Verdict}
    (h : judgeSettled input onChain mismatch = .ok verdict) :
    mismatch = none ∧ verdict.railVerified = false ∧
      verdict.status = if onChain.status = .claimed then .claimed else .refunded := by
  unfold judgeSettled at h
  simp only [bind_eq_ok, refute_eq_ok, exists_const] at h
  obtain ⟨hMismatch, h⟩ := h
  obtain rfl := Except.ok.inj h
  exact ⟨hMismatch, rfl, rfl⟩

/-- A verdict is reached only of a lock that is there, on the pinned contract, between
parties that hold their accounts. -/
theorem judgeLock_ok {input : NearEvidenceInput} {captured : NearRailConfig} {view : FinalView}
    {verdict : Verdict} (h : judgeLock rt input captured view = .ok verdict) :
    ∃ onChain, view.lock = some onChain ∧
      contractPinReason rt input.capture.toCapture captured view.block = .ok () ∧
      keyControlReason rt input view.block = .ok () ∧
      LockMatches rt input view.ref onChain ∧
      (verdict.status = .locked ∧ BackedLocked rt input view.ref view.block onChain ∨
        verdict.railVerified = false ∧
          (verdict.status = .claimed ∧ onChain.status = .claimed ∨
            verdict.status = .refunded ∧ onChain.status = .refunded)) := by
  unfold judgeLock at h
  simp only [bind_eq_ok, need_eq_ok, require_eq_ok, mapError_eq_ok, exists_const] at h
  obtain ⟨onChain, hLock, u, hPin, u', hKeys, hFinal, payee, hPayee, payer, hPayer, h⟩ := h
  refine ⟨onChain, hLock, hPin, hKeys, ?_⟩
  split at h
  · rename_i hStatus
    obtain ⟨hMismatch, hVerdict, hUnrevealed, hRegistered⟩ := judgeLocked_ok h
    have hMatches := lockMatches_of_no_mismatch hPayee hPayer hMismatch
    refine ⟨hMatches, .inl ⟨hVerdict, hStatus, hUnrevealed, ?_⟩⟩
    obtain rfl := Option.some.inj (hPayee.symm.trans hMatches.payee)
    exact hRegistered
  · rename_i hStatus
    obtain ⟨hMismatch, hVerified, hVerdict⟩ := judgeSettled_ok h
    refine ⟨lockMatches_of_no_mismatch hPayee hPayer hMismatch, .inr ⟨hVerified, ?_⟩⟩
    -- neither locked nor transitional, so claimed or refunded
    cases hOn : onChain.status with
    | locked => exact absurd hOn hStatus
    | claiming => exact absurd hOn hFinal.1
    | refunding => exact absurd hOn hFinal.2
    | claimed => exact .inl ⟨by rw [hVerdict, if_pos hOn], rfl⟩
    | refunded => exact .inr ⟨by rw [hVerdict, if_neg (by rw [hOn]; decide)], rfl⟩

/-! ## The reader -/

/-- An observation is attached only when no block refused. -/
theorem nearEvidence_cases (input : NearEvidenceInput) :
    ((nearEvidence rt input).rail = none ∧ (nearEvidence rt input).lock.railVerified ≠ some true) ∨
      ∃ captured view verdict, admitCapture input = .ok captured ∧
        readFinalView rt input.capture.toCapture captured = .ok view ∧
        judgeLock rt input captured view = .ok verdict ∧
        (nearEvidence rt input).rail.map (·.status) = some verdict.status ∧
        (nearEvidence rt input).lock.railVerified = some verdict.railVerified := by
  have hRefuse : ∀ (base : LockEvidence) (refusal : Refusal), (refuse base refusal).rail = none ∧
      (refuse base refusal).lock.railVerified ≠ some true := by
    intro base refusal
    cases refusal <;> exact ⟨rfl, by simp [refuse, Refusal.railVerified]⟩
  unfold nearEvidence
  dsimp only
  split
  · exact .inl (hRefuse _ _)
  · rename_i captured hAdmit
    split
    · exact .inl (hRefuse _ _)
    · rename_i view hView
      split
      · exact .inl (hRefuse _ _)
      · rename_i verdict hJudge
        exact .inr ⟨captured, view, verdict, hAdmit, hView, hJudge, rfl, rfl⟩

/-- The blocks together back what they let pass. -/
theorem backed_of_blocks {input : NearEvidenceInput} {captured : NearRailConfig}
    {view : FinalView} {onChain : NearLockView} (hAdmit : admitCapture input = .ok captured)
    (hView : readFinalView rt input.capture.toCapture captured = .ok view)
    (hLock : view.lock = some onChain)
    (hPin : contractPinReason rt input.capture.toCapture captured view.block = .ok ())
    (hKeys : keyControlReason rt input view.block = .ok ())
    (hMatches : LockMatches rt input view.ref onChain) :
    Backed rt input view.ref captured view.block onChain := by
  obtain ⟨hComplete, hRefValid, hAsset, hConfig⟩ := admitCapture_ok hAdmit
  obtain ⟨hStatus, hBlock, hRef, hLockShows⟩ := readFinalView_ok hView
  obtain ⟨hKind, hStatement⟩ := ref_of_not_invalid hRefValid hRef
  unfold contractPinReason at hPin
  rw [bind_eq_ok] at hPin
  obtain ⟨u, hCode, hKeyless⟩ := hPin
  refine ⟨hComplete, hKind, hRef, hStatement, hAsset, hConfig, hStatus, hBlock,
    hLockShows onChain hLock, contractCodeReason_ok hCode, contractKeysReason_ok hKeyless, ?_,
    hMatches⟩
  intro hRequired
  unfold keyControlReason accountKeyReason at hKeys
  rw [hRequired, if_neg (by decide), bind_eq_ok, hMatches.payee, hMatches.payer] at hKeys
  obtain ⟨u', hPayeeKey, hPayerKey⟩ := hKeys
  rw [hMatches.payee, hMatches.payer]
  exact ⟨partyKeyReason_ok hPayeeKey, partyKeyReason_ok hPayerKey⟩

/-- Every observation, and every lock reported as verified, is backed by the exchanges of
the capture. A lock in transition yields neither, and a `locked` observation needs the
secret unrevealed and the payee registered. -/
theorem nearEvidence_sound {input : NearEvidenceInput}
    (h : (nearEvidence rt input).rail.isSome = true ∨
      (nearEvidence rt input).lock.railVerified = some true) :
    ∃ ref captured block view, Backed rt input ref captured block view ∧
      view.status ≠ .claiming ∧ view.status ≠ .refunding ∧
      ((nearEvidence rt input).lock.railVerified = some true ∨
          (nearEvidence rt input).rail.map (·.status) = some .locked →
        BackedLocked rt input ref block view) ∧
      ((nearEvidence rt input).rail.map (·.status) = some .claimed → view.status = .claimed) ∧
      ((nearEvidence rt input).rail.map (·.status) = some .refunded →
        view.status = .refunded) := by
  rcases @nearEvidence_cases rt input with ⟨hRail, hVerified⟩ |
    ⟨captured, view, verdict, hAdmit, hView, hJudge, hRail, hVerified⟩
  · rcases h with h | h
    · rw [hRail] at h
      cases h
    · exact absurd h hVerified
  · obtain ⟨onChain, hLock, hPin, hKeys, hMatches, hVerdict⟩ := judgeLock_ok hJudge
    refine ⟨view.ref, captured, view.block, onChain,
      backed_of_blocks hAdmit hView hLock hPin hKeys hMatches, ?_⟩
    rw [hRail, hVerified]
    rcases hVerdict with ⟨hStatus, hLocked⟩ | ⟨hFalse, ⟨hStatus, hOn⟩ | ⟨hStatus, hOn⟩⟩
    · rw [hStatus, hLocked.status]
      exact ⟨by decide, by decide, fun _ => hLocked, by simp, by simp⟩
    · rw [hStatus, hOn, hFalse]
      exact ⟨by decide, by decide, by simp, fun _ => rfl, by simp⟩
    · rw [hStatus, hOn, hFalse]
      exact ⟨by decide, by decide, by simp, by simp, fun _ => rfl⟩

/-! ## A sample capture

A lock of Alice's for Bob, with every read the reader wants. -/

namespace Sample

/- The JSON text of a value whose texts need no escape. -/
mutual

def render : Json → String
  | .null => "null"
  | .bool b => toString b
  | .num (.int n) => toString n
  | .num (.other text) => text
  | .str s => "\"" ++ s ++ "\""
  | .arr items => "[" ++ renderItems items ++ "]"
  | .obj fields => "\x7b" ++ renderFields fields ++ "\x7d"

def renderItems : List Json → String
  | [] => ""
  | [item] => render item
  | item :: rest => render item ++ "," ++ renderItems rest

def renderFields : List (String × Json) → String
  | [] => ""
  | [field] => renderField field
  | field :: rest => renderField field ++ "," ++ renderFields rest

def renderField : String × Json → String
  | (key, value) => "\"" ++ key ++ "\":" ++ render value

end

/-- Texts by their fields. -/
def texts (fields : List (String × String)) : List (String × Json) :=
  fields.map fun field => (field.1, .str field.2)

def hash : String := "6666666666666666666666666666666666666666666666666666666666666666"
def block : String := "BLockHashBLockHashBLockHash"

def lockArgs : Json := .obj (texts [("hash_lock", hash), ("payer", "alice.near")])
def storageArgs : Json := .obj (texts [("account_id", "bob.near")])

/-- The arguments of the two view calls in base64. -/
def base64 : List (String × String) :=
  [("eyJoYXNoX2xvY2siOiI2NjY2NjY2NjY2NjY2NjY2NjY2NjY2NjY2NjY2NjY2NjY2NjY2NjY2NjY2NjY2NjY2NjY2NjY2" ++
      "NjY2NjY2NjY2IiwicGF5ZXIiOiJhbGljZS5uZWFyIn0=", render lockArgs),
   ("eyJhY2NvdW50X2lkIjoiYm9iLm5lYXIifQ==", render storageArgs)]

def lock : Json :=
  .obj (texts [("status", "Locked"), ("payer", "alice.near"), ("payee", "bob.near"),
    ("token", "usdc.near"), ("amount", "5"), ("claim_by_ms", "2000"), ("refund_after_ms", "3000")])

def balance : Json := .obj (texts [("total", "1"), ("available", "0")])

def utf8 (value : Json) : List UInt8 := (render value).toByteArray.data.toList

def returned (value : Json) : Json :=
  .obj [("result", .arr ((utf8 value).map fun n => (.num (.int n.toNat) : Json)))]

def query (requestType accountId : String) (more : List (String × String)) : Json :=
  .obj (texts ([("request_type", requestType), ("account_id", accountId), ("block_id", block)] ++
    more))

/-- Each call with its parameters and its result. -/
def calls : List (String × Json × Json) :=
  [("status", .arr [], .obj [("chain_id", .str "testnet"), ("protocol_version", .num (.int 70))]),
   ("block", .obj (texts [("finality", "final")]),
     .obj [("header", .obj [("height", .num (.int 7)), ("hash", .str block),
       ("timestamp_nanosec", .str "1")])]),
   ("query", query "call_function" "htlc.near"
       [("method_name", "get_lock"), ("args_base64", (base64.map Prod.fst).getD 0 "")],
     returned lock),
   ("query", query "view_account" "htlc.near" [],
     .obj (texts [("code_hash", "code"), ("block_hash", block)])),
   ("query", query "view_access_key_list" "htlc.near" [],
     .obj [("keys", .arr []), ("block_hash", .str block)]),
   ("query", query "call_function" "usdc.near"
       [("method_name", "storage_balance_of"), ("args_base64", (base64.map Prod.fst).getD 1 "")],
     returned balance),
   ("query", query "view_access_key" "bob.near" [("public_key", "bobs key")],
     .obj (texts [("permission", "FullAccess"), ("block_hash", block)])),
   ("query", query "view_access_key" "alice.near" [("public_key", "alices key")],
     .obj (texts [("permission", "FullAccess"), ("block_hash", block)]))]

def ref : String := "0x" ++ hash ++ ":alice.near"

def idOf (i : Nat) : String := ref ++ ":10:nonce:" ++ toString i

def request (i : Nat) (method : String) (params : Json) : Json :=
  .obj [("method", .str method), ("params", params), ("id", .str (idOf i))]

def response (i : Nat) (result : Json) : Json := .obj [("result", result), ("id", .str (idOf i))]

/-- The JSON values of the capture. -/
def documents : List Json :=
  [lockArgs, storageArgs, lock, balance] ++
    calls.zipIdx.flatMap fun call =>
      [request call.2 call.1.1 call.1.2.1, response call.2 call.1.2.2]

/-- The runtime on the texts of the capture. -/
def runtime : Runtime where
  jsonParse text := documents.find? fun value => render value = text
  jsonStringify value := value.map render
  decodeUtf8 bytes := (documents.find? fun value => utf8 value = bytes).map render
  base64Text text := (base64.lookup text).getD ""
  uint8Array items := items.map fun
    | .num (.int n) => UInt8.ofNat n.toNat
    | _ => 0
  number text := some (.int (decimal text.toList))
  bigInt text := some (decimal text.toList)
  intText n := toString n
  sha256 bytes := bytes

def config : NearRailConfig :=
  ⟨NEAR_TESTNET_PIN, "http://rpc", "htlc.near", ⟨"usdc.near"⟩, some "code"⟩

def lockCapture : NearCapture where
  ref := ref
  checkedAtMs := 10
  nonce := "nonce"
  exchanges := calls.zipIdx.map fun call =>
    ⟨call.1.1, some call.1.2.1, render (request call.2 call.1.1 call.1.2.1), toString call.2⟩
  bytes sha := (calls.zipIdx.find? fun call => toString call.2 = sha).map fun call =>
    (utf8 (response call.2 call.1.2.2))
  pin := config.pin.name
  caip2 := config.pin.caip2
  endpoint := config.endpoint
  config := some (.obj
    [("pin", .obj (texts [("name", config.pin.name), ("chainId", config.pin.chainId),
        ("caip2", config.pin.caip2), ("finality", "final")])),
     ("endpoint", .str config.endpoint), ("contract", .str config.contract),
     ("assets", .obj (texts [("USDC", "usdc.near")])), ("htlcCodeHash", .str "code")])
  error := none

def input : NearEvidenceInput where
  terms := ⟨"c", "hash", "0x" ++ hash, "5", "USDC", "did:a", "did:b", 2000, 3000⟩
  config := config
  accounts := ⟨some "bob.near", some "alice.near", some "bobs key", some "alices key"⟩
  capture := lockCapture
  keyControl := .required

end Sample

set_option maxRecDepth 4000 in
theorem nearEvidence_sound_sample :
    ∃ ref captured block view, Backed Sample.runtime Sample.input ref captured block view ∧
      BackedLocked Sample.runtime Sample.input ref block view := by
  have hRail : (nearEvidence Sample.runtime Sample.input).rail.map (·.status) = some .locked := by
    decide +kernel
  have hSome : (nearEvidence Sample.runtime Sample.input).rail.isSome = true := by
    cases h : (nearEvidence Sample.runtime Sample.input).rail with
    | none =>
      rw [h] at hRail
      cases hRail
    | some rail => rfl
  obtain ⟨ref, captured, block, view, hBacked, -, -, hLocked, -⟩ := nearEvidence_sound (.inl hSome)
  exact ⟨ref, captured, block, view, hBacked, hLocked (.inr hRail)⟩

example : (nearEvidence Sample.runtime { Sample.input with
    capture := { Sample.lockCapture with error := some "timeout" } }).rail.isNone = true := by
  decide +kernel

end SwapDesk.Rails
