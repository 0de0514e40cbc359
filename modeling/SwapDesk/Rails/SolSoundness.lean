import SwapDesk.Rails.Recorded
import SwapDesk.Rails.SolEvidence

/-!
# SwapDesk — what Solana evidence rests on

The counterpart of `SwapDesk.Rails.NearSoundness` for the Solana rail. Here the whole
capture is accounted for: an observation needs exactly the exchanges of the read plan,
in order, and every account as it was at one slot.

Main result: `solEvidence_sound`, which says that every observation is backed.
-/

namespace SwapDesk.Rails

open Check Desk

/-! ## What an exchange shows -/

/-- The exchange at a position is exactly this read, under this capture's id for the
position, and was answered with `value`. -/
def ReadAt (rt : Runtime) (capture : Capture) (position : Nat) (method : String)
    (params value : Json) : Prop :=
  ∃ e body bytes text envelope, ∃ id : Json,
    capture.exchanges[position]? = some e ∧ e.method = method ∧
    id = .str (idPrefix rt capture ++ rt.intText (position + 1)) ∧
    rt.jsonParse e.requestBody = some body ∧
    body.field? "id" = some id ∧
    body.field? "method" = some (.str method) ∧
    rt.jsonStringify (body.field? "params") = rt.jsonStringify (some params) ∧
    rt.jsonStringify e.params = rt.jsonStringify (some params) ∧
    capture.bytes e.responseSha256 = some bytes ∧
    rt.decodeUtf8 bytes = some text ∧
    rt.jsonParse text = some envelope ∧
    envelope.field? "id" = some id ∧
    (envelope.field? "error" = none ∨ envelope.field? "error" = some .null) ∧
    envelope.field? "result" = some value

/-! ## What an observation has to be backed by -/

/-- The capture holds the reads of the plan and nothing else, each in its place, and every
account is as it was at `slot`. -/
structure PlanAnswered (rt : SolRuntime) (capture : Capture) (pin : SolChainPin)
    (plan : ReadPlan) (slot : Int) (accounts : List (Option WireAccount)) : Prop where
  count : capture.exchanges.length = 2 + plan.labels.length
  genesis : ∃ genesis, solGenesisProblem pin genesis = none ∧
    ReadAt rt.toRuntime capture 0 "getGenesisHash" (.arr []) (.str genesis)
  reads : ∃ minSlot : Int, 0 ≤ minSlot ∧ minSlot ≤ slot ∧
    ReadAt rt.toRuntime capture 1 "getSlot" SLOT_PARAMS (.num (.int minSlot)) ∧
    ∀ (i : Nat) (label key : String), plan.labels[i]? = some (label, key) →
      ∃ value account, accounts[i]? = some account ∧ IsAccountRead rt value ⟨slot, account⟩ ∧
        ReadAt rt.toRuntime capture (2 + i) "getAccountInfo" (accountReadParams key minSlot) value

/-- The auditor's configuration and the capture's are both checked and agree on what
anchors trust, and the index names the capture's. -/
structure SolConfigAgrees (input : SolEvidenceInput) (captured : SolRailConfig) : Prop where
  trusted : checkSolRailConfig (some input.config.toJson) = .ok input.config
  checked : checkSolRailConfig input.capture.config = .ok captured
  pin : captured.pin = input.config.pin
  programId : captured.programId = input.config.programId
  programHash : captured.programHash = input.config.programHash
  mint : captured.assets.USDC = input.config.assets.USDC
  indexPin : input.capture.pin = captured.pin.name
  indexCaip2 : input.capture.caip2 = captured.pin.caip2
  indexEndpoint : input.capture.endpoint = captured.endpoint

/-- The escrow is the ref's and the leg's: its hash lock, its parties, the mint, and the
terms. -/
structure EscrowMatches (rt : Runtime) (input : SolEvidenceInput) (ref : SolRef)
    (escrow : SolEscrowView) : Prop where
  hashLock : escrow.hashLock = ref.hashLock
  refPayer : escrow.payer = ref.payer
  payer : input.accounts.payer = some escrow.payer
  payee : input.accounts.payee = some escrow.payee
  mint : escrow.mint = input.config.assets.USDC
  amount : ∃ n, rt.bigInt escrow.amount = some n ∧ rt.bigInt input.terms.amount = some n
  claimByMs : escrow.claimByMs = input.terms.claimByMs
  refundAfterMs : escrow.refundAfterMs = input.terms.refundAfterMs

structure SolBacked (rt : SolRuntime) (input : SolEvidenceInput) (ref : SolRef)
    (captured : SolRailConfig) (plan : ReadPlan) (view : FinalAccounts) (data : List UInt8)
    (escrow : SolEscrowView) : Prop where
  complete : input.capture.error = none
  lockKind : input.terms.lock = "hash"
  refParses : parseSolRef input.capture.ref = some ref
  statement : ref.hashLock = input.terms.statement
  asset : input.terms.asset = SOL_ASSET_ID
  rail : input.capture.rail = SOL_RAIL_ID
  configAgrees : SolConfigAgrees input captured
  planned : readPlan rt input.config ref input.accounts.payee = .ok plan
  sevenReads : input.capture.exchanges.length = 7
  answered : PlanAnswered rt input.capture.toCapture input.config.pin plan view.slot view.accounts
  pinned : ProgramPinned rt input.config view.program view.programData plan.programData
  owned : ∃ account, view.escrow = some account ∧ account.owner = input.config.programId ∧
    account.data = data
  holds : HoldsEscrow data escrow
  matchesLeg : EscrowMatches rt.toRuntime input ref escrow

/-- What a `locked` observation needs beyond that: no preimage is stored, and both token
accounts can be used. -/
structure SolBackedLocked (rt : SolRuntime) (input : SolEvidenceInput) (plan : ReadPlan)
    (view : FinalAccounts) (data : List UInt8) (escrow : SolEscrowView) : Prop where
  status : escrow.status = .locked
  unrevealed : Bytes.byteAt data 2 = 0
  vault : ∃ units, UsableToken view.vault (base58Decode input.config.assets.USDC.toList)
      (base58Decode plan.escrow.toList) units ∧
    ∃ n, rt.bigInt input.terms.amount = some n ∧ n ≤ units
  payeeToken : ∃ units, UsableToken view.payeeToken
    (base58Decode input.config.assets.USDC.toList) (base58Decode escrow.payee.toList) units

/-- The preimage that is stored opens the hash lock that is stored. -/
structure SolBackedClaimed (rt : Runtime) (data : List UInt8) (escrow : SolEscrowView) : Prop where
  status : escrow.status = .claimed
  revealed : Bytes.byteAt data 2 = 1
  opens : rt.sha256 (slice data 156 188) = slice data 100 132

structure SolBackedRefunded (data : List UInt8) (escrow : SolEscrowView) : Prop where
  status : escrow.status = .refunded
  unrevealed : Bytes.byteAt data 2 = 0

/-! ## Reading the blocks back -/

variable {rt : SolRuntime} {capture : Capture}

/-- A bound exchange with a result is a read at its position. -/
theorem readAt_of_bindAt {rt : Runtime} {position : Nat} {method label : String}
    {params value : Json} {outcome : EnvelopeOutcome}
    (hBound : bindAt rt capture position method params label = .ok outcome)
    (hResult : outcome = .result (some value)) : ReadAt rt capture position method params value := by
  subst hResult
  unfold bindAt at hBound
  simp only [bind_eq_ok, need_eq_ok, require_eq_ok, exists_const] at hBound
  -- everything that `bindAt` checked of the exchange
  obtain ⟨e, he, request, hRequest, ⟨hMethod, hRecorded⟩, hSame, hId, bytes, hBytes, envelope,
    hEnvelope, -, hResponse, h⟩ := hBound
  obtain ⟨hAt, hCalls⟩ := exchangeAt_eq_some.mp he
  obtain ⟨body, hBody, hBodyId, hBodyMethod, hParams⟩ := parseRequestBody_eq_some hRequest
  obtain ⟨text, hText, hParse⟩ := Option.bind_eq_some_iff.mp hEnvelope
  rw [hId] at hBodyId hResponse
  have hOutcome := Except.ok.inj h
  -- an answer that is not rejected carries the result
  cases hRejects : rejects envelope with
  | true =>
    rw [hRejects] at hOutcome
    cases hOutcome
  | false =>
    rw [hRejects] at hOutcome
    have hSame' : rt.jsonStringify request.params = rt.jsonStringify (some params) :=
      of_decide_eq_true hSame
    have hRecorded' : rt.jsonStringify request.params = rt.jsonStringify e.params :=
      of_decide_eq_true hRecorded
    refine ⟨e, body, bytes, text, envelope, _, hAt, hCalls, rfl, hBody, ofJson?_eq_str.mp hBodyId, ?_,
      ?_, ?_, hBytes, hText, hParse, ofJson?_eq_str.mp hResponse, not_rejects hRejects,
      EnvelopeOutcome.result.inj hOutcome⟩
    · rw [hBodyMethod, hMethod, hCalls]
    · rw [hParams, hSame']
    · rw [← hRecorded', hSame']

/-- A genesis hash that is read is the pinned one. -/
theorem readGenesis_ok {rt : Runtime} {trusted : SolRailConfig}
    (h : readGenesis rt capture trusted = .ok ()) :
    ∃ genesis, solGenesisProblem trusted.pin genesis = none ∧
      ReadAt rt capture 0 "getGenesisHash" (.arr []) (.str genesis) := by
  unfold readGenesis at h
  simp only [bind_eq_ok, need_eq_ok, refute_eq_ok, resultOf_eq_ok] at h
  obtain ⟨outcome, hBound, value, hResult, genesis, hGenesis, hProblem⟩ := h
  obtain ⟨v, hValue, hText⟩ := Option.bind_eq_some_iff.mp (Option.filter_eq_some_iff.mp hGenesis).1
  obtain rfl := Json.asText?_eq_some.mp hText
  subst hValue
  exact ⟨genesis, hProblem, readAt_of_bindAt hBound hResult⟩

/-- A slot that is read was answered. -/
theorem readSlot_ok {rt : Runtime} {minSlot : Int} (h : readSlot rt capture = .ok minSlot) :
    0 ≤ minSlot ∧ ReadAt rt capture 1 "getSlot" SLOT_PARAMS (.num (.int minSlot)) := by
  unfold readSlot at h
  simp only [bind_eq_ok, need_eq_ok, resultOf_eq_ok] at h
  obtain ⟨outcome, hBound, value, hResult, hSlot⟩ := h
  obtain ⟨hInt, hSafe⟩ := Option.filter_eq_some_iff.mp hSlot
  obtain ⟨v, hValue, hInt⟩ := Option.bind_eq_some_iff.mp hInt
  obtain rfl := Json.asInt?_eq_some.mp hInt
  subst hValue
  rw [Bool.and_eq_true, decide_eq_true_eq] at hSafe
  exact ⟨hSafe.2, readAt_of_bindAt hBound hResult⟩

/-- An account that is read was answered no earlier than the first slot. -/
theorem readAccount_ok {minSlot : Int} {position : Nat} {label key : String} {read : AccountRead}
    (h : readAccount rt capture minSlot position label key = .ok read) :
    minSlot ≤ read.slot ∧ ∃ value, IsAccountRead rt value read ∧
      ReadAt rt.toRuntime capture position "getAccountInfo" (accountReadParams key minSlot) value := by
  unfold readAccount at h
  simp only [bind_eq_ok, need_eq_ok, require_eq_ok, resultOf_eq_ok, exists_const] at h
  obtain ⟨outcome, hBound, value, hResult, read', hRead, hSlot, h⟩ := h
  obtain rfl := Except.ok.inj h
  obtain ⟨v, rfl, hIs⟩ := decodeAccountRead_eq_some hRead
  exact ⟨hSlot, v, hIs, readAt_of_bindAt hBound hResult⟩

/-- Every label of the list is read, at its place. -/
theorem readAccounts_ok {minSlot : Int} {labels : List (String × String)} :
    ∀ {position : Nat} {reads : List AccountRead},
      readAccounts rt capture minSlot position labels = .ok reads →
      ∀ (i : Nat) (label key : String), labels[i]? = some (label, key) →
        ∃ read, reads[i]? = some read ∧ minSlot ≤ read.slot ∧ ∃ value, IsAccountRead rt value read ∧
          ReadAt rt.toRuntime capture (position + i) "getAccountInfo"
            (accountReadParams key minSlot) value := by
  induction labels with
  | nil =>
    intro position reads h i label key hi
    cases hi
  | cons head rest ih =>
    obtain ⟨headLabel, headKey⟩ := head
    intro position reads h i label key hi
    simp only [readAccounts, bind_eq_ok] at h
    obtain ⟨read, hRead, tail, hTail, h⟩ := h
    obtain rfl := Except.ok.inj h
    cases i with
    | zero =>
      obtain ⟨rfl, rfl⟩ := Prod.mk.inj (Option.some.inj hi)
      exact ⟨read, rfl, readAccount_ok hRead⟩
    | succ i =>
      rw [List.getElem?_cons_succ] at hi
      obtain ⟨later, hLater, hRest⟩ := ih hTail i label key hi
      refine ⟨later, by rwa [List.getElem?_cons_succ], ?_⟩
      rwa [show position + (i + 1) = position + 1 + i by omega]

/-- The accounts read answer the plan. -/
theorem readFinalAccounts_ok {trusted : SolRailConfig} {plan : ReadPlan} {view : FinalAccounts}
    (h : readFinalAccounts rt capture trusted plan = .ok view) :
    PlanAnswered rt capture trusted.pin plan view.slot view.accounts := by
  unfold readFinalAccounts at h
  simp only [bind_eq_ok, require_eq_ok, exists_const] at h
  obtain ⟨u, hGenesis, minSlot, hSlot, reads, hReads, hCount, hOne, h⟩ := h
  obtain rfl := Except.ok.inj h
  obtain ⟨hNonneg, hSlotRead⟩ := readSlot_ok hSlot
  have hRead := readAccounts_ok hReads
  refine ⟨hCount, readGenesis_ok hGenesis, minSlot, hNonneg, ?_, hSlotRead, ?_⟩
  · -- the escrow is read first, and its slot is everyone's
    obtain ⟨read, hFirst, hLe, -⟩ := hRead 0 "escrow" plan.escrow rfl
    rwa [← hOne read (List.mem_of_getElem? hFirst)]
  · intro i label key hi
    obtain ⟨read, hAt, -, value, hIs, hReadAt⟩ := hRead i label key hi
    refine ⟨value, read.account, by simp [hAt], ?_, hReadAt⟩
    rw [← hOne read (List.mem_of_getElem? hAt)]
    exact hIs

/-- A ref that is not refused names the hash lock of the terms. -/
theorem solRef_of_not_invalid {terms : LockTerms} {ref : String} {parts : SolRef}
    (h : solLockRefInvalid terms ref = false) (hParts : parseSolRef ref = some parts) :
    terms.lock = "hash" ∧ parts.hashLock = terms.statement := by
  unfold solLockRefInvalid at h
  rw [hParts] at h
  split at h
  · cases h
  · rename_i hLock
    exact ⟨not_not.mp hLock, not_not.mp (of_decide_eq_false h)⟩

/-- What admission has checked of a capture. -/
theorem admitSolCapture_ok {input : SolEvidenceInput} {admitted : SolAdmitted}
    (h : admitSolCapture input = .ok admitted) :
    input.capture.error = none ∧ solLockRefInvalid input.terms input.capture.ref = false ∧
      parseSolRef input.capture.ref = some admitted.ref ∧ input.terms.asset = SOL_ASSET_ID ∧
      input.capture.rail = SOL_RAIL_ID ∧ admitted.trusted = input.config ∧
      SolConfigAgrees input admitted.captured := by
  unfold admitSolCapture at h
  simp only [bind_eq_ok, need_eq_ok, refute_eq_ok, require_eq_ok, mapError_eq_ok,
    exists_const] at h
  obtain ⟨hComplete, hRefValid, ref, hRef, hAsset, hRail, trusted, hTrusted, captured, hCaptured,
    ⟨hCaip2, hName, hCommitment, hProgram, hHash, hMint⟩, ⟨hPin, hIndexCaip2, hEndpoint⟩, -, -,
    h⟩ := h
  obtain rfl := Except.ok.inj h
  obtain rfl := checkSolRailConfig_toJson hTrusted
  have hPins : captured.pin = input.config.pin := by
    obtain ⟨⟨name, caip2, commitment⟩, _, _, _, _⟩ := captured
    dsimp only at hCaip2 hName hCommitment
    rw [hCaip2, hName, hCommitment]
  exact ⟨hComplete, hRefValid, hRef, hAsset, hRail, rfl, hTrusted, hCaptured, hPins, hProgram, hHash,
    hMint, hPin, hIndexCaip2, hEndpoint⟩

/-- The plan is that of the trusted config. -/
theorem planReads_ok {input : SolEvidenceInput} {admitted : SolAdmitted} {plan : ReadPlan}
    (h : planReads rt input admitted = .ok plan) :
    readPlan rt admitted.trusted admitted.ref input.accounts.payee = .ok plan := by
  unfold planReads at h
  simp only [bind_eq_ok, require_eq_ok, mapError_eq_ok, exists_const] at h
  exact h.2

/-- With the payee known there is one read more. -/
theorem readPlan_payee {trusted : SolRailConfig} {ref : SolRef} {payee : String} {plan : ReadPlan}
    (h : readPlan rt trusted ref (some payee) = .ok plan) : plan.labels.length = 5 := by
  unfold readPlan at h
  simp only [bind_eq_ok] at h
  obtain ⟨_, -, _, -, _, -, _, -, _, -, payeeToken, hPayee, _, -, _, -, _, -, h⟩ := h
  obtain rfl := Except.ok.inj h
  rw [Option.mapM_some] at hPayee
  cases hAddress : payeeTokenAddress rt trusted payee with
  | error e =>
    rw [hAddress] at hPayee
    cases hPayee
  | ok address =>
    rw [hAddress] at hPayee
    obtain rfl := Except.ok.inj hPayee
    rfl

/-- A key that is read is the decoded text. -/
theorem pubkeyFromBase58_ok {text : String} {bytes : List UInt8}
    (h : pubkeyFromBase58 text = .ok bytes) : bytes = base58Decode text.toList := by
  unfold pubkeyFromBase58 at h
  split at h
  · exact (Except.ok.inj h).symm
  · cases h

/-- No mismatch, and the account lines carry the parties of the escrow. -/
theorem escrowMatches_of_no_mismatch {input : SolEvidenceInput} {ref : SolRef}
    {escrow : SolEscrowView} {payee payer : String}
    (hRef : escrow.hashLock = ref.hashLock ∧ escrow.payer = ref.payer)
    (hPayee : input.accounts.payee = some payee) (hPayer : input.accounts.payer = some payer)
    (h : solFirstFieldMismatch rt.toRuntime escrow payee payer input.config.assets.USDC
      input.terms = none) : EscrowMatches rt.toRuntime input ref escrow := by
  unfold solFirstFieldMismatch at h
  split_ifs at h with h₁ h₂ h₃ h₄ h₅ h₆
  rw [Bool.not_eq_true, Bool.not_eq_false', amountsEqual_iff] at h₃
  exact ⟨hRef.1, hRef.2, by rw [hPayer, not_not.mp h₆], by rw [hPayee, not_not.mp h₁],
    not_not.mp h₂, h₃, not_not.mp h₄, not_not.mp h₅⟩

/-- An escrow that is read belongs to the pinned program. -/
theorem readEscrow_ok {trusted : SolRailConfig} {ref : SolRef} {plan : ReadPlan}
    {view : FinalAccounts} {escrow : SolEscrowView}
    (h : readEscrow rt trusted ref plan view = .ok escrow) :
    ProgramPinned rt trusted view.program view.programData plan.programData ∧
      (∃ account, view.escrow = some account ∧ account.owner = trusted.programId ∧
        HoldsEscrow account.data escrow) ∧
      escrow.hashLock = ref.hashLock ∧ escrow.payer = ref.payer := by
  unfold readEscrow at h
  simp only [bind_eq_ok, need_eq_ok, require_eq_ok, mapError_eq_ok, exists_const] at h
  obtain ⟨u, hProgram, account, hAccount, hOwner, -, escrow', hEscrow, hRef, h⟩ := h
  obtain rfl := Except.ok.inj h
  exact ⟨programProblem_ok hProgram, ⟨account, hAccount, hOwner, decodeEscrow_ok hEscrow⟩, hRef⟩

/-- A locked escrow that is judged holds its tokens. -/
theorem judgeLockedEscrow_ok {input : SolEvidenceInput} {plan : ReadPlan} {view : FinalAccounts}
    {data : List UInt8} {escrow : SolEscrowView} {payee : String} {mismatch : Option String}
    {verdict : Verdict} (hStatus : escrow.status = .locked) (hHolds : HoldsEscrow data escrow)
    (h : judgeLockedEscrow rt input input.config plan view escrow payee mismatch = .ok verdict) :
    mismatch = none ∧ verdict.status = .locked ∧
      (payee = escrow.payee → SolBackedLocked rt input plan view data escrow) := by
  unfold judgeLockedEscrow at h
  simp only [bind_eq_ok, need_eq_ok, refute_eq_ok, require_eq_ok, mapError_eq_ok,
    exists_const] at h
  obtain ⟨hMismatch, hUnrevealed, mint, hMint, escrowOwner, hOwner, vault, hVault, amount, hAmount,
    hEnough, payeeOwner, hPayee, payeeToken, hPayeeToken, h⟩ := h
  obtain rfl := Except.ok.inj h
  refine ⟨hMismatch, rfl, ?_⟩
  rintro rfl
  obtain rfl := pubkeyFromBase58_ok hMint
  obtain rfl := pubkeyFromBase58_ok hOwner
  obtain rfl := pubkeyFromBase58_ok hPayee
  exact ⟨hStatus, hHolds.hidden.mp hUnrevealed.1,
    ⟨vault.amount, tokenAccountProblem_ok hVault, amount, hAmount, hEnough⟩,
    payeeToken.amount, tokenAccountProblem_ok hPayeeToken⟩

/-- A stored preimage opens the stored hash lock. -/
theorem opens_of_solPreimageOpensHashLock {data : List UInt8} {escrow : SolEscrowView}
    {hashLock : String} (hHolds : HoldsEscrow data escrow) (hRef : escrow.hashLock = hashLock)
    (hRevealed : escrow.revealed = true)
    (h : escrow.preimage.any (solPreimageOpensHashLock rt.toRuntime · hashLock) = true) :
    rt.sha256 (slice data 156 188) = slice data 100 132 := by
  rw [hHolds.preimage, if_pos hRevealed, Option.any_some, ← hRef, hHolds.hashLock] at h
  unfold solPreimageOpensHashLock at h
  rw [hexToBytes_sliceFrom, hexToBytes_sliceFrom] at h
  exact of_decide_eq_true h

/-- A settled escrow that is judged shows how it ended. -/
theorem judgeSettledEscrow_ok {input : SolEvidenceInput} {ref : SolRef} {data : List UInt8}
    {escrow : SolEscrowView} {mismatch : Option String} {verdict : Verdict}
    (hStatus : escrow.status ≠ .locked) (hHolds : HoldsEscrow data escrow)
    (hRef : escrow.hashLock = ref.hashLock)
    (h : judgeSettledEscrow rt.toRuntime input ref escrow mismatch = .ok verdict) :
    mismatch = none ∧
      (verdict.status = .claimed ∧ SolBackedClaimed rt.toRuntime data escrow ∨
        verdict.status = .refunded ∧ SolBackedRefunded data escrow) := by
  unfold judgeSettledEscrow at h
  cases hOn : escrow.status with
  | locked => exact absurd hOn hStatus
  | claimed =>
    rw [hOn] at h
    simp only [↓reduceIte, bind_eq_ok, refute_eq_ok, require_eq_ok, exists_const] at h
    obtain ⟨⟨hRevealed, hOpens⟩, hMismatch, h⟩ := h
    obtain rfl := Except.ok.inj h
    exact ⟨hMismatch, .inl ⟨rfl, hOn, hHolds.revealed.mp hRevealed,
      opens_of_solPreimageOpensHashLock hHolds hRef hRevealed hOpens⟩⟩
  | refunded =>
    rw [hOn] at h
    simp only [reduceCtorEq, ↓reduceIte, bind_eq_ok, refute_eq_ok, require_eq_ok, exists_const] at h
    obtain ⟨⟨hHidden, -⟩, hMismatch, h⟩ := h
    obtain rfl := Except.ok.inj h
    exact ⟨hMismatch, .inr ⟨rfl, hOn, hHolds.hidden.mp hHidden⟩⟩

/-! ## The reader -/

/-- An observation is attached only when no block refused. -/
theorem solEvidence_eq_some {input : SolEvidenceInput} {rail : RailObservation}
    (h : (solEvidence rt input).rail = some rail) :
    ∃ admitted plan view verdict, admitSolCapture input = .ok admitted ∧
      planReads rt input admitted = .ok plan ∧
      readFinalAccounts rt input.capture.toCapture admitted.trusted plan = .ok view ∧
      judgeEscrow rt input admitted plan view = .ok verdict ∧ rail.status = verdict.status := by
  have hRefuse : ∀ (base : LockEvidence) (refusal : SolRefusal),
      (solRefuse base refusal).rail ≠ some rail := by
    intro base refusal hSome
    cases refusal <;> cases hSome
  unfold solEvidence at h
  dsimp only at h
  split at h
  · exact absurd h (hRefuse _ _)
  · rename_i admitted hAdmit
    split at h
    · exact absurd h (hRefuse _ _)
    · rename_i plan hPlan
      split at h
      · exact absurd h (hRefuse _ _)
      · rename_i view hView
        split at h
        · exact absurd h (hRefuse _ _)
        · rename_i verdict hJudge
          obtain rfl := Option.some.inj h
          exact ⟨admitted, plan, view, verdict, hAdmit, hPlan, hView, hJudge, rfl⟩

/-- The other way around: when no block refuses, the verdict is attached. -/
theorem solEvidence_of_blocks {input : SolEvidenceInput} {admitted : SolAdmitted} {plan : ReadPlan}
    {view : FinalAccounts} {verdict : Verdict} (hAdmit : admitSolCapture input = .ok admitted)
    (hPlan : planReads rt input admitted = .ok plan)
    (hView : readFinalAccounts rt input.capture.toCapture admitted.trusted plan = .ok view)
    (hJudge : judgeEscrow rt input admitted plan view = .ok verdict) :
    ∃ rail, (solEvidence rt input).rail = some rail ∧ rail.status = verdict.status := by
  unfold solEvidence
  simp only [hAdmit, hPlan, hView, hJudge]
  exact ⟨_, rfl, rfl⟩

/-- Every observation is backed by the exchanges of the capture: exactly the reads of the plan,
at one slot, of the pinned program and of an escrow that is the leg's own. A `locked` one needs
both token accounts usable and no preimage stored, a `claimed` one a stored preimage that opens
the hash lock, and a `refunded` one that none is stored. -/
theorem solEvidence_sound {input : SolEvidenceInput} {rail : RailObservation}
    (h : (solEvidence rt input).rail = some rail) :
    ∃ ref captured plan view data escrow,
      SolBacked rt input ref captured plan view data escrow ∧
      (rail.status = .locked → SolBackedLocked rt input plan view data escrow) ∧
      (rail.status = .claimed → SolBackedClaimed rt.toRuntime data escrow) ∧
      (rail.status = .refunded → SolBackedRefunded data escrow) := by
  obtain ⟨admitted, plan, view, verdict, hAdmit, hPlan, hView, hJudge, hRail⟩ :=
    solEvidence_eq_some h
  obtain ⟨hComplete, hRefValid, hRef, hAsset, hRailField, hTrusted, hConfig⟩ :=
    admitSolCapture_ok hAdmit
  have hPlanned := planReads_ok hPlan
  have hAnswered := readFinalAccounts_ok hView
  unfold judgeEscrow at hJudge
  rw [hTrusted] at hPlanned hAnswered hJudge
  simp only [bind_eq_ok, need_eq_ok, mapError_eq_ok] at hJudge
  obtain ⟨escrow, hEscrow, payee, hPayee, payer, hPayer, hJudge⟩ := hJudge
  obtain ⟨hPinned, ⟨account, hAccount, hOwner, hHolds⟩, hOwnRef⟩ := readEscrow_ok hEscrow
  obtain ⟨hKind, hStatement⟩ := solRef_of_not_invalid hRefValid hRef
  have hSeven : input.capture.exchanges.length = 7 := by
    rw [hPayee] at hPlanned
    rw [hAnswered.count, readPlan_payee hPlanned]
  -- what every outcome is backed by, once no field differs
  have hBacked : solFirstFieldMismatch rt.toRuntime escrow payee payer input.config.assets.USDC
      input.terms = none →
      SolBacked rt input admitted.ref admitted.captured plan view account.data escrow :=
    fun hMismatch => ⟨hComplete, hKind, hRef, hStatement, hAsset, hRailField, hConfig, hPlanned, hSeven,
      hAnswered, hPinned, ⟨account, hAccount, hOwner, rfl⟩, hHolds,
      escrowMatches_of_no_mismatch hOwnRef hPayee hPayer hMismatch⟩
  split at hJudge
  · rename_i hStatus
    obtain ⟨hMismatch, hLabel, hLocked⟩ := judgeLockedEscrow_ok hStatus hHolds hJudge
    have hAll := hBacked hMismatch
    obtain rfl : payee = escrow.payee := Option.some.inj (hPayee.symm.trans hAll.matchesLeg.payee)
    refine ⟨admitted.ref, admitted.captured, plan, view, account.data, escrow, hAll, ?_⟩
    rw [hRail, hLabel]
    exact ⟨fun _ => hLocked rfl, by simp, by simp⟩
  · rename_i hStatus
    obtain ⟨hMismatch, hSettled⟩ := judgeSettledEscrow_ok hStatus hHolds hOwnRef.1 hJudge
    refine ⟨admitted.ref, admitted.captured, plan, view, account.data, escrow, hBacked hMismatch, ?_⟩
    rw [hRail]
    rcases hSettled with ⟨hLabel, hClaimed⟩ | ⟨hLabel, hRefunded⟩
    · rw [hLabel]
      exact ⟨by simp, fun _ => hClaimed, by simp⟩
    · rw [hLabel]
      exact ⟨by simp, by simp, fun _ => hRefunded⟩

/-! ## Recorded reads -/

/-- A recorded read at its place binds, under the id of the place. -/
theorem bindAt_recorded {rt : Runtime} (hrt : ReadsBack rt) {position : Nat}
    {e : CaptureIndexExchange} {params : Json} {result : Option Json} (label : String)
    (hAt : capture.exchanges[position]? = some e)
    (h : Recorded capture e (idPrefix rt capture ++ rt.intText (position + 1)) params result) :
    bindAt rt capture position e.method params label = .ok (.result result) := by
  have hExchange : exchangeAt capture.exchanges position e.method = some e :=
    exchangeAt_eq_some.mpr ⟨hAt, rfl⟩
  have hRecorded : sameJson rt (some params) e.params = true := by
    rw [h.recordedParams]
    exact decide_eq_true rfl
  have hSame : sameJson rt (some params) (some params) = true := decide_eq_true rfl
  have hObject : ∀ id, (responseBody id result).isObject = true := fun _ => rfl
  obtain ⟨hAnswers, hNotRejected, hResult⟩ :=
    responseBody_answers (idPrefix rt capture ++ rt.intText (position + 1)) result
  simp only [bindAt, need, hExchange, parseRequestBody_recorded hrt h, require, hRecorded, hSame,
    h.response, hrt.decodes, Option.bind_some, hrt.parses (plain_responseBody h.plainResult), bind,
    Except.bind, and_self, if_true, hObject, hAnswers, hNotRejected, hResult, Bool.false_eq_true,
    if_false]
  rfl

/-- A recorded account is read back. -/
theorem readAccount_recorded (hrt : ReadsBack rt.toRuntime) {position : Nat}
    {e : CaptureIndexExchange} {minSlot : Int} {key label : String} {result : Json}
    {read : AccountRead} (hAt : capture.exchanges[position]? = some e)
    (hMethod : e.method = "getAccountInfo")
    (h : Recorded capture e (idPrefix rt.toRuntime capture ++ rt.intText (position + 1))
      (accountReadParams key minSlot) (some result))
    (hRead : decodeAccountRead rt (some result) = some read) (hSlot : minSlot ≤ read.slot) :
    readAccount rt capture minSlot position label key = .ok read := by
  have hBound := bindAt_recorded hrt ("getAccountInfo(" ++ label ++ ")") hAt h
  rw [hMethod] at hBound
  simp only [readAccount, hBound, resultOf, hRead, need, require, if_pos hSlot, bind, Except.bind]
  rfl

/-! ## A sample capture

An escrow of 5 units, with every read the reader wants. -/

namespace SolSample

/-- 32 bytes, the most significant first. -/
def be (n : Nat) : List UInt8 := (List.range 32).map fun i => UInt8.ofNat (n / 256 ^ (31 - i))

def zeros (n : Nat) : List UInt8 := List.replicate n 0

def le (width n : Nat) : List UInt8 := (List.range width).map fun i => UInt8.ofNat (n / 256 ^ i)

def payer : List UInt8 := List.replicate 32 2
def payee : List UInt8 := List.replicate 32 3
def mint : List UInt8 := List.replicate 32 9
def hash : List UInt8 := List.replicate 32 0x66
def elf : List UInt8 := [1, 2, 3]

def key (bytes : List UInt8) : String := String.ofList (base58Encode bytes)

def ofKey (text : String) : List UInt8 := base58Decode text.toList

def escrow : List UInt8 := be 0x8b22acd6ce5079a524887b442b50efc370d48ee0a86a75b617945b08bfd2ec50
def vault : List UInt8 := be 0xd73b00bb16e9ce926987c63b75f7fc4b30be072d9dc088df7f725d4e72853d53
def programData : List UInt8 :=
  be 0xe8911ae21b19fd3e041ba25c3cc0063c99832070609a85d6eee727d7f4e7dfe1
def payeeToken : List UInt8 :=
  be 0x9e566aa805de607a4cf05513611d15cdab0f5332de1645fdc01a91c43d84d6df
def elfHash : List UInt8 := be 0x039058c6f2c0cb492c533b0a4d14ef77cc0f78abccced5287d84a1a2011cfb81

/-- The inputs that are hashed: the seeds of the four addresses, none of which is a point of
the curve, and the program. -/
def hashes : List (List UInt8 × List UInt8) :=
  [(ascii "htlc" ++ payer ++ hash ++ [255] ++ ofKey SOL_HTLC_PROGRAM_ID ++ PDA_MARKER, escrow),
   (ascii "vault" ++ escrow ++ [255] ++ ofKey SOL_HTLC_PROGRAM_ID ++ PDA_MARKER, vault),
   (ofKey SOL_HTLC_PROGRAM_ID ++ [255] ++ ofKey BPF_LOADER_UPGRADEABLE_ID ++ PDA_MARKER,
     programData),
   (payee ++ ofKey TOKEN_PROGRAM_ID ++ mint ++ [255] ++ ofKey ASSOCIATED_TOKEN_PROGRAM_ID ++
     PDA_MARKER, payeeToken),
   (elf, elfHash)]

def alphabet64 : List Char :=
  "ABCDEFGHIJKLMNOPQRSTUVWXYZabcdefghijklmnopqrstuvwxyz0123456789+/".toList

def encode64 : List UInt8 → List Char
  | [] => []
  | [a] => digits 2 (a.toNat * 65536) ++ ['=', '=']
  | [a, b] => digits 3 (a.toNat * 65536 + b.toNat * 256) ++ ['=']
  | a :: b :: c :: rest => digits 4 (a.toNat * 65536 + b.toNat * 256 + c.toNat) ++ encode64 rest
where
  digits (count n : Nat) : List Char :=
    (List.range count).map fun i => alphabet64.getD (n / 64 ^ (3 - i) % 64) 'A'

def decode64 : List Char → List UInt8
  | a :: b :: c :: d :: rest =>
    let n := value a * 262144 + value b * 4096 + value c * 64 + value d
    let count := if c = '=' then 1 else if d = '=' then 2 else 3
    (List.range count).map (fun i => UInt8.ofNat (n / 256 ^ (2 - i))) ++ decode64 rest
  | _ => []
where
  value (c : Char) : Nat := if c = '=' then 0 else alphabet64.idxOf c

example : decode64 (encode64 [1, 2, 3, 4]) = [1, 2, 3, 4] := by decide

def runtime : SolRuntime where
  toRuntime := textRuntime
    (fun text => String.ofList ((decode64 text.toList).map fun b => Char.ofNat b.toNat))
    (fun bytes => (hashes.lookup bytes).getD [])
  base64Decode text := some (decode64 text.toList)
  decompresses _ := false

def tokenData (owner : List UInt8) (amount : Nat) : List UInt8 :=
  mint ++ owner ++ le 8 amount ++ zeros 36 ++ [1] ++ zeros 12 ++ zeros 8 ++ zeros 36

def escrowData : List UInt8 :=
  [1, 1, 0, 255] ++ payer ++ payee ++ mint ++ hash ++ le 8 5 ++ le 8 2000 ++ le 8 3000 ++ zeros 32

/-- The accounts in the order of the plan: address, owner, data and whether it is a program. -/
def accounts : List (List UInt8 × String × List UInt8 × Bool) :=
  [(escrow, SOL_HTLC_PROGRAM_ID, escrowData, false),
   (vault, TOKEN_PROGRAM_ID, tokenData escrow 5, false),
   (ofKey SOL_HTLC_PROGRAM_ID, BPF_LOADER_UPGRADEABLE_ID, le 4 2 ++ programData, true),
   (programData, BPF_LOADER_UPGRADEABLE_ID, le 4 3 ++ zeros 41 ++ elf, false),
   (payeeToken, TOKEN_PROGRAM_ID, tokenData payee 0, false)]

def wireAccount (owner : String) (data : List UInt8) (executable : Bool) : Json :=
  .obj [("lamports", .num (.int 1)), ("owner", .str owner),
    ("data", .arr [.str (String.ofList (encode64 data)), .str "base64"]),
    ("executable", .bool executable)]

def accountRead (account : Json) : Json :=
  .obj [("context", .obj [("slot", .num (.int 101))]), ("value", account)]

def calls : List Call :=
  [⟨"getGenesisHash", .arr [], some (.str "genesis")⟩,
    ⟨"getSlot", SLOT_PARAMS, some (.num (.int 100))⟩] ++
    accounts.map fun (address, owner, data, executable) =>
      ⟨"getAccountInfo", accountReadParams (key address) 100,
        accountRead (wireAccount owner data executable)⟩

def hashLock : List Char := ['0', 'x'] ++ Hex.encode hash

def ref : String := String.ofList (hashLock ++ ':' :: base58Encode payer)

def config : SolRailConfig :=
  ⟨SOL_LOCAL_PIN, "http://rpc", SOL_HTLC_PROGRAM_ID, bytesToHex elfHash, ⟨key mint⟩⟩

def lockCapture : SolCapture where
  toCapture := recordedCapture runtime.toRuntime ref 10 "nonce" calls
  rail := SOL_RAIL_ID
  pin := config.pin.name
  caip2 := config.pin.caip2
  endpoint := config.endpoint
  config := some config.toJson
  error := none

def input : SolEvidenceInput where
  terms := ⟨"c", "hash", String.ofList hashLock, "5", "USDC", "did:a", "did:b", 2000, 3000⟩
  config := config
  accounts := ⟨some (key payee), some (key payer)⟩
  capture := lockCapture

/-- The sample's JSON text reads back. -/
theorem readsBack : ReadsBack runtime.toRuntime := readsBack_textRuntime _ _

/-- A wire account decodes to what was encoded. -/
theorem decodeWireAccount_wireAccount {owner : String} {data : List UInt8} {executable : Bool}
    (hOwner : isValidPubkeyBase58 owner = true) (hData : decode64 (encode64 data) = data) :
    decodeWireAccount runtime (wireAccount owner data executable) =
      some ⟨.int 1, owner, data, executable⟩ := by
  have hText : runtime.base64Decode (String.ofList (encode64 data)) = some data := by
    show some (decode64 (String.ofList (encode64 data)).toList) = some data
    rw [String.toList_ofList, hData]
  have hFields : num? (wireAccount owner data executable) "lamports" = some (.int 1) ∧
      (wireAccount owner data executable).text? "owner" = some owner ∧
      base64Pair? (wireAccount owner data executable) "data" =
        some (String.ofList (encode64 data)) ∧
      bool? (wireAccount owner data executable) "executable" = some executable :=
    ⟨rfl, rfl, rfl, rfl⟩
  obtain ⟨hLamports, hOwnerText, hPair, hExecutable⟩ := hFields
  simp only [decodeWireAccount, hLamports, hOwnerText, hPair, hExecutable, hText, hOwner,
    Option.filter_some, if_true, Option.bind_eq_bind, Option.bind_some, Option.pure_def]

/-- An account is read back from its answer. -/
theorem decodeAccountRead_accountRead {owner : String} {data : List UInt8} {executable : Bool}
    (hOwner : isValidPubkeyBase58 owner = true) (hData : decode64 (encode64 data) = data) :
    decodeAccountRead runtime (some (accountRead (wireAccount owner data executable))) =
      some ⟨101, some ⟨.int 1, owner, data, executable⟩⟩ := by
  have hRead : decodeAccountRead runtime
      (some (accountRead (wireAccount owner data executable))) =
        (decodeWireAccount runtime (wireAccount owner data executable)).bind fun account =>
          some ⟨101, some account⟩ := rfl
  rw [hRead, decodeWireAccount_wireAccount hOwner hData]
  rfl

/-- The accounts that the capture shows. -/
def view : FinalAccounts where
  slot := 101
  accounts := accounts.map fun (_, owner, data, executable) =>
    some ⟨.int 1, owner, data, executable⟩

def plan : ReadPlan :=
  ⟨key escrow, key vault, SOL_HTLC_PROGRAM_ID, key programData, some (key payeeToken)⟩

def parsedRef : SolRef := ⟨String.ofList hashLock, key payer⟩

set_option maxRecDepth 8000 in
/-- The sample's ref parses. -/
theorem parseSolRef_ref : parseSolRef ref = some parsedRef := by
  have hHash : (hashLock ++ ':' :: base58Encode payer).take 66 = hashLock := by decide
  have hPayer : (hashLock ++ ':' :: base58Encode payer).drop 67 = base58Encode payer := by
    decide
  have hColon : (hashLock ++ ':' :: base58Encode payer)[66]? = some ':' := by decide
  have hShape : NEAR_HASH_LOCK_SHAPE (String.ofList hashLock) = true := by
    unfold NEAR_HASH_LOCK_SHAPE
    decide
  have hKey : isValidPubkeyBase58 (String.ofList (base58Encode payer)) = true := by
    simp only [isValidPubkeyBase58, String.toList_ofList]
    decide
  simp only [parseSolRef, ref, String.toList_ofList, hHash, hPayer, hColon, hShape, hKey,
    decide_true, Bool.and_self, if_true]
  rfl

def admitted : SolAdmitted := ⟨config, config, parsedRef⟩

set_option maxRecDepth 8000 in
/-- The keys of the two parties, and the owners of the accounts. -/
theorem valid_keys : (isValidPubkeyBase58 (key payer) = true ∧
    isValidPubkeyBase58 (key payee) = true) ∧
    isValidPubkeyBase58 SOL_HTLC_PROGRAM_ID = true ∧
    isValidPubkeyBase58 TOKEN_PROGRAM_ID = true ∧
    isValidPubkeyBase58 BPF_LOADER_UPGRADEABLE_ID = true := by
  refine ⟨?_, ?_⟩
  · simp only [isValidPubkeyBase58, key, String.toList_ofList]
    decide
  · decide

set_option maxRecDepth 8000 in
/-- The sample's config is accepted. -/
theorem checks_config : checkSolRailConfig (some config.toJson) = .ok config := by decide

example : solLockRefInvalid input.terms "" = true := by decide

/-- The sample's capture is admitted. -/
theorem admits : admitSolCapture input = .ok admitted := by
  have hParse : parseSolRef input.capture.ref = some parsedRef := parseSolRef_ref
  have hValid : solLockRefInvalid input.terms input.capture.ref = false := by
    rw [solLockRefInvalid, if_neg (by decide), hParse]
    exact decide_eq_false fun h => h rfl
  have hPayee : ∀ payee ∈ input.accounts.payee, isValidPubkeyBase58 payee = true := by
    rintro _ ⟨⟩
    exact valid_keys.1.2
  have hPayer : ∀ payer ∈ input.accounts.payer, isValidPubkeyBase58 payer = true := by
    rintro _ ⟨⟩
    exact valid_keys.1.1
  unfold admitSolCapture
  simp only [bind_eq_ok, need_eq_ok, refute_eq_ok, require_eq_ok, mapError_eq_ok, exists_const]
  exact ⟨rfl, hValid, parsedRef, hParse, rfl, rfl, config, checks_config, config, checks_config,
    ⟨rfl, rfl, rfl, rfl, rfl, rfl⟩, ⟨rfl, rfl, rfl⟩, hPayee, hPayer, rfl⟩

set_option maxRecDepth 8000 in
/-- The sample's reads are planned. -/
theorem plans : planReads runtime input admitted = .ok plan := by
  have hPlan : readPlan runtime config parsedRef (some (key payee)) = .ok plan := by decide
  have hPayer : ∀ payer ∈ input.accounts.payer, payer = admitted.ref.payer := by
    rintro _ ⟨⟩
    rfl
  unfold planReads
  simp only [bind_eq_ok, require_eq_ok, mapError_eq_ok, exists_const]
  exact ⟨hPayer, hPlan⟩

/-- The params of an account read are plain JSON. -/
theorem plain_accountReadParams (text : String) :
    JsonText.Plain (accountReadParams text 100) := by
  simp [accountReadParams, JsonText.Plain, JsonText.PlainItems, JsonText.PlainFields,
    JsonText.maxExact]

/-- The answer of an account read is plain JSON. -/
theorem plain_accountRead (owner : String) (data : List UInt8) (executable : Bool) :
    JsonText.Plain (accountRead (wireAccount owner data executable)) := by
  simp [accountRead, wireAccount, JsonText.Plain, JsonText.PlainItems, JsonText.PlainFields,
    JsonText.maxExact]

/-- Each account is read at its place. -/
theorem readAccount_sample {i : Nat} {label owner : String} {address data : List UInt8}
    {executable : Bool} (h : accounts[i]? = some (address, owner, data, executable))
    (hOwner : isValidPubkeyBase58 owner = true) (hData : decode64 (encode64 data) = data) :
    readAccount runtime lockCapture.toCapture 100 (2 + i) label (key address) =
      .ok ⟨101, some ⟨.int 1, owner, data, executable⟩⟩ := by
  have hCall : calls[2 + i]? = some ⟨"getAccountInfo", accountReadParams (key address) 100,
      some (accountRead (wireAccount owner data executable))⟩ := by
    rw [calls, List.getElem?_append_right (by simp)]
    simp [h]
  have hPlain : ∀ value ∈ some (accountRead (wireAccount owner data executable)),
      JsonText.Plain value := by
    rintro _ ⟨⟩
    exact plain_accountRead owner data executable
  obtain ⟨e, hAt, hMethod, hRecorded⟩ :=
    recordedCapture_at hCall (plain_accountReadParams _) hPlain
  exact readAccount_recorded readsBack hAt hMethod hRecorded
    (decodeAccountRead_accountRead hOwner hData) (show (100 : Int) ≤ 101 by decide)

set_option maxRecDepth 8000 in
/-- The data of the sample's accounts decodes from base64. -/
theorem decode64_accounts : ∀ account ∈ accounts,
    decode64 (encode64 account.2.2.1) = account.2.2.1 := by
  decide

/-- The sample's accounts are read. -/
theorem reads : readFinalAccounts runtime input.capture.toCapture config plan = .ok view := by
  obtain ⟨-, hProgramOwner, hTokenOwner, hLoaderOwner⟩ := valid_keys
  have hProgram : SOL_HTLC_PROGRAM_ID = key (ofKey SOL_HTLC_PROGRAM_ID) := by decide +kernel
  have hData : ∀ {i : Nat} {account : List UInt8 × String × List UInt8 × Bool},
      accounts[i]? = some account → decode64 (encode64 account.2.2.1) = account.2.2.1 :=
    fun h => decode64_accounts _ (List.mem_of_getElem? h)
  -- exchange 0, the genesis
  have hGenesis : readGenesis runtime.toRuntime lockCapture.toCapture config = .ok () := by
    obtain ⟨e, hAt, hMethod, hRecorded⟩ := @recordedCapture_at runtime.toRuntime ref "nonce" 10 calls
      0 _ rfl (by simp [JsonText.Plain, JsonText.PlainItems]) (by simp [JsonText.Plain])
    have hBound := bindAt_recorded readsBack "getGenesisHash" hAt hRecorded
    rw [hMethod] at hBound
    unfold readGenesis
    simp only [bind_eq_ok, need_eq_ok, refute_eq_ok, resultOf_eq_ok]
    exact ⟨_, hBound, _, rfl, "genesis", by decide, by decide⟩
  -- exchange 1, the slot
  have hSlot : readSlot runtime.toRuntime lockCapture.toCapture = .ok 100 := by
    obtain ⟨e, hAt, hMethod, hRecorded⟩ := @recordedCapture_at runtime.toRuntime ref "nonce" 10 calls
      1 _ rfl (by simp [SLOT_PARAMS, JsonText.Plain, JsonText.PlainItems, JsonText.PlainFields])
      (by simp [JsonText.Plain, JsonText.maxExact])
    have hBound := bindAt_recorded readsBack "getSlot" hAt hRecorded
    rw [hMethod] at hBound
    unfold readSlot
    simp only [bind_eq_ok, need_eq_ok, resultOf_eq_ok]
    exact ⟨_, hBound, _, rfl, by decide⟩
  -- exchanges 2 to 6, the accounts of the plan
  have hReads : readAccounts runtime lockCapture.toCapture 100 2 plan.labels =
      .ok (view.accounts.map fun account => ⟨101, account⟩) := by
    have h₀ := @readAccount_sample 0 "escrow" _ _ _ _ rfl hProgramOwner (hData (i := 0) rfl)
    have h₁ := @readAccount_sample 1 "vault" _ _ _ _ rfl hTokenOwner (hData (i := 1) rfl)
    have h₂ := @readAccount_sample 2 "program" _ _ _ _ rfl hLoaderOwner (hData (i := 2) rfl)
    have h₃ := @readAccount_sample 3 "programdata" _ _ _ _ rfl hLoaderOwner (hData (i := 3) rfl)
    have h₄ := @readAccount_sample 4 "payee token account" _ _ _ _ rfl hTokenOwner
      (hData (i := 4) rfl)
    rw [show plan.labels = [("escrow", key escrow), ("vault", key vault),
      ("program", key (ofKey SOL_HTLC_PROGRAM_ID)), ("programdata", key programData),
      ("payee token account", key payeeToken)] by
        rw [ReadPlan.labels, show plan.program = key (ofKey SOL_HTLC_PROGRAM_ID) from hProgram]
        rfl]
    simp only [readAccounts, bind_eq_ok]
    exact ⟨_, h₀, _, ⟨_, h₁, _, ⟨_, h₂, _, ⟨_, h₃, _, ⟨_, h₄, [], rfl, rfl⟩, rfl⟩, rfl⟩, rfl⟩, rfl⟩
  unfold readFinalAccounts
  simp only [bind_eq_ok, require_eq_ok, exists_const]
  exact ⟨(), hGenesis, 100, hSlot, _, hReads, rfl, by decide, rfl⟩

def verdict : Verdict where
  status := .locked
  railVerified := true
  reason := "sol-htlc: locked and on-chain state matches terms (vault funded, payee token " ++
    "account usable)"

set_option maxRecDepth 8000 in
/-- The sample's escrow is judged. -/
theorem judges : judgeEscrow runtime input admitted plan view = .ok verdict := by decide

/-- The sample is observed as locked. -/
theorem observes :
    ∃ rail, (solEvidence runtime input).rail = some rail ∧ rail.status = .locked :=
  solEvidence_of_blocks admits plans reads judges

end SolSample

theorem solEvidence_sound_sample :
    ∃ ref captured plan view data escrow,
      SolBacked SolSample.runtime SolSample.input ref captured plan view data escrow ∧
      SolBackedLocked SolSample.runtime SolSample.input plan view data escrow := by
  obtain ⟨rail, hRail, hStatus⟩ := SolSample.observes
  obtain ⟨ref, captured, plan, view, data, escrow, hBacked, hLocked, -⟩ := solEvidence_sound hRail
  exact ⟨ref, captured, plan, view, data, escrow, hBacked, hLocked hStatus⟩

end SwapDesk.Rails
