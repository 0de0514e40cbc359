import SwapDesk.Rails.BtcFreshCapture

/-!
# SwapDesk — evidence from a fresh Bitcoin capture

What `btcEvidence` makes of the capture that `captureBtcLeg` has just made, for a node that keeps
to its protocol. The two agree on the exchanges, their order and the window of the scan, so each
part of the reader finds what it looks for. They do not agree on the header of the funding block:
the capture goes on with any height, and the reader calls a height above the tip tampered.

Main result: `not_saysTampered_iff`.
-/

namespace SwapDesk.Rails.BtcLeg

open Check Desk

/-! ## What a reason says -/

def MISSING : String := "missing/tampered capture"

def TAMPERED_REASONS : List String :=
  ["btc-htlc: the genesis read does not request height 0 (tampered block selector)",
    "btc-htlc: the getrawtransaction read does not target this ref's txid (tampered)",
    "btc-htlc: the gettxout read does not target this ref (tampered)",
    "btc-htlc: the getblockheader read does not target the funding block (tampered)",
    "btc-htlc: malformed/out-of-range getblockheader result (tampered capture)",
    "btc-htlc: the scan's getblockhash read is out of sequence (tampered)",
    "btc-htlc: the scan's getblock read is not pinned to its own getblockhash (tampered)"]

/-- The reason says that the capture is missing or tampered. -/
def CalledTampered (reason : String) : Prop :=
  MISSING.toList <+: reason.toList ∨ reason ∈ TAMPERED_REASONS

/-- How these texts start. The characters are spelt out for the kernel. -/
def TAMPERED_STARTS : List (List Char) :=
  [['m', 'i', 's', 's', 'i', 'n', 'g'],
    ['b', 't', 'c', '-', 'h', 't', 'l', 'c', ':', ' ', 't', 'h', 'e'],
    ['b', 't', 'c', '-', 'h', 't', 'l', 'c', ':', ' ',
      'm', 'a', 'l', 'f', 'o', 'r', 'm', 'e', 'd', '/']]

/-- One of the tampered starts is a prefix of the text whose characters were tested. -/
theorem starts_of_text {text : String} {chars : List Char} (hText : text = String.ofList chars)
    (h : (TAMPERED_STARTS.any fun start => start.isPrefixOf chars) = true) :
    ∃ start ∈ TAMPERED_STARTS, start <+: text.toList := by
  obtain ⟨start, hStart, hPrefix⟩ := List.any_eq_true.mp h
  rw [hText, String.toList_ofList]
  exact ⟨start, hStart, List.isPrefixOf_iff_prefix.mp hPrefix⟩

/-- A reason that is called tampered begins with one of the tampered starts. -/
theorem starts_of_calledTampered {reason : String} (h : CalledTampered reason) :
    ∃ start ∈ TAMPERED_STARTS, start <+: reason.toList := by
  rcases h with hMissing | hMem
  · obtain ⟨start, hStart, hPrefix⟩ : ∃ start ∈ TAMPERED_STARTS, start <+: MISSING.toList :=
      starts_of_text rfl (by decide)
    exact ⟨start, hStart, hPrefix.trans hMissing⟩
  · have hAll : ∀ text ∈ TAMPERED_REASONS, ∃ start ∈ TAMPERED_STARTS, start <+: text.toList := by
      simp only [TAMPERED_REASONS, List.forall_mem_cons]
      exact ⟨starts_of_text rfl (by decide), starts_of_text rfl (by decide),
        starts_of_text rfl (by decide), starts_of_text rfl (by decide),
        starts_of_text rfl (by decide), starts_of_text rfl (by decide),
        starts_of_text rfl (by decide), fun _ hNil => by cases hNil⟩
    exact hAll reason hMem

/-- No text that starts so says it. -/
def StartsClean (start : String) : Prop := ∀ rest, ¬ CalledTampered (start ++ rest)

/-- The characters part from those of each start. -/
def parts (chars : List Char) : Bool :=
  TAMPERED_STARTS.all fun start => !start.isPrefixOf chars && !chars.isPrefixOf start

/-- Characters that part from every tampered start keep a text that begins with them clear of it. -/
theorem not_calledTampered {text : String} {chars : List Char} (hText : chars <+: text.toList)
    (h : parts chars = true) : ¬ CalledTampered text := by
  intro hTampered
  obtain ⟨start, hStart, hPrefix⟩ := starts_of_calledTampered hTampered
  have hParts := List.all_eq_true.mp h start hStart
  rw [Bool.and_eq_true, Bool.not_eq_true', Bool.not_eq_true'] at hParts
  rcases List.prefix_or_prefix_of_prefix hPrefix hText with h | h
  · rw [List.isPrefixOf_iff_prefix.mpr h] at hParts
    cases hParts.1
  · rw [List.isPrefixOf_iff_prefix.mpr h] at hParts
    cases hParts.2

/-- The characters of a text decide that it starts clean. -/
theorem startsClean {text : String} {chars : List Char} (hText : text = String.ofList chars)
    (h : parts chars = true) : StartsClean text := by
  intro rest
  refine not_calledTampered ?_ h
  rw [String.toList_append, hText, String.toList_ofList]
  exact List.prefix_append chars rest.toList

/-- A clean start stays clean whatever is appended. -/
theorem StartsClean.append {start : String} (h : StartsClean start) (more : String) :
    StartsClean (start ++ more) := by
  intro rest
  rw [String.append_assoc]
  exact h (more ++ rest)

/-- Two texts joined start clean when their characters do. -/
theorem startsClean_append {a b : String} {as bs : List Char} (ha : a = String.ofList as)
    (hb : b = String.ofList bs) (h : parts (as ++ bs) = true) : StartsClean (a ++ b) := by
  refine startsClean ?_ h
  rw [ha, hb, String.ofList_append]

/-- What starts clean is not called tampered. -/
theorem StartsClean.clean {start : String} (h : StartsClean start) : ¬ CalledTampered start := by
  have hSelf := h ""
  rwa [String.append_empty] at hSelf

/-- An `unknown` refusal with a clean reason is not called tampered. -/
theorem StartsClean.unknown {reason : String} (h : StartsClean reason) :
    ¬ CalledTampered (Refusal.unknown reason).reason :=
  h.clean

/-- A `differs` refusal with a clean reason is not called tampered. -/
theorem StartsClean.differs {reason : String} (h : StartsClean reason) :
    ¬ CalledTampered (Refusal.differs reason).reason :=
  h.clean

/-! ## Parts of the reader -/

/-- A part of the reader that stops with a clean reason, or goes on with what satisfies this. -/
def Clean {ε α : Type} (reasonOf : ε → String) (x : Except ε α) (post : α → Prop) : Prop :=
  match x with
  | .error e => ¬ CalledTampered (reasonOf e)
  | .ok a => post a

section

variable {ε α β : Type} {reasonOf : ε → String} {x : Except ε α} {f : α → Except ε β}
  {post : α → Prop} {next : β → Prop}

/-- Clean steps compose: the second may rely on what the first establishes. -/
theorem Clean.bind (hx : Clean reasonOf x post) (hf : ∀ a, post a → Clean reasonOf (f a) next) :
    Clean reasonOf (x >>= f) next := by
  cases x with
  | error e => exact hx
  | ok a => exact hf a hx

/-- The fact that a clean step establishes may be weakened. -/
theorem Clean.mono {post' : α → Prop} (hx : Clean reasonOf x post) (h : ∀ a, post a → post' a) :
    Clean reasonOf x post' := by
  cases x with
  | error e => exact hx
  | ok a => exact h a hx

/-- A `require` is clean when its error is, and its condition then holds. -/
theorem clean_require {c : Prop} [Decidable c] {e : ε} (h : ¬ c → ¬ CalledTampered (reasonOf e)) :
    Clean reasonOf (require c e) fun _ => c := by
  unfold require
  split
  · assumption
  · rename_i hc
    exact h hc

/-- A `need` is clean when its error is, and the value is then there. -/
theorem clean_need {v : Option α} {e : ε} (h : v = none → ¬ CalledTampered (reasonOf e)) :
    Clean reasonOf (need v e) fun a => v = some a := by
  cases v with
  | none => exact h rfl
  | some _ => exact rfl

/-- A `refute` is clean when its errors are, and the value is then absent. -/
theorem clean_refute {v : Option α} {e : α → ε}
    (h : ∀ a, v = some a → ¬ CalledTampered (reasonOf (e a))) :
    Clean reasonOf (refute v e) fun _ => v = none := by
  cases v with
  | none => exact rfl
  | some a => exact h a rfl

/-- A step with clean errors is clean, whatever its value. -/
theorem clean_mapError {ε' : Type} {y : Except ε' α} {g : ε' → ε}
    (h : ∀ e, ¬ CalledTampered (reasonOf (g e))) :
    Clean reasonOf (y.mapError g) fun a => y = .ok a := by
  cases y with
  | error e => exact h e
  | ok a => exact rfl

/-- Reading the result of an envelope fails with the clean reason only. -/
theorem clean_resultOf {outcome : EnvelopeOutcome} {reason : String}
    (h : ¬ CalledTampered reason) :
    Clean id (resultOf outcome reason) fun value => outcome = .result value := by
  cases outcome with
  | result _ => exact rfl
  | error => exact h

end

/-! ## The reads -/

section

variable {rt : CapturingRuntime} {call : CaptureCall} {log : List Exchange} {outpoint : Outpoint}
  {captured : BtcRailConfig} (hLogged : Logged call log)
  (hDoc : Documented rt call (builtCapture rt.toRuntime call log none).toCapture)

include hLogged hDoc

/-- A kept exchange binds in the built capture without a tampered reason. -/
theorem clean_bind_kept {i : Nat} {method label : String} {params : List Json}
    {outcome : EnvelopeOutcome} (h : Kept rt call log i method params outcome) :
    Clean id (bindBtcExchange rt.toRuntime (builtCapture rt.toRuntime call log none).toCapture
        (exchangeAt (builtCapture rt.toRuntime call log none).exchanges i method) label)
      fun bound => bound = ⟨⟨.str (call.requestId rt i), method, some (.arr params)⟩, outcome⟩ := by
  rw [bind_kept hLogged hDoc h]
  exact rfl

/-- The chain and tip of a complete built capture are read back clean. -/
theorem clean_readTip (hComplete : Complete rt call log outpoint) (config : BtcRailConfig) :
    Clean id (readTip rt.toRuntime (builtCapture rt.toRuntime call log none).toCapture config)
      fun tipHeight => ChainAnswered rt call config tipHeight ∧
        CompleteFunding rt call log outpoint tipHeight := by
  obtain ⟨info, hInfo, hRest⟩ := hComplete
  have hMalformed : ¬ CalledTampered "btc-htlc: malformed getblockchaininfo result" :=
    (startsClean rfl (by decide)).clean
  unfold readTip
  -- exchange 0: the chain info, its network and the height of the tip
  refine (clean_bind_kept hLogged hDoc hInfo).bind ?_
  rintro _ rfl
  refine (clean_resultOf (startsClean rfl (by decide)).clean).bind ?_
  intro value hValue
  obtain rfl := EnvelopeOutcome.result.inj hValue
  refine (clean_need fun _ => hMalformed).bind fun v hObject => ?_
  obtain ⟨rfl, hObject⟩ := Option.filter_eq_some_iff.mp hObject |>.imp Option.some.inj id
  refine (clean_need fun _ => hMalformed).bind fun chain hChain => ?_
  refine (clean_need fun _ => hMalformed).bind fun tipHeight hBlocks => ?_
  obtain ⟨⟨genesis, hGenesis⟩, hFunding⟩ := hRest tipHeight hBlocks
  refine (clean_require fun _ => ?_).bind fun _ hNetwork => ?_
  · exact (startsClean rfl (by decide) |>.append _ |>.append _ |>.append _ |>.append _ |>.append _
      |>.append _).clean
  -- exchange 1: the genesis hash, against the pinned one
  refine (clean_bind_kept hLogged hDoc hGenesis).bind ?_
  rintro _ rfl
  refine (clean_resultOf (startsClean rfl (by decide)).clean).bind ?_
  intro value hValue
  obtain rfl := EnvelopeOutcome.result.inj hValue
  refine (clean_require fun hOther => ?_).bind fun _ _ => ?_
  · exact absurd (paramsAre_of_params rfl (by simp [Json.isContainer])) hOther
  refine (clean_require fun _ => ?_).bind fun _ hHash => ?_
  · exact (startsClean rfl (by decide) |>.append _ |>.append _ |>.append _ |>.append _).clean
  obtain ⟨hash, hHash, hSame⟩ := (Option.any_eq_true _ _).mp hHash
  exact ⟨⟨⟨info, hInfo.answer, hObject, hNetwork ▸ hChain, hBlocks⟩,
    genesis, hash, hGenesis.answer, hHash, of_decide_eq_true hSame⟩, hFunding⟩

/-- The funding transaction of a complete built capture is read back clean. -/
theorem clean_readFundingTx {tipHeight : Int}
    (hComplete : CompleteFunding rt call log outpoint tipHeight) :
    Clean id (readFundingTx rt.toBtcRuntime
        (builtCapture rt.toRuntime call log none).toCapture outpoint)
      fun read => ∃ rawTx txout header, FundingAnswered rt call outpoint rawTx ∧
        Kept rt call log 3 "gettxout" [.str outpoint.txid, .num (.int outpoint.vout), .bool false]
          (.result txout) ∧
        Kept rt call log 4 "getblockheader" [.str read.2.2] (.result header) ∧
        ∀ height, blockHeaderHeight header = some height → isNull txout = true →
          CompleteScan rt call log outpoint
            (scanEnd call.config tipHeight height + 1 - height).toNat 5 height := by
  obtain ⟨outcome, hRawTx, hRest⟩ := hComplete
  have hUnconfirmed : ¬ CalledTampered "btc-htlc: funding transaction is not yet confirmed" :=
    (startsClean rfl (by decide)).clean
  unfold readFundingTx
  -- exchange 2: the funding transaction, with its output, its confirmations and its block
  refine (clean_bind_kept hLogged hDoc hRawTx).bind ?_
  rintro _ rfl
  refine (clean_require fun hOther => ?_).bind fun _ _ => ?_
  · exact absurd (paramsAre_of_params rfl (by simp [Json.isContainer])) hOther
  refine (clean_resultOf (startsClean rfl (by decide)).clean).bind fun rawTx hResult => ?_
  obtain rfl : outcome = .result rawTx := hResult
  obtain ⟨txout, hTxout, hHeader⟩ := hRest rawTx rfl
  refine (clean_need fun _ => ?_).bind fun output hOutput => ?_
  · exact (startsClean rfl (by decide) |>.append _ |>.append _ |>.append _ |>.append _).clean
  refine (clean_need fun _ => hUnconfirmed).bind fun confirmations hConfirmed => ?_
  refine (clean_need fun _ => hUnconfirmed).bind fun hash hHash => ?_
  obtain ⟨header, hHeader, hScan⟩ := hHeader confirmations hash hConfirmed hHash
  -- exchanges 3 and 4 were kept once these were read
  obtain ⟨hConfirmations, hConfirmed⟩ := Option.filter_eq_some_iff.mp hConfirmed
  exact ⟨rawTx, txout, header, ⟨hRawTx.answer, ⟨output, hOutput⟩,
    ⟨confirmations, hConfirmations, of_decide_eq_true hConfirmed⟩, hash, hHash⟩, hTxout, hHeader,
    hScan⟩

/-- The output that was captured is the output that is read back. -/
theorem clean_readTxout {txout : Option Json}
    (h : Kept rt call log 3 "gettxout" [.str outpoint.txid, .num (.int outpoint.vout), .bool false]
      (.result txout)) :
    Clean id (readTxout rt.toRuntime (builtCapture rt.toRuntime call log none).toCapture outpoint)
      fun read => read = txout := by
  unfold readTxout
  refine (clean_bind_kept hLogged hDoc h).bind ?_
  rintro _ rfl
  refine (clean_require fun hOther => ?_).bind fun _ _ => ?_
  · exact absurd (paramsAre_of_params rfl (by simp [Json.isContainer])) hOther
  exact rfl

/-- The header is read clean as long as its height lies in the chain. -/
theorem clean_readHeader {hash : String} {header : Option Json} {tipHeight : Int}
    (h : Kept rt call log 4 "getblockheader" [.str hash] (.result header))
    (hRange : HeightInRange header tipHeight) :
    Clean id (readHeader rt.toRuntime (builtCapture rt.toRuntime call log none).toCapture hash
        tipHeight) fun height => blockHeaderHeight header = some height := by
  obtain ⟨height, hHeight, hLow, hHigh⟩ := hRange
  have hFilter : (blockHeaderHeight header).filter
      (fun height => 1 ≤ height && height ≤ tipHeight) = some height := by
    refine Option.filter_eq_some_iff.mpr ⟨hHeight, ?_⟩
    rw [Bool.and_eq_true]
    exact ⟨decide_eq_true hLow, decide_eq_true hHigh⟩
  unfold readHeader
  refine (clean_bind_kept hLogged hDoc h).bind ?_
  rintro _ rfl
  refine (clean_require fun hOther => ?_).bind fun _ _ => ?_
  · exact absurd (firstParamIs_of_params rfl rfl) hOther
  show Clean id (need ((blockHeaderHeight header).filter _) _) _
  rw [hFilter]
  exact hHeight

/-- One captured block of the scan is read back clean. -/
theorem clean_scanBlock {left i : Nat} {height : Int} {value : Option Json}
    (hHash : Kept rt call log i "getblockhash" [.num (.int height)] (.result value))
    (hBlock : ∀ hash, value.bind Json.asText? = some hash →
      ∃ block, Kept rt call log (i + 1) "getblock" [.str hash, .num (.int 2)] (.result block) ∧
        (findSpendWitness block outpoint.txid outpoint.vout = none →
          CompleteScan rt call log outpoint left (i + 2) (height + 1))) :
    Clean id (scanBlock rt.toRuntime (builtCapture rt.toRuntime call log none).toCapture outpoint i
        height) fun found => found = none →
      CompleteScan rt call log outpoint left (i + 2) (height + 1) := by
  unfold scanBlock
  -- the hash of the block at this height
  refine (clean_bind_kept hLogged hDoc hHash).bind ?_
  rintro _ rfl
  refine (clean_resultOf ((startsClean rfl (by decide)).append _).clean).bind ?_
  intro result hResult
  obtain rfl := EnvelopeOutcome.result.inj hResult
  refine (clean_require fun hOther => ?_).bind fun _ _ => ?_
  · exact absurd (paramsAre_of_params rfl (by simp [Json.isContainer])) hOther
  refine (clean_need fun _ => ?_).bind fun hash hShape => ?_
  · exact (startsClean rfl (by decide) |>.append _ |>.append _).clean
  obtain ⟨hText, -⟩ := Option.filter_eq_some_iff.mp hShape
  obtain ⟨block, hBlock, hRest⟩ := hBlock hash hText
  -- the block itself; the scan goes on only where it shows no spend
  refine (clean_bind_kept hLogged hDoc hBlock).bind ?_
  rintro _ rfl
  refine (clean_resultOf ((startsClean rfl (by decide)).append _).clean).bind ?_
  intro result hResult
  obtain rfl := EnvelopeOutcome.result.inj hResult
  refine (clean_require fun hOther => ?_).bind fun _ _ => ?_
  · exact absurd (paramsAre_of_params rfl (by simp [Json.isContainer])) hOther
  exact fun hNone => hRest (Option.map_eq_none_iff.mp hNone)

/-- The captured scan is read back clean, by induction on the blocks left. -/
theorem clean_scanBlocks {left i : Nat} {height : Int}
    (h : CompleteScan rt call log outpoint left i height) :
    Clean id (scanBlocks rt.toRuntime (builtCapture rt.toRuntime call log none).toCapture outpoint
      left i height) fun _ => True := by
  induction left generalizing i height with
  | zero => trivial
  | succ left ih =>
    obtain ⟨value, hHash, hBlock⟩ := h
    refine (clean_scanBlock hLogged hDoc hHash hBlock).bind fun found hRest => ?_
    cases found with
    | some found => trivial
    | none => exact ih (hRest rfl)

/-- The search for the spend over a complete scan is clean. -/
theorem clean_readSpend {tipHeight height : Int}
    (h : CompleteScan rt call log outpoint
      (scanEnd captured tipHeight height + 1 - height).toNat 5 height) :
    Clean id (readSpend rt.toRuntime (builtCapture rt.toRuntime call log none).toCapture captured
      outpoint tipHeight height) fun _ => True := by
  unfold readSpend
  refine (clean_scanBlocks hLogged hDoc h).bind fun found _ => ?_
  refine (clean_need fun _ => ?_).mono fun _ _ => trivial
  rw [id]
  split
  · exact (startsClean rfl (by decide) |>.append _ |>.append _ |>.append _).clean
  · exact (startsClean rfl (by decide) |>.append _).clean

/-- The output and its spend are read clean off a complete capture. -/
theorem clean_observeOutput {input : BtcEvidenceInput} {admitted : BtcAdmitted} {tipHeight : Int}
    {funding : Funding}
    (h : isNull funding.txout = true → CompleteScan rt call log admitted.outpoint
      (scanEnd admitted.captured tipHeight funding.height + 1 - funding.height).toNat 5
      funding.height) :
    Clean id (observeOutput rt.toRuntime (builtCapture rt.toRuntime call log none).toCapture input
      admitted tipHeight funding) fun _ => True := by
  unfold observeOutput
  dsimp only
  split
  · refine (clean_require fun _ => ?_).bind fun _ _ => trivial
    exact (startsClean rfl (by decide) |>.append _ |>.append _ |>.append _).clean
  · rename_i hSpent
    have hSpent : isNull funding.txout = true := by simpa using hSpent
    refine (clean_readSpend hLogged hDoc (h hSpent)).bind fun found _ => ?_
    refine (clean_require fun _ => ?_).bind fun _ _ => ?_
    · exact (startsClean rfl (by decide) |>.append _ |>.append _ |>.append _).clean
    refine (clean_need fun _ => ?_).bind fun _ _ => trivial
    exact (startsClean rfl (by decide)).clean

end

/-! ## The checks around the reads -/

/-- A ref starts with a digit of its txid, and no text that says tampered goes on so. -/
theorem not_calledTampered_ref {ref : String} {outpoint : Outpoint} {rest : String}
    (h : parseRef ref = some outpoint) : ¬ CalledTampered ("btc-htlc: " ++ ref ++ rest) := by
  -- the only reason that begins with a captured text: a ref of the right shape begins with a digit
  unfold parseRef at h
  dsimp only at h
  split at h
  · rename_i hShape
    simp only [Bool.and_eq_true, GENESIS_HASH_SHAPE, String.toList_ofList, decide_eq_true_eq]
      at hShape
    obtain ⟨⟨⟨⟨hLength, hAll⟩, -⟩, -⟩, -⟩ := hShape
    obtain ⟨c, rest', hRest⟩ : ∃ c rest', ref.toList = c :: rest' := by
      cases hChars : ref.toList with
      | nil =>
        rw [hChars] at hLength
        cases hLength
      | cons c rest' => exact ⟨c, rest', rfl⟩
    rw [hRest, List.take_succ_cons, List.all_cons, Bool.and_eq_true] at hAll
    -- and no tampered start goes on with a digit after `btc-htlc: `
    have hNot : c ≠ 't' ∧ c ≠ 'm' := by
      constructor <;> rintro rfl <;> exact absurd hAll.1 (by decide)
    have hStart : ['b', 't', 'c', '-', 'h', 't', 'l', 'c', ':', ' ', c] <+:
        ("btc-htlc: " ++ ref ++ rest).toList := by
      refine ⟨rest' ++ rest.toList, ?_⟩
      rw [String.toList_append, String.toList_append, hRest]
      rfl
    refine not_calledTampered hStart ?_
    simp [parts, TAMPERED_STARTS, List.isPrefixOf, hNot.1, hNot.2]
  · cases h

/-- The last judgement carries no tampered reason of its own. -/
theorem clean_judgeFunding {rt : BtcRuntime} {input : BtcEvidenceInput} {captured : BtcRailConfig}
    {output : FundingOutput} {status : RailStatus} {outpoint : Outpoint}
    (hRef : parseRef input.capture.ref = some outpoint) :
    Clean Refusal.reason (judgeFunding rt input captured output status)
      fun verdict => ¬ CalledTampered verdict.reason := by
  unfold judgeFunding
  dsimp only
  -- the terms lack an account, or a part of the script
  refine (clean_need fun _ => ?_).bind fun payee _ => ?_
  · exact (startsClean rfl (by decide)).unknown
  refine (clean_need fun _ => ?_).bind fun payer _ => ?_
  · exact (startsClean rfl (by decide)).unknown
  refine (clean_require fun _ => ?_).bind fun _ _ => ?_
  · exact (startsClean rfl (by decide)).unknown
  refine (clean_mapError fun e => ?_).bind fun expected _ => ?_
  · exact ((startsClean rfl (by decide)).append e).unknown
  -- a lock that is open, then one that was spent
  split
  · refine (clean_require fun _ => ?_).bind fun _ _ => ?_
    · exact ((startsClean rfl (by decide)).append _).differs
    refine (clean_require fun _ => ?_).bind fun _ _ => ?_
    · exact (startsClean rfl (by decide) |>.append _ |>.append _ |>.append _).differs
    exact (startsClean rfl (by decide)).clean
  -- here the reason quotes the status, and the ref of the capture
  · refine (clean_require fun _ => ?_).bind fun _ _ => ?_
    · have hStart : StartsClean ("btc-htlc: " ++ status.text) := by
        cases status <;> exact startsClean_append rfl rfl (by decide)
      exact ((hStart.append _).append _).unknown
    show ¬ CalledTampered ("btc-htlc: " ++ input.capture.ref ++ " is " ++ status.text ++ _)
    rw [String.append_assoc, String.append_assoc]
    exact not_calledTampered_ref hRef

/-- The window of a capture stands in its configuration. -/
theorem scanWindowFor_effective {config captured : BtcRailConfig}
    (h : checkBtcRailConfig (some (effectiveConfigJson config)) = .ok captured) :
    scanWindowFor captured = scanWindowFor config := by
  unfold checkBtcRailConfig at h
  simp only [bind_eq_ok] at h
  obtain ⟨checked, hShape, u, -, h⟩ := h
  obtain rfl := Except.ok.inj h
  unfold btcRailConfigShape at hShape
  simp only [bind_eq_ok, require_eq_ok, need_eq_ok, exists_const] at hShape
  obtain ⟨v, hValue, pin, -, name, -, network, -, genesisHash, -, caip2, -, -, finality, -,
    confirmations, -, challenge, -, endpoint, -, window, hWindow, asset, -, h⟩ := hShape
  obtain rfl := Except.ok.inj h
  obtain rfl := Option.some.inj (Option.filter_eq_some_iff.mp hValue).1
  have hField : (effectiveConfigJson config).field? "scanWindowBlocks" =
      some (.num (.int (scanWindowFor config))) := rfl
  unfold optional at hWindow
  rw [hField] at hWindow
  obtain ⟨blocks, hBlocks, rfl⟩ := Option.map_eq_some_iff.mp hWindow
  obtain ⟨hInt, -⟩ := Option.filter_eq_some_iff.mp hBlocks
  exact (Option.some.inj hInt).symm

/-- The config that a capture records bounds the scan as the live config does. -/
theorem scanEnd_effective {config captured : BtcRailConfig}
    (h : checkBtcRailConfig (some (effectiveConfigJson config)) = .ok captured)
    (tipHeight height : Int) :
    scanEnd captured tipHeight height = scanEnd config tipHeight height := by
  unfold scanEnd
  rw [scanWindowFor_effective h]

section

variable {rt : CapturingRuntime} {call : CaptureCall} {log : List Exchange}
  {input : BtcEvidenceInput}

/-- A built capture is admitted clean, and what is admitted is what was asked. -/
theorem clean_admitBtcCapture {error : Option String}
    (hCapture : input.capture = builtCapture rt.toRuntime call log error) :
    Clean Refusal.reason (admitBtcCapture input) fun admitted =>
      error = none ∧ Fits input call admitted.outpoint admitted.captured := by
  unfold admitBtcCapture
  rw [hCapture]
  dsimp only
  -- one refusal of the source after the other, each with a text of its own
  refine (clean_refute fun e _ => ?_).bind fun _ hError => ?_
  · exact ((startsClean rfl (by decide)).append e).unknown
  refine (clean_require fun _ => ?_).bind fun _ hLock => ?_
  · exact ((startsClean rfl (by decide)).append _).differs
  refine (clean_require fun _ => ?_).bind fun _ hAsset => ?_
  · exact (startsClean rfl (by decide) |>.append _ |>.append _ |>.append _ |>.append _).differs
  refine (clean_need fun _ => ?_).bind fun outpoint hRef => ?_
  · exact (startsClean rfl (by decide)).unknown
  refine (clean_mapError fun e => ?_).bind fun captured hConfig => ?_
  · exact ((startsClean rfl (by decide)).append e).unknown
  refine (clean_require fun _ => ?_).bind fun _ hChain => ?_
  · exact (startsClean rfl (by decide)).unknown
  refine (clean_require fun _ => ?_).bind fun _ hFinality => ?_
  · exact ((startsClean rfl (by decide)).append _).unknown
  refine (clean_require fun _ => ?_).bind fun _ hWindow => ?_
  · exact ((startsClean rfl (by decide)).append _).unknown
  exact ⟨hError, hRef, hLock, hAsset, hConfig, hChain, hFinality, hWindow⟩

/-- A capture that fits is admitted. -/
theorem admitBtcCapture_of_fits {outpoint : Outpoint} {captured : BtcRailConfig}
    (hCapture : input.capture = builtCapture rt.toRuntime call log none)
    (h : Fits input call outpoint captured) : admitBtcCapture input = .ok ⟨captured, outpoint⟩ := by
  unfold admitBtcCapture
  rw [hCapture]
  simp only [bind_eq_ok, need_eq_ok, refute_eq_ok, require_eq_ok, mapError_eq_ok, exists_const]
  exact ⟨rfl, h.lock, h.asset, outpoint, h.ref, captured, h.config, h.chain, h.finality, h.window,
    rfl⟩

variable (hLogged : Logged call log)
  (hDoc : Documented rt call (builtCapture rt.toRuntime call log none).toCapture)

include hLogged hDoc

/-- The funding is read without complaint, unless the header is out of range. -/
theorem clean_readFunding {outpoint : Outpoint} {captured : BtcRailConfig} {tipHeight : Int}
    (hFits : Fits input call outpoint captured) (hRange : ¬ HeaderOutOfRange rt input call)
    (hChain : ChainAnswered rt call input.config tipHeight)
    (hComplete : CompleteFunding rt call log outpoint tipHeight) :
    Clean id (readFunding rt.toBtcRuntime (builtCapture rt.toRuntime call log none).toCapture
        outpoint tipHeight) fun funding => isNull funding.txout = true →
      CompleteScan rt call log outpoint
        (scanEnd captured tipHeight funding.height + 1 - funding.height).toNat 5
        funding.height := by
  unfold readFunding
  refine (clean_readFundingTx hLogged hDoc hComplete).bind ?_
  rintro ⟨output, confirmations, hash⟩ ⟨rawTx, txout, header, hFunding, hTxout, hHeader, hScan⟩
  refine (clean_readTxout hLogged hDoc hTxout).bind ?_
  rintro _ rfl
  have hInRange : HeightInRange header tipHeight := by
    by_contra hNot
    exact hRange ⟨outpoint, captured, tipHeight, rawTx, _, header, hFits, hChain, hFunding,
      hTxout.answer, hHeader.answer,
      fun height hHeight hSpent => (hScan height hHeight hSpent).answered, hNot⟩
  refine (clean_readHeader hLogged hDoc hHeader hInRange).bind fun height hHeight => ?_
  intro hSpent
  rw [scanEnd_effective hFits.config]
  exact hScan height hHeight hSpent

/-- The whole reading of a complete built capture in range is clean. -/
theorem clean_readOutput {admitted : BtcAdmitted}
    (hCapture : input.capture = builtCapture rt.toRuntime call log none)
    (hFits : Fits input call admitted.outpoint admitted.captured)
    (hRange : ¬ HeaderOutOfRange rt input call)
    (hComplete : Complete rt call log admitted.outpoint) :
    Clean id (readOutput rt.toBtcRuntime input admitted) fun _ => True := by
  unfold readOutput
  rw [hCapture]
  refine (clean_readTip hLogged hDoc hComplete input.config).bind ?_
  rintro tipHeight ⟨hChain, hFunding⟩
  refine (clean_readFunding hLogged hDoc hFits hRange hChain hFunding).bind fun funding hScan => ?_
  exact (clean_observeOutput hLogged hDoc hScan).bind fun _ _ => trivial

/-- The reader stops at a header that is out of range. -/
theorem readOutput_error {outpoint : Outpoint} (captured : BtcRailConfig) {tipHeight : Int}
    {rawTx header : Option Json}
    (hCapture : input.capture = builtCapture rt.toRuntime call log none)
    (hComplete : Complete rt call log outpoint)
    (hChain : ChainAnswered rt call input.config tipHeight)
    (hFunding : FundingAnswered rt call outpoint rawTx)
    (hHeader : call.answer rt 4 = some (.result header))
    (hRange : ¬ HeightInRange header tipHeight) :
    readOutput rt.toBtcRuntime input ⟨captured, outpoint⟩ =
      .error "btc-htlc: malformed/out-of-range getblockheader result (tampered capture)" := by
  -- the answers that the hypotheses name are those that the capture kept
  have hSame {i : Nat} {method : String} {params : List Json} {outcome outcome' : EnvelopeOutcome}
      (h : Kept rt call log i method params outcome) (h' : call.answer rt i = some outcome') :
      outcome = outcome' := Option.some.inj (h.answer.symm.trans h')
  obtain ⟨⟨info, hInfo, hObject, hNetwork, hBlocks⟩, genesis, hash, hGenesis, hText, hHash⟩ :=
    hChain
  obtain ⟨hRawTx, ⟨output, hOutput⟩, ⟨confirmations, hConfirmations, hConfirmed⟩, block, hBlock⟩ :=
    hFunding
  obtain ⟨info', hInfoKept, hRest⟩ := hComplete
  obtain rfl := Option.some.inj (EnvelopeOutcome.result.inj (hSame hInfoKept hInfo))
  obtain ⟨⟨genesis', hGenesisKept⟩, outcome, hRawTxKept, hRest⟩ := hRest tipHeight hBlocks
  obtain rfl := EnvelopeOutcome.result.inj (hSame hGenesisKept hGenesis)
  obtain rfl := hSame hRawTxKept hRawTx
  obtain ⟨txout', hTxoutKept, hRest⟩ := hRest rawTx rfl
  have hFilter : (rawTxConfirmations rawTx).filter (1 ≤ ·) = some confirmations :=
    Option.filter_eq_some_iff.mpr ⟨hConfirmations, decide_eq_true hConfirmed⟩
  obtain ⟨header', hHeaderKept, -⟩ := hRest confirmations block hFilter hBlock
  obtain rfl := EnvelopeOutcome.result.inj (hSame hHeaderKept hHeader)
  -- everything before the header reads back without an error
  have hTip : readTip rt.toRuntime (builtCapture rt.toRuntime call log none).toCapture
      input.config = .ok tipHeight := by
    unfold readTip
    simp only [bind_eq_ok, need_eq_ok, require_eq_ok, exists_const, resultOf_eq_ok]
    exact ⟨_, bind_kept hLogged hDoc hInfoKept, _, rfl, info',
      Option.filter_eq_some_iff.mpr ⟨rfl, hObject⟩, _, hNetwork, _, hBlocks, rfl, _,
      bind_kept hLogged hDoc hGenesisKept, _, rfl,
      paramsAre_of_params rfl (by simp [Json.isContainer]),
      (Option.any_eq_true _ _).mpr ⟨hash, hText, decide_eq_true hHash⟩, rfl⟩
  have hTx : readFundingTx rt.toBtcRuntime (builtCapture rt.toRuntime call log none).toCapture
      outpoint = .ok (output, confirmations, block) := by
    unfold readFundingTx
    simp only [bind_eq_ok, need_eq_ok, require_eq_ok, exists_const, resultOf_eq_ok]
    exact ⟨_, bind_kept hLogged hDoc hRawTxKept,
      paramsAre_of_params rfl (by simp [Json.isContainer]), _, rfl, _, hOutput, _, hFilter, _,
      hBlock, rfl⟩
  have hOut : readTxout rt.toRuntime (builtCapture rt.toRuntime call log none).toCapture outpoint =
      .ok txout' := by
    unfold readTxout
    simp only [bind_eq_ok, require_eq_ok, exists_const, resultOf_eq_ok]
    exact ⟨_, bind_kept hLogged hDoc hTxoutKept,
      paramsAre_of_params rfl (by simp [Json.isContainer]), rfl⟩
  -- the height that is read is out of range, so it is filtered out
  have hNone : (blockHeaderHeight header').filter
      (fun height => 1 ≤ height && height ≤ tipHeight) = none := by
    refine Option.filter_eq_none_iff.mpr fun height hHeight hWithin => hRange ?_
    rw [Bool.and_eq_true, decide_eq_true_eq, decide_eq_true_eq] at hWithin
    exact ⟨height, hHeight, hWithin⟩
  have hBad : readHeader rt.toRuntime (builtCapture rt.toRuntime call log none).toCapture block
      tipHeight =
      .error "btc-htlc: malformed/out-of-range getblockheader result (tampered capture)" := by
    unfold readHeader
    rw [bind_kept hLogged hDoc hHeaderKept]
    show (require (firstParamIs _ _) _ >>= fun _ =>
      need ((blockHeaderHeight header').filter _) _) = _
    rw [hNone, require, if_pos (firstParamIs_of_params rfl rfl)]
    rfl
  unfold readOutput readFunding
  rw [hCapture]
  simp only [bind, Except.bind, hTip, hTx, hOut, hBad]

end

/-! ## A fresh capture -/

/-- The answer is that the capture is missing or tampered. -/
def SaysTampered (result : BtcEvidenceResult) : Prop :=
  ∃ reason, result.lock.reason = some reason ∧ CalledTampered reason

section

variable {rt : CapturingRuntime} {call : CaptureCall} {input : BtcEvidenceInput}

/-- The answer says no more than the part of the reader that gives it. -/
theorem not_saysTampered {rt : BtcRuntime} {post : BtcAdmitted → Prop}
    (hAdmit : Clean Refusal.reason (admitBtcCapture input) post)
    (hRead : ∀ admitted, post admitted →
      (∃ outpoint, parseRef input.capture.ref = some outpoint) ∧
        Clean id (readOutput rt input admitted) fun _ => True) :
    ¬ SaysTampered (btcEvidence rt input) := by
  rintro ⟨reason, hReason, hTampered⟩
  unfold btcEvidence at hReason
  dsimp only at hReason
  cases hAdmitted : admitBtcCapture input with
  | error refusal =>
    rw [hAdmitted] at hReason hAdmit
    obtain rfl := Option.some.inj hReason
    exact hAdmit hTampered
  | ok admitted =>
    rw [hAdmitted] at hReason hAdmit
    obtain ⟨⟨outpoint, hRef⟩, hClean⟩ := hRead admitted hAdmit
    cases hOutput : readOutput rt input admitted with
    | error stop =>
      simp only [hOutput] at hReason hClean
      obtain rfl := Option.some.inj hReason
      exact hClean hTampered
    | ok output =>
      obtain ⟨funding, view⟩ := output
      simp only [hOutput] at hReason
      have hJudge : Clean Refusal.reason
          (judgeFunding rt input admitted.captured funding.output view.status)
          fun verdict => ¬ CalledTampered verdict.reason := clean_judgeFunding hRef
      cases hJudged : judgeFunding rt input admitted.captured funding.output view.status with
      | error refusal =>
        simp only [hJudged] at hReason hJudge
        obtain rfl := Option.some.inj hReason
        exact hJudge hTampered
      | ok verdict =>
        simp only [hJudged] at hReason hJudge
        obtain rfl := Option.some.inj hReason
        exact hJudge hTampered

/-- How a capture came about. -/
theorem captureBtcLeg_cases {capture : BtcCapture} (h : captureBtcLeg rt call = some capture) :
    (∃ error log, capture = builtCapture rt.toRuntime call log (some error) ∧
        ∀ outpoint, parseRef call.ref = some outpoint →
          endOf (captureReads rt call outpoint) = .finished log (some error)) ∨
      (parseRef call.ref = none ∧ capture = builtCapture rt.toRuntime call [] none) ∨
      ∃ outpoint log, parseRef call.ref = some outpoint ∧
        capture = builtCapture rt.toRuntime call log none ∧ Logged call log ∧
        Complete rt call log outpoint := by
  unfold captureBtcLeg at h
  split at h
  · rename_i hRef
    exact .inr (.inl ⟨hRef, (Option.some.inj h).symm⟩)
  · rename_i outpoint hRef
    split at h
    · cases h
    · rename_i log error hEnd
      obtain rfl := Option.some.inj h
      cases error with
      | some error =>
        refine .inl ⟨error, log, rfl, fun outpoint' hRef' => ?_⟩
        obtain rfl := Option.some.inj (hRef.symm.trans hRef')
        exact hEnd
      | none =>
        obtain ⟨hLogged, hComplete⟩ := complete_of_captureReads hEnd
        exact .inr (.inr ⟨outpoint, log, hRef, rfl, hLogged, hComplete⟩)

/-- A capture whose header is out of range is called tampered. -/
theorem saysTampered_of_headerOutOfRange {capture : BtcCapture}
    (hCapture : captureBtcLeg rt call = some capture)
    (hDoc : Documented rt call capture.toCapture) (hInput : input.capture = capture)
    (h : HeaderOutOfRange rt input call) : SaysTampered (btcEvidence rt.toBtcRuntime input) := by
  obtain ⟨outpoint, captured, tipHeight, rawTx, txout, header, hFits, hChain, hFunding, hTxout,
    hHeader, hScan, hRange⟩ := h
  rcases captureBtcLeg_cases hCapture with ⟨error, log, rfl, hEnd⟩ | ⟨hRef, -⟩ |
    ⟨outpoint', log, hRef, rfl, hLogged, hComplete⟩
  · -- the scan, if there is one, is answered to its end
    obtain ⟨final, hFinal⟩ := endOf_captureReads hChain hFunding hTxout hHeader hScan
    rw [hEnd outpoint hFits.ref] at hFinal
    cases hFinal
  · rw [hFits.ref] at hRef
    cases hRef
  · obtain rfl := Option.some.inj (hRef.symm.trans hFits.ref)
    have hStop := readOutput_error hLogged hDoc captured hInput hComplete hChain hFunding hHeader
      hRange
    refine ⟨"btc-htlc: malformed/out-of-range getblockheader result (tampered capture)", ?_,
      .inr (by simp [TAMPERED_REASONS])⟩
    unfold btcEvidence
    rw [admitBtcCapture_of_fits hInput hFits]
    dsimp only
    rw [hStop]
    rfl

/-- A capture of the node's own answers is never called tampered while its header is in range. -/
theorem not_saysTampered_of_inRange {capture : BtcCapture}
    (hCapture : captureBtcLeg rt call = some capture)
    (hDoc : Documented rt call capture.toCapture) (hInput : input.capture = capture)
    (h : ¬ HeaderOutOfRange rt input call) :
    ¬ SaysTampered (btcEvidence rt.toBtcRuntime input) := by
  rcases captureBtcLeg_cases hCapture with ⟨error, log, rfl, -⟩ | ⟨hRef, rfl⟩ |
    ⟨outpoint, log, hRef, rfl, hLogged, hComplete⟩
  · refine not_saysTampered (clean_admitBtcCapture hInput) ?_
    rintro _ ⟨hNone, -⟩
    cases hNone
  · refine not_saysTampered (clean_admitBtcCapture hInput) ?_
    rintro admitted ⟨-, hFits⟩
    rw [hFits.ref] at hRef
    cases hRef
  · refine not_saysTampered (clean_admitBtcCapture hInput) ?_
    rintro admitted ⟨-, hFits⟩
    have hSame := Option.some.inj (hRef.symm.trans hFits.ref)
    refine ⟨⟨outpoint, hInput ▸ hRef⟩, ?_⟩
    exact clean_readOutput hLogged hDoc hInput hFits h (hSame ▸ hComplete)

/-- A fresh capture is not called missing or tampered, unless the header of the funding block is
that of no block up to the tip that was read before. -/
theorem not_saysTampered_iff {capture : BtcCapture}
    (hCapture : captureBtcLeg rt call = some capture)
    (hDoc : Documented rt call capture.toCapture) (hInput : input.capture = capture) :
    ¬ SaysTampered (btcEvidence rt.toBtcRuntime input) ↔ ¬ HeaderOutOfRange rt input call := by
  constructor
  · intro hClean hRange
    exact hClean (saysTampered_of_headerOutOfRange hCapture hDoc hInput hRange)
  · exact not_saysTampered_of_inRange hCapture hDoc hInput

end

/-! ## A sample run

The sample output of `BtcSample`, in block 114 of a node that answers each request. The tip is that
of the first read. -/

namespace FreshSample

open BtcSample

def runtime : CapturingRuntime where
  toRuntime := textRuntime (fun text => text) fun bytes => bytes
  scriptEncode := encodeElements
  p2wsh script _ := .ok ⟨[0x00, 0x20] ++ script, address⟩
  transactionFromRaw _ := some [⟨some scriptPubKey, some 50000⟩]
  decodeLossy bytes := (String.fromUTF8? ⟨bytes.toArray⟩).getD ""

def requests : List (String × List Json) :=
  [("getblockchaininfo", []), ("getblockhash", [.num (.int 0)]),
    ("getrawtransaction", [.str txid, .bool true]),
    ("gettxout", [.str txid, .num (.int 0), .bool false]), ("getblockheader", [.str blockHash])]

def info (tip : Int) : Json := .obj [("chain", .str "regtest"), ("blocks", .num (.int tip))]

def fundingTx : Json :=
  .obj [("hex", .str (bytesToHex rawTx)), ("confirmations", .num (.int 1)),
    ("blockhash", .str blockHash)]

def header : Json := .obj [("height", .num (.int 114))]

def results (tip : Int) : List Json :=
  [info tip, .str BTC_REGTEST_PIN.genesisHash, fundingTx, unspent, header]

def requestId (i : Nat) : String := recordedId runtime.toRuntime ref 10 "nonce" i

def responseBytes (i : Nat) (result : Json) : List UInt8 :=
  utf8 (jsonText (responseBody (requestId i) (some result)))

def call (tip : Int) : CaptureCall where
  config := config
  ref := ref
  nowMs := 10
  nonce := "nonce"
  replies i := match (results tip)[i]? with
    | some result => .received (responseBytes i result)
    | none => .failed "unreachable"

def log (tip : Int) : List Exchange :=
  (requests.zip (results tip)).mapIdx fun i exchange =>
    ⟨exchange.1.1, exchange.1.2, (call tip).requestText runtime i exchange.1.1 exchange.1.2,
      responseBytes i exchange.2⟩

def capture (tip : Int) : BtcCapture := builtCapture runtime.toRuntime (call tip) (log tip) none

def input (tip : Int) : BtcEvidenceInput :=
  { BtcSample.input none with capture := capture tip }

/-- The sample's JSON text reads back. -/
theorem readsBack : ReadsBack runtime.toRuntime := readsBack_textRuntime _ _

/-- The sample's UTF-8 text decodes under both decoders. -/
theorem decodes (text : String) :
    runtime.decodeUtf8 (utf8 text) = some text ∧ runtime.decodeLossy (utf8 text) = text := by
  have h : String.fromUTF8? ⟨(utf8 text).toArray⟩ = some text := readsBack.decodes
  exact ⟨h, by rw [show runtime.decodeLossy (utf8 text) =
    (String.fromUTF8? ⟨(utf8 text).toArray⟩).getD "" from rfl, h]; rfl⟩

variable {tip : Int} (hTip : JsonText.Plain (.num (.int tip)))

include hTip

/-- Every result of the sample node is plain JSON. -/
theorem plain_results : ∀ result ∈ results tip, JsonText.Plain result := by
  have hBlocks : JsonText.Plain (info tip) := ⟨by simp, trivial, hTip, trivial⟩
  simp only [results, List.forall_mem_cons]
  refine ⟨hBlocks, trivial, ?_, ?_, ?_, fun _ h => by cases h⟩ <;>
    simp [fundingTx, unspent, header, JsonText.Plain, JsonText.PlainFields, JsonText.maxExact]

/-- The body of the i-th response parses to that response. -/
theorem parses {i : Nat} {result : Json} (h : (results tip)[i]? = some result) :
    runtime.jsonParse (runtime.decodeLossy (responseBytes i result)) =
      some (responseBody (requestId i) (some result)) := by
  have hPlain := plain_results hTip result (List.mem_of_getElem? h)
  rw [responseBytes, (decodes _).2]
  refine readsBack.parses (plain_responseBody ?_)
  rintro _ ⟨⟩
  exact hPlain

omit hTip in
/-- The node replies to the i-th request with the i-th response. -/
theorem replies_eq {i : Nat} {result : Json} (h : (results tip)[i]? = some result) :
    (call tip).replies i = .received (responseBytes i result) := by
  show (match (results tip)[i]? with
    | some result => Reply.received (responseBytes i result)
    | none => .failed "unreachable") = _
  rw [h]

/-- The i-th answer carries the i-th result. -/
theorem answers {i : Nat} {result : Json} (h : (results tip)[i]? = some result) :
    (call tip).answer runtime i = some (.result (some result)) := by
  refine answer_eq_some.mpr ⟨_, _, replies_eq h, parses hTip h, rfl, ?_⟩
  obtain ⟨-, hNotRejected, hResult⟩ := responseBody_answers (requestId i) (some result)
  rw [hNotRejected, hResult]
  rfl

omit hTip in
/-- Every request of the sample is plain JSON. -/
theorem plain_requests : ∀ request ∈ requests, JsonText.Plain (.arr request.2) := by
  simp [requests, JsonText.Plain, JsonText.PlainItems, JsonText.maxExact]

/-- The sample meets what is documented of the node and the transport. -/
theorem documented : Documented runtime (call tip) (capture tip).toCapture := by
  constructor
  · intro i exchange hAt params hParams
    have hAt : ((log tip).map fun exchange : Exchange => CaptureIndexExchange.mk exchange.method
        (some (.arr exchange.params)) exchange.requestBody
        (responseSha256 runtime.toRuntime exchange.responseBytes))[i]? = some exchange := hAt
    rw [List.getElem?_map, log, List.getElem?_mapIdx, Option.map_map, Option.map_eq_some_iff] at hAt
    obtain ⟨⟨request, result⟩, hCall, rfl⟩ := hAt
    obtain rfl := Option.some.inj hParams
    have hMem := (List.of_mem_zip (List.mem_of_getElem? hCall)).1
    exact readsBack.parses (plain_requestBody (plain_requests request hMem))
  · intro i bytes envelope hReply hParse _
    cases hResult : (results tip)[i]? with
    | none =>
      have hFailed : (call tip).replies i = .failed "unreachable" := by
        show (match (results tip)[i]? with
          | some result => Reply.received (responseBytes i result)
          | none => .failed "unreachable") = _
        rw [hResult]
      rw [hFailed] at hReply
      cases hReply
    | some result =>
      rw [replies_eq hResult] at hReply
      have hBytes := Reply.received.inj hReply
      rw [← hBytes] at hParse ⊢
      rw [parses hTip hResult] at hParse
      have hEnvelope := Option.some.inj hParse
      subst hEnvelope
      obtain ⟨hStrict, hLossy⟩ := decodes (jsonText (responseBody (requestId i) (some result)))
      refine ⟨?_, (responseBody_answers (requestId i) (some result)).1⟩
      rw [responseBytes, hStrict, hLossy]
  · intro i j a b _ _ hSame
    exact hSame

/-- The i-th request of the capture is answered by the i-th result. -/
theorem asks {i : Nat} {result : Json} {log' : List Exchange} {method : String}
    {params : List Json} (h : (results tip)[i]? = some result) (hLength : log'.length = i) :
    ask runtime (call tip) log' method params =
      .ok (log' ++ [⟨method, params, (call tip).requestText runtime i method params,
        responseBytes i result⟩], some result) := by
  subst hLength
  obtain ⟨-, hNotRejected, hResult⟩ := responseBody_answers (requestId log'.length) (some result)
  have hObject : (responseBody (requestId log'.length) (some result)).isContainer = true := rfl
  unfold ask request
  simp only [replies_eq h, parses hTip h, hObject, hNotRejected, hResult]
  rfl

omit hTip in
/-- The funding transaction names its block. -/
theorem reads_fundingTx : rawTxBlockHash (some fundingTx) = some blockHash := by
  have hShape : HEX64_ANY_CASE blockHash = true := by
    simp only [HEX64_ANY_CASE, blockHash, bytesToHex, String.toList_ofList]
    decide +kernel
  unfold rawTxBlockHash
  simp only [Option.bind_eq_bind, Option.bind_eq_some_iff]
  exact ⟨_, rfl, blockHash, Option.filter_eq_some_iff.mpr ⟨rfl, hShape⟩,
    congrArg some toLowerCase_blockHash⟩

/-- The capture runs through to the end of its log. -/
theorem reads : endOf (captureReads runtime (call tip) ⟨txid, 0⟩) = .finished (log tip) none := by
  have hConfirmed : (rawTxConfirmations (some fundingTx)).filter (1 ≤ ·) = some 1 := rfl
  have hRawTx {log' : List Exchange} (hLength : log'.length = 2) :
      askRawTx runtime (call tip) log' ⟨txid, 0⟩ = .ok (log' ++ [⟨"getrawtransaction",
        [.str txid, .bool true], (call tip).requestText runtime 2 "getrawtransaction"
          [.str txid, .bool true], responseBytes 2 fundingTx⟩], some fundingTx) := by
    have hAsk : ask runtime (call tip) log' "getrawtransaction" [.str txid, .bool true] = _ :=
      asks hTip (i := 2) rfl hLength
    unfold ask at hAsk
    unfold askRawTx
    split at hAsk
    · rename_i hRequest
      rw [hRequest]
      exact hAsk
    · cases hAsk
  rw [captureReads, endOf_ok_bind (asks hTip (i := 0) rfl rfl)]
  dsimp only
  have hInfo : (some (info tip)).filter (fun v => !isNull (some v)) = some (info tip) := rfl
  have hBlocks : (info tip).int? "blocks" = some tip := rfl
  rw [hInfo, endOf_need_bind]
  dsimp only
  rw [hBlocks, endOf_need_bind]
  dsimp only
  rw [endOf_ok_bind (asks hTip (i := 1) rfl rfl)]
  dsimp only
  rw [captureFunding, endOf_ok_bind (hRawTx rfl)]
  dsimp only
  rw [endOf_ok_bind (asks hTip (i := 3) rfl rfl)]
  dsimp only
  rw [hConfirmed, endOf_need_bind]
  dsimp only
  rw [reads_fundingTx, endOf_need_bind]
  dsimp only
  rw [endOf_ok_bind (asks hTip (i := 4) rfl rfl)]
  rfl

/-- The capture of the sample is the one written out. -/
theorem captures : captureBtcLeg runtime (call tip) = some (capture tip) := by
  have hRef : parseRef (call tip).ref = some ⟨txid, 0⟩ := parseRef_ref
  unfold captureBtcLeg
  rw [hRef]
  dsimp only
  rw [reads hTip]
  rfl

def captured : BtcRailConfig := { config with scanWindowBlocks := some DEFAULT_SCAN_WINDOW_BLOCKS }

omit hTip in
/-- The sample input asks for what the capture holds. -/
theorem fits : Fits (input tip) (call tip) ⟨txid, 0⟩ captured := by
  have hAdmits := BtcSample.admits none
  unfold admitBtcCapture at hAdmits
  simp only [bind_eq_ok, need_eq_ok, refute_eq_ok, require_eq_ok, mapError_eq_ok, exists_const]
    at hAdmits
  obtain ⟨-, hLock, hAsset, -⟩ := hAdmits
  have hConfig : checkBtcRailConfig (some (effectiveConfigJson config)) = .ok captured := by
    decide +kernel
  exact ⟨parseRef_ref, hLock, hAsset, hConfig, ⟨rfl, rfl, rfl⟩, le_refl (1 : Int),
    le_refl DEFAULT_SCAN_WINDOW_BLOCKS⟩

/-- The node answers for the configured chain. -/
theorem chainAnswered : ChainAnswered runtime (call tip) (input tip).config tip :=
  ⟨⟨info tip, answers hTip rfl, rfl, rfl, rfl⟩, _, BTC_REGTEST_PIN.genesisHash,
    answers hTip (i := 1) rfl, rfl, rfl⟩

/-- The node answers for the funding transaction. -/
theorem fundingAnswered : FundingAnswered runtime (call tip) ⟨txid, 0⟩ (some fundingTx) := by
  refine ⟨answers hTip rfl, ⟨⟨scriptPubKey, 50000⟩, ?_⟩, ⟨1, rfl, le_refl _⟩, blockHash,
    reads_fundingTx⟩
  unfold decodeFundingOutput
  simp only [Option.bind_eq_bind, Option.bind_eq_some_iff]
  exact ⟨_, rfl, _, rfl, rawTx, hexToBytes_bytesToHex rawTx, _, rfl, _, rfl, _, rfl, _, rfl, rfl⟩

/-- The header is out of range when the block was mined after the first read. -/
theorem headerOutOfRange_iff :
    HeaderOutOfRange runtime (input tip) (call tip) ↔ tip < 114 := by
  have hHeight : blockHeaderHeight (some header) = some 114 := rfl
  constructor
  · rintro ⟨-, -, tip', -, -, header', -, ⟨⟨info', hInfo, -, -, hBlocks⟩, -⟩, -, -, hHeader, -,
      hRange⟩
    have hInfo' := EnvelopeOutcome.result.inj
      (Option.some.inj ((answers hTip (i := 0) rfl).symm.trans hInfo))
    have hHeader' := EnvelopeOutcome.result.inj
      (Option.some.inj ((answers hTip (i := 4) rfl).symm.trans hHeader))
    rw [← Option.some.inj hInfo'] at hBlocks
    have hTips : tip = tip' := Option.some.inj hBlocks
    by_contra hNot
    exact hRange ⟨114, hHeader' ▸ hHeight, by omega, by omega⟩
  · intro hLate
    refine ⟨⟨txid, 0⟩, captured, tip, some fundingTx, some unspent, some header, fits,
      chainAnswered hTip, fundingAnswered hTip, answers hTip rfl, answers hTip rfl, ?_, ?_⟩
    · intro _ _ hNull
      cases hNull
    · rintro ⟨height, hSome, -, hHigh⟩
      obtain rfl := Option.some.inj (hHeight.symm.trans hSome)
      omega

end FreshSample

/-- At a tip above the header the capture is not called tampered. -/
theorem not_saysTampered_iff_sample :
    ¬ SaysTampered (btcEvidence FreshSample.runtime.toBtcRuntime (FreshSample.input 120)) := by
  have hTip : JsonText.Plain (.num (.int 120)) := by simp [JsonText.Plain, JsonText.maxExact]
  refine (not_saysTampered_iff (FreshSample.captures hTip) (FreshSample.documented hTip) rfl).mpr ?_
  rw [FreshSample.headerOutOfRange_iff hTip]
  decide

/-- The funding block is mined between the read of the tip and that of the transaction. -/
theorem saysTampered_of_race :
    captureBtcLeg FreshSample.runtime (FreshSample.call 113) = some (FreshSample.capture 113) ∧
      Documented FreshSample.runtime (FreshSample.call 113) (FreshSample.capture 113).toCapture ∧
      (FreshSample.input 113).capture = FreshSample.capture 113 ∧
      SaysTampered (btcEvidence FreshSample.runtime.toBtcRuntime (FreshSample.input 113)) := by
  have hTip : JsonText.Plain (.num (.int 113)) := by simp [JsonText.Plain, JsonText.maxExact]
  have hCaptures := FreshSample.captures hTip
  have hDoc := FreshSample.documented hTip
  exact ⟨hCaptures, hDoc, rfl, saysTampered_of_headerOutOfRange hCaptures hDoc rfl
    ((FreshSample.headerOutOfRange_iff hTip).mpr (by decide))⟩

end SwapDesk.Rails.BtcLeg
