import SwapDesk.Rails.SolLanding
import SwapDesk.Rails.SolTx
import SwapDesk.Rails.SolWire

/-!
# SwapDesk — the search for a claim's preimage on Solana

`findClaimedPreimage` of `src/rails/sol-htlc.ts`: the escrow itself, and then the transactions of
its history page by page, each decoded by `decodeTransaction`. New transactions may come up in
front of the history between two pages.

Main result: `findClaimedPreimage_complete_iff`. The search passes over a transaction that it has
no body of, or that the codec does not read, as though it carried nothing. A claim is missed in
silence where all that carry one are passed over.
-/

namespace SwapDesk.Rails.Sol

open Check Desk

/-! ## The history -/

def SOL_PREIMAGE_SCAN_HARD_LIMIT_TRANSACTIONS : Nat := 5000
def SCAN_PAGE : Nat := 25

/-- A transaction of the escrow's history, of any version, and the instructions it carries. -/
structure HistoryEntry where
  signature : String
  wire : List UInt8
  instructions : List SolInstruction
  /-- What the codec reads of the bytes are these instructions. -/
  faithful : ∀ tx, SolTx.decodeTransaction wire = .ok tx →
    List.Forall₂ (SolTx.Resolves tx.message.accountKeys) instructions tx.message.instructions

/-- What `getTransaction` answers. -/
inductive BodyReply where
  | failed (message : String)
  | missing
  | served
deriving DecidableEq, Repr

/-- A node during one search. -/
structure SearchRun where
  /-- The escrow's account, as it is read first. -/
  escrowAccount : Except String (Option WireAccount)
  /-- The finalized history, newest first, when a page is asked for. -/
  history : Nat → List HistoryEntry
  grows : ∀ page, history page <:+ history (page + 1)
  distinct : ∀ page, ((history page).map HistoryEntry.signature).Nodup
  pageFailure : Nat → Option String
  /-- By how many transactions have been asked for. -/
  body : Nat → BodyReply

/-- What follows a signature in the list. -/
def olderThan (before : Option String) (entries : List HistoryEntry) : List HistoryEntry :=
  match before with
  | none => entries
  | some signature => (entries.dropWhile fun entry => entry.signature ≠ signature).tail

namespace SearchRun

variable (run : SearchRun)

/-- An entry stands for its signature; the node finds its body by it. -/
def getSignaturesForAddress (page : Nat) (before : Option String) :
    Except String (List HistoryEntry) :=
  match run.pageFailure page with
  | some message => .error message
  | none => .ok ((olderThan before (run.history page)).take SCAN_PAGE)

/-- The transaction, `none` where the codec cannot read it. -/
def getTransaction (inspected : Nat) (info : HistoryEntry) :
    Except String (Option (Option SolTx.SolTransaction)) :=
  match run.body inspected with
  | .failed message => .error message
  | .missing => .ok none
  | .served => .ok (some (SolTx.decodeTransaction info.wire).toOption)

end SearchRun

/-! ## The search -/

/-- What a claim is looked for by. -/
structure ClaimTarget where
  programId : List UInt8
  escrow : List UInt8
  hashLockBytes : List UInt8
  sha256 : List UInt8 → List UInt8

def ClaimTarget.opens (target : ClaimTarget) (bytes : List UInt8) : Bool :=
  bytes.length = 32 ∧ target.sha256 bytes = target.hashLockBytes

/-- The body of the loop over the instructions. -/
def claimOf (target : ClaimTarget) (keys : List (List UInt8)) (ix : SolTx.SolCompiledInstruction) :
    Option String := do
  guard (keys[ix.programIdIndex]? = some target.programId)
  guard (ix.data.length = 33 ∧ ix.data.head? = some TAG_CLAIM)
  let first ← ix.accountIndexes.head?
  guard (keys[first]? = some target.escrow)
  let candidate := ix.data.drop 1
  guard (target.opens candidate)
  return "0x" ++ bytesToHex candidate

def preimageFromTransaction (target : ClaimTarget) (tx : SolTx.SolTransaction) : Option String :=
  tx.message.instructions.findSome? (claimOf target tx.message.accountKeys)

/-- How a search ends that does not return. -/
inductive SearchStop where
  | thrown (message : String)
  /-- The rounds of the model's loop are used up. -/
  | usedUp
deriving DecidableEq, Repr

def thrown {α : Type} (x : Except String α) : Except SearchStop α := x.mapError .thrown

/-- `SolHistoryTooLongError` -/
def HISTORY_TOO_LONG : String :=
  "sol-htlc: the escrow's transaction history is longer than 5000 entries, so a public secret " ++
    "cannot be ruled out by scanning it"

section

variable (target : ClaimTarget) (run : SearchRun)

/-- The loop over one page. -/
def inspectEntries : Nat → List HistoryEntry → Except SearchStop (Option String)
  | _, [] => .ok none
  | inspected, info :: page => do
    let inspected := inspected + 1
    require (inspected ≤ SOL_PREIMAGE_SCAN_HARD_LIMIT_TRANSACTIONS) (.thrown HISTORY_TOO_LONG)
    let fetched ← thrown (run.getTransaction inspected info)
    match fetched.join.bind (preimageFromTransaction target) with
    | some found => return some found
    | none => inspectEntries inspected page

/-- The loop over the pages, with the number of rounds left. -/
def scanPages : Nat → Nat → Nat → Option String → Except SearchStop (Option String)
  | 0, _, _, _ => .error .usedUp
  | rounds + 1, pageNo, inspected, before => do
    let page ← thrown (run.getSignaturesForAddress pageNo before)
    match ← inspectEntries target run inspected page with
    | some found => return some found
    | none =>
      match page.getLast? with
      | none => return none
      | some last =>
        if page.length < SCAN_PAGE then return none
        else scanPages rounds (pageNo + 1) (inspected + page.length) (some last.signature)

end

namespace SolHtlcRail

variable (rail : SolHtlcRail)

def requireRef (ref : String) : Except String SolRef :=
  need (parseSolRef ref) "sol-htlc: ref must be 0x<64 hex hash lock>:<payer base58>"

/-- The escrow's key, once that of the vault is found as well. -/
def escrowKey (ref : SolRef) : Except String (List UInt8) := do
  let escrow ← escrowAddress rail.rt rail.config.programId ref.payer ref.hashLock
  let _ ← vaultAddress rail.rt rail.config.programId escrow
  return escrow

/-- What the search looks for. -/
def claimTarget (ref : SolRef) : Except String ClaimTarget := do
  let hashLockBytes ← need (hexToBytes (sliceFrom ref.hashLock 2)) "hex string expected"
  let escrow ← rail.escrowKey ref
  let programId ← pubkeyFromBase58 rail.config.programId
  return ⟨programId, escrow, hashLockBytes, rail.rt.sha256⟩

/-- The preimage that the escrow stores, if it opens the hash lock. -/
def storedPreimage (target : ClaimTarget) (ref : SolRef) (account : Option WireAccount) :
    Except String (Option String) := do
  match (← viewEscrow rail account ref).bind SolEscrowView.preimage with
  | none => return none
  | some preimage =>
    let bytes ← need (hexToBytes (sliceFrom preimage 2)) "hex string expected"
    return if target.opens bytes then some preimage else none

def findClaimedPreimage (run : SearchRun) (ref : String) :
    Except SearchStop (Option String) := do
  let parsed ← thrown (requireRef ref)
  let target ← thrown (rail.claimTarget parsed)
  let account ← thrown run.escrowAccount
  match ← thrown (rail.storedPreimage target parsed account) with
  | some preimage => return some preimage
  | none =>
    scanPages target run (SOL_PREIMAGE_SCAN_HARD_LIMIT_TRANSACTIONS / SCAN_PAGE + 1) 0 0 none

end SolHtlcRail

/-! ## What is passed over -/

/-- The instruction is the program's claim of the escrow, with bytes that open the lock. -/
def CarriedBy (target : ClaimTarget) (ix : SolInstruction) : Prop :=
  ix.programId = target.programId ∧
    (ix.accounts.head?.map AccountMeta.pubkey) = some target.escrow ∧
      ∃ bytes, ix.data = TAG_CLAIM :: bytes ∧ target.opens bytes = true

def Carries (target : ClaimTarget) (entry : HistoryEntry) : Prop :=
  ∃ ix ∈ entry.instructions, CarriedBy target ix

/-- The text is that of 32 bytes that open the hash lock. -/
def OpensLock (target : ClaimTarget) (text : String) : Prop :=
  ∃ bytes, hexToBytes (sliceFrom text 2) = some bytes ∧ target.opens bytes = true

/-- Nothing is seen in this entry: there is no body, the codec does not read it, or it carries
no claim. -/
def PassedOver (target : ClaimTarget) (run : SearchRun) (inspected : Nat) (entry : HistoryEntry) :
    Prop :=
  run.body inspected = .missing ∨ run.body inspected = .served ∧
    ((SolTx.decodeTransaction entry.wire).isOk = false ∨ ¬ Carries target entry)

section

variable {target : ClaimTarget} {run : SearchRun}

/-- Bytes that open the lock do so as printed hex. -/
theorem opensLock_of_opens {bytes : List UInt8} (h : target.opens bytes = true) :
    OpensLock target ("0x" ++ bytesToHex bytes) :=
  ⟨bytes, hexToBytes_sliceFrom bytes, h⟩

/-- What an instruction must be to be a claim of the target. -/
theorem claimOf_eq_some {keys : List (List UInt8)} {ix : SolTx.SolCompiledInstruction}
    {text : String} : claimOf target keys ix = some text ↔
    keys[ix.programIdIndex]? = some target.programId ∧
      (∃ first, ix.accountIndexes.head? = some first ∧ keys[first]? = some target.escrow) ∧
      ∃ bytes, ix.data = TAG_CLAIM :: bytes ∧ target.opens bytes = true ∧
        text = "0x" ++ bytesToHex bytes := by
  unfold claimOf
  simp only [Option.bind_eq_bind, Option.bind_eq_some_iff, Option.guard_eq_some', exists_const]
  constructor
  · rintro ⟨hProgram, ⟨hLength, hTag⟩, first, hFirst, hEscrow, hOpens, hText⟩
    refine ⟨hProgram, ⟨first, hFirst, hEscrow⟩, ix.data.drop 1, ?_, hOpens,
      (Option.some.inj hText).symm⟩
    cases hData : ix.data with
    | nil => simp [hData] at hTag
    | cons tag rest =>
      rw [hData] at hTag
      rw [Option.some.inj hTag]
      rfl
  · rintro ⟨hProgram, ⟨first, hFirst, hEscrow⟩, bytes, hData, hOpens, rfl⟩
    have hLength : bytes.length = 32 := (of_decide_eq_true hOpens).1
    rw [hData]
    exact ⟨hProgram, ⟨by rw [List.length_cons, hLength], rfl⟩, first, hFirst, hEscrow, hOpens, rfl⟩

/-- Where the indices resolve, the claim is found in the instruction that is compiled if it is
carried by the one that it comes from. -/
theorem claimOf_isSome_iff {keys : List (List UInt8)} {ix : SolInstruction}
    {c : SolTx.SolCompiledInstruction} (h : SolTx.Resolves keys ix c) :
    (claimOf target keys c).isSome = true ↔ CarriedBy target ix := by
  obtain ⟨hProgram, hAccounts, hData⟩ := h
  -- the first account of the instruction, as an index into the keys
  have hEscrow : (∃ first, c.accountIndexes.head? = some first ∧
      keys[first]? = some target.escrow) ↔
        (ix.accounts.head?.map AccountMeta.pubkey) = some target.escrow := by
    have hHead := congrArg List.head? hAccounts
    rw [List.head?_map, List.head?_map] at hHead
    cases hFirst : c.accountIndexes.head? with
    | none =>
      rw [hFirst] at hHead
      rw [Option.map_eq_none_iff.mp hHead.symm]
      simp
    | some first =>
      rw [hFirst] at hHead
      obtain ⟨use, hUse, hKey⟩ := Option.map_eq_some_iff.mp hHead.symm
      rw [hUse]
      simp only [Option.some.injEq, exists_eq_left', Option.map_some, ← hKey]
  rw [Option.isSome_iff_exists]
  constructor
  -- each condition of `claimOf` is one of `CarriedBy`, and the other way
  · rintro ⟨text, hText⟩
    obtain ⟨hFound, hFirst, bytes, hBytes, hOpens, -⟩ := claimOf_eq_some.mp hText
    exact ⟨Option.some.inj (hProgram.symm.trans hFound), hEscrow.mp hFirst, bytes,
      hData ▸ hBytes, hOpens⟩
  · rintro ⟨hId, hAccount, bytes, hBytes, hOpens⟩
    exact ⟨_, claimOf_eq_some.mpr ⟨hId ▸ hProgram, hEscrow.mpr hAccount, bytes,
      hData.trans hBytes, hOpens, rfl⟩⟩

/-- Lists related one to one have such an element together. -/
theorem exists_of_forall₂ {α β : Type} {R : α → β → Prop} {P : α → Prop} {Q : β → Prop}
    {as : List α} {bs : List β} (h : List.Forall₂ R as bs) (hIff : ∀ a b, R a b → (P a ↔ Q b)) :
    (∃ a ∈ as, P a) ↔ ∃ b ∈ bs, Q b := by
  induction h with
  | nil => simp
  | cons hHead _ ih =>
    simp only [List.mem_cons, exists_eq_or_imp]
    rw [ih, hIff _ _ hHead]

/-- A preimage found in a transaction opens the lock. -/
theorem opens_of_preimageFromTransaction {tx : SolTx.SolTransaction} {text : String}
    (h : preimageFromTransaction target tx = some text) : OpensLock target text := by
  obtain ⟨c, -, hFound⟩ := List.exists_of_findSome?_eq_some h
  obtain ⟨-, -, bytes, -, hOpens, rfl⟩ := claimOf_eq_some.mp hFound
  exact opensLock_of_opens hOpens

/-- No preimage is found in a transaction that carries no claim. -/
theorem preimageFromTransaction_eq_none {entry : HistoryEntry} {tx : SolTx.SolTransaction}
    (hTx : SolTx.decodeTransaction entry.wire = .ok tx) :
    preimageFromTransaction target tx = none ↔ ¬ Carries target entry := by
  have hIff := exists_of_forall₂ (entry.faithful tx hTx) fun ix c hResolves =>
    (@claimOf_isSome_iff target _ ix c hResolves).symm
  rw [preimageFromTransaction, List.findSome?_eq_none_iff]
  show _ ↔ ¬ ∃ ix ∈ entry.instructions, CarriedBy target ix
  rw [hIff]
  simp

/-! ## The loops -/

/-- What is made of an entry: nothing, or a text that opens the lock. -/
theorem seen_of_getTransaction {inspected : Nat} {entry : HistoryEntry}
    {fetched : Option (Option SolTx.SolTransaction)}
    (h : run.getTransaction inspected entry = .ok fetched) :
    fetched.join.bind (preimageFromTransaction target) = none ↔
      PassedOver target run inspected entry := by
  unfold SearchRun.getTransaction at h
  unfold PassedOver
  split at h
  · cases h
  · rename_i hBody
    obtain rfl := Except.ok.inj h
    simp [hBody]
  · rename_i hBody
    obtain rfl := Except.ok.inj h
    cases hDecode : SolTx.decodeTransaction entry.wire with
    | error message => simp [hBody, Except.toOption, Except.isOk, Except.toBool]
    | ok tx =>
      simp only [hBody, Except.toOption, Except.isOk, Except.toBool, Option.join_some,
        Option.bind_some, reduceCtorEq, false_or, true_and]
      exact preimageFromTransaction_eq_none hDecode

/-- An entry that is passed over was answered for. -/
theorem answered_of_passedOver {inspected : Nat} {entry : HistoryEntry}
    (h : PassedOver target run inspected entry) :
    ∃ fetched, run.getTransaction inspected entry = .ok fetched := by
  unfold SearchRun.getTransaction
  rcases h with h | ⟨h, -⟩ <;> rw [h] <;> exact ⟨_, rfl⟩

/-- From here on all entries are passed over, and there are not too many. -/
def AllPassedOver (target : ClaimTarget) (run : SearchRun) (inspected : Nat)
    (entries : List HistoryEntry) : Prop :=
  ∀ i entry, entries[i]? = some entry →
    inspected + i + 1 ≤ SOL_PREIMAGE_SCAN_HARD_LIMIT_TRANSACTIONS ∧
      PassedOver target run (inspected + i + 1) entry

/-- A list is passed over entry by entry. -/
theorem allPassedOver_cons {inspected : Nat} {entry : HistoryEntry} {entries : List HistoryEntry} :
    AllPassedOver target run inspected (entry :: entries) ↔
      (inspected + 1 ≤ SOL_PREIMAGE_SCAN_HARD_LIMIT_TRANSACTIONS ∧
        PassedOver target run (inspected + 1) entry) ∧
        AllPassedOver target run (inspected + 1) entries := by
  constructor
  · intro h
    refine ⟨h 0 entry rfl, fun i e he => ?_⟩
    have hNext := h (i + 1) e he
    rwa [show inspected + (i + 1) + 1 = inspected + 1 + i + 1 by omega] at hNext
  · rintro ⟨hHead, hTail⟩ i e he
    cases i with
    | zero =>
      obtain rfl := Option.some.inj he
      exact hHead
    | succ i =>
      have hNext := hTail i e he
      rwa [show inspected + 1 + i + 1 = inspected + (i + 1) + 1 by omega] at hNext

/-- A list is passed over part by part. -/
theorem allPassedOver_append {inspected : Nat} {newer older : List HistoryEntry} :
    AllPassedOver target run inspected (newer ++ older) ↔
      AllPassedOver target run inspected newer ∧
        AllPassedOver target run (inspected + newer.length) older := by
  induction newer generalizing inspected with
  | nil =>
    rw [List.nil_append, List.length_nil, Nat.add_zero]
    exact ⟨fun h => ⟨nofun, h⟩, And.right⟩
  | cons entry newer ih =>
    rw [List.cons_append, allPassedOver_cons, allPassedOver_cons, ih, List.length_cons,
      show inspected + 1 + newer.length = inspected + (newer.length + 1) by omega]
    exact and_assoc.symm

/-- How a search ends: with nothing where nothing is seen, with a text that opens the lock, or
with an error. -/
def Ends (target : ClaimTarget) (nothing : Prop) (result : Except SearchStop (Option String)) :
    Prop :=
  match result with
  | .ok none => nothing
  | .ok (some text) => ¬ nothing ∧ OpensLock target text
  | .error stop => ¬ nothing ∧ stop ≠ .usedUp

/-- Inspecting entries finds a claim, fails or passes over all of them. -/
theorem ends_inspectEntries (inspected : Nat) (entries : List HistoryEntry) :
    Ends target (AllPassedOver target run inspected entries)
      (inspectEntries target run inspected entries) := by
  induction entries generalizing inspected with
  | nil => exact nofun
  | cons entry entries ih =>
    rw [inspectEntries, allPassedOver_cons]
    by_cases hLimit : inspected + 1 ≤ SOL_PREIMAGE_SCAN_HARD_LIMIT_TRANSACTIONS
    · cases hFetched : run.getTransaction (inspected + 1) entry with
      -- a body that cannot be fetched is not passed over
      | error message =>
        have hNot : ¬ PassedOver target run (inspected + 1) entry := by
          intro h
          obtain ⟨fetched, hOk⟩ := answered_of_passedOver h
          rw [hFetched] at hOk
          cases hOk
        simp only [require, if_pos hLimit]
        exact ⟨fun h => hNot h.1.2, fun h => by cases h⟩
      | ok fetched =>
        have hSeen := @seen_of_getTransaction target run _ _ _ hFetched
        simp only [require, if_pos hLimit]
        show Ends target _ (match fetched.join.bind (preimageFromTransaction target) with
          | some found => Except.ok (some found)
          | none => inspectEntries target run (inspected + 1) entries)
        cases hText : fetched.join.bind (preimageFromTransaction target) with
        -- a claim that is found opens the lock
        | some text =>
          obtain ⟨tx, -, hTx⟩ := Option.bind_eq_some_iff.mp hText
          refine ⟨fun h => ?_, opens_of_preimageFromTransaction hTx⟩
          rw [hSeen.mpr h.1.2] at hText
          cases hText
        | none =>
          have hRest := ih (inspected + 1)
          rw [and_iff_right ⟨hLimit, hSeen.mp hText⟩]
          exact hRest
    -- past the limit the search throws
    · simp only [require, if_neg hLimit]
      exact ⟨fun h => hLimit h.1.1, fun h => by cases h⟩

/-! ## The pages -/

/-- What is older is the end of the history. -/
theorem olderThan_suffix (before : Option String) (entries : List HistoryEntry) :
    olderThan before entries <:+ entries := by
  cases before with
  | none => exact List.suffix_rfl
  | some signature =>
    exact (List.tail_suffix _).trans (List.dropWhile_suffix _)

/-- Signatures are distinct, so that one of them tells where to go on. -/
theorem olderThan_of_append {newer older : List HistoryEntry} {entry : HistoryEntry}
    (h : ((newer ++ entry :: older).map HistoryEntry.signature).Nodup) :
    olderThan (some entry.signature) (newer ++ entry :: older) = older := by
  have hNewer : ∀ e ∈ newer, decide (e.signature ≠ entry.signature) = true := by
    intro e he
    rw [List.map_append, List.nodup_append] at h
    exact decide_eq_true (h.2.2 _ (List.mem_map_of_mem he) _
      (List.mem_map_of_mem List.mem_cons_self))
  show ((newer ++ entry :: older).dropWhile fun e => decide (e.signature ≠ entry.signature)).tail =
    older
  rw [List.dropWhile_append_of_pos hNewer, List.dropWhile_cons_of_neg (by simp)]
  rfl

/-- What comes up in front of the history does not move the cursor. -/
theorem olderThan_next {pageNo : Nat} {before : Option String} {page older : List HistoryEntry}
    {last : HistoryEntry} (h : olderThan before (run.history pageNo) = page ++ older)
    (hLast : page.getLast? = some last) :
    olderThan (some last.signature) (run.history (pageNo + 1)) = older := by
  obtain ⟨init, rfl⟩ := List.getLast?_eq_some_iff.mp hLast
  obtain ⟨read, hRead⟩ := olderThan_suffix before (run.history pageNo)
  obtain ⟨front, hFront⟩ := run.grows pageNo
  have hSplit : run.history (pageNo + 1) = (front ++ read ++ init) ++ last :: older := by
    rw [← hFront, ← hRead, h]
    simp
  rw [hSplit]
  exact olderThan_of_append (hSplit ▸ run.distinct (pageNo + 1))

/-- The pages that are asked for are answered, and what they list is passed over. -/
def Silent (target : ClaimTarget) (run : SearchRun) (pageNo inspected : Nat)
    (older : List HistoryEntry) : Prop :=
  (∀ i ≤ older.length / SCAN_PAGE, run.pageFailure (pageNo + i) = none) ∧
    AllPassedOver target run inspected older

/-- A short page ends the search. -/
theorem silent_of_short {pageNo inspected : Nat} {older : List HistoryEntry}
    (h : older.length < SCAN_PAGE) : Silent target run pageNo inspected older ↔
      run.pageFailure pageNo = none ∧ AllPassedOver target run inspected older := by
  unfold Silent
  rw [Nat.div_eq_of_lt h]
  refine and_congr_left fun _ => ⟨fun h => h 0 le_rfl, fun h i hi => ?_⟩
  rwa [Nat.le_zero.mp hi]

/-- A full page goes on with what is older. -/
theorem silent_of_full {pageNo inspected : Nat} {page older : List HistoryEntry}
    (h : page.length = SCAN_PAGE) : Silent target run pageNo inspected (page ++ older) ↔
      (run.pageFailure pageNo = none ∧ AllPassedOver target run inspected page) ∧
        Silent target run (pageNo + 1) (inspected + page.length) older := by
  have hDiv : (page ++ older).length / SCAN_PAGE = older.length / SCAN_PAGE + 1 := by
    rw [List.length_append, h, Nat.add_comm, Nat.add_div_right _ (by decide)]
  unfold Silent
  rw [hDiv, allPassedOver_append]
  constructor
  · rintro ⟨hPages, hPage, hOlder⟩
    refine ⟨⟨hPages 0 (Nat.zero_le _), hPage⟩, fun i hi => ?_, hOlder⟩
    rw [show pageNo + 1 + i = pageNo + (i + 1) by omega]
    exact hPages (i + 1) (by omega)
  · rintro ⟨⟨hFirst, hPage⟩, hPages, hOlder⟩
    refine ⟨fun i hi => ?_, hPage, hOlder⟩
    cases i with
    | zero => exact hFirst
    | succ i =>
      rw [show pageNo + (i + 1) = pageNo + 1 + i by omega]
      exact hPages i (by omega)

/-- The scan of what is older than the cursor, where the rounds suffice for as many entries as
the limit leaves. -/
theorem ends_scanPages (rounds pageNo inspected : Nat) (before : Option String)
    (older : List HistoryEntry) (hOlder : olderThan before (run.history pageNo) = older)
    (hRounds : SOL_PREIMAGE_SCAN_HARD_LIMIT_TRANSACTIONS < inspected + SCAN_PAGE * rounds)
    (hLimit : inspected ≤ SOL_PREIMAGE_SCAN_HARD_LIMIT_TRANSACTIONS) :
    Ends target (Silent target run pageNo inspected older)
      (scanPages target run rounds pageNo inspected before) := by
  -- by induction on the rounds; they suffice for the limit on transactions
  induction rounds generalizing pageNo inspected before older with
  | zero => omega
  | succ rounds ih =>
    rw [scanPages]
    cases hFailure : run.pageFailure pageNo with
    | some message =>
      have hPage : run.getSignaturesForAddress pageNo before = .error message := by
        rw [SearchRun.getSignaturesForAddress, hFailure]
      rw [hPage]
      refine ⟨fun h => ?_, nofun⟩
      have hFirst := h.1 0 (Nat.zero_le _)
      rw [Nat.add_zero, hFailure] at hFirst
      cases hFirst
    | none =>
      have hPage : run.getSignaturesForAddress pageNo before = .ok (older.take SCAN_PAGE) := by
        rw [SearchRun.getSignaturesForAddress, hFailure, hOlder]
      -- the page and what is older than it
      obtain ⟨page, hTake⟩ : ∃ page, older.take SCAN_PAGE = page := ⟨_, rfl⟩
      have hSplit : page ++ older.drop SCAN_PAGE = older := by
        rw [← hTake, List.take_append_drop]
      have hEnds := @ends_inspectEntries target run inspected page
      have hPassed (h : Silent target run pageNo inspected older) :
          AllPassedOver target run inspected page := by
        have hAll := h.2
        rw [← hSplit] at hAll
        exact (allPassedOver_append.mp hAll).1
      rw [hPage, hTake]
      show Ends target _ (do
        match ← inspectEntries target run inspected page with
        | some found => return some found
        | none =>
          match page.getLast? with
          | none => return none
          | some last =>
            if page.length < SCAN_PAGE then return none
            else scanPages target run rounds (pageNo + 1) (inspected + page.length) last.signature)
      -- the page ends the search, or is passed over as a whole
      cases hSeen : inspectEntries target run inspected page with
      | error stop =>
        rw [hSeen] at hEnds
        exact ⟨fun h => hEnds.1 (hPassed h), hEnds.2⟩
      | ok found =>
        rw [hSeen] at hEnds
        cases found with
        | some text => exact ⟨fun h => hEnds.1 (hPassed h), hEnds.2⟩
        | none =>
          have hPageSeen : AllPassedOver target run inspected page := hEnds
          show Ends target _ (match page.getLast? with
            | none => Except.ok none
            | some last =>
              if page.length < SCAN_PAGE then Except.ok none
              else scanPages target run rounds (pageNo + 1) (inspected + page.length)
                (some last.signature))
          by_cases hShort : older.length < SCAN_PAGE
          · -- the last page
            have hWhole : page = older := by rw [← hTake, List.take_of_length_le hShort.le]
            have hSilent := (silent_of_short hShort).mpr ⟨hFailure, hWhole ▸ hPageSeen⟩
            rw [hWhole]
            cases older.getLast? with
            | none => exact hSilent
            | some last =>
              dsimp only
              rw [if_pos hShort]
              exact hSilent
          · have hFull : page.length = SCAN_PAGE := by
              rw [← hTake, List.length_take_of_le (Nat.le_of_not_lt hShort)]
            obtain ⟨last, hLast⟩ : ∃ last, page.getLast? = some last :=
              ⟨_, List.getLast?_eq_some_getLast (List.ne_nil_of_length_eq_add_one hFull)⟩
            have hIff := @silent_of_full target run pageNo inspected _ (older.drop SCAN_PAGE) hFull
            rw [hSplit, and_iff_right ⟨hFailure, hPageSeen⟩] at hIff
            -- a full page that was passed over is within the limit
            have hLe : inspected + SCAN_PAGE ≤ SOL_PREIMAGE_SCAN_HARD_LIMIT_TRANSACTIONS := by
              have hLastSeen := (hPageSeen 24 _ (List.getElem?_eq_getElem
                (by rw [hFull]; decide))).1
              simp only [SCAN_PAGE]
              omega
            rw [hLast]
            dsimp only
            rw [hIff, if_neg (by rw [hFull]; exact lt_irrefl _), hFull]
            refine ih (pageNo + 1) (inspected + SCAN_PAGE) _ _
              (olderThan_next (hOlder.trans hSplit.symm) hLast) ?_ hLe
            rw [Nat.mul_succ] at hRounds
            omega

/-! ## When the search is complete -/

/-- Something shows in the history: a page or a body is not answered, there are more transactions
than are looked at, or one that carries a claim is served and can be read. -/
def HistoryShows (target : ClaimTarget) (run : SearchRun) : Prop :=
  (∃ i ≤ (run.history 0).length / SCAN_PAGE, run.pageFailure i ≠ none) ∨
    SOL_PREIMAGE_SCAN_HARD_LIMIT_TRANSACTIONS < (run.history 0).length ∨
    ∃ i entry, (run.history 0)[i]? = some entry ∧
      ((∃ message, run.body (i + 1) = .failed message) ∨
        run.body (i + 1) = .served ∧ (SolTx.decodeTransaction entry.wire).isOk = true ∧
          Carries target entry)

/-- Something shows in the escrow: it is not answered, or what it stores opens the hash lock or
cannot be read. -/
def EscrowShows (rail : SolHtlcRail) (target : ClaimTarget) (ref : SolRef) (run : SearchRun) :
    Prop :=
  ∀ account, run.escrowAccount = .ok account → rail.storedPreimage target ref account ≠ .ok none

/-- What keeps an entry from being passed over. -/
theorem not_passedOver_iff {inspected : Nat} {entry : HistoryEntry} :
    ¬ PassedOver target run inspected entry ↔
      (∃ message, run.body inspected = .failed message) ∨
        run.body inspected = .served ∧ (SolTx.decodeTransaction entry.wire).isOk = true ∧
          Carries target entry := by
  unfold PassedOver
  cases run.body inspected <;> simp

/-- The search stays silent unless the history shows the claim. -/
theorem not_silent_iff :
    ¬ Silent target run 0 0 (run.history 0) ↔ HistoryShows target run := by
  unfold Silent HistoryShows
  rw [not_and_or]
  refine or_congr ?_ ?_
  · simp only [not_forall, exists_prop, Nat.zero_add, ne_eq]
  · unfold AllPassedOver
    simp only [not_forall, exists_prop, Nat.zero_add, not_and_or, not_passedOver_iff]
    constructor
    · rintro ⟨i, entry, hEntry, hOver | hShows⟩
      · have hLt := (List.getElem?_eq_some_iff.mp hEntry).1
        exact .inl (by omega)
      · exact .inr ⟨i, entry, hEntry, hShows⟩
    · rintro (hLong | ⟨i, entry, hEntry, hShows⟩)
      · exact ⟨_, _, List.getElem?_eq_getElem hLong, .inl (by omega)⟩
      · exact ⟨i, entry, hEntry, .inr hShows⟩

/-- A stored preimage opens the lock. -/
theorem opens_of_storedPreimage {rail : SolHtlcRail} {ref : SolRef} {account : Option WireAccount}
    {text : String} (h : rail.storedPreimage target ref account = .ok (some text)) :
    OpensLock target text := by
  unfold SolHtlcRail.storedPreimage at h
  obtain ⟨view, -, h⟩ := bind_eq_ok.mp h
  split at h
  · cases h
  · obtain ⟨bytes, hBytes, h⟩ := need_bind_eq_ok.mp h
    split at h
    · rename_i hOpens
      obtain rfl := Option.some.inj (Except.ok.inj h)
      exact ⟨bytes, hBytes, hOpens⟩
    · cases h

/-- What does not throw goes on. -/
theorem thrown_ok_bind {α β : Type} (a : α) (f : α → Except SearchStop β) :
    (thrown (.ok a) >>= f) = f a :=
  rfl

/-- How the whole search ends. -/
theorem ends_findClaimedPreimage {rail : SolHtlcRail} {ref : String} {parts : SolRef}
    (hRef : parseSolRef ref = some parts) (hTarget : rail.claimTarget parts = .ok target) :
    Ends target (¬ EscrowShows rail target parts run ∧ ¬ HistoryShows target run)
      (rail.findClaimedPreimage run ref) := by
  have hParsed : SolHtlcRail.requireRef ref = .ok parts := need_eq_ok.mpr hRef
  unfold SolHtlcRail.findClaimedPreimage
  rw [hParsed, thrown_ok_bind, hTarget, thrown_ok_bind]
  cases hAccount : run.escrowAccount with
  | error message =>
    refine ⟨fun h => h.1 fun account hOk => ?_, nofun⟩
    rw [hAccount] at hOk
    cases hOk
  | ok account =>
    rw [thrown_ok_bind]
    -- the account was read, so the escrow shows what is stored in it
    have hEscrow : EscrowShows rail target parts run ↔
        rail.storedPreimage target parts account ≠ .ok none := by
      refine ⟨fun h => h account hAccount, fun h other hOther => ?_⟩
      obtain rfl := Except.ok.inj (hAccount.symm.trans hOther)
      exact h
    rw [hEscrow]
    -- a preimage in the escrow comes first, then the history
    cases hStored : rail.storedPreimage target parts account with
    | error message => exact ⟨fun h => h.1 nofun, nofun⟩
    | ok stored =>
      cases stored with
      | some text => exact ⟨fun h => h.1 nofun, opens_of_storedPreimage hStored⟩
      | none =>
        rw [thrown_ok_bind, ← not_silent_iff]
        simp only [ne_eq, not_true_eq_false, not_false_eq_true, true_and, not_not]
        exact ends_scanPages (SOL_PREIMAGE_SCAN_HARD_LIMIT_TRANSACTIONS / SCAN_PAGE + 1) 0 0 none _
          rfl (by decide) (Nat.zero_le _)

/-- Where nothing shows, the search says that there is nothing. -/
theorem findClaimedPreimage_eq_none {rail : SolHtlcRail} {ref : String} {parts : SolRef}
    (hRef : parseSolRef ref = some parts) (hTarget : rail.claimTarget parts = .ok target)
    (hEscrow : ¬ EscrowShows rail target parts run) (hHistory : ¬ HistoryShows target run) :
    rail.findClaimedPreimage run ref = .ok none := by
  have hEnds := @ends_findClaimedPreimage target run rail ref parts hRef hTarget
  cases hResult : rail.findClaimedPreimage run ref with
  | error stop =>
    rw [hResult] at hEnds
    exact absurd ⟨hEscrow, hHistory⟩ hEnds.1
  | ok found =>
    rw [hResult] at hEnds
    cases found with
    | some text => exact absurd ⟨hEscrow, hHistory⟩ hEnds.1
    | none => rfl

end

/-! ## A claim that is passed over -/

namespace SearchSample

open ClaimSample
open SolSample (key)

def rail : SolHtlcRail := solRail 600 (by norm_num)

/-- A message of three keys, with the claim of the sample escrow. -/
def message : List UInt8 :=
  [1, 0, 1, 3] ++ (payee ++ (ClaimSample.escrow ++ (program ++
    (blockhash ++ ([1, 2, 1, 1, 33] ++ (TAG_CLAIM :: preimage))))))

/-- A transaction of version 0 with the claim. -/
def wire : List UInt8 := 1 :: (List.replicate 64 5 ++ (0x80 :: message ++ [0]))

/-- A legacy one. -/
def legacyWire : List UInt8 := 1 :: (List.replicate 64 5 ++ message)

/-- The sample's wire bytes decode to no legacy transaction. -/
theorem unreadable : (SolTx.decodeTransaction wire).isOk = false := by
  decide +kernel

def instruction : SolInstruction :=
  ⟨program, [⟨ClaimSample.escrow, false, true⟩], TAG_CLAIM :: preimage⟩

/-- The codec reads the claim out of the legacy transaction. -/
theorem legacy_reads : (SolTx.decodeTransaction legacyWire).toOption.map
    (fun tx => (tx.message.accountKeys, tx.message.instructions)) =
      some ([payee, ClaimSample.escrow, program], [⟨2, [1], TAG_CLAIM :: preimage⟩]) := by
  decide +kernel

def entry : HistoryEntry :=
  { signature := "signature"
    wire
    instructions := [instruction]
    faithful := by
      intro tx hTx
      have h := unreadable
      rw [hTx] at h
      cases h }

/-- So it is read. -/
theorem legacy_ok : (SolTx.decodeTransaction legacyWire).isOk = true := by
  have h := legacy_reads
  cases hTx : SolTx.decodeTransaction legacyWire with
  | error message =>
    rw [hTx] at h
    cases h
  | ok tx => rfl

def legacyEntry : HistoryEntry :=
  { signature := "signature"
    wire := legacyWire
    instructions := [instruction]
    faithful := by
      intro tx hTx
      have h := legacy_reads
      rw [hTx] at h
      obtain ⟨hKeys, hInstructions⟩ := Prod.mk.inj (Option.some.inj h)
      rw [hKeys, hInstructions]
      exact .cons ⟨rfl, rfl, rfl⟩ .nil }

/-- The claim failed, and the escrow is still locked. -/
def runOf (entry : HistoryEntry) : SearchRun :=
  { escrowAccount := .ok (some ⟨.int 1, key program, escrowData, false⟩)
    history := fun _ => [entry]
    grows := fun _ => List.suffix_rfl
    distinct := fun _ => List.nodup_singleton _
    pageFailure := fun _ => none
    body := fun _ => .served }

def run : SearchRun := runOf entry

/-- The same claim, in a legacy transaction. -/
def legacyRun : SearchRun := runOf legacyEntry

def parts : SolRef := ⟨"0x" ++ bytesToHex hash, key payer⟩

def target : ClaimTarget := ⟨program, ClaimSample.escrow, hash, runtime.sha256⟩

/-- The parts of the sample. -/
theorem facts : parseSolRef ref = some parts ∧
    hexToBytes (sliceFrom parts.hashLock 2) = some hash ∧
      rail.escrowKey parts = .ok ClaimSample.escrow ∧
        pubkeyFromBase58 rail.config.programId = .ok program ∧
          target.opens preimage = true := by
  decide +kernel

/-- The sample's target is found. -/
theorem target_ok : rail.claimTarget parts = .ok target :=
  need_bind_eq_ok.mpr ⟨hash, facts.2.1, bind_eq_ok.mpr ⟨_, facts.2.2.1, bind_eq_ok.mpr
    ⟨_, facts.2.2.2.1, rfl⟩⟩⟩

/-- The sample stores no preimage. -/
theorem stored_none : rail.storedPreimage target parts
    (some ⟨.int 1, key program, escrowData, false⟩) = .ok none := by
  decide +kernel

/-- The sample's entry is in its history. -/
theorem mem_history : entry ∈ run.history 0 := by
  show entry ∈ [entry]
  exact List.mem_singleton_self entry

/-- The sample's instruction is the claim. -/
theorem carriedBy : CarriedBy target instruction :=
  ⟨rfl, rfl, preimage, rfl, facts.2.2.2.2⟩

/-- The sample's entry carries the claim. -/
theorem carries : Carries target entry := by
  refine ⟨instruction, ?_, carriedBy⟩
  rw [entry]
  exact List.mem_singleton_self instruction

end SearchSample

/-- A claim that failed, in a transaction of version 0: its preimage is public in the finalized
history, and the search says that there is none. -/
theorem findClaimedPreimage_passesOver : ∃ entry ∈ SearchSample.run.history 0,
    Carries SearchSample.target entry ∧
      SearchSample.rail.findClaimedPreimage SearchSample.run ClaimSample.ref = .ok none := by
  refine ⟨SearchSample.entry, SearchSample.mem_history, SearchSample.carries, ?_⟩
  refine findClaimedPreimage_eq_none SearchSample.facts.1 SearchSample.target_ok
    (fun h => h _ rfl SearchSample.stored_none) (not_silent_iff.not.mp (not_not.mpr ?_))
  refine ⟨fun i _ => rfl, fun i entry hEntry => ?_⟩
  obtain ⟨rfl, rfl⟩ : i = 0 ∧ SearchSample.entry = entry := by
    cases i with
    | zero => exact ⟨rfl, Option.some.inj hEntry⟩
    | succ i => cases hEntry
  exact ⟨by decide, .inr ⟨rfl, .inl SearchSample.unreadable⟩⟩

/-- When the search is complete. Where a transaction of the history at its start carries a claim
that opens the hash lock, it returns a preimage or throws, exactly when something shows: in the
escrow, or in the history. A claim whose every carrier is of a version that the codec does not
read, or has no body with the node, is passed over, and the search says that there is none. -/
theorem findClaimedPreimage_complete_iff {rail : SolHtlcRail} {run : SearchRun} {ref : String}
    {parts : SolRef} {target : ClaimTarget} (hRef : parseSolRef ref = some parts)
    (hTarget : rail.claimTarget parts = .ok target) :
    ((∃ entry ∈ run.history 0, Carries target entry) →
      (∃ text, rail.findClaimedPreimage run ref = .ok (some text) ∧ OpensLock target text) ∨
        ∃ message, rail.findClaimedPreimage run ref = .error (.thrown message)) ↔
      (∀ entry ∈ run.history 0, ¬ Carries target entry) ∨ EscrowShows rail target parts run ∨
        HistoryShows target run := by
  have hEnds := @ends_findClaimedPreimage target run rail ref parts hRef hTarget
  -- a search that throws or finds has something to show
  cases hResult : rail.findClaimedPreimage run ref with
  | error stop =>
    rw [hResult] at hEnds
    cases stop with
    | usedUp => exact absurd rfl hEnds.2
    | thrown message =>
      have hShows := not_and_or.mp hEnds.1
      rw [not_not, not_not] at hShows
      exact ⟨fun _ => .inr hShows, fun _ _ => .inr ⟨message, rfl⟩⟩
  | ok found =>
    rw [hResult] at hEnds
    cases found with
    | some text =>
      have hShows := not_and_or.mp hEnds.1
      rw [not_not, not_not] at hShows
      exact ⟨fun _ => .inr hShows, fun _ _ => .inl ⟨text, rfl, hEnds.2⟩⟩
    -- a silent one had nothing, so whatever is carried was passed over
    | none =>
      have hNothing : ¬ EscrowShows rail target parts run ∧ ¬ HistoryShows target run := hEnds
      constructor
      · intro h
        refine .inl fun entry hEntry hCarries => ?_
        rcases h ⟨entry, hEntry, hCarries⟩ with ⟨text, hText, -⟩ | ⟨message, hMessage⟩
        · cases hText
        · cases hMessage
      · rintro (hNone | hEscrow | hHistory)
        · rintro ⟨entry, hEntry, hCarries⟩
          exact absurd hCarries (hNone entry hEntry)
        · exact absurd hEscrow hNothing.1
        · exact absurd hHistory hNothing.2

namespace SearchSample

/-- The search of the sample escrow ends well wherever its claim is in the history. -/
def Complete (run : SearchRun) : Prop :=
  (∃ entry ∈ run.history 0, Carries target entry) →
    (∃ text, rail.findClaimedPreimage run ClaimSample.ref = .ok (some text) ∧
      OpensLock target text) ∨
      ∃ message, rail.findClaimedPreimage run ClaimSample.ref = .error (.thrown message)

end SearchSample

/-- The search that finds a claim, and the one that passes it over. -/
theorem findClaimedPreimage_complete_iff_sample :
    SearchSample.Complete SearchSample.legacyRun ∧ ¬ SearchSample.Complete SearchSample.run := by
  have hIff (run : SearchRun) : SearchSample.Complete run ↔ _ :=
    findClaimedPreimage_complete_iff SearchSample.facts.1 SearchSample.target_ok
  rw [hIff, hIff]
  refine ⟨.inr (.inr (.inr (.inr ⟨0, SearchSample.legacyEntry, rfl, .inr ⟨rfl,
    SearchSample.legacy_ok, SearchSample.instruction, List.mem_singleton_self _,
    SearchSample.carriedBy⟩⟩))), ?_⟩
  rintro (hNone | hEscrow | hPage | hLong | ⟨i, entry, hEntry, hShows⟩)
  · exact hNone _ SearchSample.mem_history SearchSample.carries
  · exact hEscrow _ rfl SearchSample.stored_none
  · obtain ⟨i, -, hPage⟩ := hPage
    exact hPage rfl
  · exact absurd hLong (by decide)
  · cases i with
    | zero =>
      obtain rfl := Option.some.inj hEntry
      rcases hShows with ⟨message, hMessage⟩ | ⟨-, hRead, -⟩
      · cases hMessage
      · exact absurd hRead (by rw [show SearchSample.entry.wire = SearchSample.wire from rfl,
          SearchSample.unreadable]; exact Bool.false_ne_true)
    | succ i => cases hEntry

end SwapDesk.Rails.Sol
