import SwapDesk.Lib.Agreement
import SwapDesk.Rails.AccountLine

/-!
# SwapDesk — the account of each party

`resolveAccounts` and `resolvePubkeys` of `src/rails/account-line.ts`: of all the lines of a
deal room at most one account, or key, for each party. The two loops are one loop with another
line grammar and other words (`judgeLine`, `resolveLines`).

Main result: `resolution_party_local`. The order and the number of the records do not matter,
what is not a proven line of a party does not either, and a further line of one party can only
take that party's own value away.
-/

namespace SwapDesk.Rails

open Check Desk

/-! ## The two resolutions -/

structure ResolveLinesInput where
  contract : String
  payerDid : String
  payeeDid : String
  rail : String
  caip2 : String
  beforeSeq : Option Nat
  proof : ProofPolicy
  /-- Of `resolveAccounts` only. -/
  railRegistry : Option NamespacedRailRegistry

/-- What tells the two kinds of lines apart. -/
structure LineKind where
  label : String
  article : String
  words : String
  parse : LineRuntime → String → Option NamespacedRailRegistry → Option ParsedLine
  /-- The text that two lines have to agree on; the policy is whether a proof is required. -/
  identity : Bool → ParsedLine → String

/-- A proof's public key is part of the identity where a proof is required. -/
def accountIdentity (required : Bool) (parsed : ParsedLine) : String :=
  match required, parsed.proof.bind (·.publicKey) with
  | true, some key => parsed.subject ++ "\n" ++ key
  | _, _ => parsed.subject

def accountLine : LineKind where
  label := "account-line"
  article := "an account line"
  words := "account lines"
  parse := parseAccountLine
  identity := accountIdentity

def pubkeyLine : LineKind where
  label := "pubkey-line"
  article := "a pubkey line"
  words := "pubkey lines"
  parse rt line _ := parsePubkeyLine rt line
  identity _ parsed := parsed.subject

/-- What one record comes to. -/
inductive LineVerdict where
  | skipped
  | ignored (reason : String)
  | counted (identity : String)
deriving DecidableEq, Repr

def ProofPolicy.isRequired : ProofPolicy → Bool
  | .required _ _ => true
  | .legacyUnproven => false

/-- Why the proof of a line does not count. -/
def lineProblem (rt : LineRuntime) (input : ResolveLinesInput) (rail : String)
    (candidate : TranscriptRecord) (parsed : ParsedLine) : Option String :=
  match input.proof with
  | .required verifiers allowedSchemes =>
    checkLineProof rt verifiers allowedSchemes candidate.sender input.contract rail
      (parsed.caip2 ++ ":" ++ parsed.subject) parsed.subject input.caip2 parsed.proof
      input.railRegistry
  | .legacyUnproven => none

/-- The body of the loop. -/
def judgeLine (kind : LineKind) (rt : LineRuntime) (input : ResolveLinesInput) (rail room : String)
    (candidate : TranscriptRecord) : LineVerdict :=
  if input.beforeSeq.any fun beforeSeq => beforeSeq ≤ candidate.seq then .skipped
  else if !rt.tclk.verifyTranscriptRecord candidate then .skipped
  else if candidate.room ≠ room then .skipped
  else
    match kind.parse rt candidate.line input.railRegistry with
    | none => .skipped
    | some parsed =>
      if parsed.railId ≠ rail then
        .ignored (kind.label ++ ": " ++ candidate.sender ++ " posted " ++ kind.article ++
          " for rail \"" ++ parsed.railId ++ "\", not \"" ++ rail ++ "\" (ignored)")
      else if parsed.caip2 ≠ input.caip2 then
        .ignored (kind.label ++ ": " ++ candidate.sender ++ " posted " ++ kind.article ++
          " for chain \"" ++ parsed.caip2 ++ "\", not \"" ++ input.caip2 ++ "\" (ignored)")
      else if candidate.sender ≠ input.payerDid ∧ candidate.sender ≠ input.payeeDid then .skipped
      else
        match lineProblem rt input rail candidate parsed with
        | some why =>
          .ignored (kind.label ++ ": " ++ candidate.sender ++ " posted " ++ kind.article ++
            " that is not proven (" ++ why ++ "); ignored")
        | none => .counted (kind.identity input.proof.isRequired parsed)

/-- What the loop keeps. -/
structure LineFold where
  reasons : List String
  byDid : OrdMap String (List String)

def foldLine (judge : TranscriptRecord → LineVerdict) (fold : LineFold)
    (candidate : TranscriptRecord) : LineFold :=
  match judge candidate with
  | .skipped => fold
  | .ignored reason => { fold with reasons := fold.reasons ++ [reason] }
  | .counted identity =>
    { fold with byDid := Agreement.hearOne fold.byDid candidate.sender identity }

/-- `resolve`, of one party: its identity, and the reason for having none. -/
def resolveParty (kind : LineKind) (byDid : OrdMap String (List String)) (did role : String) :
    Option String × List String :=
  match byDid.getList did with
  | [] => (none, [])
  | [identity] => (some identity, [])
  | _ => (none, [kind.label ++ ": conflicting " ++ kind.words ++ " for the " ++ role ++ " (" ++
      did ++ ")"])

structure ResolvedLines where
  payer : Option String
  payee : Option String
  reasons : List String

/-- Both functions, up to what they make of an identity. -/
def resolveLines (kind : LineKind) (rt : LineRuntime) (records : List TranscriptRecord)
    (input : ResolveLinesInput) : ResolvedLines :=
  match normalizeRailIdWith rt.tclk input.rail
      (input.railRegistry.map NamespacedRailRegistry.toCustomRailRegistry) with
  | none =>
    ⟨none, none, [kind.label ++ ": \"" ++ input.rail ++ "\" is not a registered rail id"]⟩
  | some rail =>
    if !rt.isContractId input.contract then
      ⟨none, none, [kind.label ++ ": \"" ++ input.contract ++ "\" is not a valid contract id"]⟩
    else
      let fold := records.foldl
        (foldLine (judgeLine kind rt input rail (rt.tclk.dealRoom input.contract)))
        ⟨[], OrdMap.empty⟩
      let payer := resolveParty kind fold.byDid input.payerDid "payer"
      let payee := resolveParty kind fold.byDid input.payeeDid "payee"
      ⟨payer.1, payee.1, fold.reasons ++ payer.2 ++ payee.2⟩

structure ResolvedAccounts where
  payer : Option String
  payee : Option String
  payerKey : Option String
  payeeKey : Option String
  reasons : List String

/-- `identity.split("\n")` -/
def identityParts (identity : String) : List String :=
  (identity.toList.splitOn '\n').map String.ofList

def resolveAccounts (rt : LineRuntime) (records : List TranscriptRecord)
    (input : ResolveLinesInput) : ResolvedAccounts :=
  let resolved := resolveLines accountLine rt records input
  { payer := resolved.payer.bind fun identity => (identityParts identity)[0]?
    payee := resolved.payee.bind fun identity => (identityParts identity)[0]?
    payerKey := resolved.payer.bind fun identity => (identityParts identity)[1]?
    payeeKey := resolved.payee.bind fun identity => (identityParts identity)[1]?
    reasons := resolved.reasons }

/-- A pubkey line has no rail but a canonical one. -/
def resolvePubkeys (rt : LineRuntime) (records : List TranscriptRecord)
    (input : ResolveLinesInput) : ResolvedLines :=
  resolveLines pubkeyLine rt records { input with railRegistry := none }

/-! ## The loop -/

/-- A record as a claim of its sender. -/
def claimOf (judge : TranscriptRecord → LineVerdict) (candidate : TranscriptRecord) :
    Option (String × String) :=
  match judge candidate with
  | .counted identity => some (candidate.sender, identity)
  | _ => none

theorem claimOf_eq_some {judge : TranscriptRecord → LineVerdict} {candidate : TranscriptRecord}
    {did identity : String} :
    claimOf judge candidate = some (did, identity) ↔
      judge candidate = .counted identity ∧ candidate.sender = did := by
  unfold claimOf
  cases judge candidate <;> simp [and_comm]

theorem byDid_foldLine (judge : TranscriptRecord → LineVerdict) (records : List TranscriptRecord)
    (fold : LineFold) :
    (records.foldl (foldLine judge) fold).byDid =
      Agreement.hear (claimOf judge) fold.byDid records := by
  induction records generalizing fold with
  | nil => rfl
  | cons r records ih =>
    have hStep : (foldLine judge fold r).byDid =
        Agreement.hearRecord (claimOf judge) fold.byDid r := by
      unfold foldLine Agreement.hearRecord claimOf
      cases judge r <;> rfl
    rw [List.foldl_cons, ih, hStep]
    rfl

theorem resolveParty_fst (kind : LineKind) (byDid : OrdMap String (List String))
    (did role : String) :
    (resolveParty kind byDid did role).1 = Agreement.sole (byDid.getList did) := by
  unfold resolveParty
  rcases byDid.getList did with _ | ⟨identity, _ | ⟨other, rest⟩⟩ <;> rfl

/-- A line that counts: proven, of a party, for the rail and the chain, and in time. -/
structure Counts (kind : LineKind) (rt : LineRuntime) (input : ResolveLinesInput)
    (r : TranscriptRecord) : Prop where
  before : ∀ beforeSeq, input.beforeSeq = some beforeSeq → r.seq < beforeSeq
  verified : rt.tclk.verifyTranscriptRecord r = true
  room : r.room = rt.tclk.dealRoom input.contract
  line : ∃ parsed, kind.parse rt r.line input.railRegistry = some parsed ∧
    normalizeRailIdWith rt.tclk input.rail
      (input.railRegistry.map NamespacedRailRegistry.toCustomRailRegistry) =
        some parsed.railId ∧
    parsed.caip2 = input.caip2 ∧ lineProblem rt input parsed.railId r parsed = none
  party : r.sender = input.payerDid ∨ r.sender = input.payeeDid

/-- A line that is counted counts, and is heard with the identity that it names. -/
theorem counts_of_judgeLine {kind : LineKind} {rt : LineRuntime} {input : ResolveLinesInput}
    {rail identity : String} {r : TranscriptRecord}
    (hRail : normalizeRailIdWith rt.tclk input.rail
      (input.railRegistry.map NamespacedRailRegistry.toCustomRailRegistry) = some rail)
    (h : judgeLine kind rt input rail (rt.tclk.dealRoom input.contract) r = .counted identity) :
    Counts kind rt input r ∧ ∃ parsed, kind.parse rt r.line input.railRegistry = some parsed ∧
      identity = kind.identity input.proof.isRequired parsed := by
  unfold judgeLine at h
  -- each skip of the source in turn
  split at h
  · cases h
  rename_i hBefore
  split at h
  · cases h
  rename_i hVerified
  split at h
  · cases h
  rename_i hRoom
  split at h
  · cases h
  rename_i parsed hParsed
  split at h
  · cases h
  rename_i hRailId
  split at h
  · cases h
  rename_i hCaip2
  split at h
  · cases h
  rename_i hParty
  split at h
  · cases h
  rename_i hProven
  have hRailId := not_not.mp hRailId
  refine ⟨⟨?_, by simpa using hVerified, not_not.mp hRoom,
    ⟨parsed, hParsed, by rw [hRail, hRailId], not_not.mp hCaip2, by rw [hRailId]; exact hProven⟩,
    ?_⟩, parsed, hParsed, (LineVerdict.counted.inj h).symm⟩
  -- what is before the accept, and whose line it is
  · intro beforeSeq hSome
    rw [hSome] at hBefore
    simpa using hBefore
  · rw [not_and_or, not_not, not_not] at hParty
    exact hParty

theorem judgeLine_of_counts {kind : LineKind} {rt : LineRuntime} {input : ResolveLinesInput}
    {rail : String} {r : TranscriptRecord}
    (hRail : normalizeRailIdWith rt.tclk input.rail
      (input.railRegistry.map NamespacedRailRegistry.toCustomRailRegistry) = some rail)
    (h : Counts kind rt input r) :
    ∃ identity, judgeLine kind rt input rail (rt.tclk.dealRoom input.contract) r =
      .counted identity := by
  obtain ⟨hBefore, hVerified, hRoom, ⟨parsed, hParsed, hRailId, hCaip2, hProven⟩, hParty⟩ := h
  rw [hRail] at hRailId
  obtain rfl := Option.some.inj hRailId
  have hNotBefore : (input.beforeSeq.any fun beforeSeq => decide (beforeSeq ≤ r.seq)) = false := by
    cases hSeq : input.beforeSeq with
    | none => rfl
    | some beforeSeq => simpa using hBefore beforeSeq hSeq
  have hSender : ¬ (r.sender ≠ input.payerDid ∧ r.sender ≠ input.payeeDid) := by
    rw [not_and_or, not_not, not_not]
    exact hParty
  refine ⟨kind.identity input.proof.isRequired parsed, ?_⟩
  unfold judgeLine
  simp only [hNotBefore, hVerified, hRoom, hParsed, hCaip2, hSender, hProven, ne_eq,
    not_true_eq_false, Bool.not_true, Bool.false_eq_true, ↓reduceIte]

theorem claimOf_judgeLine {kind : LineKind} {rt : LineRuntime} {input : ResolveLinesInput}
    {rail did : String} {r : TranscriptRecord}
    (hRail : normalizeRailIdWith rt.tclk input.rail
      (input.railRegistry.map NamespacedRailRegistry.toCustomRailRegistry) = some rail) :
    (∃ identity, claimOf (judgeLine kind rt input rail (rt.tclk.dealRoom input.contract)) r =
      some (did, identity)) ↔ Counts kind rt input r ∧ r.sender = did := by
  constructor
  · rintro ⟨identity, hClaim⟩
    obtain ⟨hJudge, hSender⟩ := claimOf_eq_some.mp hClaim
    exact ⟨(counts_of_judgeLine hRail hJudge).1, hSender⟩
  · rintro ⟨hCounts, hSender⟩
    obtain ⟨identity, hJudge⟩ := judgeLine_of_counts hRail hCounts
    exact ⟨identity, claimOf_eq_some.mpr ⟨hJudge, hSender⟩⟩

/-- What a party ends up with is what its counting lines agree on, each of which says the identity
that it names; and nothing at all where the resolution does not start. -/
theorem resolveLines_verdict (kind : LineKind) (rt : LineRuntime) (input : ResolveLinesInput) :
    (∃ claims : TranscriptRecord → Option (String × String),
      (∀ r did, (∃ identity, claims r = some (did, identity)) ↔
        Counts kind rt input r ∧ r.sender = did) ∧
      (∀ r did identity, claims r = some (did, identity) →
        ∃ parsed, kind.parse rt r.line input.railRegistry = some parsed ∧
          identity = kind.identity input.proof.isRequired parsed) ∧
      ∀ records,
        (resolveLines kind rt records input).payer =
          Agreement.verdict claims records input.payerDid ∧
        (resolveLines kind rt records input).payee =
          Agreement.verdict claims records input.payeeDid) ∨
      ∀ records, (resolveLines kind rt records input).payer = none ∧
        (resolveLines kind rt records input).payee = none := by
  cases hRail : normalizeRailIdWith rt.tclk input.rail
      (input.railRegistry.map NamespacedRailRegistry.toCustomRailRegistry) with
  | none => exact .inr fun records => by simp [resolveLines, hRail]
  | some rail =>
    cases hContract : rt.isContractId input.contract with
    | false => exact .inr fun records => by simp [resolveLines, hRail, hContract]
    | true =>
      refine .inl ⟨claimOf (judgeLine kind rt input rail (rt.tclk.dealRoom input.contract)),
        fun r did => claimOf_judgeLine hRail, fun r did identity hClaim => ?_, fun records => ?_⟩
      · exact (counts_of_judgeLine hRail (claimOf_eq_some.mp hClaim).1).2
      · simp only [resolveLines, hRail, hContract, Bool.not_true, Bool.false_eq_true, ↓reduceIte,
          resolveParty_fst, byDid_foldLine]
        exact ⟨rfl, rfl⟩

/-! ## Locality -/

/-- What one more line `r` of a party does to its value, given the records `before` and `after`
it: it keeps it or takes it away, and does not give one to a party whose lines conflict. -/
def AddsLocally {α : Type} (own other : List TranscriptRecord → Option α)
    (counts : TranscriptRecord → Prop) (did : String) : Prop :=
  ∀ before after r, counts r → r.sender = did →
    other (before ++ r :: after) = other (before ++ after) ∧
    (∀ v, own (before ++ after) = some v →
      own (before ++ r :: after) = some v ∨ own (before ++ r :: after) = none) ∧
    ((∃ q ∈ before ++ after, counts q ∧ q.sender = did) → own (before ++ after) = none →
      own (before ++ r :: after) = none)

/-- A resolution that depends on each party's counting lines, and on nothing else. -/
structure PartyLocal {α : Type} (counts : TranscriptRecord → Prop) (payerDid payeeDid : String)
    (payer payee : List TranscriptRecord → Option α) : Prop where
  /-- Records in any order, any number of times. -/
  orderFree : ∀ records records', (∀ r, r ∈ records ↔ r ∈ records') →
    payer records = payer records' ∧ payee records = payee records'
  ignored : ∀ before after r, ¬ counts r →
    payer (before ++ r :: after) = payer (before ++ after) ∧
      payee (before ++ r :: after) = payee (before ++ after)
  payerLine : payerDid ≠ payeeDid → AddsLocally payer payee counts payerDid
  payeeLine : payerDid ≠ payeeDid → AddsLocally payee payer counts payeeDid

section

variable {counts : TranscriptRecord → Prop} {claims : TranscriptRecord → Option (String × String)}
  {α : Type} (part : String → Option α)

/-- One party's line among the claims. -/
theorem addsLocally_of_verdict
    (hClaims : ∀ r did, (∃ identity, claims r = some (did, identity)) ↔
      counts r ∧ r.sender = did) {did other : String} (hne : did ≠ other) :
    AddsLocally (fun records => (Agreement.verdict claims records did).bind part)
      (fun records => (Agreement.verdict claims records other).bind part) counts did := by
  intro before after r hCounts hSender
  refine ⟨?_, ?_, ?_⟩
  · have hNot : ∀ identity, claims r ≠ some (other, identity) := fun identity hClaim =>
      hne (hSender.symm.trans ((hClaims r other).mp ⟨identity, hClaim⟩).2)
    simp only [Agreement.verdict_ignored hNot]
  · intro v hv
    obtain ⟨identity, hIdentity, hPart⟩ := Option.bind_eq_some_iff.mp hv
    rcases Agreement.verdict_add (r := r) hIdentity with hKept | hNone
    · exact .inl (by simp only [hKept, Option.bind_some, hPart])
    · exact .inr (by simp only [hNone, Option.bind_none])
  · rintro ⟨q, hq, hCountsQ, hSenderQ⟩ hNone
    obtain ⟨identity, hClaim⟩ := (hClaims q did).mpr ⟨hCountsQ, hSenderQ⟩
    cases hVerdict : Agreement.verdict claims (before ++ after) did with
    | none => simp only [Agreement.verdict_add_contested hq hClaim hVerdict, Option.bind_none]
    | some identity' =>
      -- the lines agree, on an identity without this part
      simp only [hVerdict, Option.bind_some] at hNone
      rcases Agreement.verdict_add (r := r) hVerdict with hKept | hGone
      · simp only [hKept, Option.bind_some, hNone]
      · simp only [hGone, Option.bind_none]

theorem partyLocal_of_verdict
    (hClaims : ∀ r did, (∃ identity, claims r = some (did, identity)) ↔
      counts r ∧ r.sender = did) (payerDid payeeDid : String) :
    PartyLocal counts payerDid payeeDid
      (fun records => (Agreement.verdict claims records payerDid).bind part)
      (fun records => (Agreement.verdict claims records payeeDid).bind part) where
  orderFree records records' h := by
    have hSame : ∀ did, Agreement.verdict claims records did =
        Agreement.verdict claims records' did := fun did =>
      Agreement.verdict_congr fun a => exists_congr fun r => by rw [h r]
    simp only [hSame, and_self]
  ignored before after r hNot := by
    have hSilent : ∀ did identity, claims r ≠ some (did, identity) := fun did identity hClaim =>
      hNot ((hClaims r did).mp ⟨identity, hClaim⟩).1
    simp only [Agreement.verdict_ignored (hSilent payerDid),
      Agreement.verdict_ignored (hSilent payeeDid), and_self]
  payerLine hne := addsLocally_of_verdict part hClaims hne
  payeeLine hne := addsLocally_of_verdict part hClaims (Ne.symm hne)

theorem partyLocal_none (counts : TranscriptRecord → Prop) (payerDid payeeDid : String) :
    PartyLocal counts payerDid payeeDid (fun _ => (none : Option α)) (fun _ => none) where
  orderFree _ _ _ := ⟨rfl, rfl⟩
  ignored _ _ _ _ := ⟨rfl, rfl⟩
  payerLine _ _ _ _ _ _ := ⟨rfl, nofun, fun _ _ => rfl⟩
  payeeLine _ _ _ _ _ _ := ⟨rfl, nofun, fun _ _ => rfl⟩

/-- Any part of the identities that the loop resolves. -/
theorem partyLocal_resolveLines (kind : LineKind) (rt : LineRuntime) (input : ResolveLinesInput) :
    PartyLocal (Counts kind rt input) input.payerDid input.payeeDid
      (fun records => (resolveLines kind rt records input).payer.bind part)
      (fun records => (resolveLines kind rt records input).payee.bind part) := by
  rcases resolveLines_verdict kind rt input with ⟨claims, hClaims, -, hVerdict⟩ | hNone
  · simp only [fun records => (hVerdict records).1, fun records => (hVerdict records).2]
    exact partyLocal_of_verdict part hClaims input.payerDid input.payeeDid
  · simp only [fun records => (hNone records).1, fun records => (hNone records).2,
      Option.bind_none]
    exact partyLocal_none _ _ _

end

/-- The accounts, with their keys, and the pubkeys are resolved from each party's own lines. -/
theorem resolution_party_local (rt : LineRuntime) (input : ResolveLinesInput) :
    PartyLocal (Counts accountLine rt input) input.payerDid input.payeeDid
        (fun records => (resolveAccounts rt records input).payer)
        (fun records => (resolveAccounts rt records input).payee) ∧
      PartyLocal (Counts accountLine rt input) input.payerDid input.payeeDid
        (fun records => (resolveAccounts rt records input).payerKey)
        (fun records => (resolveAccounts rt records input).payeeKey) ∧
      PartyLocal (Counts pubkeyLine rt { input with railRegistry := none })
        input.payerDid input.payeeDid
        (fun records => (resolvePubkeys rt records input).payer)
        (fun records => (resolvePubkeys rt records input).payee) := by
  refine ⟨partyLocal_resolveLines (fun identity => (identityParts identity)[0]?) accountLine rt
    input, partyLocal_resolveLines (fun identity => (identityParts identity)[1]?) accountLine rt
    input, ?_⟩
  have hPubkeys := partyLocal_resolveLines some pubkeyLine rt { input with railRegistry := none }
  simpa only [resolvePubkeys, Option.bind_fun_some] using hPubkeys

end SwapDesk.Rails
