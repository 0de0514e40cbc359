import Mathlib.Data.List.Basic
import SwapDesk.Lib.Check

/-!
# SwapDesk — the ledger of a flow record

The part of a flow record that its journal works on, as in `src/client/flow-record.ts`: the
revision, the time of the last save, the frame slots and the ledger of everything that the
party posts. The fields that only the flows read are a type of their own.

Main result: `Ledger.Extends`, the order in which a ledger grows.
-/

namespace SwapDesk.Client

open Check

inductive LedgerKind where
  | offerA
  | acceptA
  | offerB
  | acceptB
  | accountA
  | lockA
  | lockB
  | revealA
  | receiptA
  | revealB
  | receiptB
  | refundA
  | receiptRefundA
  | refundB
  | receiptRefundB
deriving DecidableEq, Repr

/-- A record of the venue, as plain data. -/
structure TranscriptRecordJson where
  room : String
  seq : Nat
  timestampMs : Int
  sender : String
  nonce : Option String
  signature : Option String
  line : String
deriving DecidableEq, Repr

structure Landed where
  seq : Nat
  nonce : Option String
  record : Option TranscriptRecordJson
deriving DecidableEq, Repr

/-- One line that this party posts. -/
structure LedgerEntry where
  kind : LedgerKind
  room : String
  text : String
  landed : Option Landed
deriving DecidableEq, Repr

structure FrameSlot where
  text : String
  record : Option TranscriptRecordJson
deriving DecidableEq, Repr

/-- The members of `SwapFrames`. -/
inductive Slot where
  | offerA
  | acceptA
  | offerB
  | acceptB
deriving DecidableEq, Repr

structure FlowRecord (β : Type) where
  revision : Nat
  updatedAtMs : Int
  frames : Slot → Option FrameSlot
  ledger : List LedgerEntry
  /-- What the journal does not look at. -/
  rest : β

variable {β : Type}

/-- A copy with the next revision, not earlier than before. -/
def bumped (record : FlowRecord β) (nowMs : Int) : FlowRecord β :=
  { record with
    revision := record.revision + 1
    updatedAtMs := max record.updatedAtMs nowMs }

def ledgerEntry (record : FlowRecord β) (kind : LedgerKind) : Option LedgerEntry :=
  record.ledger.find? (·.kind = kind)

/-- Why a derive function throws. -/
inductive DeriveError where
  /-- `FlowRecordConflictError`, and what else a caller's own function throws. -/
  | conflict (message : String)
  /-- `FlowRecordInvalidError` -/
  | invalid (message : String)
deriving DecidableEq, Repr

/-- The record of an intent to post; none when the same intent is there already. -/
def withLedgerIntent (checked : FlowRecord β → Bool) (record : FlowRecord β) (kind : LedgerKind)
    (room text : String) : Except DeriveError (Option (FlowRecord β)) :=
  match ledgerEntry record kind with
  | some existing => do
    require (existing.room = room ∧ existing.text = text)
      (.conflict "was already recorded with different text or room")
    return none
  | none => do
    let copy := { record with ledger := record.ledger ++ [⟨kind, room, text, none⟩] }
    require (checked copy = true) (.invalid "flow record: the record is invalid")
    return some copy

/-- The first entry of the kind, landed. -/
def markEntry (kind : LedgerKind) (landed : Landed) : List LedgerEntry → List LedgerEntry
  | [] => []
  | e :: rest =>
    if e.kind = kind then { e with landed := some landed } :: rest
    else e :: markEntry kind landed rest

/-- What `markLanded` is told of the line. -/
structure LineSpec where
  kind : LedgerKind
  room : String
  text : String
  /-- Only the digest of the text goes into the ledger. -/
  digestOnly : Bool
  slot : Option Slot
deriving DecidableEq, Repr

/-- The record of a line that landed; none when all of it is there already. -/
def withLanded (checked : FlowRecord β → Bool) (spec : LineSpec) (ledgerText : String)
    (record : TranscriptRecordJson) (ensureIntent : Bool) (current : FlowRecord β) :
    Except DeriveError (Option (FlowRecord β)) := do
  let intent ← (if ensureIntent then withLedgerIntent checked current spec.kind spec.room ledgerText
    else .ok none : Except DeriveError (Option (FlowRecord β)))
  let base := intent.getD current
  let existing ← need (ledgerEntry base spec.kind) (.conflict "has no ledger entry to mark as landed")
  require (∀ landed ∈ existing.landed, landed.seq = record.seq ∧ landed.nonce = record.nonce)
    (.conflict "already landed at another seq; refusing to replace that mark")
  let slotKnown := spec.slot.all fun slot =>
    (base.frames slot).any fun frame => frame.record.any fun kept => kept.seq = record.seq
  if intent.isNone && existing.landed.isSome && slotKnown then return none
  let keepOnMark := spec.slot.isNone && !spec.digestOnly
  let landed : Landed := ⟨record.seq, record.nonce, if keepOnMark then some record else none⟩
  return some { base with
    ledger := markEntry spec.kind landed base.ledger
    frames := fun slot =>
      if spec.slot = some slot then some ⟨spec.text, some record⟩ else base.frames slot }

-- ---------------------------------------------------------------------------
-- How a ledger grows
-- ---------------------------------------------------------------------------

/-- Every entry stays, with its room and text, and a landed mark stays at its place. -/
def Ledger.Extends (a b : FlowRecord β) : Prop :=
  ∀ kind e, ledgerEntry a kind = some e → ∃ e', ledgerEntry b kind = some e' ∧
    e'.room = e.room ∧ e'.text = e.text ∧
      ∀ landed, e.landed = some landed → ∃ landed', e'.landed = some landed' ∧
        landed'.seq = landed.seq ∧ landed'.nonce = landed.nonce

namespace Ledger

theorem Extends.refl (a : FlowRecord β) : Extends a a :=
  fun _ e he => ⟨e, he, rfl, rfl, fun landed h => ⟨landed, h, rfl, rfl⟩⟩

theorem Extends.trans {a b c : FlowRecord β} (hab : Extends a b) (hbc : Extends b c) :
    Extends a c := by
  intro kind e he
  obtain ⟨e', he', hRoom, hText, hLanded⟩ := hab kind e he
  obtain ⟨e'', he'', hRoom', hText', hLanded'⟩ := hbc kind e' he'
  refine ⟨e'', he'', hRoom'.trans hRoom, hText'.trans hText, fun landed h => ?_⟩
  obtain ⟨landed', h', hSeq, hNonce⟩ := hLanded landed h
  obtain ⟨landed'', h'', hSeq', hNonce'⟩ := hLanded' landed' h'
  exact ⟨landed'', h'', hSeq'.trans hSeq, hNonce'.trans hNonce⟩

/-- A record with the same ledger. -/
theorem Extends.of_eq {a b : FlowRecord β} (h : b.ledger = a.ledger) : Extends a b := by
  intro kind e he
  refine ⟨e, ?_, rfl, rfl, fun landed h => ⟨landed, h, rfl, rfl⟩⟩
  rwa [ledgerEntry, h]

end Ledger

/-- An entry for a kind that had none changes no other one. -/
theorem ledgerEntry_append {record : FlowRecord β} {kind : LedgerKind} {entry : LedgerEntry}
    (h : ledgerEntry record entry.kind = none) :
    ledgerEntry { record with ledger := record.ledger ++ [entry] } kind =
      if kind = entry.kind then some entry else ledgerEntry record kind := by
  unfold ledgerEntry at h ⊢
  rw [List.find?_append]
  split
  · rename_i hKind
    subst hKind
    simp [h]
  · rename_i hKind
    have hOther : [entry].find? (·.kind = kind) = none := by
      simpa [eq_comm] using hKind
    rw [hOther, Option.or_none]

/-- What an intent leaves: its entry, and the ledger that was there. -/
theorem withLedgerIntent_ok {checked : FlowRecord β → Bool} {record : FlowRecord β}
    {kind : LedgerKind} {room text : String} {next : Option (FlowRecord β)}
    (h : withLedgerIntent checked record kind room text = .ok next) :
    Ledger.Extends record (next.getD record) ∧
      ∃ e, ledgerEntry (next.getD record) kind = some e ∧ e.room = room ∧ e.text = text := by
  unfold withLedgerIntent at h
  cases hEntry : ledgerEntry record kind with
  | some existing =>
    rw [hEntry] at h
    simp only [bind_eq_ok, require_eq_ok, exists_const] at h
    obtain ⟨⟨hRoom, hText⟩, hNext⟩ := h
    obtain rfl := Except.ok.inj hNext
    exact ⟨.refl record, existing, hEntry, hRoom, hText⟩
  | none =>
    rw [hEntry] at h
    simp only [bind_eq_ok, require_eq_ok, exists_const] at h
    obtain ⟨-, hNext⟩ := h
    obtain rfl := Except.ok.inj hNext
    have hAppend := fun kind' => @ledgerEntry_append _ record kind' ⟨kind, room, text, none⟩ hEntry
    refine ⟨fun kind' e he => ⟨e, ?_, rfl, rfl, fun landed h => ⟨landed, h, rfl, rfl⟩⟩,
      ⟨kind, room, text, none⟩, ?_, rfl, rfl⟩
    · show ledgerEntry { record with ledger := record.ledger ++ [⟨kind, room, text, none⟩] } kind' = _
      rw [hAppend, if_neg, he]
      rintro rfl
      rw [hEntry] at he
      cases he
    · show ledgerEntry { record with ledger := record.ledger ++ [⟨kind, room, text, none⟩] } kind = _
      rw [hAppend, if_pos rfl]

theorem ledgerEntry_markEntry {record : FlowRecord β} {kind kind' : LedgerKind} {landed : Landed} :
    (markEntry kind landed record.ledger).find? (·.kind = kind') =
      (ledgerEntry record kind').map fun e =>
        if kind' = kind then { e with landed := some landed } else e := by
  unfold ledgerEntry
  induction record.ledger with
  | nil => rfl
  | cons e rest ih =>
    unfold markEntry
    by_cases hKind : e.kind = kind
    · by_cases hKind' : e.kind = kind'
      · simp [hKind, ← hKind']
      · have hne : kind' ≠ kind := fun h => hKind' (hKind.trans h.symm)
        rw [if_pos hKind, List.find?_cons_of_neg (by simpa using hKind'),
          List.find?_cons_of_neg (by simpa using hKind')]
        simp [hne]
    · rw [if_neg hKind]
      by_cases hKind' : e.kind = kind'
      · have hne : kind' ≠ kind := fun h => hKind (hKind'.trans h)
        simp [hKind', hne]
      · rw [List.find?_cons_of_neg (by simpa using hKind'),
          List.find?_cons_of_neg (by simpa using hKind'), ih]

/-- A landed mark extends the ledger, and never replaces another mark. -/
theorem withLanded_ok {checked : FlowRecord β → Bool} {spec : LineSpec} {ledgerText : String}
    {record : TranscriptRecordJson} {ensureIntent : Bool} {current : FlowRecord β}
    {next : Option (FlowRecord β)}
    (h : withLanded checked spec ledgerText record ensureIntent current = .ok next) :
    Ledger.Extends current (next.getD current) := by
  unfold withLanded at h
  simp only [bind_eq_ok, need_eq_ok, require_eq_ok, exists_const] at h
  obtain ⟨intent, hIntent, existing, hExisting, hSame, hNext⟩ := h
  -- the intent is there, or is entered first
  have hBase : Ledger.Extends current (intent.getD current) := by
    split at hIntent
    · exact (withLedgerIntent_ok hIntent).1
    · obtain rfl := Except.ok.inj hIntent
      exact .refl current
  split at hNext
  · obtain rfl := Except.ok.inj hNext
    exact .refl current
  · obtain rfl := Except.ok.inj hNext
    -- the entry of this kind gets its record, the others stay as they are
    refine hBase.trans fun kind e he => ?_
    simp only [Option.getD_some, ledgerEntry]
    rw [ledgerEntry_markEntry, he]
    refine ⟨_, rfl, ?_⟩
    by_cases hKind : kind = spec.kind
    · subst hKind
      obtain rfl : e = existing := Option.some.inj (he.symm.trans hExisting)
      simp only [if_true, true_and]
      refine fun landed hLanded => ⟨_, rfl, ?_, ?_⟩
      · exact (hSame landed hLanded).1.symm
      · exact (hSame landed hLanded).2.symm
    · simp only [if_neg hKind, true_and]
      exact fun landed hLanded => ⟨landed, hLanded, rfl, rfl⟩

theorem withLedgerIntent_revision {checked : FlowRecord β → Bool} {record next : FlowRecord β}
    {kind : LedgerKind} {room text : String}
    (h : withLedgerIntent checked record kind room text = .ok (some next)) :
    next.revision = record.revision ∧ next.updatedAtMs = record.updatedAtMs := by
  unfold withLedgerIntent at h
  split at h
  · simp only [bind_eq_ok, require_eq_ok, exists_const] at h
    cases h.2
  · simp only [bind_eq_ok, require_eq_ok, exists_const] at h
    obtain rfl := Option.some.inj (Except.ok.inj h.2)
    exact ⟨rfl, rfl⟩

theorem withLanded_revision {checked : FlowRecord β → Bool} {spec : LineSpec}
    {ledgerText : String} {venueRecord : TranscriptRecordJson} {ensureIntent : Bool}
    {record next : FlowRecord β}
    (h : withLanded checked spec ledgerText venueRecord ensureIntent record = .ok (some next)) :
    next.revision = record.revision ∧ next.updatedAtMs = record.updatedAtMs := by
  unfold withLanded at h
  simp only [bind_eq_ok, need_eq_ok, require_eq_ok, exists_const] at h
  obtain ⟨intent, hIntent, existing, -, -, hNext⟩ := h
  have hBase : (intent.getD record).revision = record.revision ∧
      (intent.getD record).updatedAtMs = record.updatedAtMs := by
    cases intent with
    | none => exact ⟨rfl, rfl⟩
    | some base =>
      split at hIntent
      · exact withLedgerIntent_revision hIntent
      · cases hIntent
  split at hNext
  · cases hNext
  · obtain rfl := Option.some.inj (Except.ok.inj hNext)
    exact hBase

end SwapDesk.Client
