import SwapDesk.Desk.ProfileCodec
import SwapDesk.Lib.Separated
import SwapDesk.Rails.AccountLineCodec
import SwapDesk.Rails.ProofVerifiers

/-!
# SwapDesk — what an account proof is bound to

The message of `src/rails/account-proof.ts` names the sender, the contract, the rail and the
account, and nothing else has the same message. Each scheme signs bytes that the message can be
told from, up to a collision of a hash, so a proof that is taken for two tuples is a signature on
bytes that the key of one of them has not signed.

Main result: `proofs_bound`.
-/

namespace SwapDesk.Rails

open Check Desk
open CharClass (isAlphanumeric isSpace)

/-! ## The message -/

structure AccountProofMessageInput where
  did : String
  contract : String
  railId : String
  account : String
deriving DecidableEq, Repr

/-- The fields of the tuple, as they are joined. -/
def AccountProofMessageInput.text (input : AccountProofMessageInput) : String :=
  "|".intercalate [ACCOUNT_PROOF_MESSAGE_PREFIX, input.did, input.contract, input.railId,
    input.account]

/-- A DID holds no separator. -/
theorem separator_of_didShape {did : String} (h : DID_SHAPE did = true) : '|' ∉ did.toList := by
  unfold DID_SHAPE at h
  split at h
  · rename_i rest hText
    simp only [Bool.and_eq_true, List.all_eq_true] at h
    obtain ⟨⟨⟨-, hMethod⟩, -⟩, hName⟩ := h
    rw [hText]
    intro hMem
    have hRest : '|' ∈ rest := by simpa using hMem
    -- in the method before the colon, or in the name after it
    rw [← List.takeWhile_append_dropWhile (p := fun c => decide (c ≠ ':')) (l := rest)] at hRest
    rcases List.mem_append.mp hRest with hIn | hIn
    · exact absurd (hMethod _ hIn) (by decide)
    · cases hDrop : rest.dropWhile fun c => decide (c ≠ ':') with
      | nil =>
        rw [hDrop] at hIn
        cases hIn
      | cons c name =>
        rw [hDrop] at hIn hName
        have hColon : decide (c ≠ ':') = false := by
          have := List.head?_dropWhile_not (fun c => decide (c ≠ ':')) rest
          rw [hDrop] at this
          simpa using this
        rcases List.mem_cons.mp hIn with hc | hIn
        · rw [← hc] at hColon
          exact absurd hColon (by decide)
        · exact absurd (hName _ hIn) (by decide)
  · cases h

/-- A contract digest holds no separator and has 66 characters. -/
theorem separator_of_hex32 {contract : String} (h : hex32 contract = true) :
    '|' ∉ contract.toList ∧ contract.toList.length = 66 := by
  unfold hex32 at h
  split at h
  · rename_i digits hText
    rw [Bool.and_eq_true, beq_iff_eq, List.all_eq_true] at h
    rw [hText]
    refine ⟨?_, by rw [List.length_cons, List.length_cons, h.1]⟩
    intro hMem
    have hRest : '|' ∈ digits := by simpa using hMem
    exact absurd (h.2 _ hRest) (by decide)
  · cases h

/-- An account has neither the separator of the message nor that of a resolved identity. -/
theorem separator_of_accountShape {account : String} {c : Char} (hc : c = '|' ∨ c = '\n')
    (h : ACCOUNT_SHAPE account = true) : c ∉ account.toList := by
  -- neither is of the characters that an account is made of
  have hOutside : c ≠ ':' ∧ isAccountChar c = false ∧ isAlphanumeric c = false ∧
      c ∉ ['-', '_', '.', '%'] := by
    rcases hc with rfl | rfl <;> decide
  obtain ⟨hColon, hLower, hAlphanumeric, hPunctuation⟩ := hOutside
  unfold ACCOUNT_SHAPE at h
  split at h
  · rename_i ns reference address hSplit
    simp only [Bool.and_eq_true, tokenOf, List.all_eq_true] at h
    obtain ⟨⟨⟨-, hNs⟩, -, hReference⟩, -, hAddress⟩ := h
    obtain ⟨-, -, hText⟩ := Separated.splitOn_eq_iff.mp hSplit
    rw [hText]
    intro hMem
    have hMem : c ∈ ns ∨ c ∈ reference ∨ c ∈ address := by
      simpa [List.intercalate, List.intersperse, hColon] using hMem
    rcases hMem with hIn | hIn | hIn
    · have := hNs _ hIn
      simp_all
    · have := hReference _ hIn
      simp_all
    · have := hAddress _ hIn
      simp_all
  · cases h

/-- A tuple whose message can be built. -/
structure AccountProofMessageInput.Plain (input : AccountProofMessageInput) : Prop where
  did : '|' ∉ input.did.toList
  contract : '|' ∉ input.contract.toList ∧ input.contract.toList.length = 66
  account : '|' ∉ input.account.toList
  line : '\n' ∉ input.account.toList

/-- The message built is the text of the tuple, whose parts have the shapes that were checked. -/
theorem buildAccountProofMessage_ok {rt : LineRuntime}
    {did contract railId account message : String} {registry : Option NamespacedRailRegistry}
    (h : buildAccountProofMessage rt did contract railId account registry = .ok message) :
    message = AccountProofMessageInput.text ⟨did, contract, railId, account⟩ ∧
      AccountProofMessageInput.Plain ⟨did, contract, railId, account⟩ := by
  unfold buildAccountProofMessage at h
  simp only [bind_eq_ok, require_eq_ok, need_eq_ok, exists_const] at h
  obtain ⟨hDid, hContract, normalized, -, rfl, hAccount, h⟩ := h
  exact ⟨(Except.ok.inj h).symm, separator_of_didShape hDid, separator_of_hex32 hContract,
    separator_of_accountShape (.inl rfl) hAccount, separator_of_accountShape (.inr rfl) hAccount⟩

/-- The text of a tuple, character by character. -/
theorem toList_text (input : AccountProofMessageInput) :
    input.text.toList = ACCOUNT_PROOF_MESSAGE_PREFIX.toList ++ '|' :: (input.did.toList ++
      '|' :: (input.contract.toList ++ '|' :: (input.railId.toList ++
        '|' :: input.account.toList))) := by
  have hBar : "|".toList = ['|'] := rfl
  rw [AccountProofMessageInput.text, String.toList_intercalate, hBar]
  simp [List.intercalate, List.intersperse]

/-- Two tuples with one message are the same. -/
theorem text_inj {a b : AccountProofMessageInput} (ha : a.Plain) (hb : b.Plain)
    (h : a.text = b.text) : a = b := by
  have hText := congrArg String.toList h
  rw [toList_text, toList_text] at hText
  have hText := (List.cons.inj (List.append_cancel_left hText)).2
  obtain ⟨hDid, hText⟩ := Separated.parts_at_separator hText ha.did hb.did
  obtain ⟨hContract, hText⟩ := Separated.parts_at_separator hText ha.contract.1 hb.contract.1
  -- the rail id may have separators, and the account after it has none
  have hBack := congrArg List.reverse hText
  simp only [List.reverse_append, List.reverse_cons, List.append_assoc, List.singleton_append]
    at hBack
  obtain ⟨hAccount, hRail⟩ := Separated.parts_at_separator hBack
    (fun hMem => ha.account (List.mem_reverse.mp hMem))
    (fun hMem => hb.account (List.mem_reverse.mp hMem))
  obtain ⟨did, contract, railId, account⟩ := a
  obtain ⟨did', contract', railId', account'⟩ := b
  rw [AccountProofMessageInput.mk.injEq]
  exact ⟨String.toList_inj.mp hDid, String.toList_inj.mp hContract,
    String.toList_inj.mp (List.reverse_inj.mp hRail),
    String.toList_inj.mp (List.reverse_inj.mp hAccount)⟩

/-- UTF-8 encodes a text character by character. -/
theorem encode_cons (c : Char) (text : List Char) :
    Utf8.encode (c :: text) = String.utf8EncodeChar c ++ Utf8.encode text := rfl

/-- A text has at least as many bytes as characters. -/
theorem length_le_encode (text : List Char) : text.length ≤ (Utf8.encode text).length := by
  induction text with
  | nil => exact Nat.zero_le _
  | cons c text ih =>
    have hPos : 0 < (String.utf8EncodeChar c).length := by
      rw [String.length_utf8EncodeChar]
      exact c.utf8Size_pos
    rw [encode_cons, List.length_append, List.length_cons]
    omega

/-- A message starts with no digit, and is longer than a hash. -/
theorem textBytes_text {input : AccountProofMessageInput} (h : input.Plain) :
    (∃ rest, textBytes input.text = 0x46 :: rest) ∧ 32 < (textBytes input.text).length := by
  have hText := toList_text input
  constructor
  · obtain ⟨rest, hRest⟩ : ∃ rest, ACCOUNT_PROOF_MESSAGE_PREFIX.toList = 'F' :: rest := ⟨_, rfl⟩
    have hFirst : String.utf8EncodeChar 'F' = [0x46] := by decide
    unfold textBytes
    rw [hText, hRest, List.cons_append, encode_cons, hFirst]
    exact ⟨_, rfl⟩
  · refine lt_of_lt_of_le ?_ (length_le_encode _)
    rw [hText]
    simp only [List.length_append, List.length_cons, h.contract.2]
    omega

/-! ## What the packages document -/

/-- What EIP-191 hashes. -/
def eip191Bytes (message : String) : List UInt8 :=
  [0x19] ++ (textBytes "Ethereum Signed Message:\n" ++
    (textBytes (toString (textBytes message).length) ++ textBytes message))

/-- What BIP-143 hashes twice, for an input that spends an output of the transaction with this
hash. -/
def bip143Preimage (pk : ProofPackages) (tx : ToSignTx) (spent scriptCode : List UInt8)
    (hashType amount : Nat) : List UInt8 :=
  let outpoint := spent ++ Bytes.toLe 4 tx.index
  Bytes.toLe 4 tx.version ++ (dsha256 pk outpoint ++ (dsha256 pk (Bytes.toLe 4 tx.sequence) ++
    (outpoint ++ (BitcoinTx.varBytes scriptCode ++ (Bytes.toLe 8 amount ++
      (Bytes.toLe 4 tx.sequence ++ (dsha256 pk (Bytes.toLe 8 tx.outputAmount ++
        BitcoinTx.varBytes tx.outputScript) ++ (Bytes.toLe 4 tx.lockTime ++
          Bytes.toLe 4 hashType))))))))

/-- The documented behaviour of the packages. -/
structure DocumentedPackages (pk : ProofPackages) (keccak256 : List UInt8 → List UInt8) :
    Prop where
  /-- EIP-191 -/
  hashMessage : ∀ message,
    pk.hashMessage message = "0x" ++ bytesToHex (keccak256 (eip191Bytes message))
  sha256 : ∀ bytes, (pk.sha256 bytes).length = 32
  /-- BIP-143; the id of a transaction is shown in reverse. -/
  preimageWitnessV0 : ∀ tx spent scriptCode hashType amount, tx.txid = bytesToHex spent.reverse →
    pk.preimageWitnessV0 tx 0 scriptCode hashType amount =
      some (dsha256 pk (bip143Preimage pk tx spent scriptCode hashType amount))

section

variable {pk : ProofPackages} {keccak256 : List UInt8 → List UInt8}

def bip322Raw (pk : ProofPackages) (message : String) (pubkey : List UInt8) : List UInt8 :=
  bip322ToSpendRaw pk message (p2wpkhScript pk pubkey)

def bip322Preimage (pk : ProofPackages) (message : String) (pubkey : List UInt8) : List UInt8 :=
  bip143Preimage pk (buildToSign pk message pubkey) (dsha256 pk (bip322Raw pk message pubkey))
    (p2wpkhScriptCode pk pubkey) SIGHASH_ALL 0

/-- Under the documented packages the BIP-322 digest is the double hash of its preimage. -/
theorem bip322Digest_eq (hDoc : DocumentedPackages pk keccak256) (message : String)
    (pubkey : List UInt8) :
    bip322Digest pk message pubkey = some (dsha256 pk (bip322Preimage pk message pubkey)) :=
  hDoc.preimageWitnessV0 _ _ _ _ _ rfl

/-- Reading back printed hex gives the bytes. -/
theorem lowerHexToBytes_bytesToHex {bytes digest : List UInt8}
    (h : lowerHexToBytes (bytesToHex bytes) = some digest) : digest = bytes := by
  unfold lowerHexToBytes at h
  split at h
  · cases h
  · rw [bytesToHex, String.toList_ofList, Hex.decode_encode] at h
    exact (Option.some.inj h).symm

/-- Under the documented packages the EIP-191 digest is the hash of the prefixed text. -/
theorem eip191Digest_eq_some (hDoc : DocumentedPackages pk keccak256) {message : String}
    {digest : List UInt8} (h : eip191Digest pk message = some digest) :
    digest = keccak256 (eip191Bytes message) := by
  unfold eip191Digest at h
  rw [hDoc.hashMessage] at h
  have hSlice : sliceFrom ("0x" ++ bytesToHex (keccak256 (eip191Bytes message))) 2 =
      bytesToHex (keccak256 (eip191Bytes message)) := by
    unfold sliceFrom
    rw [String.toList_append]
    exact String.ofList_toList
  rw [hSlice] at h
  exact lowerHexToBytes_bytesToHex h

/-! ## The encodings of the message -/

/-- Texts with the same bytes are the same. -/
theorem textBytes_inj {a b : String} (h : textBytes a = textBytes b) : a = b :=
  String.toList_inj.mp (Utf8.encode_inj.mp h)

/-- The bytes of a printed number are digits. -/
theorem textBytes_toString_le (n : Nat) : ∀ b ∈ textBytes (toString n), b.toNat ≤ 57 := by
  have hDigits : (toString n).toList = Nat.toDigits 10 n := Nat.toList_repr
  have hRange : ∀ c ∈ Nat.toDigits 10 n, c.toNat ≤ 57 := fun c hc =>
    (Char.isDigit_iff_toNat.mp (Nat.isDigit_of_mem_toDigits (by decide) (by decide) hc)).2
  intro b hb
  rw [textBytes, hDigits, Utf8.encode_of_ascii fun c hc => (hRange c hc).trans_lt (by decide)]
    at hb
  obtain ⟨c, hc, rfl⟩ := List.mem_map.mp hb
  have hLe := hRange c hc
  rw [UInt8.toNat_ofNat_of_lt' (hLe.trans_lt (by decide))]
  exact hLe

/-- The length in the EIP-191 prefix does not let two tuples print to one text. -/
theorem eip191Bytes_inj {a b : AccountProofMessageInput} (ha : a.Plain) (hb : b.Plain)
    (h : eip191Bytes a.text = eip191Bytes b.text) : a.text = b.text := by
  have hLengths := List.append_cancel_left (List.append_cancel_left h)
  obtain ⟨⟨restA, hA⟩, -⟩ := textBytes_text ha
  obtain ⟨⟨restB, hB⟩, -⟩ := textBytes_text hb
  have hDrop {n : Nat} {rest : List UInt8} :
      (textBytes (toString n) ++ 0x46 :: rest).dropWhile (fun b => decide (b.toNat ≤ 57)) =
        0x46 :: rest := by
    rw [List.dropWhile_append_of_pos]
    · rfl
    · exact fun b hb => decide_eq_true (textBytes_toString_le n b hb)
  rw [hA, hB] at hLengths
  have hSame := hDrop.symm.trans ((congrArg _ hLengths).trans hDrop)
  exact textBytes_inj (hA.trans (hSame.trans hB.symm))

/-- The BIP-322 tag keeps messages apart. -/
theorem bip322Tagged_inj {a b : String} (h : bip322Tagged pk a = bip322Tagged pk b) : a = b :=
  textBytes_inj (List.append_cancel_left (List.append_cancel_left h))

/-- The NEP-413 payload keeps messages apart. -/
theorem nep413Tagged_inj (hDoc : DocumentedPackages pk keccak256) {a b : String}
    (h : nep413Tagged pk a = nep413Tagged pk b) : a = b := by
  have hLength := congrArg List.length h
  simp only [nep413Tagged, borshString, nep413U32le, List.length_append, Bytes.length_toLe,
    hDoc.sha256,
    List.length_cons, List.length_nil] at hLength
  have hBody := List.append_cancel_left h
  simp only [borshString, List.append_assoc] at hBody
  obtain ⟨-, hBody⟩ := List.append_inj hBody (by simp [nep413U32le])
  exact textBytes_inj (List.append_inj hBody (by omega)).1

/-- The hash of the message stands in the transaction to spend. -/
theorem bip322Raw_inj (hDoc : DocumentedPackages pk keccak256) {a b : String} {pubkey : List UInt8}
    (h : bip322Raw pk a pubkey = bip322Raw pk b pubkey) :
    bip322MessageHash pk a = bip322MessageHash pk b := by
  unfold bip322Raw bip322ToSpendRaw at h
  have hLength (message : String) : ([0x00, 0x20] ++ bip322MessageHash pk message).length = 34 := by
    rw [List.length_append, bip322MessageHash, hDoc.sha256]
    rfl
  have h := List.append_cancel_left (List.append_cancel_left (List.append_cancel_left
    (List.append_cancel_left h)))
  obtain ⟨-, h⟩ := List.append_inj h rfl
  obtain ⟨h, -⟩ := List.append_inj h ((hLength a).trans (hLength b).symm)
  exact List.append_cancel_left h

/-- The hash of the transaction to spend stands in what is signed. -/
theorem bip322Preimage_inj (hDoc : DocumentedPackages pk keccak256) {a b : String}
    {pubkey : List UInt8} (h : bip322Preimage pk a pubkey = bip322Preimage pk b pubkey) :
    dsha256 pk (bip322Raw pk a pubkey) = dsha256 pk (bip322Raw pk b pubkey) := by
  have hHash (bytes : List UInt8) : (dsha256 pk bytes).length = 32 := hDoc.sha256 _
  unfold bip322Preimage bip143Preimage at h
  obtain ⟨-, h⟩ := List.append_inj h rfl
  obtain ⟨-, h⟩ := List.append_inj h ((hHash _).trans (hHash _).symm)
  obtain ⟨-, h⟩ := List.append_inj h rfl
  obtain ⟨h, -⟩ := List.append_inj h (by simp only [List.length_append, hHash, Bytes.length_toLe])
  exact (List.append_inj h ((hHash _).trans (hHash _).symm)).1

/-! ## Collisions and forgeries -/

/-- Two inputs of one hash. -/
def Collides (hash : List UInt8 → List UInt8) (a b : List UInt8) : Prop := a ≠ b ∧ hash a = hash b

/-- Equal digests come of equal bytes or of a collision. -/
theorem eq_or_collides {hash : List UInt8 → List UInt8} {a b : List UInt8} (h : hash a = hash b) :
    a = b ∨ Collides hash a b := by
  by_cases hSame : a = b
  · exact .inl hSame
  · exact .inr ⟨hSame, h⟩

/-- What the verifiers hash with sha256, for this message and subject. -/
def sha256Inputs (pk : ProofPackages) (message subject : String) : List (List UInt8) :=
  let pubkey := (hexToBytes subject).getD []
  [nep413Tagged pk message, bip322Tagged pk message, bip322Raw pk message pubkey,
    pk.sha256 (bip322Raw pk message pubkey), bip322Preimage pk message pubkey,
    pk.sha256 (bip322Preimage pk message pubkey)]

/-- A proof, and the line that it is checked for. -/
structure CheckedProof where
  allowedSchemes : Option (List String)
  tuple : AccountProofMessageInput
  subject : String
  caip2 : String
  proof : AccountProof

/-- Two of the inputs that are hashed for the two lines have one hash. -/
def HashCollision (pk : ProofPackages) (keccak256 : List UInt8 → List UInt8) (c c' : CheckedProof) :
    Prop :=
  Collides keccak256 (eip191Bytes c.tuple.text) (eip191Bytes c'.tuple.text) ∨
    ∃ a ∈ sha256Inputs pk c.tuple.text c.subject, ∃ b ∈ sha256Inputs pk c'.tuple.text c'.subject,
      Collides pk.sha256 a b

/-- What the proof has signed, if it is one. -/
def CheckedProof.signing? (pk : ProofPackages) (c : CheckedProof) : Option Signing :=
  Rails.signing? pk c.tuple.text c.subject c.proof

/-- The proof is a signature, by its key on the message of its line, that the key has not made. -/
def Forged (pk : ProofPackages) (signed : Signing → Prop) (c : CheckedProof) : Prop :=
  ∃ s signature, c.signing? pk = some s ∧ Verifies pk s signature ∧ ¬ signed s

/-- The four ways in which an accepted proof was signed, one a rail. -/
theorem signing?_cases {message subject : String} {proof : AccountProof} {s : Signing}
    (hDoc : DocumentedPackages pk keccak256) (h : signing? pk message subject proof = some s) :
    s = ⟨.address (toLowerCase subject), keccak256 (eip191Bytes message)⟩ ∨
      (∃ pubkey, hexToBytes subject = some pubkey ∧
        s = ⟨.secp256k1 pubkey, dsha256 pk (bip322Preimage pk message pubkey)⟩) ∨
      (∃ key, s = ⟨.ed25519 key, nep413SignedHash pk message⟩) ∨
      ∃ key, s = ⟨.ed25519 key, textBytes message⟩ := by
  unfold signing? at h
  split at h
  · obtain ⟨digest, hDigest, rfl⟩ := Option.map_eq_some_iff.mp h
    exact .inl (by rw [eip191Digest_eq_some hDoc hDigest])
  split at h
  · simp only [Option.bind_eq_bind, Option.bind_eq_some_iff, bip322Digest_eq hDoc] at h
    obtain ⟨pubkey, hPubkey, digest, hDigest, hs⟩ := h
    obtain rfl := Option.some.inj hDigest
    exact .inr (.inl ⟨pubkey, hPubkey, (Option.some.inj hs).symm⟩)
  split at h
  · simp only [Option.bind_eq_bind, Option.bind_eq_some_iff] at h
    obtain ⟨publicKey, -, key, -, hs⟩ := h
    exact .inr (.inr (.inl ⟨key, (Option.some.inj hs).symm⟩))
  split at h
  · simp only [Option.bind_eq_bind, Option.bind_eq_some_iff] at h
    obtain ⟨key, -, hs⟩ := h
    exact .inr (.inr (.inr ⟨key, (Option.some.inj hs).symm⟩))
  · cases h

/-- One digest of BIP-322 for two messages comes from one message, or from a collision. -/
theorem bip322_bound (hDoc : DocumentedPackages pk keccak256) {c c' : CheckedProof}
    {pubkey : List UInt8} (hc : hexToBytes c.subject = some pubkey)
    (hc' : hexToBytes c'.subject = some pubkey)
    (h : dsha256 pk (bip322Preimage pk c.tuple.text pubkey) =
      dsha256 pk (bip322Preimage pk c'.tuple.text pubkey)) :
    c.tuple.text = c'.tuple.text ∨ HashCollision pk keccak256 c c' := by
  -- equal digests of two inputs that are hashed make the inputs equal, or collide
  have hStep {a b : List UInt8} (h : pk.sha256 a = pk.sha256 b)
      (ha : a ∈ sha256Inputs pk c.tuple.text c.subject)
      (hb : b ∈ sha256Inputs pk c'.tuple.text c'.subject) :
      a = b ∨ HashCollision pk keccak256 c c' :=
    (eq_or_collides h).imp_right fun hCollides => .inr ⟨a, ha, b, hb, hCollides⟩
  simp only [sha256Inputs, hc, hc', Option.getD_some] at hStep
  -- from the outer hash to the inner: each pair of inputs in turn
  rcases hStep h (by simp) (by simp) with h | h
  swap
  · exact .inr h
  rcases hStep h (by simp) (by simp) with h | h
  swap
  · exact .inr h
  rcases hStep (bip322Preimage_inj hDoc h) (by simp) (by simp) with h | h
  swap
  · exact .inr h
  rcases hStep h (by simp) (by simp) with h | h
  swap
  · exact .inr h
  rcases hStep (bip322Raw_inj hDoc h) (by simp) (by simp) with h | h
  · exact .inl (bip322Tagged_inj h)
  · exact .inr h

/-- What one key signs for two lines is not the same, but for a collision. -/
theorem tuple_of_signing (hDoc : DocumentedPackages pk keccak256) {c c' : CheckedProof}
    {s : Signing} (hPlain : c.tuple.Plain) (hPlain' : c'.tuple.Plain) (h : c.signing? pk = some s)
    (h' : c'.signing? pk = some s) : c.tuple = c'.tuple ∨ HashCollision pk keccak256 c c' := by
  have hHash (input : AccountProofMessageInput) : (nep413SignedHash pk input.text).length = 32 :=
    hDoc.sha256 _
  have hLong := (textBytes_text hPlain).2
  have hLong' := (textBytes_text hPlain').2
  suffices hText : c.tuple.text = c'.tuple.text ∨ HashCollision pk keccak256 c c' from
    hText.imp_left (text_inj hPlain hPlain')
  -- two signings are the same only on one rail
  rcases signing?_cases hDoc h with rfl | ⟨pubkey, hc, rfl⟩ | ⟨key, rfl⟩ | ⟨key, rfl⟩ <;>
    rcases signing?_cases hDoc h' with hs | ⟨pubkey', hc', hs⟩ | ⟨key', hs⟩ | ⟨key', hs⟩ <;>
    obtain ⟨hKey, hBytes⟩ := Signing.mk.inj hs
  · rcases eq_or_collides hBytes with hSame | hCollides
    · exact .inl (eip191Bytes_inj hPlain hPlain' hSame)
    · exact .inr (.inl hCollides)
  all_goals cases hKey
  · exact bip322_bound hDoc hc hc' hBytes
  · rcases eq_or_collides hBytes with hSame | hCollides
    · exact .inl (nep413Tagged_inj hDoc hSame)
    · exact .inr (.inr ⟨_, List.mem_cons_self, _, List.mem_cons_self, hCollides⟩)
  · -- a hash is too short to be a message
    have hLength := congrArg List.length hBytes
    rw [hHash] at hLength
    omega
  · have hLength := congrArg List.length hBytes
    rw [hHash] at hLength
    omega
  · exact .inl (textBytes_inj hBytes)

end

/-! ## Lines -/

/-- The lines are read with these packages. -/
def LineRuntime.verifiedBy (rt : LineRuntime) (pk : ProofPackages) : LineRuntime :=
  { rt with DEFAULT_PROOF_VERIFIERS := defaultProofVerifiers pk }

/-- `checkLineProof` accepts the proof for the line. -/
def CheckedProof.Accepted (rt : LineRuntime) (pk : ProofPackages)
    (registry : Option NamespacedRailRegistry) (c : CheckedProof) : Prop :=
  checkLineProof (rt.verifiedBy pk) none c.allowedSchemes c.tuple.did c.tuple.contract
    c.tuple.railId c.tuple.account c.subject c.caip2 (some c.proof) registry = none

/-- What `buildAccountProofMessage` makes of the tuple. -/
def AccountProofMessageInput.build (rt : LineRuntime) (registry : Option NamespacedRailRegistry)
    (input : AccountProofMessageInput) : Except String String :=
  buildAccountProofMessage rt input.did input.contract input.railId input.account registry

/-- The proof of a line, as the resolution of these schemes checks it. -/
def ParsedLine.checked (parsed : ParsedLine) (input : ResolveLinesInput)
    (allowedSchemes : Option (List String)) (sender : String) (proof : AccountProof) :
    CheckedProof where
  allowedSchemes := allowedSchemes
  tuple := ⟨sender, input.contract, parsed.railId, parsed.caip2 ++ ":" ++ parsed.subject⟩
  subject := parsed.subject
  caip2 := input.caip2
  proof := proof

/-- What a party has from the records: this account, with the key that it was proven with where
there is one, or this key. -/
inductive Resolved (rt : LineRuntime) (records : List TranscriptRecord)
    (input : ResolveLinesInput) : LineKind → String → String → Option String → Prop
  | payerAccount {account : String} : (resolveAccounts rt records input).payer = some account →
      Resolved rt records input accountLine input.payerDid account
        (resolveAccounts rt records input).payerKey
  | payeeAccount {account : String} : (resolveAccounts rt records input).payee = some account →
      Resolved rt records input accountLine input.payeeDid account
        (resolveAccounts rt records input).payeeKey
  | payerPubkey {pubkey : String} : input.railRegistry = none →
      (resolvePubkeys rt records input).payer = some pubkey →
      Resolved rt records input pubkeyLine input.payerDid pubkey none
  | payeePubkey {pubkey : String} : input.railRegistry = none →
      (resolvePubkeys rt records input).payee = some pubkey →
      Resolved rt records input pubkeyLine input.payeeDid pubkey none

section

variable {rt : LineRuntime} {pk : ProofPackages} {keccak256 : List UInt8 → List UInt8}
  {registry : Option NamespacedRailRegistry}

/-- A verdict that counts as true was given. -/
theorem eq_some_of_getD {x : Option Bool} (h : x.getD false = true) : x = some true := by
  cases x with
  | none => cases h
  | some b => exact congrArg some h

/-- An accepted proof has a signing, and its signature verifies. -/
theorem signing_of_accepted {c : CheckedProof} (h : c.Accepted rt pk registry) :
    c.tuple.Plain ∧ ∃ s signature, c.signing? pk = some s ∧ Verifies pk s signature := by
  unfold CheckedProof.Accepted checkLineProof at h
  dsimp only at h
  split at h
  · cases h
  split at h
  · cases h
  rename_i verify hVerifier
  split at h
  · cases h
  rename_i message hMessage
  obtain ⟨rfl, hPlain⟩ := buildAccountProofMessage_ok hMessage
  split at h
  · rename_i hVerify
    have hVerifier : defaultProofVerifiers pk c.proof.scheme = some verify := hVerifier
    exact ⟨hPlain, @verified_of_verify pk ⟨c.tuple.text, c.tuple.railId, c.caip2, c.subject,
      c.proof⟩ verify hVerifier (eq_some_of_getD hVerify)⟩
  · cases h

/-- A proof that is accepted for another tuple has collided, or is forged. -/
theorem collision_or_forged (hDoc : DocumentedPackages pk keccak256) {c c' : CheckedProof}
    {registry' : Option NamespacedRailRegistry} {signed : Signing → Prop}
    (h : c.Accepted rt pk registry) (h' : c'.Accepted rt pk registry')
    (hOnly : ∀ s, signed s → c.signing? pk = some s) (hNe : c.tuple ≠ c'.tuple) :
    HashCollision pk keccak256 c c' ∨ Forged pk signed c' := by
  obtain ⟨hPlain, -⟩ := signing_of_accepted h
  obtain ⟨hPlain', s, signature, hSigning, hVerifies⟩ := signing_of_accepted h'
  by_cases hSigned : signed s
  · exact .inl ((tuple_of_signing hDoc hPlain hPlain' (hOnly s hSigned) hSigning).resolve_left hNe)
  · exact .inr ⟨s, signature, hSigning, hVerifies, hSigned⟩

/-- A key of the right shape holds no line break. -/
theorem newline_of_keyShape {key : String} (h : KEY_SHAPE key.toList = true) :
    '\n' ∉ key.toList := by
  intro hMem
  have hChar := (of_tokenOf h).2.2 _ hMem
  revert hChar
  decide

/-- The proof on an account line has the shape that the reader checks. -/
theorem proofShape_of_parse {line : String} {parsed : ParsedLine}
    (h : parseAccountLine rt line registry = some parsed) :
    ∀ proof ∈ parsed.proof, ProofShape proof := by
  unfold parseAccountLine at h
  simp only [Option.bind_eq_bind, Option.bind_eq_some_iff] at h
  obtain ⟨⟨tokens, proofTokens⟩, -, h⟩ := h
  split at h
  · cases h
  split at h
  · obtain ⟨proof, hProof, h⟩ := Option.bind_eq_some_iff.mp h
    obtain ⟨railId, -, h⟩ := Option.bind_eq_some_iff.mp h
    split at h
    · cases h
    obtain ⟨ns, -, h⟩ := Option.bind_eq_some_iff.mp h
    split at h
    · split at h
      · cases h
      obtain ⟨normalized, -, h⟩ := Option.bind_eq_some_iff.mp h
      obtain rfl := Option.some.inj h
      exact (proofOf_eq_some.mp hProof).2
    · cases h
  · cases h

/-- The parts of an account line's identity are its account and the key of its proof. -/
theorem identityParts_accountIdentity {parsed : ParsedLine}
    (hSubject : '\n' ∉ parsed.subject.toList) (hProof : ∀ proof ∈ parsed.proof, ProofShape proof) :
    (identityParts (accountIdentity true parsed))[0]? = some parsed.subject ∧
      (identityParts (accountIdentity true parsed))[1]? = parsed.proof.bind (·.publicKey) := by
  unfold accountIdentity
  cases hKey : parsed.proof.bind (·.publicKey) with
  | none =>
    have hParts : identityParts parsed.subject = [parsed.subject] :=
      Separated.fields_eq_iff.mpr ⟨by simp, by simpa using hSubject, by
        rw [← String.toList_inj]
        simp⟩
    simp [hParts]
  | some key =>
    obtain ⟨proof, hSome, hPublic⟩ := Option.bind_eq_some_iff.mp hKey
    have hShape := newline_of_keyShape ((hProof proof hSome).2.2 key hPublic)
    have hParts : identityParts (parsed.subject ++ "\n" ++ key) = [parsed.subject, key] :=
      Separated.fields_eq_iff.mpr ⟨by simp, by simpa using ⟨hSubject, hShape⟩, by
        rw [← String.toList_inj]
        simp⟩
    simp [hParts]

/-- A line of the party, with an accepted proof, that counts for this identity. -/
def Heard (rt : LineRuntime) (pk : ProofPackages) (records : List TranscriptRecord)
    (input : ResolveLinesInput) (allowedSchemes : Option (List String)) (kind : LineKind)
    (did identity : String) : Prop :=
  ∃ r ∈ records, r.sender = did ∧ ∃ parsed proof,
    kind.parse (rt.verifiedBy pk) r.line input.railRegistry = some parsed ∧
    parsed.proof = some proof ∧ identity = kind.identity true parsed ∧
    (parsed.checked input allowedSchemes did proof).Accepted rt pk input.railRegistry

variable {records : List TranscriptRecord} {input : ResolveLinesInput}
  {allowedSchemes : Option (List String)}

/-- The verdict on a party is the identity of a line of it that counts. -/
theorem heard_of_verdict {kind : LineKind} {did identity : String}
    {claims : TranscriptRecord → Option (String × String)}
    (hPolicy : input.proof = .required none allowedSchemes)
    (hClaims : ∀ r did, (∃ identity, claims r = some (did, identity)) ↔
      Counts kind (rt.verifiedBy pk) input r ∧ r.sender = did)
    (hNames : ∀ r did identity, claims r = some (did, identity) → ∃ parsed,
      kind.parse (rt.verifiedBy pk) r.line input.railRegistry = some parsed ∧
        identity = kind.identity input.proof.isRequired parsed)
    (hVerdict : Agreement.verdict claims records did = some identity) :
    Heard rt pk records input allowedSchemes kind did identity := by
  obtain ⟨r, hr, hClaim⟩ := (Agreement.verdict_eq_some.mp hVerdict identity).mpr rfl
  obtain ⟨hCounts, rfl⟩ := (hClaims r _).mp ⟨identity, hClaim⟩
  obtain ⟨parsed, hParse, hIdentity⟩ := hNames r _ _ hClaim
  obtain ⟨parsed', hParse', -, -, hProblem⟩ := hCounts.line
  obtain rfl := Option.some.inj (hParse.symm.trans hParse')
  unfold lineProblem at hProblem
  rw [hPolicy] at hProblem hIdentity
  dsimp only at hProblem
  cases hProof : parsed.proof with
  | none =>
    -- under this policy a line without a proof does not count
    rw [hProof] at hProblem
    cases hProblem
  | some proof =>
    rw [hProof] at hProblem
    exact ⟨r, hr, rfl, parsed, proof, hParse, hProof, hIdentity, hProblem⟩

/-- What is resolved for either party, of either kind of line, was heard from it. -/
theorem heard_of_resolveLines {kind : LineKind}
    (hPolicy : input.proof = .required none allowedSchemes) :
    (∀ identity, (resolveLines kind (rt.verifiedBy pk) records input).payer = some identity →
      Heard rt pk records input allowedSchemes kind input.payerDid identity) ∧
    ∀ identity, (resolveLines kind (rt.verifiedBy pk) records input).payee = some identity →
      Heard rt pk records input allowedSchemes kind input.payeeDid identity := by
  rcases resolveLines_verdict kind (rt.verifiedBy pk) input with
    ⟨claims, hClaims, hNames, hVerdict⟩ | hNone
  · rw [(hVerdict records).1, (hVerdict records).2]
    exact ⟨fun _ h => heard_of_verdict hPolicy hClaims hNames h,
      fun _ h => heard_of_verdict hPolicy hClaims hNames h⟩
  · rw [(hNone records).1, (hNone records).2]
    exact ⟨fun _ h => (by cases h), fun _ h => (by cases h)⟩

/-- Where a resolved value comes from: a line of the party that names it, with an accepted
proof. -/
theorem accepted_of_resolved {kind : LineKind} {did value : String} {key : Option String}
    (hPolicy : input.proof = .required none allowedSchemes)
    (h : Resolved (rt.verifiedBy pk) records input kind did value key) :
    ∃ r ∈ records, r.sender = did ∧ ∃ parsed proof,
      kind.parse (rt.verifiedBy pk) r.line input.railRegistry = some parsed ∧
      parsed.proof = some proof ∧ parsed.subject = value ∧
      (∀ publicKey ∈ key, proof.publicKey = some publicKey) ∧
      (parsed.checked input allowedSchemes did proof).Accepted rt pk input.railRegistry := by
  -- an account line names its account and the key of its proof
  have hAccountLine {did identity account : String} {key : Option String}
      (hFirst : (identityParts identity)[0]? = some account)
      (hSecond : key = (identityParts identity)[1]?)
      (h : Heard rt pk records input allowedSchemes accountLine did identity) :
      ∃ r ∈ records, r.sender = did ∧ ∃ parsed proof,
        parseAccountLine (rt.verifiedBy pk) r.line input.railRegistry = some parsed ∧
        parsed.proof = some proof ∧ parsed.subject = account ∧
        (∀ publicKey ∈ key, proof.publicKey = some publicKey) ∧
        (parsed.checked input allowedSchemes did proof).Accepted rt pk input.railRegistry := by
    obtain ⟨r, hr, hSender, parsed, proof, hParse, hProof, rfl, hAccepted⟩ := h
    have hPlain := (signing_of_accepted hAccepted).1.line
    have hSubject : '\n' ∉ parsed.subject.toList := fun hMem => hPlain (by
      simp [ParsedLine.checked, hMem])
    obtain ⟨hAccount, hKey⟩ : (identityParts (accountLine.identity true parsed))[0]? = _ ∧
        (identityParts (accountLine.identity true parsed))[1]? = _ :=
      identityParts_accountIdentity hSubject (proofShape_of_parse hParse)
    refine ⟨r, hr, hSender, parsed, proof, hParse, hProof,
      Option.some.inj (hAccount.symm.trans hFirst), fun publicKey hPublic => ?_, hAccepted⟩
    rw [hSecond, hKey, hProof] at hPublic
    exact hPublic
  -- a key line names its key, and has no further one
  have hKeyLine {did pubkey : String}
      (h : Heard rt pk records input allowedSchemes pubkeyLine did pubkey) :
      ∃ r ∈ records, r.sender = did ∧ ∃ parsed proof,
        pubkeyLine.parse (rt.verifiedBy pk) r.line input.railRegistry = some parsed ∧
        parsed.proof = some proof ∧ parsed.subject = pubkey ∧
        (∀ publicKey ∈ (none : Option String), proof.publicKey = some publicKey) ∧
        (parsed.checked input allowedSchemes did proof).Accepted rt pk input.railRegistry := by
    obtain ⟨r, hr, hSender, parsed, proof, hParse, hProof, hIdentity, hAccepted⟩ := h
    exact ⟨r, hr, hSender, parsed, proof, hParse, hProof, hIdentity.symm,
      fun _ hNone => absurd hNone (Option.not_mem_none _), hAccepted⟩
  cases h with
  | payerAccount h =>
    obtain ⟨identity, hIdentity, hFirst⟩ := Option.bind_eq_some_iff.mp h
    refine hAccountLine hFirst ?_ ((heard_of_resolveLines hPolicy).1 identity hIdentity)
    show Option.bind _ _ = _
    rw [hIdentity, Option.bind_some]
  | payeeAccount h =>
    obtain ⟨identity, hIdentity, hFirst⟩ := Option.bind_eq_some_iff.mp h
    refine hAccountLine hFirst ?_ ((heard_of_resolveLines hPolicy).2 identity hIdentity)
    show Option.bind _ _ = _
    rw [hIdentity, Option.bind_some]
  | payerPubkey hRegistry h =>
    have hSame : { input with railRegistry := none } = input := by rw [← hRegistry]
    rw [resolvePubkeys, hSame] at h
    exact hKeyLine ((heard_of_resolveLines hPolicy).1 _ h)
  | payeePubkey hRegistry h =>
    have hSame : { input with railRegistry := none } = input := by rw [← hRegistry]
    rw [resolvePubkeys, hSame] at h
    exact hKeyLine ((heard_of_resolveLines hPolicy).2 _ h)

end

/-- An account proof cannot be moved. A message is that of one tuple; a proof that is accepted for
another tuple, where nothing but the first proof was signed, shows a collision or a forgery; and so
does any account or key that is resolved for another contract or another sender: the line that it
comes from names it, with the key that is resolved beside it. -/
theorem proofs_bound (rt : LineRuntime) (pk : ProofPackages)
    (keccak256 : List UInt8 → List UInt8) (hDoc : DocumentedPackages pk keccak256) :
    (∀ registry (a b : AccountProofMessageInput) message, a.build rt registry = .ok message →
      b.build rt registry = .ok message → a = b) ∧
    (∀ registry registry' (c c' : CheckedProof) signed, c.Accepted rt pk registry →
      c'.Accepted rt pk registry' → (∀ s, signed s → c.signing? pk = some s) →
      c.tuple ≠ c'.tuple → HashCollision pk keccak256 c c' ∨ Forged pk signed c') ∧
    (∀ registry (c : CheckedProof) signed records input allowedSchemes kind did value key,
      c.Accepted rt pk registry → (∀ s, signed s → c.signing? pk = some s) →
      input.proof = .required none allowedSchemes →
      Resolved (rt.verifiedBy pk) records input kind did value key →
      (input.contract ≠ c.tuple.contract ∨ did ≠ c.tuple.did) →
      ∃ r ∈ records, r.sender = did ∧ ∃ parsed proof,
        kind.parse (rt.verifiedBy pk) r.line input.railRegistry = some parsed ∧
        parsed.proof = some proof ∧ parsed.subject = value ∧
        (∀ publicKey ∈ key, proof.publicKey = some publicKey) ∧
        (HashCollision pk keccak256 c (parsed.checked input allowedSchemes did proof) ∨
          Forged pk signed (parsed.checked input allowedSchemes did proof))) := by
  refine ⟨?_, ?_, ?_⟩
  · intro registry a b message ha hb
    obtain ⟨hTextA, hPlainA⟩ := buildAccountProofMessage_ok ha
    obtain ⟨hTextB, hPlainB⟩ := buildAccountProofMessage_ok hb
    exact text_inj hPlainA hPlainB (hTextA.symm.trans hTextB)
  · intro registry registry' c c' signed h h' hOnly hNe
    exact collision_or_forged hDoc h h' hOnly hNe
  · intro registry c signed records input allowedSchemes kind did value key h hOnly hPolicy
      hResolved hOther
    obtain ⟨r, hr, hSender, parsed, proof, hParse, hProof, hValue, hKey, hAccepted⟩ :=
      accepted_of_resolved hPolicy hResolved
    refine ⟨r, hr, hSender, parsed, proof, hParse, hProof, hValue, hKey, ?_⟩
    refine collision_or_forged hDoc h hAccepted hOnly fun hSame => ?_
    have hContract : c.tuple.contract = input.contract := by rw [hSame]; rfl
    have hDid : c.tuple.did = did := by rw [hSame]; rfl
    rcases hOther with hNot | hNot
    · exact hNot hContract.symm
    · exact hNot hDid.symm

/-! ## Sample lines -/

/-- No reader of lines looks at the verifiers. -/
theorem parseAccountLine_verifiedBy (rt : LineRuntime) (pk : ProofPackages) (line : String)
    (registry : Option NamespacedRailRegistry) :
    parseAccountLine (rt.verifiedBy pk) line registry = parseAccountLine rt line registry := rfl

/-- Building a message does not depend on the verifiers. -/
theorem buildAccountProofMessage_verifiedBy (rt : LineRuntime) (pk : ProofPackages)
    (did contract railId account : String) (registry : Option NamespacedRailRegistry) :
    buildAccountProofMessage (rt.verifiedBy pk) did contract railId account registry =
      buildAccountProofMessage rt did contract railId account registry := rfl

/-- One line that counts gives its sender what it names. -/
theorem resolveLines_counted {kind : LineKind} {rt : LineRuntime} {input : ResolveLinesInput}
    {record : TranscriptRecord} {rail identity : String}
    (hRail : normalizeRailIdWith rt.tclk input.rail
      (input.railRegistry.map NamespacedRailRegistry.toCustomRailRegistry) = some rail)
    (hContract : rt.isContractId input.contract = true)
    (hJudge : judgeLine kind rt input rail (rt.tclk.dealRoom input.contract) record =
      .counted identity)
    (hSender : record.sender = input.payeeDid) :
    (resolveLines kind rt [record] input).payee = some identity := by
  have hHeard : (Agreement.hearOne OrdMap.empty input.payeeDid identity).getList input.payeeDid =
      [identity] := by
    rw [Agreement.getList_hearOne, if_pos rfl]
    rfl
  unfold resolveLines
  simp only [hRail, hContract, Bool.not_true, Bool.false_eq_true, if_false, List.foldl_cons,
    List.foldl_nil, foldLine, hJudge, resolveParty_fst, hSender, hHeard]
  rfl

/-- The payee is the first part of the identity that the lines resolve to. -/
theorem resolveAccounts_payee (rt : LineRuntime) (records : List TranscriptRecord)
    (input : ResolveLinesInput) : (resolveAccounts rt records input).payee =
      (resolveLines accountLine rt records input).payee.bind fun identity =>
        (identityParts identity)[0]? := rfl

/-- The payee's key is the second part of the identity that the lines resolve to. -/
theorem resolveAccounts_payeeKey (rt : LineRuntime) (records : List TranscriptRecord)
    (input : ResolveLinesInput) : (resolveAccounts rt records input).payeeKey =
      (resolveLines accountLine rt records input).payee.bind fun identity =>
        (identityParts identity)[1]? := rfl

/-- A text has at most two UTF-16 units a character. -/
theorem utf16Length_le (text : String) : utf16Length text ≤ text.toList.length * 2 := by
  unfold utf16Length
  induction text.toList with
  | nil => exact le_rfl
  | cons c rest ih =>
    rw [List.map_cons, List.sum_cons, List.length_cons]
    split <;> omega

namespace ProofSample

/-- Packages with this hash, in which every signature by one of these keys verifies. -/
def hashes (sha256 : List UInt8 → List UInt8) (signs : List UInt8 → Bool) : ProofPackages where
  hashMessage message := "0x" ++ bytesToHex (sha256 (eip191Bytes message))
  recoverPublicKey _ _ _ := none
  publicKeyToAddress _ := none
  ed25519Verify _ _ key := some (signs key)
  secp256k1Verify _ _ _ := none
  base64Decode _ := []
  base64Encode _ := ""
  witnessDecode _ := none
  witnessEncode _ := none
  sha256 := sha256
  ripemd160 := sha256
  preimageWitnessV0 _ _ _ _ _ := none

def packages (sha256 : List UInt8 → List UInt8) (signs : List UInt8 → Bool) : ProofPackages :=
  { hashes sha256 signs with
    preimageWitnessV0 tx _ scriptCode hashType amount :=
      (hexToBytes tx.txid).map fun spent => dsha256 (hashes sha256 signs)
        (bip143Preimage (hashes sha256 signs) tx spent.reverse scriptCode hashType amount) }

/-- The sample packages behave as documented. -/
theorem documented {sha256 : List UInt8 → List UInt8} (signs : List UInt8 → Bool)
    (h : ∀ bytes, (sha256 bytes).length = 32) :
    DocumentedPackages (packages sha256 signs) sha256 := by
  refine ⟨fun message => rfl, h, ?_⟩
  intro tx spent scriptCode hashType amount hTxid
  have hHex : hexToBytes tx.txid = some spent.reverse := by
    rw [hTxid, hexToBytes, bytesToHex, String.toList_ofList, Hex.decode_encode]
  show (hexToBytes tx.txid).map _ = _
  rw [hHex, Option.map_some, List.reverse_reverse]
  rfl

def short (bytes : List UInt8) : List UInt8 := (bytes ++ List.replicate 32 0).take 32

/-- The short hash has 32 bytes. -/
theorem length_short (bytes : List UInt8) : (short bytes).length = 32 := by
  simp [short]

def runtime : LineRuntime where
  tclk :=
    { Desk.Sample.railTclk with
      verifyTranscriptRecord _ := true
      normalizeRailId rail := if rail = "near-htlc" then some rail else none }
  isContractId _ := true
  MAX_FRAME_CHARS := 8192
  isAddress _ := false
  DEFAULT_PROOF_VERIFIERS _ := none

def contract : String := "0x1111111111111111111111111111111111111111111111111111111111111111"

def mirror : String := "0x2222222222222222222222222222222222222222222222222222222222222222"

def signature : List Char := List.replicate 128 'a'

def keyText : String := "ed25519:11111111111111111111111111111111"

def proof : AccountProof := ⟨"nep413", String.ofList signature, some keyText⟩

/-- The characters of the sample's signature. -/
theorem toList_signature : proof.signature.toList = signature := String.toList_ofList

/-- The proof of a line for the account, by this sender and under this contract. -/
def checked (did contract : String) : CheckedProof :=
  ⟨none, ⟨did, contract, "near-htlc", "near:testnet:victim.testnet"⟩, "victim.testnet",
    "near:testnet", proof⟩

/-- The rail, and the account on its chain. -/
def tokens : List (List Char) := ["near-htlc".toList, "near:testnet:victim.testnet".toList]

def line : String := String.ofList ([' '].intercalate
  ("swap1".toList :: "account".toList :: (tokens ++ tailTokens (some (proofTokens proof)))))

def record : TranscriptRecord := ⟨mirror, 1, 0, "did:mirror:seller", "n", line, none⟩

def input : ResolveLinesInput where
  contract := mirror
  payerDid := "did:mirror:buyer"
  payeeDid := "did:mirror:seller"
  rail := "near-htlc"
  caip2 := "near:testnet"
  beforeSeq := none
  proof := .required none none
  railRegistry := none

/-- The tokens of the sample's proof. -/
theorem proofTokens_eq :
    proofTokens proof = ("nep413".toList ++ ':' :: signature, some keyText.toList) := by
  rw [proofTokens, toList_signature]
  rfl

/-- The sample line parses. -/
theorem parses : parseAccountLine runtime line none =
    some ⟨"near-htlc", "near:testnet", "victim.testnet", some proof⟩ := by
  -- tokens, proof, length and address: everything that the parser looks at
  have hTokens : lineTokens "account" 2 line = some (tokens, some (proofTokens proof)) := by
    refine (lineTokens_eq_some (by decide)).mpr ⟨rfl, ?_, String.toList_ofList⟩
    have hAll : ((tokens ++ tailTokens (some ("nep413".toList ++ ':' :: signature,
        some keyText.toList))).all fun token => !token.isEmpty && !token.any isSpace) = true := by
      decide
    rw [proofTokens_eq]
    exact fun token hToken => token_iff.mp (List.all_eq_true.mp hAll token hToken)
  have hShape : SCHEME_SHAPE "nep413".toList = true ∧ SIGNATURE_SHAPE signature = true ∧
      KEY_SHAPE keyText.toList = true := by
    decide +kernel
  have hProof : proofOf (some (proofTokens proof)) = some (some proof) := by
    refine proofOf_eq_some.mpr ⟨rfl, fun given h => ?_⟩
    obtain rfl := Option.some.inj h
    refine ⟨hShape.1, ?_, fun key hKey => ?_⟩
    · rw [toList_signature]
      exact hShape.2.1
    · obtain rfl := Option.some.inj hKey
      exact hShape.2.2
  have hLength : ¬ runtime.MAX_FRAME_CHARS < utf16Length line := by
    have hLine : line.toList.length = 234 := by
      rw [line, String.toList_ofList, proofTokens_eq]
      decide +kernel
    have hLe := utf16Length_le line
    have hMax : runtime.MAX_FRAME_CHARS = 8192 := rfl
    omega
  have hSubject : (("near:testnet:victim.testnet".toList).splitOn ':').map String.ofList =
      ["near", "testnet", "victim.testnet"] := by decide
  have hRail : normalizeRailIdWith runtime.tclk "near-htlc"
      (Option.map NamespacedRailRegistry.toCustomRailRegistry none) = some "near-htlc" := rfl
  have hNs : namespaceForRail "near-htlc" none = some "near" := rfl
  have hAddress : validateChainAddress runtime "near" "testnet" "victim.testnet" =
      some "victim.testnet" := by
    decide
  unfold parseAccountLine
  simp only [hTokens, tokens, hLength, if_false, hProof, hSubject, String.ofList_toList, hRail,
    hNs, hAddress, Option.bind_eq_bind, Option.bind_some, ne_eq, not_true_eq_false]
  rfl

/-- The message of this sender under this contract can be built. -/
def Builds (did contract : String) : Prop :=
  (buildAccountProofMessage runtime did contract "near-htlc" "near:testnet:victim.testnet"
    none).isOk = true

/-- One account builds messages under two different contracts. -/
theorem builds : (Builds "did:swap:victim" contract ∧ Builds "did:mirror:seller" mirror) ∧
    mirror ≠ contract := by
  unfold Builds
  decide

section

variable {sha256 : List UInt8 → List UInt8} {signs : List UInt8 → Bool}
  (hSigns : signs (List.replicate 32 0) = true)

include hSigns

omit hSigns in
/-- The texts of the line name the account, and a key. -/
theorem names : accountLine.identity input.proof.isRequired
      ⟨"near-htlc", "near:testnet", "victim.testnet", some proof⟩ =
      "victim.testnet\ned25519:11111111111111111111111111111111" ∧
    identityParts "victim.testnet\ned25519:11111111111111111111111111111111" =
      ["victim.testnet", keyText] ∧
    ("ed25519:".toList.isPrefixOf "ed25519:11111111111111111111111111111111".toList) = true ∧
    (Hex.decode signature).isSome = true := by
  decide

omit hSigns in
/-- The key of the line is 32 bytes, each of them zero. -/
theorem zeros : base58Decode? (sliceFrom "ed25519:11111111111111111111111111111111" 8) =
    some (List.replicate 32 0) := by
  have hDigits : (sliceFrom "ed25519:11111111111111111111111111111111" 8).toList =
      List.replicate 32 '1' := by
    rw [sliceFrom, String.toList_ofList]
    rfl
  have hValue : ∀ n, base58Value (List.replicate n '1') = 0 := by
    intro n
    induction n with
    | zero => rfl
    | succ n ih => exact ih
  unfold base58Decode? base58Decode
  rw [hDigits, hValue, Nat.digits_zero]
  rfl

/-- The sample verifier accepts every message. -/
theorem verifies (message railId caip2 subject : String) :
    nep413Verifier (packages sha256 signs) ⟨message, railId, caip2, subject, proof⟩ =
      some true := by
  have hShape : NEP413_SIGNATURE_SHAPE proof.signature = true := by
    unfold NEP413_SIGNATURE_SHAPE
    rw [toList_signature]
    decide +kernel
  have hKey : decodeNearEd25519Key "ed25519:11111111111111111111111111111111" =
      some (List.replicate 32 0) := by
    unfold decodeNearEd25519Key
    rw [if_pos names.2.2.1, zeros]
    rfl
  obtain ⟨signature, hSignature⟩ : ∃ bytes, Hex.decode proof.signature.toList = some bytes :=
    Option.isSome_iff_exists.mp (by
      rw [toList_signature]
      exact names.2.2.2)
  have hPublicKey : proof.publicKey = some "ed25519:11111111111111111111111111111111" := rfl
  unfold nep413Verifier
  simp only [hShape, hPublicKey, hKey, hSignature, Option.bind_eq_bind, Option.bind_some,
    Bool.not_true, Bool.false_eq_true, if_false]
  exact congrArg some hSigns

/-- The sample proof passes the check for whatever tuple builds. -/
theorem checks {did contract : String} (h : Builds did contract) :
    checkLineProof (runtime.verifiedBy (packages sha256 signs)) none none did contract "near-htlc"
      "near:testnet:victim.testnet" "victim.testnet" "near:testnet" (some proof) none = none := by
  obtain ⟨message, hMessage⟩ := isOk_iff.mp h
  have hMessage : buildAccountProofMessage (runtime.verifiedBy (packages sha256 signs)) did contract
    "near-htlc" "near:testnet:victim.testnet" none = .ok message :=
    (buildAccountProofMessage_verifiedBy ..).trans hMessage
  have hAllowed : proof.scheme ∈ (none : Option (List String)).getD
      ((RAIL_PROOF_SCHEMES.lookup "near-htlc").getD []) := by decide
  have hVerifier : (none : Option ProofVerifierRegistry).getD
      (runtime.verifiedBy (packages sha256 signs)).DEFAULT_PROOF_VERIFIERS proof.scheme =
      some (nep413Verifier (packages sha256 signs)) := rfl
  unfold checkLineProof
  dsimp only
  rw [if_neg (not_not.mpr hAllowed), hVerifier, hMessage]
  dsimp only
  rw [verifies hSigns]
  rfl

/-- The sample proof is accepted for whatever tuple builds. -/
theorem accepted {did contract : String} (h : Builds did contract) :
    (checked did contract).Accepted runtime (packages sha256 signs) none :=
  checks hSigns h

/-- The sample record counts for its account. -/
theorem judges : judgeLine accountLine (runtime.verifiedBy (packages sha256 signs)) input
    "near-htlc" mirror record =
      .counted "victim.testnet\ned25519:11111111111111111111111111111111" := by
  have hParse : accountLine.parse (runtime.verifiedBy (packages sha256 signs)) record.line
      input.railRegistry =
      some ⟨"near-htlc", "near:testnet", "victim.testnet", some proof⟩ :=
    (parseAccountLine_verifiedBy ..).trans parses
  have hAccount : "near:testnet" ++ ":" ++ "victim.testnet" = "near:testnet:victim.testnet" := by
    decide
  -- the proof of the sample is the one that the policy asks for
  have hProblem : lineProblem (runtime.verifiedBy (packages sha256 signs)) input "near-htlc" record
      ⟨"near-htlc", "near:testnet", "victim.testnet", some proof⟩ = none := by
    have hPolicy : input.proof = .required none none := rfl
    have hCheck := @checks sha256 signs hSigns _ _ builds.1.2
    unfold lineProblem
    rw [hPolicy]
    dsimp only
    rw [hAccount]
    exact hCheck
  have hIdentity := names.1
  have hVerified : (runtime.verifiedBy (packages sha256 signs)).tclk.verifyTranscriptRecord record =
      true := rfl
  have hRoom : record.room = mirror := rfl
  have hBefore : (input.beforeSeq.any fun beforeSeq => beforeSeq ≤ record.seq) = false := rfl
  have hCaip2 : input.caip2 = "near:testnet" := rfl
  have hParty : ¬ (record.sender ≠ input.payerDid ∧ record.sender ≠ input.payeeDid) :=
    fun h => h.2 rfl
  unfold judgeLine
  simp only [hBefore, hVerified, hRoom, hParse, hCaip2, hParty, hProblem, hIdentity, ne_eq,
    not_true_eq_false, Bool.not_true, Bool.false_eq_true, ↓reduceIte]

/-- The line of another sender under another contract gives that sender the account. -/
theorem resolves : (resolveAccounts (runtime.verifiedBy (packages sha256 signs)) [record]
      input).payee = some "victim.testnet" ∧
    (resolveAccounts (runtime.verifiedBy (packages sha256 signs)) [record]
      input).payeeKey = some keyText := by
  have hPayee : (resolveLines accountLine (runtime.verifiedBy (packages sha256 signs)) [record]
      input).payee = some "victim.testnet\ned25519:11111111111111111111111111111111" :=
    resolveLines_counted rfl rfl (judges hSigns) rfl
  rw [resolveAccounts_payee, resolveAccounts_payeeKey, hPayee, Option.bind_some, Option.bind_some,
    names.2.1]
  exact ⟨rfl, rfl⟩

omit hSigns in
/-- Only the sample's own key ever verifies. -/
theorem only_own_key {s : Signing} {signature : List UInt8}
    (h : Verifies (packages sha256 signs) s signature) :
    ∃ key, s.key = .ed25519 key ∧ signs key = true := by
  obtain ⟨key, bytes⟩ := s
  cases key with
  | address text =>
    have h : recoveredAddress (packages sha256 signs) signature bytes = some text := h
    unfold recoveredAddress at h
    obtain ⟨v, -, h⟩ := Option.bind_eq_some_iff.mp h
    obtain ⟨point, hPoint, -⟩ := Option.bind_eq_some_iff.mp h
    cases hPoint
  | secp256k1 pubkey => cases h
  | ed25519 key => exact ⟨key, rfl, Option.some.inj h⟩

end

end ProofSample

theorem proofs_bound_sample :
    (HashCollision (ProofSample.packages ProofSample.short fun _ => true) ProofSample.short
        (ProofSample.checked "did:swap:victim" ProofSample.contract)
        (ProofSample.checked "did:mirror:seller" ProofSample.mirror) ∨
      Forged (ProofSample.packages ProofSample.short fun _ => true) (fun _ => False)
        (ProofSample.checked "did:mirror:seller" ProofSample.mirror)) ∧
    ∃ r ∈ [ProofSample.record], r.sender = "did:mirror:seller" ∧ ∃ parsed proof,
      parseAccountLine (ProofSample.runtime.verifiedBy
        (ProofSample.packages ProofSample.short fun _ => true)) r.line none = some parsed ∧
      parsed.proof = some proof ∧ parsed.subject = "victim.testnet" ∧
      proof.publicKey = some ProofSample.keyText := by
  have hBound := proofs_bound ProofSample.runtime
    (ProofSample.packages ProofSample.short fun _ => true) ProofSample.short
    (ProofSample.documented _ ProofSample.length_short)
  have hAccepted := @ProofSample.accepted ProofSample.short (fun _ => true) rfl _ _
    ProofSample.builds.1.1
  have hResolves := @ProofSample.resolves ProofSample.short (fun _ => true) rfl
  have hNe := ProofSample.builds.2
  refine ⟨hBound.2.1 none none _ _ (fun _ => False) hAccepted
    (ProofSample.accepted rfl ProofSample.builds.1.2) (fun _ h => h.elim)
    fun hSame => hNe (congrArg AccountProofMessageInput.contract hSame).symm, ?_⟩
  obtain ⟨r, hr, hSender, parsed, proof, hParse, hProof, hSubject, hKey, -⟩ :=
    hBound.2.2 none _ (fun _ => False) _ ProofSample.input none _ _ _ _ hAccepted
      (fun _ h => h.elim) rfl (.payeeAccount hResolves.1) (.inl hNe)
  exact ⟨r, hr, hSender, parsed, proof, hParse, hProof, hSubject, hKey _ hResolves.2⟩

/-- A line of a mirror swap that is signed with a key of its sender resolves to the account, with
that key, though no other key signs anything, and no hash collides. -/
theorem resolved_with_own_key :
    (∀ s signature, Verifies (ProofSample.packages id fun key => key = List.replicate 32 0) s
      signature → s.key = .ed25519 (List.replicate 32 0)) ∧
    Function.Injective (ProofSample.packages id fun key => key = List.replicate 32 0).sha256 ∧
    ProofSample.input.contract ≠ ProofSample.contract ∧
    (resolveAccounts (ProofSample.runtime.verifiedBy (ProofSample.packages id fun key =>
      key = List.replicate 32 0)) [ProofSample.record] ProofSample.input).payee =
        some "victim.testnet" ∧
    (resolveAccounts (ProofSample.runtime.verifiedBy (ProofSample.packages id fun key =>
      key = List.replicate 32 0)) [ProofSample.record] ProofSample.input).payeeKey =
        some ProofSample.keyText := by
  have hResolves := @ProofSample.resolves id (fun key => key = List.replicate 32 0) (by simp)
  refine ⟨fun s signature h => ?_, fun _ _ h => h, ProofSample.builds.2, hResolves⟩
  obtain ⟨key, hKey, hSigns⟩ := ProofSample.only_own_key h
  rw [hKey, of_decide_eq_true hSigns]

end SwapDesk.Rails
