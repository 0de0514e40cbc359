import SwapDesk.Sol.Effects

/-!
# SwapDesk — a reference runtime

A small interpreter of the instructions the HTLC program invokes, from their
bytes: the four of the system program and the two of the token program. It
shows that what `Runtime.Lawful` asks for can be had, with any hash and any
derivation of addresses, and it runs the program on concrete accounts.

Main result: `lawful_runtime`.
-/

namespace SwapDesk.Sol.Reference

open Bytes FixedBytes Check

/-- An error of an invoked program. -/
def check (c : Prop) [Decidable c] : Except ProgramError Unit := require c (.other 0)

/-- The system program. -/
def invokeSystem (ix : Instruction) (accts : Accounts) : Except ProgramError Accounts :=
  match fromLe (field 4 ix.data 0).bytes, ix.accounts with
  | 0, [src, dst] => do
    let lamports := u64FromLe (field 8 ix.data 4)
    check ((accts dst.pubkey).lamports = 0 ∧ lamports ≤ (accts src.pubkey).lamports)
    let debited := Function.update accts src.pubkey { accts src.pubkey with
      lamports := (accts src.pubkey).lamports - lamports }
    return Function.update debited dst.pubkey
      { lamports := lamports, data := List.replicate (fromLe (field 8 ix.data 12).bytes) 0
        owner := field 32 ix.data 20, executable := false }
  | 1, [account] => .ok (Function.update accts account.pubkey
      { accts account.pubkey with owner := field 32 ix.data 4 })
  | 2, [src, dst] => do
    let lamports := u64FromLe (field 8 ix.data 4)
    check (lamports ≤ (accts src.pubkey).lamports)
    let debited := Function.update accts src.pubkey { accts src.pubkey with
      lamports := (accts src.pubkey).lamports - lamports }
    return Function.update debited dst.pubkey { debited dst.pubkey with
      lamports := (debited dst.pubkey).lamports + lamports }
  | 8, [account] => .ok (Function.update accts account.pubkey { accts account.pubkey with
      data := List.replicate (fromLe (field 8 ix.data 4).bytes) 0 })
  | _, _ => .error (.other 1)

/-- Overwrite the balance of a token account. -/
def setBalance (accts : Accounts) (key : Pubkey) (amount : UInt64) : Accounts :=
  Function.update accts key { accts key with
    data := patch (accts key).data taAmount (u64ToLe amount).bytes }

/-- The account is a token account of the mint, in use and not frozen. -/
def checkToken (a : Account) (mint : Pubkey) : Except ProgramError Unit :=
  check (a.owner = tokenProgram ∧ a.data.length = taLen ∧ byteAt a.data taState = 1 ∧
    field 32 a.data taMint = mint)

/-- The data of a new token account. -/
def tokenData (mint owner : Pubkey) : FixedBytes 165 :=
  (((zeros 165).write taMint mint).write taOwner owner).write taState (u8 1)

/-- The token program. -/
def invokeToken (ix : Instruction) (accts : Accounts) : Except ProgramError Accounts :=
  match ix.data, ix.accounts with
  | 18 :: rest, [account, mint] => do
    check ((accts account.pubkey).owner = tokenProgram ∧
      (accts account.pubkey).data = List.replicate taLen 0)
    return Function.update accts account.pubkey { accts account.pubkey with
      data := (tokenData mint.pubkey (field 32 rest 0)).bytes }
  | 12 :: rest, [source, mint, dest, authority] => do
    let amount := u64FromLe (field 8 rest 0)
    checkToken (accts source.pubkey) mint.pubkey
    checkToken (accts dest.pubkey) mint.pubkey
    check (field 32 (accts source.pubkey).data taOwner = authority.pubkey)
    let held := u64FromLe (field 8 (accts source.pubkey).data taAmount)
    let got := u64FromLe (field 8 (accts dest.pubkey).data taAmount)
    check (amount ≤ held ∧ got.toNat + amount.toNat < 2 ^ 64)
    return setBalance (setBalance accts source.pubkey (held - amount)) dest.pubkey (got + amount)
  | _, _ => .error (.other 1)

/-- Every account of the instruction was passed, and none gains a privilege. -/
def Privileged (infos : List AccountInfo) (derived : List Pubkey) (ix : Instruction) : Prop :=
  ∀ m ∈ ix.accounts, ∃ a ∈ infos, a.key = m.pubkey ∧ (m.isWritable = true → a.isWritable = true) ∧
    (m.isSigner = true → a.isSigner = true ∨ m.pubkey ∈ derived)

instance (infos : List AccountInfo) (derived : List Pubkey) (ix : Instruction) :
    Decidable (Privileged infos derived ix) :=
  inferInstanceAs (Decidable (∀ m ∈ ix.accounts, ∃ a ∈ infos, a.key = m.pubkey ∧
    (m.isWritable = true → a.isWritable = true) ∧
    (m.isSigner = true → a.isSigner = true ∨ m.pubkey ∈ derived)))

section
variable (hash : List UInt8 → Bytes32) (find : List (List UInt8) → Pubkey → Pubkey × UInt8)
  (usdcMint : Pubkey)

/-- The address for seeds that end in the bump found for the rest. -/
def createProgramAddress (seeds : List (List UInt8)) (programId : Pubkey) : Option Pubkey :=
  if seeds.getLast? = some [(find seeds.dropLast programId).2] then
    some (find seeds.dropLast programId).1
  else none

def runtime : Runtime where
  hash := hash
  createProgramAddress := createProgramAddress find
  findProgramAddress := find
  minimumBalance := fun space => UInt64.ofNat ((128 + space) * 6960)
  usdcMint := usdcMint
  invokeSigned infos ix seeds accts := do
    check (Privileged infos (seeds.filterMap (createProgramAddress find · id)) ix)
    if ix.programId = systemProgram then invokeSystem ix accts
    else if ix.programId = tokenProgram then invokeToken ix accts
    else .error (.other 2)

end

-- ---------------------------------------------------------------------------
-- It behaves as documented
-- ---------------------------------------------------------------------------

section
variable {accts accts' : Accounts}

/-- The contents after one account changed. -/
theorem contents_update (accts : Accounts) (key : Pubkey) (a : Account) :
    Accounts.contents (Function.update accts key a) =
      Function.update accts.contents key a.content := by
  funext k
  by_cases hk : k = key
  · subst hk
    simp [Accounts.contents]
  · simp [Accounts.contents, Function.update_of_ne hk]

/-- A change of lamports changes no content. -/
theorem contents_update_lamports (accts : Accounts) (key : Pubkey) (lamports : UInt64) :
    Accounts.contents (Function.update accts key { accts key with lamports := lamports }) =
      accts.contents := by
  rw [contents_update]
  exact Function.update_eq_self key accts.contents

/-- A number of 64 bits reads back from its bytes. -/
theorem fromLe_u64 {n : Nat} (h : n < 2 ^ 64) : fromLe (toLe 8 n) = n := by
  rw [fromLe_toLe]
  exact Nat.mod_eq_of_lt h

/-- The tag of a system instruction is read back. -/
theorem tag_eq {tag : Nat} (htag : tag < 2 ^ 32) (rest : List UInt8) :
    fromLe (field 4 (u32ToLe tag ++ rest) 0).bytes = tag := by
  have hfield : field 4 (u32ToLe tag ++ rest) 0 = ⟨u32ToLe tag, length_toLe 4 tag⟩ :=
    field_append_zero (v := ⟨u32ToLe tag, length_toLe 4 tag⟩)
  rw [hfield]
  exact (fromLe_toLe 4 tag).trans (Nat.mod_eq_of_lt htag)

/-- What `createAccount` changes. -/
theorem invokeSystem_createAccount {src dst owner : Pubkey} {lamports : UInt64} {space : Nat}
    (hspace : space < 2 ^ 64)
    (h : invokeSystem (createAccount src dst lamports space owner) accts = .ok accts') :
    accts'.contents = Function.update accts.contents dst ⟨owner, List.replicate space 0⟩ := by
  have hdata : (createAccount src dst lamports space owner).data =
      u32ToLe 0 ++ ((u64ToLe lamports).bytes ++ (toLe 8 space ++ owner.bytes)) := by
    simp only [createAccount, sysIx, List.append_assoc]
  have hspaceField : field 8 (createAccount src dst lamports space owner).data 12 =
      ⟨toLe 8 space, length_toLe 8 space⟩ := by
    rw [hdata, ← List.append_assoc]
    exact field_append (v := ⟨toLe 8 space, length_toLe 8 space⟩)
      (by simp [u32ToLe, (u64ToLe lamports).length_eq])
  have howner : field 32 (createAccount src dst lamports space owner).data 20 = owner := by
    have hall : (createAccount src dst lamports space owner).data =
        (u32ToLe 0 ++ (u64ToLe lamports).bytes ++ toLe 8 space) ++ (owner.bytes ++ []) := by
      simp only [createAccount, sysIx, List.append_nil]
    rw [hall]
    exact field_append (by simp [u32ToLe, (u64ToLe lamports).length_eq])
  unfold invokeSystem at h
  rw [hspaceField, howner] at h
  rw [show fromLe (field 4 (createAccount src dst lamports space owner).data 0).bytes = 0 by
    rw [hdata]; exact tag_eq (by decide) _] at h
  simp only [createAccount, sysIx, AccountMeta.new, bind_eq_ok] at h
  obtain ⟨-, -, hok⟩ := h
  obtain rfl := Except.ok.inj hok
  rw [contents_update, contents_update_lamports, fromLe_u64 hspace]
  rfl

/-- What a transfer of lamports changes. -/
theorem invokeSystem_transfer {src dst : Pubkey} {lamports : UInt64}
    (h : invokeSystem (transfer src dst lamports) accts = .ok accts') :
    accts'.contents = accts.contents := by
  unfold invokeSystem at h
  rw [show fromLe (field 4 (transfer src dst lamports).data 0).bytes = 2 from
    tag_eq (by decide) _] at h
  simp only [transfer, sysIx, AccountMeta.new, bind_eq_ok] at h
  obtain ⟨-, -, hok⟩ := h
  obtain rfl := Except.ok.inj hok
  rw [contents_update_lamports, contents_update_lamports]

/-- What `allocate` changes. -/
theorem invokeSystem_allocate {account : Pubkey} {space : Nat} (hspace : space < 2 ^ 64)
    (h : invokeSystem (allocate account space) accts = .ok accts') :
    accts'.contents = Function.update accts.contents account
      { accts.contents account with data := List.replicate space 0 } := by
  have hfield : field 8 (allocate account space).data 4 = ⟨toLe 8 space, length_toLe 8 space⟩ := by
    have hall : (allocate account space).data = u32ToLe 8 ++ (toLe 8 space ++ []) := by
      simp only [allocate, sysIx, List.append_nil]
    rw [hall]
    exact field_append (v := ⟨toLe 8 space, length_toLe 8 space⟩) (length_toLe 4 8)
  unfold invokeSystem at h
  rw [hfield, show fromLe (field 4 (allocate account space).data 0).bytes = 8 from
    tag_eq (by decide) _] at h
  obtain rfl := Except.ok.inj h
  rw [contents_update, fromLe_u64 hspace]
  rfl

/-- What `assign` changes. -/
theorem invokeSystem_assign {account owner : Pubkey}
    (h : invokeSystem (assign account owner) accts = .ok accts') :
    accts'.contents = Function.update accts.contents account
      { accts.contents account with owner := owner } := by
  have hfield : field 32 (assign account owner).data 4 = owner := by
    have hall : (assign account owner).data = u32ToLe 1 ++ (owner.bytes ++ []) := by
      simp only [assign, sysIx, List.append_nil]
    rw [hall]
    exact field_append (length_toLe 4 1)
  unfold invokeSystem at h
  rw [hfield, show fromLe (field 4 (assign account owner).data 0).bytes = 1 from
    tag_eq (by decide) _] at h
  obtain rfl := Except.ok.inj h
  rw [contents_update]
  rfl

/-- Fresh token data is an empty token account. -/
theorem isToken_tokenData (mint owner : Pubkey) :
    (⟨tokenProgram, (tokenData mint owner).bytes⟩ : Content).IsToken mint owner 0 := by
  refine ⟨rfl, FixedBytes.length_eq _, ?_, ?_, ?_⟩ <;>
    simp (disch := omega) only [tokenData, taMint, taOwner, taState, taAmount, field_write_self,
      field_write_of_disjoint]
  rfl

/-- What `initializeAccount3` changes. -/
theorem invokeToken_initializeAccount3 {account mint owner : Pubkey}
    (h : invokeToken (initializeAccount3Ix account mint owner) accts = .ok accts') :
    ∃ c held, Content.IsToken c mint owner held ∧
      accts'.contents = Function.update accts.contents account c := by
  have hfield : field 32 owner.bytes 0 = owner := by
    have happend : field 32 (owner.bytes ++ []) 0 = owner := field_append_zero
    rwa [List.append_nil] at happend
  simp only [invokeToken, initializeAccount3Ix, AccountMeta.new, AccountMeta.newReadonly, check,
    bind_eq_ok, require_eq_ok, exists_const] at h
  obtain ⟨⟨howner, -⟩, hok⟩ := h
  obtain rfl := Except.ok.inj hok
  refine ⟨⟨tokenProgram, (tokenData mint owner).bytes⟩, 0, isToken_tokenData mint owner, ?_⟩
  rw [contents_update, hfield, ← howner]
  rfl

/-- The contents after one balance changed. -/
theorem contents_setBalance (accts : Accounts) (key : Pubkey) (amount : UInt64) :
    (setBalance accts key amount).contents =
      Function.update accts.contents key ((accts.contents key).setAmount amount) := by
  rw [setBalance, contents_update]
  rfl

/-- What `transferChecked` changes. -/
theorem invokeToken_transferChecked {source mint dest authority : Pubkey} {amount before : UInt64}
    {decimals : UInt8} (hne : source ≠ dest)
    (hsource : (accts.contents source).IsToken mint authority before)
    (h : invokeToken (transferCheckedIx source mint dest authority amount decimals) accts =
      .ok accts') :
    ∃ destOwner held left got, (accts.contents dest).IsToken mint destOwner held ∧
      left.toNat + amount.toNat = before.toNat ∧ got.toNat = held.toNat + amount.toNat ∧
      accts'.contents = Function.update (Function.update accts.contents source
        ((accts.contents source).setAmount left)) dest ((accts.contents dest).setAmount got) := by
  have hfield : u64FromLe (field 8 ((u64ToLe amount).bytes ++ [decimals]) 0) = amount := by
    have happend : field 8 ((u64ToLe amount).bytes ++ [decimals]) 0 = u64ToLe amount :=
      field_append_zero
    rw [happend, u64FromLe_toLe]
  simp only [invokeToken, transferCheckedIx, tokenDataTransferChecked, List.cons_append,
    AccountMeta.new, AccountMeta.newReadonly, checkToken, check, bind_eq_ok, require_eq_ok,
    exists_const, hfield] at h
  obtain ⟨-, ⟨howner, hlen, -, hmint⟩, -, ⟨henough, hfits⟩, hok⟩ := h
  obtain rfl := Except.ok.inj hok
  obtain rfl := hsource.amount
  refine ⟨_, _, u64FromLe (field 8 (accts source).data taAmount) - amount,
    u64FromLe (field 8 (accts dest).data taAmount) + amount,
    ⟨howner, hlen, hmint, rfl, rfl⟩, ?_, ?_, ?_⟩
  · rw [UInt64.toNat_sub_of_le _ _ henough]
    exact Nat.sub_add_cancel (UInt64.le_iff_toNat_le.mp henough)
  · rw [UInt64.toNat_add, Nat.mod_eq_of_lt hfits]
    rfl
  · rw [contents_setBalance, contents_setBalance, Function.update_of_ne hne.symm]

variable {hash : List UInt8 → Bytes32} {find : List (List UInt8) → Pubkey → Pubkey × UInt8}
  {usdcMint : Pubkey}

/-- A successful instruction of the system program ran there. -/
theorem invokeSystem_of_ok {infos : List AccountInfo} {ix : Instruction}
    {seeds : List (List (List UInt8))} (hix : ix.programId = systemProgram)
    (h : (runtime hash find usdcMint).invokeSigned infos ix seeds accts = .ok accts') :
    invokeSystem ix accts = .ok accts' := by
  simp only [runtime, check, bind_eq_ok] at h
  obtain ⟨-, -, hrun⟩ := h
  rwa [if_pos hix] at hrun

/-- A successful instruction of the token program ran there. -/
theorem invokeToken_of_ok {infos : List AccountInfo} {ix : Instruction}
    {seeds : List (List (List UInt8))} (hix : ix.programId = tokenProgram)
    (h : (runtime hash find usdcMint).invokeSigned infos ix seeds accts = .ok accts') :
    invokeToken ix accts = .ok accts' := by
  simp only [runtime, check, bind_eq_ok] at h
  obtain ⟨-, -, hrun⟩ := h
  rwa [if_neg (by rw [hix]; decide), if_pos hix] at hrun

/-- The reference runtime is lawful. -/
theorem lawful_runtime (hash : List UInt8 → Bytes32)
    (find : List (List UInt8) → Pubkey → Pubkey × UInt8) (usdcMint : Pubkey) :
    (runtime hash find usdcMint).Lawful where
  derives seeds programId := by
    simp [runtime, createProgramAddress]
  createAccount hspace h := invokeSystem_createAccount hspace (invokeSystem_of_ok rfl h)
  transfer h := invokeSystem_transfer (invokeSystem_of_ok rfl h)
  allocate hspace h := invokeSystem_allocate hspace (invokeSystem_of_ok rfl h)
  assign h := invokeSystem_assign (invokeSystem_of_ok rfl h)
  initializeAccount3 h := invokeToken_initializeAccount3 (invokeToken_of_ok rfl h)
  transferChecked hne hsource h :=
    invokeToken_transferChecked hne hsource (invokeToken_of_ok rfl h)

end

end SwapDesk.Sol.Reference
