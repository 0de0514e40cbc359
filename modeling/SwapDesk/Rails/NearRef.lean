import SwapDesk.Lib.Check
import SwapDesk.Desk.Profile

/-!
# SwapDesk — the ref of a NEAR lock

`src/rails/near-ref.ts`: `0x<hash lock>:<payer>`. The contract keys a lock by its
payer and its hash lock, so the ref names both.

Main result: `parseNearRef_eq_some`, which says that the parser accepts exactly
what the formatter writes.
-/

namespace SwapDesk.Rails

open Check Desk
open CharClass (isDigit)

/-! ## Grammars -/

def isAccountChar (c : Char) : Bool := isDigit c || ('a' ≤ c && c ≤ 'z')

def isSeparator (c : Char) : Bool := c == '-' || c == '_' || c == '.'

/-- `/^(?=.{2,64}$)[a-z0-9]+(?:[-_.][a-z0-9]+)*$/` -/
def NEAR_ACCOUNT_ID (value : String) : Bool :=
  2 ≤ value.toList.length && value.toList.length ≤ 64 &&
    (value.toList.splitOnP isSeparator).all fun segment =>
      !segment.isEmpty && segment.all isAccountChar

/-- `/^0x[0-9a-f]{64}$/` -/
def NEAR_HASH_LOCK_SHAPE (value : String) : Bool := hex32 value

/-! ## The ref -/

structure NearRef where
  hashLock : String
  payer : String
deriving DecidableEq, Repr

def formatNearRef (hashLock payer : String) : Except String String := do
  require (NEAR_HASH_LOCK_SHAPE hashLock)
    "near-htlc: hashLock must be 0x + 64 lowercase hex (sha256 statement)"
  require (NEAR_ACCOUNT_ID payer) "near-htlc: payer must be a valid NEAR account id"
  return hashLock ++ ":" ++ payer

def parseNearRef (ref : String) : Option NearRef :=
  let colon := ref.toList.findIdx? (· == ':')
  -- `0x` and 64 hex digits are 66 characters
  if colon ≠ some 66 then none
  else
    let hashLock := String.ofList (ref.toList.take 66)
    let payer := String.ofList (ref.toList.drop 67)
    if !NEAR_HASH_LOCK_SHAPE hashLock || !NEAR_ACCOUNT_ID payer then none
    else some ⟨hashLock, payer⟩

theorem formatNearRef_eq_ok {hashLock payer ref : String} :
    formatNearRef hashLock payer = .ok ref ↔
      NEAR_HASH_LOCK_SHAPE hashLock = true ∧ NEAR_ACCOUNT_ID payer = true ∧
        ref = hashLock ++ ":" ++ payer := by
  unfold formatNearRef
  simp only [require_bind_eq_ok]
  constructor
  · rintro ⟨hHash, hPayer, href⟩
    exact ⟨hHash, hPayer, (Except.ok.inj href).symm⟩
  · rintro ⟨hHash, hPayer, rfl⟩
    exact ⟨hHash, hPayer, rfl⟩

/-- A hash lock has a fixed length and no colon. -/
theorem length_and_no_colon_of_hash {value : String} (h : NEAR_HASH_LOCK_SHAPE value = true) :
    value.toList.length = 66 ∧ ∀ c ∈ value.toList, (c == ':') = false := by
  unfold NEAR_HASH_LOCK_SHAPE hex32 at h
  split at h
  · rename_i digits hlist
    rw [Bool.and_eq_true, beq_iff_eq, List.all_eq_true] at h
    rw [hlist]
    refine ⟨by simp [h.1], ?_⟩
    intro c hc
    rw [beq_eq_false_iff_ne]
    rintro rfl
    rcases List.mem_cons.mp hc with hc | hc
    · exact absurd hc (by decide)
    · rcases List.mem_cons.mp hc with hc | hc
      · exact absurd hc (by decide)
      · exact absurd (h.2 _ hc) (by decide)
  · cases h

/-- The first colon of a text whose head has none. -/
theorem findIdx?_colon {head tail : List Char} (h : ∀ c ∈ head, (c == ':') = false) :
    (head ++ ':' :: tail).findIdx? (· == ':') = some head.length := by
  rw [List.findIdx?_append, List.findIdx?_eq_none_iff.mpr (by simpa using h)]
  simp [List.findIdx?_cons]

/-- Cut at the colon, the two parts make up the whole. -/
theorem take_colon_drop {cs : List Char} {i : Nat} (h : cs.findIdx? (· == ':') = some i) :
    cs = cs.take i ++ ':' :: cs.drop (i + 1) := by
  obtain ⟨hi, hc, -⟩ := List.findIdx?_eq_some_iff_getElem.mp h
  rw [beq_iff_eq] at hc
  rw [← hc, ← List.drop_eq_getElem_cons hi, List.take_append_drop]

/-- The parser accepts exactly what the formatter writes, and reads back its parts. -/
theorem parseNearRef_eq_some {ref : String} {parts : NearRef} :
    parseNearRef ref = some parts ↔ formatNearRef parts.hashLock parts.payer = .ok ref := by
  rw [formatNearRef_eq_ok]
  unfold parseNearRef
  constructor
  · intro h
    dsimp only at h
    split at h
    · cases h
    · rename_i hcolon
      split at h
      · cases h
      · rename_i hshape
        -- what is cut at the colon is put together again
        obtain rfl := Option.some.inj h
        rw [Bool.or_eq_true, not_or, Bool.not_eq_true, Bool.not_eq_true, Bool.not_eq_false',
          Bool.not_eq_false'] at hshape
        refine ⟨hshape.1, hshape.2, String.toList_inj.mp ?_⟩
        have hcut := take_colon_drop (not_not.mp hcolon)
        simpa using hcut
  · rintro ⟨hHash, hPayer, rfl⟩
    -- a hash lock is 66 characters, none of them a colon
    obtain ⟨hlen, hNoColon⟩ := length_and_no_colon_of_hash hHash
    have hlist : (parts.hashLock ++ ":" ++ parts.payer).toList =
        parts.hashLock.toList ++ ':' :: parts.payer.toList := by simp
    have htake : (parts.hashLock.toList ++ ':' :: parts.payer.toList).take 66 =
        parts.hashLock.toList := by rw [← hlen, List.take_left]
    have hdrop : (parts.hashLock.toList ++ ':' :: parts.payer.toList).drop 67 =
        parts.payer.toList := by
      rw [← List.singleton_append, ← List.append_assoc]
      exact List.drop_left' (by simp [hlen])
    rw [hlist, findIdx?_colon hNoColon, hlen, htake, hdrop]
    simp [hHash, hPayer]

end SwapDesk.Rails
