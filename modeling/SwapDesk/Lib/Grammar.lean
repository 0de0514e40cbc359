import SwapDesk.Lib.Bytes
import SwapDesk.Lib.Check

/-!
# Formats of byte strings

A format says which words write which values. What is read off the front of a byte string is a
word of a format exactly if `Reads` holds of the reader; `Reads.pure`, `Reads.bind` and the rules
of the parts follow how the reader is put together. A format that `Determines` a part of its
values has no two values that differ in this part and are written alike, whatever follows.
-/

namespace Grammar

open Check

variable {ε α β γ : Type}

/-! ## Readers -/

/-- Takes a value off the front of the bytes that are left. -/
abbrev Reader (ε : Type) := StateT (List UInt8) (Except ε)

def check (c : Prop) [Decidable c] (e : ε) : Reader ε Unit := fun bytes => do
  require c e
  return ((), bytes)

/-- The next byte. -/
def byte (e : ε) : Reader ε UInt8
  | [] => .error e
  | b :: rest => .ok (b, rest)

/-- The next byte, which stays. -/
def peek (e : ε) : Reader ε UInt8
  | [] => .error e
  | b :: rest => .ok (b, b :: rest)

/-- The next `n` bytes. -/
def take (n : Nat) (e : ε) : Reader ε (List UInt8) := fun bytes => do
  require (n ≤ bytes.length) e
  return (bytes.take n, bytes.drop n)

def times (p : Reader ε α) : Nat → Reader ε (List α)
  | 0 => pure []
  | n + 1 => do
    let a ← p
    let as ← times p n
    return a :: as

/-- What is read, with the bytes it was read from. -/
def spanned (p : Reader ε α) : Reader ε (α × List UInt8) := fun bytes => do
  let (a, rest) ← p bytes
  return ((a, bytes.take (bytes.length - rest.length)), rest)

/-- A sequence reads its parts one after the other. -/
theorem bind_run_eq_ok {p : Reader ε α} {f : α → Reader ε β} {bytes rest : List UInt8} {b : β} :
    (p >>= f) bytes = .ok (b, rest) ↔
      ∃ a mid, p bytes = .ok (a, mid) ∧ f a mid = .ok (b, rest) := by
  refine Iff.trans bind_eq_ok ⟨?_, ?_⟩
  · rintro ⟨⟨a, mid⟩, hp, hf⟩
    exact ⟨a, mid, hp, hf⟩
  · rintro ⟨a, mid, hp, hf⟩
    exact ⟨(a, mid), hp, hf⟩

/-! ## What readers read -/

/-- What `p` takes off are the words of the format, each with the value it writes. -/
def Reads (p : Reader ε α) (G : α → List UInt8 → Prop) : Prop :=
  ∀ a bytes rest, p bytes = .ok (a, rest) ↔ ∃ w, bytes = w ++ rest ∧ G a w

namespace Reads

variable {p : Reader ε α} {G H : α → List UInt8 → Prop}

/-- A reader reads a grammar given in other words. -/
theorem congr (h : Reads p G) (hIff : ∀ a w, G a w ↔ H a w) : Reads p H := by
  intro a bytes rest
  rw [h a bytes rest]
  exact exists_congr fun w => and_congr_right fun _ => hIff a w

/-- A value reads nothing. -/
theorem pure (a : α) : Reads (Pure.pure a : Reader ε α) fun b w => b = a ∧ w = [] := by
  intro b bytes rest
  constructor
  · intro h
    obtain ⟨rfl, rfl⟩ := Prod.mk.inj (Except.ok.inj h)
    exact ⟨[], rfl, rfl, rfl⟩
  · rintro ⟨w, rfl, rfl, rfl⟩
    rfl

/-- An error reads no word. -/
theorem throw (e : ε) : Reads (throw e : Reader ε α) fun _ _ => False := by
  intro a bytes rest
  refine ⟨fun h => ?_, fun ⟨_, _, h⟩ => h.elim⟩
  cases h

/-- A sequence reads the words of its parts joined. -/
theorem bind {f : α → Reader ε β} {K : α → β → List UInt8 → Prop} (hp : Reads p G)
    (hf : ∀ a, Reads (f a) (K a)) :
    Reads (p >>= f) fun b w => ∃ a u v, w = u ++ v ∧ G a u ∧ K a b v := by
  intro b bytes rest
  rw [bind_run_eq_ok]
  constructor
  · rintro ⟨a, mid, hRun, hRest⟩
    obtain ⟨u, rfl, hu⟩ := (hp a bytes mid).mp hRun
    obtain ⟨v, rfl, hv⟩ := (hf a b mid rest).mp hRest
    exact ⟨u ++ v, (List.append_assoc u v rest).symm, a, u, v, rfl, hu, hv⟩
  · rintro ⟨w, rfl, a, u, v, rfl, hu, hv⟩
    exact ⟨a, v ++ rest, (hp a _ _).mpr ⟨u, List.append_assoc u v rest, hu⟩,
      (hf a b _ _).mpr ⟨v, rfl, hv⟩⟩

/-- A check reads nothing. -/
theorem check {c : Prop} [Decidable c] {e : ε} :
    Reads (check c e) fun _ w => c ∧ w = [] := by
  intro a bytes rest
  unfold Grammar.check
  rw [require_bind_eq_ok]
  constructor
  · rintro ⟨hc, h⟩
    obtain ⟨-, rfl⟩ := Prod.mk.inj (Except.ok.inj h)
    exact ⟨[], rfl, hc, rfl⟩
  · rintro ⟨w, rfl, hc, rfl⟩
    exact ⟨hc, rfl⟩

/-- A check, and what comes after it. -/
theorem check_bind {c : Prop} [Decidable c] {e : ε} (h : Reads p G) :
    Reads (Grammar.check c e >>= fun _ => p) fun a w => c ∧ G a w := by
  refine (check.bind fun _ => h).congr fun a w => ⟨?_, ?_⟩
  · rintro ⟨-, u, v, rfl, ⟨hc, rfl⟩, hv⟩
    exact ⟨hc, hv⟩
  · rintro ⟨hc, hw⟩
    exact ⟨(), [], w, rfl, ⟨hc, rfl⟩, hw⟩

/-- One byte is read as it stands. -/
theorem byte {e : ε} : Reads (byte e) fun b w => w = [b] := by
  intro b bytes rest
  constructor
  · intro h
    cases bytes with
    | nil => cases h
    | cons b' bytes =>
      obtain ⟨rfl, rfl⟩ := Prod.mk.inj (Except.ok.inj h)
      exact ⟨[b'], rfl, rfl⟩
  · rintro ⟨w, rfl, rfl⟩
    rfl

/-- Bytes of a given number are read as they stand. -/
theorem take {n : Nat} {e : ε} : Reads (take n e) fun a w => w = a ∧ a.length = n := by
  intro a bytes rest
  unfold Grammar.take
  rw [require_bind_eq_ok]
  constructor
  · rintro ⟨hLe, h⟩
    obtain ⟨rfl, rfl⟩ := Prod.mk.inj (Except.ok.inj h)
    exact ⟨_, (List.take_append_drop n bytes).symm, rfl, List.length_take_of_le hLe⟩
  · rintro ⟨w, rfl, rfl, rfl⟩
    refine ⟨by rw [List.length_append]; omega, ?_⟩
    rw [List.take_left, List.drop_left]
    rfl

/-- The words of the values come one after the other. -/
theorem times (h : Reads p G) (n : Nat) :
    Reads (times p n) fun as w => as.length = n ∧ ∃ ws, List.Forall₂ G as ws ∧ w = ws.flatten := by
  induction n with
  | zero =>
    refine (pure []).congr fun as w => ⟨?_, ?_⟩
    · rintro ⟨rfl, rfl⟩
      exact ⟨rfl, [], .nil, rfl⟩
    · rintro ⟨hLength, ws, hWords, rfl⟩
      obtain rfl := List.length_eq_zero_iff.mp hLength
      cases hWords
      exact ⟨rfl, rfl⟩
  | succ n ih =>
    refine (h.bind fun a => ih.bind fun as => pure (a :: as)).congr fun as w => ⟨?_, ?_⟩
    · rintro ⟨a, u, -, rfl, hu, as, -, -, rfl, ⟨rfl, ws, hWords, rfl⟩, rfl, rfl⟩
      exact ⟨rfl, u :: ws, .cons hu hWords, by rw [List.append_nil, List.flatten_cons]⟩
    · rintro ⟨hLength, ws, hWords, rfl⟩
      cases hWords with
      | nil => cases hLength
      | @cons a u as ws hu hWords =>
        exact ⟨a, u, ws.flatten, rfl, hu, as, ws.flatten, [], (List.append_nil _).symm,
          ⟨Nat.succ.inj hLength, ws, hWords, rfl⟩, rfl, rfl⟩

/-- What is read next is looked at first. -/
theorem peek_bind {e e' : ε} {q : UInt8 → Prop} [DecidablePred q] (h : Reads p G)
    (hNonempty : ∀ a w, G a w → w ≠ []) :
    Reads (peek e >>= fun first => Grammar.check (q first) e' >>= fun _ => p) fun a w =>
      (∀ first ∈ w.head?, q first) ∧ G a w := by
  intro a bytes rest
  rw [bind_run_eq_ok]
  constructor
  · rintro ⟨first, mid, hPeek, hRun⟩
    obtain ⟨w, rfl, hq, hw⟩ := (h.check_bind a mid rest).mp hRun
    obtain ⟨b, w, rfl⟩ := List.exists_cons_of_ne_nil (hNonempty a w hw)
    cases bytes with
    | nil => cases hPeek
    | cons b' bytes =>
      obtain ⟨rfl, hMid⟩ := Prod.mk.inj (Except.ok.inj hPeek)
      refine ⟨b :: w, hMid, fun first hFirst => ?_, hw⟩
      obtain rfl := Option.some.inj hFirst
      rwa [(List.cons.inj hMid).1] at hq
  · rintro ⟨w, rfl, hq, hw⟩
    obtain ⟨b, w, rfl⟩ := List.exists_cons_of_ne_nil (hNonempty a w hw)
    exact ⟨b, b :: w ++ rest, rfl, (h.check_bind a _ rest).mpr ⟨b :: w, rfl, hq b rfl, hw⟩⟩

/-- A span is the word that was read. -/
theorem spanned (h : Reads p G) : Reads (spanned p) fun a w => G a.1 w ∧ a.2 = w := by
  rintro ⟨a, word⟩ bytes rest
  unfold Grammar.spanned
  rw [bind_eq_ok]
  constructor
  · rintro ⟨⟨a', rest'⟩, hRun, hSpan⟩
    obtain ⟨hPair, rfl⟩ := Prod.mk.inj (Except.ok.inj hSpan)
    obtain ⟨rfl, rfl⟩ := Prod.mk.inj hPair
    obtain ⟨w, rfl, hw⟩ := (h _ _ _).mp hRun
    refine ⟨w, rfl, hw, ?_⟩
    rw [List.length_append, Nat.add_sub_cancel, List.take_left]
  · rintro ⟨w, rfl, hw, rfl⟩
    refine ⟨(a, rest), (h _ _ _).mpr ⟨_, rfl, hw⟩, ?_⟩
    dsimp only
    rw [List.length_append, Nat.add_sub_cancel, List.take_left]
    rfl

end Reads

/-- Values that are written one after the other. -/
theorem mapM_eq_ok {f : α → Except ε β} {as : List α} {bs : List β} :
    as.mapM f = .ok bs ↔ List.Forall₂ (fun a b => f a = .ok b) as bs := by
  induction as generalizing bs with
  | nil =>
    rw [List.forall₂_nil_left_iff]
    exact ⟨fun h => (Except.ok.inj h).symm, fun h => congrArg Except.ok h.symm⟩
  | cons a as ih =>
    rw [List.mapM_cons, bind_eq_ok, List.forall₂_cons_left_iff]
    constructor
    · rintro ⟨b, hb, h⟩
      obtain ⟨bs, hbs, h⟩ := bind_eq_ok.mp h
      exact ⟨b, bs, hb, ih.mp hbs, (Except.ok.inj h).symm⟩
    · rintro ⟨b, bs, hb, hbs, rfl⟩
      exact ⟨b, hb, bind_eq_ok.mpr ⟨bs, ih.mpr hbs, rfl⟩⟩

/-! ## Formats without ambiguity -/

/-- The words tell `f` of what they write, and where they end. -/
def Determines (G : α → List UInt8 → Prop) (f : α → β) : Prop :=
  ∀ ⦃a b u v r s⦄, G a u → G b v → u ++ r = v ++ s → f a = f b ∧ r = s

namespace Determines

variable {G : α → List UInt8 → Prop} {f : α → β}

/-- Words of one length. -/
theorem of_length {n : Nat} (hLength : ∀ a u, G a u → u.length = n)
    (hInj : ∀ a b u, G a u → G b u → f a = f b) : Determines G f := by
  intro a b u v r s hu hv h
  obtain ⟨rfl, hRest⟩ := List.append_inj h ((hLength a u hu).trans (hLength b v hv).symm)
  exact ⟨hInj a b u hu hv, hRest⟩

/-- As many words of one format as of another. -/
theorem forall₂ (h : Determines G f) {as bs : List α} {us vs : List (List UInt8)}
    {r s : List UInt8} (hu : List.Forall₂ G as us) (hv : List.Forall₂ G bs vs)
    (hLength : as.length = bs.length) (hEq : us.flatten ++ r = vs.flatten ++ s) :
    as.map f = bs.map f ∧ r = s := by
  induction hu generalizing bs vs with
  | nil =>
    obtain rfl := List.length_eq_zero_iff.mp hLength.symm
    cases hv
    exact ⟨rfl, hEq⟩
  | @cons a u as us hFirst _ ih =>
    cases hv with
    | nil => cases hLength
    | @cons b v bs vs hFirst' hv =>
      rw [List.flatten_cons, List.flatten_cons, List.append_assoc, List.append_assoc] at hEq
      obtain ⟨hHead, hTail⟩ := h hFirst hFirst' hEq
      obtain ⟨hMap, hRest⟩ := ih hv (Nat.succ.inj hLength) hTail
      exact ⟨by rw [List.map_cons, List.map_cons, hHead, hMap], hRest⟩

end Determines

end Grammar
