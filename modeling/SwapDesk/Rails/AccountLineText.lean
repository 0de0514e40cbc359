import SwapDesk.Rails.AccountLineFormat

/-!
# SwapDesk — the texts of account lines

A line is a text of tokens with single blanks between them.

Main results: `lineTokens_eq_some`, which lines have which tokens; `parseProofTokens_eq_some`,
which tokens hold which proof; `LineForm.format_eq_ok`, which lines are written.
-/

namespace SwapDesk.Rails

open Check Desk
open CharClass (isAlphanumeric isDigit isHexLower isSpace isSpace_eq_false)

/-! ## Tokens -/

/-- `/^\S+$/` -/
def Token (text : List Char) : Prop := text ≠ [] ∧ ∀ c ∈ text, isSpace c = false

/-- A text without white space is a token. -/
theorem token_of_all {text : List Char} (hNe : text ≠ [])
    (h : text.all (fun c => !isSpace c) = true) : Token text :=
  ⟨hNe, fun c hc => by simpa using List.all_eq_true.mp h c hc⟩

/-- A token holds no blank. -/
theorem Token.not_mem {text : List Char} (h : Token text) : ' ' ∉ text := fun hMem => by
  have hSpace := h.2 ' ' hMem
  revert hSpace
  decide

/-- The tokens at the end of a line. -/
def tailTokens : Option (List Char × Option (List Char)) → List (List Char)
  | none => []
  | some (signature, none) => ["proof".toList, signature]
  | some (signature, some key) => ["proof".toList, signature, key]

/-- The test of a token decides it. -/
theorem token_iff {text : List Char} :
    (!text.isEmpty && !text.any isSpace) = true ↔ Token text := by
  rw [Bool.and_eq_true, Bool.not_eq_true', Bool.not_eq_true', List.isEmpty_eq_false_iff,
    List.any_eq_false]
  simp only [Bool.not_eq_true]
  rfl

/-- The tokens of a line, its tail among them. -/
theorem lineTokens_eq_some {keyword : String} {arity : Nat} {line : String}
    {tokens : List (List Char)} {tail : Option (List Char × Option (List Char))}
    (hKeyword : ' ' ∉ keyword.toList) :
    lineTokens keyword arity line = some (tokens, tail) ↔
      tokens.length = arity ∧ (∀ token ∈ tokens ++ tailTokens tail, Token token) ∧
        line.toList = [' '].intercalate
          ("swap1".toList :: keyword.toList :: (tokens ++ tailTokens tail)) := by
  unfold lineTokens
  constructor
  -- read: the refusals one by one
  · intro h
    split at h
    case h_2 => cases h
    rename_i swap word rest hSplit
    obtain ⟨-, -, hLine⟩ := Separated.splitOn_eq_iff.mp hSplit
    split at h
    · cases h
    rename_i hWords
    rw [not_or, not_not, not_not] at hWords
    obtain ⟨rfl, rfl⟩ := hWords
    split at h
    · cases h
    rename_i hTokens
    rw [Bool.not_eq_true', Bool.not_eq_false, List.all_eq_true] at hTokens
    have hTokens : ∀ token ∈ rest, Token token := fun token hToken => token_iff.mp (hTokens token hToken)
    split at h
    · cases h
    rename_i hLength
    have hRest : rest.take arity ++ rest.drop arity = rest := List.take_append_drop arity rest
    have hTake : (rest.take arity).length = arity := List.length_take_of_le (not_lt.mp hLength)
    -- no tail, a tail without a key, a tail with one
    split at h
    · rename_i hDrop
      cases h
      rw [hDrop, List.append_nil] at hRest
      rw [hRest] at hTake
      refine ⟨hTake, ?_, ?_⟩
      · rwa [tailTokens, List.append_nil]
      · rwa [tailTokens, List.append_nil]
    · rename_i proof signature hDrop
      split at h
      · rename_i hProof
        subst hProof
        cases h
        rw [hDrop] at hRest
        refine ⟨hTake, ?_, ?_⟩
        · rwa [tailTokens, hRest]
        · rwa [tailTokens, hRest]
      · cases h
    · rename_i proof signature key hDrop
      split at h
      · rename_i hProof
        subst hProof
        cases h
        rw [hDrop] at hRest
        refine ⟨hTake, ?_, ?_⟩
        · rwa [tailTokens, hRest]
        · rwa [tailTokens, hRest]
      · cases h
    · cases h
  -- joined: the text splits into the same tokens
  · rintro ⟨hLength, hTokens, hLine⟩
    have hSplit : line.toList.splitOn ' ' =
        "swap1".toList :: keyword.toList :: (tokens ++ tailTokens tail) := by
      refine Separated.splitOn_eq_iff.mpr ⟨nofun, ?_, hLine⟩
      refine List.forall_mem_cons.mpr ⟨by decide, List.forall_mem_cons.mpr ⟨hKeyword, ?_⟩⟩
      exact fun token hToken => (hTokens token hToken).not_mem
    have hAll : ¬ (!(tokens ++ tailTokens tail).all fun token =>
        !token.isEmpty && !token.any isSpace) = true := by
      rw [Bool.not_eq_true', Bool.not_eq_false, List.all_eq_true]
      exact fun token hToken => token_iff.mpr (hTokens token hToken)
    have hLong : ¬ (tokens ++ tailTokens tail).length < arity := by
      rw [List.length_append, hLength]
      omega
    rw [hSplit]
    dsimp only
    rw [if_neg (by simp), if_neg hAll, if_neg hLong, List.drop_left' hLength,
      List.take_left' hLength]
    match tail with
    | none => rw [tailTokens, List.append_nil]
    | some (signature, none) => exact if_pos rfl
    | some (signature, some key) => exact if_pos rfl

/-! ## Proofs on a line -/

/-- What is checked of a proof before it is written, and after it is read. -/
def ProofShape (proof : AccountProof) : Prop :=
  SCHEME_SHAPE proof.scheme.toList = true ∧ SIGNATURE_SHAPE proof.signature.toList = true ∧
    ∀ key ∈ proof.publicKey, KEY_SHAPE key.toList = true

/-- The tokens of a proof. -/
def proofTokens (proof : AccountProof) : List Char × Option (List Char) :=
  (proof.scheme.toList ++ ':' :: proof.signature.toList, proof.publicKey.map String.toList)

/-- What a token of given characters is. -/
theorem of_tokenOf {chars : Char → Bool} {least most : Nat} {text : List Char}
    (h : tokenOf chars least most text = true) :
    least ≤ text.length ∧ text.length ≤ most ∧ ∀ c ∈ text, chars c = true := by
  unfold tokenOf at h
  rw [Bool.and_eq_true, Bool.and_eq_true, decide_eq_true_eq, decide_eq_true_eq,
    List.all_eq_true] at h
  exact ⟨h.1.1, h.1.2, h.2⟩

/-- A scheme holds no colon. -/
theorem not_mem_scheme {scheme : List Char} (h : SCHEME_SHAPE scheme = true) :
    ':' ∉ scheme ∧ scheme ≠ [] := by
  rw [SCHEME_SHAPE, Bool.and_eq_true] at h
  obtain ⟨hLeast, -, hChars⟩ := of_tokenOf h.1
  refine ⟨not_mem_of_all hChars (by decide), ?_⟩
  rintro rfl
  exact absurd hLeast (by decide)

/-- Tokens parse to the proof that prints as them. -/
theorem parseProofTokens_eq_some {signature : List Char} {key : Option (List Char)}
    {proof : AccountProof} :
    parseProofTokens signature key = some proof ↔
      (signature, key) = proofTokens proof ∧ ProofShape proof := by
  unfold parseProofTokens
  constructor
  -- read: the first colon ends the scheme
  · intro h
    split at h
    · cases h
    · cases h
    rename_i colon hZero hFound
    obtain ⟨hBound, hColon, -⟩ := List.findIdx?_eq_some_iff_getElem.mp hFound
    dsimp only at h
    split at h
    · cases h
    rename_i hShapes
    rw [Bool.or_eq_true, not_or, Bool.not_eq_true', Bool.not_eq_false, Bool.not_eq_true',
      Bool.not_eq_false] at hShapes
    split at h
    · cases h
    rename_i hKey
    cases h
    have hSignature : signature = signature.take colon ++ ':' :: signature.drop (colon + 1) := by
      conv_lhs => rw [← List.take_append_drop colon signature, List.drop_eq_getElem_cons hBound,
        beq_iff_eq.mp hColon]
    refine ⟨?_, ?_, ?_, ?_⟩
    · unfold proofTokens
      simp only [String.toList_ofList, Option.map_map]
      rw [← hSignature]
      congr 1
      cases key with
      | none => rfl
      | some key => exact congrArg some String.toList_ofList.symm
    · rw [String.toList_ofList]
      exact hShapes.1
    · rw [String.toList_ofList]
      exact hShapes.2
    · intro text hText
      obtain ⟨key', hKey', rfl⟩ := Option.mem_map.mp hText
      rw [Option.mem_def.mp hKey', Option.any_some, Bool.not_eq_true', Bool.not_eq_false] at hKey
      rw [String.toList_ofList]
      exact hKey
  -- joined: the scheme has no colon, so the first one ends it
  · rintro ⟨hTokens, hScheme, hSignature, hKey⟩
    obtain ⟨rfl, rfl⟩ := Prod.mk.inj hTokens
    obtain ⟨hColon, hNe⟩ := not_mem_scheme hScheme
    have hFound : (proof.scheme.toList ++ ':' :: proof.signature.toList).findIdx? (· == ':') =
        some proof.scheme.toList.length := by
      have hNone : proof.scheme.toList.findIdx? (· == ':') = none := by
        refine List.findIdx?_eq_none_iff.mpr fun c hc => ?_
        rw [beq_eq_false_iff_ne]
        rintro rfl
        exact hColon hc
      rw [List.findIdx?_append, hNone, List.findIdx?_cons, if_pos (beq_self_eq_true ':'),
        Option.none_or, Option.map_some, Nat.zero_add]
    obtain ⟨n, hLength⟩ := Nat.exists_eq_succ_of_ne_zero
      (fun h => hNe (List.eq_nil_of_length_eq_zero h))
    have hTake : (proof.scheme.toList ++ ':' :: proof.signature.toList).take (n + 1) =
        proof.scheme.toList := List.take_left' hLength
    have hDrop : (proof.scheme.toList ++ ':' :: proof.signature.toList).drop (n + 1 + 1) =
        proof.signature.toList := by
      rw [← List.drop_drop, List.drop_left' hLength]
      rfl
    have hKeys : (proof.publicKey.map String.toList).any (fun key => !KEY_SHAPE key) = false := by
      cases hPublic : proof.publicKey with
      | none => rfl
      | some key =>
        rw [Option.map_some, Option.any_some, hKey key hPublic]
        rfl
    have hBack : (proof.publicKey.map String.toList).map String.ofList = proof.publicKey := by
      rw [Option.map_map]
      cases proof.publicKey with
      | none => rfl
      | some key => exact congrArg some String.ofList_toList
    rw [hFound, hLength]
    simp only [hTake, hDrop, hScheme, hSignature, hKeys, hBack, String.ofList_toList]
    rfl

/-- A line's tokens hold a proof, or are none. -/
theorem proofOf_eq_some {tokens : Option (List Char × Option (List Char))}
    {proof : Option AccountProof} :
    proofOf tokens = some proof ↔
      tokens = proof.map proofTokens ∧ ∀ given ∈ proof, ProofShape given := by
  cases tokens with
  | none =>
    cases proof with
    | none => exact ⟨fun _ => ⟨rfl, nofun⟩, fun _ => rfl⟩
    | some given => exact ⟨nofun, nofun⟩
  | some pair =>
    obtain ⟨signature, key⟩ := pair
    unfold proofOf
    rw [Option.map_eq_some_iff]
    constructor
    · rintro ⟨given, hGiven, rfl⟩
      obtain ⟨hTokens, hShape⟩ := parseProofTokens_eq_some.mp hGiven
      refine ⟨congrArg some hTokens, fun other hOther => ?_⟩
      cases hOther
      exact hShape
    · rintro ⟨hTokens, hShape⟩
      cases proof with
      | none => cases hTokens
      | some given =>
        exact ⟨given, parseProofTokens_eq_some.mpr ⟨Option.some.inj hTokens, hShape given rfl⟩, rfl⟩

/-- A proof of the right shape formats as its text. -/
theorem formatProofField_eq_ok {proof : AccountProof} {field : String} :
    formatProofField proof = .ok field ↔ ProofShape proof ∧ field = proofText proof := by
  unfold formatProofField
  simp only [require_bind_eq_ok, pure, Except.pure, Except.ok.injEq, ProofShape, and_assoc,
    eq_comm (a := field)]

/-- A line is formatted after its proof. -/
theorem formatProofTail_bind_eq_ok {β : Type} {proof : Option AccountProof}
    {f : String → Except FormatError β} {b : β} :
    (formatProofTail proof >>= f) = .ok b ↔
      (∀ given ∈ proof, ProofShape given) ∧ f (proofTail proof) = .ok b := by
  cases proof with
  | none => exact ⟨fun h => ⟨nofun, h⟩, fun h => h.2⟩
  | some proof =>
    have hTail : ∀ tail, formatProofTail (some proof) = .ok tail ↔
        ProofShape proof ∧ tail = proofTail (some proof) := fun tail => by
      refine bind_eq_ok.trans ⟨?_, ?_⟩
      · rintro ⟨field, hField, hEq⟩
        obtain ⟨hShape, rfl⟩ := formatProofField_eq_ok.mp hField
        exact ⟨hShape, (Except.ok.inj hEq).symm⟩
      · rintro ⟨hShape, rfl⟩
        exact ⟨proofText proof, formatProofField_eq_ok.mpr ⟨hShape, rfl⟩, rfl⟩
    refine bind_eq_ok.trans ⟨?_, ?_⟩
    · rintro ⟨tail, h, hf⟩
      obtain ⟨hShape, rfl⟩ := (hTail tail).mp h
      refine ⟨fun given hGiven => ?_, hf⟩
      cases hGiven
      exact hShape
    · rintro ⟨hShape, hf⟩
      exact ⟨proofTail (some proof), (hTail _).mpr ⟨hShape proof rfl, rfl⟩, hf⟩

/-! ## What a line says -/

/-- A part of an account that is not empty and has neither a blank nor a colon in it. -/
def Field (text : String) : Prop :=
  text ≠ "" ∧ ∀ c ∈ text.toList, isSpace c = false ∧ c ≠ ':'

/-- Splitting at colons inverts joining by them. -/
theorem colonFields_eq_iff {text : String} {parts : List String} :
    (text.toList.splitOn ':').map String.ofList = parts ↔
      parts ≠ [] ∧ (∀ part ∈ parts, ':' ∉ part.toList) ∧ text = ":".intercalate parts :=
  Separated.fields_eq_iff

/-- The two parts of a CAIP-2 id. -/
theorem caip2Parts_eq_some {caip2 ns reference : String} :
    caip2Parts caip2 = some (ns, reference) ↔ ns ≠ "" ∧ reference ≠ "" ∧ ':' ∉ ns.toList ∧
      ':' ∉ reference.toList ∧ caip2 = ns ++ ":" ++ reference := by
  have hJoin : ":".intercalate [ns, reference] = ns ++ ":" ++ reference := by
    rw [← String.toList_inj]
    simp
  unfold caip2Parts
  constructor
  -- read: two parts, neither empty
  · intro h
    split at h
    · rename_i ns' reference' hSplit
      rw [Option.ite_none_left_eq_some, not_or] at h
      obtain ⟨⟨hNs, hReference⟩, hPair⟩ := h
      cases hPair
      obtain ⟨-, hParts, hText⟩ := colonFields_eq_iff.mp hSplit
      rw [← hJoin]
      exact ⟨hNs, hReference, hParts ns (by simp), hParts reference (by simp), hText⟩
    · cases h
  -- joined: the parts hold no colon
  · rintro ⟨hNs, hReference, hNs', hReference', rfl⟩
    have hSplit : ((ns ++ ":" ++ reference).toList.splitOn ':').map String.ofList =
        [ns, reference] := by
      refine colonFields_eq_iff.mpr ⟨nofun, ?_, hJoin.symm⟩
      exact List.forall_mem_cons.mpr ⟨hNs', List.forall_mem_cons.mpr ⟨hReference',
        List.forall_mem_nil _⟩⟩
    rw [hSplit]
    exact if_neg (not_or.mpr ⟨hNs, hReference⟩)

/-- What a line says passes the checks, and what it names is spelled `subject`. -/
def LineForm.Valid (form : LineForm) (line : ParsedLine) (subject : String) : Prop :=
  ∃ ns reference, form.normalize line.railId = some line.railId ∧
    form.namespaceOf line.railId = some ns ∧ caip2Parts line.caip2 = some (ns, reference) ∧
    form.validate ns reference line.subject = some subject ∧
    ∀ given ∈ line.proof, ProofShape given

/-- A line is written exactly for what passes the checks. -/
theorem LineForm.format_eq_ok {form : LineForm} {rt : LineRuntime} {input : ParsedLine}
    {line : String} :
    form.format rt input = .ok line ↔ ∃ subject, form.Valid input subject ∧
      line = form.text { input with subject } ∧ utf16Length line ≤ rt.MAX_FRAME_CHARS := by
  unfold LineForm.format LineForm.Valid
  simp only [need_bind_eq_ok, require_bind_eq_ok, formatProofTail_bind_eq_ok, pure, Except.pure,
    Except.ok.injEq, Prod.exists]
  constructor
  · rintro ⟨railId, hRail, rfl, ns, hNs, ns', reference, hParts, rfl, subject, hSubject, hShape,
      hLength, rfl⟩
    obtain ⟨-, -, -, -, hCaip2⟩ := caip2Parts_eq_some.mp hParts
    refine ⟨subject, ⟨ns', reference, hRail, hNs, hParts, hSubject, hShape⟩, ?_, hLength⟩
    unfold LineForm.text
    rw [hCaip2]
  · rintro ⟨subject, ⟨ns, reference, hRail, hNs, hParts, hSubject, hShape⟩, rfl, hLength⟩
    obtain ⟨-, -, -, -, hCaip2⟩ := caip2Parts_eq_some.mp hParts
    unfold LineForm.text at hLength ⊢
    rw [hCaip2] at hLength ⊢
    exact ⟨input.railId, hRail, rfl, ns, hNs, ns, reference, hCaip2 ▸ hParts, rfl, subject, hSubject,
      hShape, hLength, rfl⟩

/-- What the reading of lines of a form relies on: rails are tokens, and the parts of an account
are fields, which are spelled as they were read when they are read again. -/
structure LineForm.Lawful (form : LineForm) : Prop where
  railToken : ∀ rail, form.normalize rail = some rail → Token rail.toList
  nsField : ∀ rail ns, form.namespaceOf rail = some ns → Field ns
  fields : ∀ ns reference raw subject, form.validate ns reference raw = some subject →
    Field reference ∧ Field raw
  stable : ∀ ns reference raw subject, form.validate ns reference raw = some subject →
    form.validate ns reference subject = some subject ∧ utf16Length subject = utf16Length raw

/-- The tokens of a proof stand behind those of the line. -/
theorem join_tail (head : List (List Char)) (h : head ≠ []) (proof : Option AccountProof) :
    [' '].intercalate (head ++ tailTokens (proof.map proofTokens)) =
      [' '].intercalate head ++ (proofTail proof).toList := by
  match proof with
  | none => simp [tailTokens, proofTail]
  | some ⟨scheme, signature, none⟩ =>
    have hTail : tailTokens (some (proofTokens ⟨scheme, signature, none⟩)) =
        ["proof".toList, scheme.toList ++ ':' :: signature.toList] := rfl
    rw [Option.map_some, hTail, Separated.intercalate_append h (by simp)]
    simp [proofTail, proofText]
  | some ⟨scheme, signature, some key⟩ =>
    have hTail : tailTokens (some (proofTokens ⟨scheme, signature, some key⟩)) =
        ["proof".toList, scheme.toList ++ ':' :: signature.toList, key.toList] := rfl
    rw [Option.map_some, hTail, Separated.intercalate_append h (by simp)]
    simp [proofTail, proofText]

/-! ## Visible characters -/

/-- Characters are compared by their code points. -/
theorem le_iff_toNat {c d : Char} : c ≤ d ↔ c.toNat ≤ d.toNat := Iff.rfl

/-- Characters are the same when their code points are. -/
theorem eq_iff_toNat {c d : Char} : c = d ↔ c.toNat = d.toNat := Char.toNat_inj.symm

/-- A character from `!` to `~`. -/
def Visible (c : Char) : Prop := 33 ≤ c.toNat ∧ c.toNat ≤ 126

/-- A visible character is no white space. -/
theorem Visible.isSpace {c : Char} (h : Visible c) : isSpace c = false :=
  isSpace_eq_false h.1 h.2

/-- A signature character is visible. -/
theorem visible_of_isSignatureChar {c : Char} (h : isSignatureChar c = true) : Visible c := by
  simp only [isSignatureChar, isAlphanumeric, isDigit, Bool.or_eq_true, Bool.and_eq_true,
    decide_eq_true_eq, beq_iff_eq, le_iff_toNat, eq_iff_toNat, Char.reduceToNat] at h
  unfold Visible
  omega

/-- What a name in an account is made of. -/
def isNameChar (c : Char) : Bool :=
  isAlphanumeric c || c == '-' || c == '.' || c == '_' || c == '%'

/-- A name character is visible and no colon. -/
theorem visible_of_isNameChar {c : Char} (h : isNameChar c = true) : Visible c ∧ c ≠ ':' := by
  simp only [isNameChar, isAlphanumeric, isDigit, Bool.or_eq_true, Bool.and_eq_true,
    decide_eq_true_eq, beq_iff_eq, le_iff_toNat, eq_iff_toNat, Char.reduceToNat] at h
  simp only [Visible, ne_eq, eq_iff_toNat, Char.reduceToNat]
  omega

/-- Letters and digits are name characters. -/
theorem isNameChar_of_isAlphanumeric {c : Char} (h : isAlphanumeric c = true) :
    isNameChar c = true := by
  unfold isNameChar
  simp only [h, Bool.true_or]

/-- Account characters are name characters. -/
theorem isNameChar_of_isAccountChar {c : Char} (h : isAccountChar c = true) :
    isNameChar c = true := by
  refine isNameChar_of_isAlphanumeric ?_
  unfold isAlphanumeric
  rw [Bool.or_eq_true]
  exact .inl h

/-- Hexadecimal digits are name characters. -/
theorem isNameChar_of_isHexLower {c : Char} (h : isHexLower c = true) : isNameChar c = true := by
  refine isNameChar_of_isAccountChar ?_
  simp only [isHexLower, isAccountChar, isDigit, Bool.or_eq_true, Bool.and_eq_true,
    decide_eq_true_eq, le_iff_toNat, Char.reduceToNat] at h ⊢
  omega

/-- A text of name characters is a field. -/
theorem field_of_chars {text : String} (hNe : text.toList ≠ [])
    (h : ∀ c ∈ text.toList, isNameChar c = true) : Field text := by
  refine ⟨fun hEmpty => hNe (by rw [hEmpty]; rfl), fun c hc => ?_⟩
  obtain ⟨hVisible, hColon⟩ := visible_of_isNameChar (h c hc)
  exact ⟨hVisible.isSpace, hColon⟩

/-- A text that is name characters throughout is a field. -/
theorem field_of_all {text : String} (hNe : text.toList ≠ [])
    (h : text.toList.all isNameChar = true) : Field text :=
  field_of_chars hNe (List.all_eq_true.mp h)

/-- A field is a token. -/
theorem Field.token {text : String} (h : Field text) : Token text.toList :=
  ⟨fun hNil => h.1 (String.toList_inj.mp hNil), fun c hc => (h.2 c hc).1⟩

/-- A field holds no colon. -/
theorem Field.not_mem {text : String} (h : Field text) : ':' ∉ text.toList := fun hMem =>
  (h.2 ':' hMem).2 rfl

/-- A token of name characters is a field. -/
theorem field_of_tokenOf {chars : Char → Bool} {least most : Nat} {text : String}
    (h : tokenOf chars least most text.toList = true) (hLeast : 1 ≤ least)
    (hChars : ∀ c, chars c = true → isNameChar c = true) : Field text := by
  obtain ⟨hLength, -, hAll⟩ := of_tokenOf h
  refine field_of_chars (fun hNil => ?_) fun c hc => hChars c (hAll c hc)
  rw [hNil, List.length_nil] at hLength
  omega

/-- The tokens of a proof of the right shape. -/
theorem token_of_proofShape {proof : Option AccountProof} (h : ∀ given ∈ proof, ProofShape given) :
    ∀ token ∈ tailTokens (proof.map proofTokens), Token token := by
  have hWord : Token "proof".toList := token_of_all (by decide) (by decide)
  cases proof with
  | none => exact fun token hToken => absurd hToken List.not_mem_nil
  | some proof =>
    obtain ⟨hScheme, hSignature, hKey⟩ := h proof rfl
    rw [SCHEME_SHAPE, Bool.and_eq_true] at hScheme
    -- the signature with its scheme, then the key
    have hFirst : Token (proof.scheme.toList ++ ':' :: proof.signature.toList) := by
      refine ⟨List.append_ne_nil_of_right_ne_nil _ (List.cons_ne_nil _ _), fun c hc => ?_⟩
      rcases List.mem_append.mp hc with hc | hc
      · have hChar := (of_tokenOf hScheme.1).2.2 c hc
        refine (visible_of_isNameChar ?_).1.isSpace
        rw [Bool.or_eq_true] at hChar
        rcases hChar with hChar | hChar
        · exact isNameChar_of_isAccountChar hChar
        · rw [beq_iff_eq.mp hChar]
          rfl
      · rcases List.mem_cons.mp hc with rfl | hc
        · rfl
        · exact (visible_of_isSignatureChar ((of_tokenOf hSignature).2.2 c hc)).isSpace
    cases hPublic : proof.publicKey with
    | none =>
      have hTail : tailTokens ((some proof).map proofTokens) =
          ["proof".toList, proof.scheme.toList ++ ':' :: proof.signature.toList] := by
        rw [Option.map_some, proofTokens, hPublic]
        rfl
      rw [hTail]
      exact List.forall_mem_cons.mpr ⟨hWord, List.forall_mem_cons.mpr ⟨hFirst,
        List.forall_mem_nil _⟩⟩
    | some key =>
      have hTail : tailTokens ((some proof).map proofTokens) =
          ["proof".toList, proof.scheme.toList ++ ':' :: proof.signature.toList, key.toList] := by
        rw [Option.map_some, proofTokens, hPublic]
        rfl
      obtain ⟨hLength, -, hChars⟩ := of_tokenOf (hKey key hPublic)
      have hLast : Token key.toList := by
        refine ⟨fun hNil => ?_, fun c hc => ?_⟩
        · rw [hNil] at hLength
          exact absurd hLength (by decide)
        · have hChar := hChars c hc
          rw [Bool.or_eq_true] at hChar
          rcases hChar with hChar | hChar
          · exact (visible_of_isSignatureChar hChar).isSpace
          · rw [beq_iff_eq.mp hChar]
            rfl
      rw [hTail]
      exact List.forall_mem_cons.mpr ⟨hWord, List.forall_mem_cons.mpr ⟨hFirst,
        List.forall_mem_cons.mpr ⟨hLast, List.forall_mem_nil _⟩⟩⟩

end SwapDesk.Rails
