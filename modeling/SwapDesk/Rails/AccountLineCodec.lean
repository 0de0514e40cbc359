import SwapDesk.Lib.OrdMap
import SwapDesk.Rails.AccountLineText

/-!
# SwapDesk — writing and reading account lines

`parseAccountLine` and `parsePubkeyLine` read the lines that `formatAccountLine` and
`formatPubkeyLine` write.

Main result: `line_codec`. What is written is read back with its proof, what is read is written
again, and a line that is read without a proof has nothing behind its account.
-/

namespace SwapDesk.Rails

open Check Desk
open CharClass (isAlphanumeric isDigit isDigit_eq isHexLower isSpace toLower_of_isHexLower)

/-! ## Reading -/

section

variable {rt : LineRuntime} {registry : Option NamespacedRailRegistry} {line : String}
  {p : ParsedLine}

/-- The characters of an account line. -/
theorem toList_accountText (raw : String) :
    ((accountForm rt registry).text { p with subject := raw }).toList =
      [' '].intercalate ("swap1".toList :: "account".toList ::
        ([p.railId.toList, (p.caip2 ++ ":" ++ raw).toList] ++
          tailTokens (p.proof.map proofTokens))) := by
  have hJoin := join_tail ("swap1".toList :: "account".toList ::
    [p.railId.toList, (p.caip2 ++ ":" ++ raw).toList]) (by simp) p.proof
  refine Eq.trans ?_ hJoin.symm
  simp [LineForm.text, accountForm]

/-- The characters of a public key line. -/
theorem toList_pubkeyText (raw : String) :
    ((pubkeyForm rt).text { p with subject := raw }).toList =
      [' '].intercalate ("swap1".toList :: "pubkey".toList ::
        ([p.railId.toList, p.caip2.toList, raw.toList] ++
          tailTokens (p.proof.map proofTokens))) := by
  have hJoin := join_tail ("swap1".toList :: "pubkey".toList ::
    [p.railId.toList, p.caip2.toList, raw.toList]) (by simp) p.proof
  refine Eq.trans ?_ hJoin.symm
  simp [LineForm.text, pubkeyForm]

/-- The three parts of an account. -/
theorem join_account (ns reference address : String) :
    ":".intercalate [ns, reference, address] = ns ++ ":" ++ reference ++ ":" ++ address := by
  rw [← String.toList_inj]
  simp

/-- Two fields joined by a colon hold no white space. -/
theorem Field.append {ns reference : String} (hNs : Field ns) (hReference : Field reference) :
    ∀ c ∈ (ns ++ ":" ++ reference).toList, isSpace c = false := by
  intro c hc
  rw [String.toList_append, String.toList_append, List.mem_append, List.mem_append] at hc
  rcases hc with (hc | hc) | hc
  · exact (hNs.2 c hc).1
  · rw [List.mem_singleton.mp hc]
    rfl
  · exact (hReference.2 c hc).1

/-- The tokens of an account line. -/
theorem account_tokens (hForm : (accountForm rt registry).Lawful) {raw subject : String}
    (h : (accountForm rt registry).Valid { p with subject := raw } subject) :
    ∀ token ∈ [p.railId.toList, (p.caip2 ++ ":" ++ raw).toList], Token token := by
  obtain ⟨ns, reference, hRail, hNs, hParts, hSubject, -⟩ := h
  obtain ⟨-, -, -, -, hCaip2⟩ := caip2Parts_eq_some.mp hParts
  obtain ⟨hReference, hRaw⟩ := hForm.fields _ _ _ _ hSubject
  dsimp only at hRail hCaip2
  have hToken : Token (p.caip2 ++ ":" ++ raw).toList := by
    refine ⟨by simp, fun c hc => ?_⟩
    rw [String.toList_append, String.toList_append, List.mem_append, List.mem_append] at hc
    rcases hc with (hc | hc) | hc
    · rw [hCaip2] at hc
      exact (hForm.nsField _ _ hNs).append hReference c hc
    · rw [List.mem_singleton.mp hc]
      rfl
    · exact (hRaw.2 c hc).1
  exact List.forall_mem_cons.mpr ⟨hForm.railToken _ hRail, List.forall_mem_singleton.mpr hToken⟩

/-- The tokens of a public key line. -/
theorem pubkey_tokens (hForm : (pubkeyForm rt).Lawful) {raw subject : String}
    (h : (pubkeyForm rt).Valid { p with subject := raw } subject) :
    ∀ token ∈ [p.railId.toList, p.caip2.toList, raw.toList], Token token := by
  obtain ⟨ns, reference, hRail, hNs, hParts, hSubject, -⟩ := h
  obtain ⟨-, -, -, -, hCaip2⟩ := caip2Parts_eq_some.mp hParts
  obtain ⟨hReference, hRaw⟩ := hForm.fields _ _ _ _ hSubject
  dsimp only at hRail hCaip2
  have hToken : Token p.caip2.toList := by
    rw [hCaip2]
    exact ⟨by simp, (hForm.nsField _ _ hNs).append hReference⟩
  exact List.forall_mem_cons.mpr ⟨hForm.railToken _ hRail, List.forall_mem_cons.mpr ⟨hToken,
    List.forall_mem_singleton.mpr hRaw.token⟩⟩

/-- An account line that is read has the text of what it says. -/
theorem parseAccountLine_eq_some (hForm : (accountForm rt registry).Lawful) :
    parseAccountLine rt line registry = some p ↔
      ∃ raw, (accountForm rt registry).Valid { p with subject := raw } p.subject ∧
        line = (accountForm rt registry).text { p with subject := raw } ∧
        utf16Length line ≤ rt.MAX_FRAME_CHARS := by
  unfold parseAccountLine
  simp only [Option.bind_eq_bind, Option.bind_eq_some_iff, Prod.exists]
  constructor
  -- a line that parses: each refusal of the source is one `split` or one bind
  · rintro ⟨tokens, tail, hTokens, h⟩
    obtain ⟨-, -, hLine⟩ := (lineTokens_eq_some (by decide)).mp hTokens
    split at h
    · cases h
    rename_i hLength
    split at h
    case h_2 => cases h
    rename_i railToken caipToken
    rw [Option.bind_eq_some_iff] at h
    obtain ⟨proof, hProof, h⟩ := h
    obtain ⟨rfl, hShape⟩ := proofOf_eq_some.mp hProof
    rw [Option.bind_eq_some_iff] at h
    obtain ⟨railId, hRail, h⟩ := h
    by_cases hCanonical : railId ≠ String.ofList railToken
    · rw [if_pos hCanonical] at h
      cases h
    rw [if_neg hCanonical] at h
    obtain rfl := not_not.mp hCanonical
    rw [Option.bind_eq_some_iff] at h
    obtain ⟨ns, hNs, h⟩ := h
    split at h
    case h_2 => cases h
    rename_i ns' reference address hSplit
    split at h
    · cases h
    rename_i hSame
    obtain rfl := not_not.mp hSame
    rw [Option.bind_eq_some_iff] at h
    obtain ⟨subject, hSubject, h⟩ := h
    cases h
    -- what was split at spaces and colons joins to the line again
    have hNsField := hForm.nsField _ _ hNs
    have hReference := (hForm.fields _ _ _ _ hSubject).1
    have hToken : String.ofList caipToken = ns' ++ ":" ++ reference ++ ":" ++ address := by
      rw [← join_account]
      refine (colonFields_eq_iff.mp ?_).2.2
      rw [String.toList_ofList]
      exact hSplit
    refine ⟨address, ⟨ns', reference, hRail, hNs, caip2Parts_eq_some.mpr ⟨hNsField.1, hReference.1,
      hNsField.not_mem, hReference.not_mem, rfl⟩, hSubject, hShape⟩, ?_, not_lt.mp hLength⟩
    rw [← String.toList_inj, hLine, toList_accountText]
    dsimp only
    have hBack : ∀ token : List Char, (String.ofList token).toList = token := fun _ =>
      String.toList_ofList
    rw [← hToken, hBack railToken, hBack caipToken]
  -- a valid line: its tokens split as they were joined
  · rintro ⟨raw, hValid, hLine, hLength⟩
    have hTokens := account_tokens hForm hValid
    obtain ⟨ns, reference, hRail, hNs, hParts, hSubject, hShape⟩ := hValid
    obtain ⟨-, -, -, -, hCaip2⟩ := caip2Parts_eq_some.mp hParts
    have hNsField := hForm.nsField _ _ hNs
    obtain ⟨hReference, hRaw⟩ := hForm.fields _ _ _ _ hSubject
    dsimp only at hRail hNs hCaip2 hSubject hShape
    have hSplit : (((p.caip2 ++ ":" ++ raw).toList).splitOn ':').map String.ofList =
        [ns, reference, raw] := by
      refine colonFields_eq_iff.mpr ⟨nofun, ?_, ?_⟩
      · exact List.forall_mem_cons.mpr ⟨hNsField.not_mem, List.forall_mem_cons.mpr
          ⟨hReference.not_mem, List.forall_mem_cons.mpr ⟨hRaw.not_mem, List.forall_mem_nil _⟩⟩⟩
      · rw [hCaip2]
        exact (join_account ns reference raw).symm
    refine ⟨[p.railId.toList, (p.caip2 ++ ":" ++ raw).toList], p.proof.map proofTokens,
      (lineTokens_eq_some (by decide)).mpr ⟨rfl, ?_, hLine ▸ toList_accountText raw⟩, ?_⟩
    · exact List.forall_mem_append.mpr ⟨hTokens, token_of_proofShape hShape⟩
    -- and none of the refusals applies
    · rw [if_neg (not_lt.mpr hLength)]
      have hRail : normalizeRailIdWith rt.tclk p.railId
          (registry.map NamespacedRailRegistry.toCustomRailRegistry) = some p.railId := hRail
      have hNs : namespaceForRail p.railId registry = some ns := hNs
      have hSubject : validateChainAddress rt ns reference raw = some p.subject := hSubject
      simp only [proofOf_eq_some.mpr ⟨rfl, hShape⟩, String.ofList_toList, hRail, hNs, hSplit, hSubject,
        Option.bind_some, ne_eq, not_true_eq_false, if_false]
      rw [← hCaip2]
      rfl

/-- A pubkey line that is read has the text of what it says. -/
theorem parsePubkeyLine_eq_some (hForm : (pubkeyForm rt).Lawful) :
    parsePubkeyLine rt line = some p ↔
      ∃ raw, (pubkeyForm rt).Valid { p with subject := raw } p.subject ∧
        line = (pubkeyForm rt).text { p with subject := raw } ∧
        utf16Length line ≤ rt.MAX_FRAME_CHARS := by
  have hCaip : ∀ ns reference : String, ":".intercalate [ns, reference] = ns ++ ":" ++ reference :=
    fun ns reference => by
      rw [← String.toList_inj]
      simp
  unfold parsePubkeyLine
  simp only [Option.bind_eq_bind, Option.bind_eq_some_iff, Prod.exists]
  constructor
  -- a line that parses, refusal by refusal
  · rintro ⟨tokens, tail, hTokens, h⟩
    obtain ⟨hThree, -, hLine⟩ := (lineTokens_eq_some (by decide)).mp hTokens
    obtain ⟨railToken, caipToken, pubkeyToken, rfl⟩ := List.length_eq_three.mp hThree
    by_cases hLength : rt.MAX_FRAME_CHARS < utf16Length line
    · rw [if_pos hLength] at h
      cases h
    rw [if_neg hLength] at h
    replace h := Option.bind_eq_some_iff.mp h
    obtain ⟨proof, hProof, h⟩ := h
    obtain ⟨rfl, hShape⟩ := proofOf_eq_some.mp hProof
    rw [Option.bind_eq_some_iff] at h
    obtain ⟨railId, hRail, h⟩ := h
    by_cases hCanonical : railId ≠ String.ofList railToken
    · rw [if_pos hCanonical] at h
      cases h
    rw [if_neg hCanonical] at h
    obtain rfl := not_not.mp hCanonical
    rw [Option.bind_eq_some_iff] at h
    obtain ⟨ns, hNs, h⟩ := h
    split at h
    case h_2 => cases h
    rename_i ns' reference hSplit
    by_cases hEmpty : ns' = "" ∨ reference = ""
    · rw [if_pos hEmpty] at h
      cases h
    rw [if_neg hEmpty] at h
    by_cases hSame : ns' ≠ ns
    · rw [if_pos hSame] at h
      cases h
    rw [if_neg hSame] at h
    obtain rfl := not_not.mp hSame
    rw [Option.bind_eq_some_iff] at h
    obtain ⟨subject, hSubject, h⟩ := h
    cases h
    -- what was split joins to the line again
    have hNsField := hForm.nsField _ _ hNs
    have hReference := (hForm.fields _ _ _ _ hSubject).1
    have hToken : String.ofList caipToken = ns' ++ ":" ++ reference := by
      rw [← hCaip]
      refine (colonFields_eq_iff.mp ?_).2.2
      rw [String.toList_ofList]
      exact hSplit
    refine ⟨String.ofList pubkeyToken, ⟨ns', reference, hRail, hNs, caip2Parts_eq_some.mpr
      ⟨hNsField.1, hReference.1, hNsField.not_mem, hReference.not_mem, rfl⟩, hSubject, hShape⟩, ?_,
      not_lt.mp hLength⟩
    rw [← String.toList_inj, hLine, toList_pubkeyText]
    dsimp only
    have hBack : ∀ token : List Char, (String.ofList token).toList = token := fun _ =>
      String.toList_ofList
    rw [← hToken, hBack railToken, hBack caipToken, hBack pubkeyToken]
  · rintro ⟨raw, hValid, hLine, hLength⟩
    have hTokens := pubkey_tokens hForm hValid
    obtain ⟨ns, reference, hRail, hNs, hParts, hSubject, hShape⟩ := hValid
    obtain ⟨hNsNe, hReferenceNe, -, -, hCaip2⟩ := caip2Parts_eq_some.mp hParts
    have hNsField := hForm.nsField _ _ hNs
    have hReference := (hForm.fields _ _ _ _ hSubject).1
    dsimp only at hRail hNs hCaip2 hSubject hShape
    have hSplit : (p.caip2.toList.splitOn ':').map String.ofList = [ns, reference] := by
      refine colonFields_eq_iff.mpr ⟨nofun, ?_, ?_⟩
      · exact List.forall_mem_cons.mpr ⟨hNsField.not_mem, List.forall_mem_cons.mpr
          ⟨hReference.not_mem, List.forall_mem_nil _⟩⟩
      · rw [hCaip2]
        exact (hCaip ns reference).symm
    refine ⟨[p.railId.toList, p.caip2.toList, raw.toList], p.proof.map proofTokens,
      (lineTokens_eq_some (by decide)).mpr ⟨rfl, ?_, hLine ▸ toList_pubkeyText raw⟩, ?_⟩
    · exact List.forall_mem_append.mpr ⟨hTokens, token_of_proofShape hShape⟩
    · rw [if_neg (not_lt.mpr hLength)]
      have hRail : rt.tclk.normalizeRailId p.railId = some p.railId := hRail
      have hNs : PUBKEY_RAIL_NAMESPACES.lookup p.railId = some ns := hNs
      have hSubject : validatePubkeyForNamespace ns reference raw = some p.subject := hSubject
      have hEmpty : ¬ (ns = "" ∨ reference = "") := not_or.mpr ⟨hNsNe, hReferenceNe⟩
      refine Option.bind_eq_some_iff.mpr ⟨p.proof, proofOf_eq_some.mpr ⟨rfl, hShape⟩, ?_⟩
      rw [String.ofList_toList, String.ofList_toList]
      refine Option.bind_eq_some_iff.mpr ⟨p.railId, hRail, ?_⟩
      rw [if_neg (not_not.mpr rfl)]
      refine Option.bind_eq_some_iff.mpr ⟨ns, hNs, ?_⟩
      rw [hSplit]
      dsimp only
      rw [if_neg hEmpty, if_neg (not_not.mpr rfl)]
      refine Option.bind_eq_some_iff.mpr ⟨p.subject, hSubject, ?_⟩
      rw [← hCaip2]
      rfl

/-! ## Reading what was written -/

/-- What reading gives. -/
def ReadsForm (form : LineForm) (rt : LineRuntime) (parse : String → Option ParsedLine) : Prop :=
  ∀ line p, parse line = some p ↔
    ∃ raw, form.Valid { p with subject := raw } p.subject ∧
      line = form.text { p with subject := raw } ∧ utf16Length line ≤ rt.MAX_FRAME_CHARS

/-- A valid line stays valid under the spelling it is read as, of the same length. -/
theorem LineForm.Valid.respelled {form : LineForm} (hForm : form.Lawful) {line : ParsedLine}
    {subject : String} (h : form.Valid line subject) :
    form.Valid { line with subject } subject ∧ utf16Length subject = utf16Length line.subject := by
  obtain ⟨ns, reference, hRail, hNs, hParts, hSubject, hShape⟩ := h
  obtain ⟨hStable, hLength⟩ := hForm.stable _ _ _ _ hSubject
  exact ⟨⟨ns, reference, hRail, hNs, hParts, hStable, hShape⟩, hLength⟩

/-- What is written is read back, with its proof. -/
theorem parse_format {form : LineForm} (hForm : form.Lawful) {parse : String → Option ParsedLine}
    (hReads : ReadsForm form rt parse) {input : ParsedLine} (h : form.format rt input = .ok line) :
    ∃ subject, form.Valid input subject ∧ parse line = some { input with subject } := by
  obtain ⟨subject, hValid, rfl, hLength⟩ := LineForm.format_eq_ok.mp h
  exact ⟨subject, hValid, (hReads _ _).mpr ⟨subject, (hValid.respelled hForm).1, rfl, hLength⟩⟩

/-- The lengths of texts add up. -/
theorem utf16Length_append (a b : String) : utf16Length (a ++ b) = utf16Length a + utf16Length b := by
  unfold utf16Length
  rw [String.toList_append, List.map_append, List.sum_append]

/-- What is read is written again, and read as it was. -/
theorem format_parse {form : LineForm} (hForm : form.Lawful) {parse : String → Option ParsedLine}
    (hReads : ReadsForm form rt parse) (h : parse line = some p) :
    ∃ line', form.format rt p = .ok line' ∧ parse line' = some p := by
  obtain ⟨raw, hValid, rfl, hLength⟩ := (hReads _ _).mp h
  obtain ⟨hStable, hSame⟩ := hValid.respelled hForm
  have hShort : utf16Length (form.text p) ≤ rt.MAX_FRAME_CHARS := by
    unfold LineForm.text at hLength ⊢
    simp only [utf16Length_append] at hLength hSame ⊢
    omega
  exact ⟨form.text p, LineForm.format_eq_ok.mpr ⟨p.subject, hStable, rfl, hShort⟩,
    (hReads _ _).mpr ⟨p.subject, hStable, rfl, hShort⟩⟩

end

/-! ## The two forms -/

/-- A registry has ids and namespaces of the shapes that are checked when it is built. -/
theorem registry_shape {t : Tclk} {specs : List CustomRailSpec} {registry : NamespacedRailRegistry}
    (h : createCustomRailRegistry t specs = .ok registry) :
    (∀ id, registry.has id = true → CUSTOM_RAIL_ID id = true) ∧
      ∀ id ns, registry.namespaceOf id = some ns → CUSTOM_NAMESPACE ns = true := by
  unfold createCustomRailRegistry at h
  obtain ⟨byId, hFold, hRegistry⟩ := bind_eq_ok.mp h
  -- what is admitted so far has the right shape, whatever is checked next
  have hShape : ∀ (specs : List CustomRailSpec) (start : List (String × String)),
      (∀ entry ∈ start, CUSTOM_RAIL_ID entry.1 = true ∧ CUSTOM_NAMESPACE entry.2 = true) →
      specs.foldlM (fun (byId : List (String × String)) spec => do
        require (CUSTOM_RAIL_ID spec.id) ("custom-rails: \"" ++ spec.id ++
          "\" is not an owner-namespaced versioned rail id (<owner>.<name>-vN)")
        require (CUSTOM_NAMESPACE spec.ns) ("custom-rails: \"" ++ spec.id ++
          "\" needs a CAIP-2 namespace (3-8 chars of [-a-z0-9])")
        require (t.normalizeRailId spec.id = none) ("custom-rails: \"" ++ spec.id ++
          "\" collides with an id tclk already knows")
        require ((byId.lookup spec.id).isNone)
          ("custom-rails: duplicate rail id \"" ++ spec.id ++ "\"")
        return byId ++ [(spec.id, spec.ns)]) start = .ok byId →
      ∀ entry ∈ byId, CUSTOM_RAIL_ID entry.1 = true ∧ CUSTOM_NAMESPACE entry.2 = true := by
    intro specs
    induction specs with
    | nil =>
      intro start hStart hEnd
      cases hEnd
      exact hStart
    | cons spec specs ih =>
      intro start hStart hEnd
      rw [List.foldlM_cons] at hEnd
      obtain ⟨next, hNext, hEnd⟩ := bind_eq_ok.mp hEnd
      simp only [require_bind_eq_ok, pure, Except.pure, Except.ok.injEq] at hNext
      obtain ⟨hId, hNs, -, -, rfl⟩ := hNext
      refine ih _ (List.forall_mem_append.mpr ⟨hStart, ?_⟩) hEnd
      exact List.forall_mem_singleton.mpr ⟨hId, hNs⟩
  have hAll := hShape specs [] (List.forall_mem_nil _) hFold
  cases hRegistry
  refine ⟨fun id hId => ?_, fun id ns hNs => (hAll _ (Entries.mem_of_lookup hNs)).2⟩
  obtain ⟨ns, hNs⟩ := Option.isSome_iff_exists.mp hId
  exact (hAll _ (Entries.mem_of_lookup hNs)).1

/-- A custom rail id is a token. -/
theorem token_of_customRailId {id : String} (h : CUSTOM_RAIL_ID id = true) : Token id.toList := by
  unfold CUSTOM_RAIL_ID at h
  split at h
  case h_2 => cases h
  rename_i owner name hSplit
  rw [Bool.and_eq_true, Bool.and_eq_true] at h
  obtain ⟨⟨hOwner, -⟩, hName⟩ := h
  obtain ⟨hLength, -, hOwnerChars⟩ := of_tokenOf hOwner
  have hNameChars : ∀ c ∈ name, isNameChar c = true := by
    split at hName
    case h_2 => cases hName
    rename_i first others hParts
    rw [Bool.and_eq_true, Bool.and_eq_true, Bool.and_eq_true, Bool.and_eq_true] at hName
    obtain ⟨⟨⟨⟨-, hFirst⟩, -⟩, hMiddle⟩, hLast⟩ := hName
    intro c hc
    rcases Separated.mem_splitOnP (p := (· == '-')) c hc with hDash | ⟨part, hPart, hMem⟩
    · rw [beq_iff_eq.mp hDash]
      rfl
    have hPart : part ∈ first :: others := hParts ▸ hPart
    rcases List.mem_cons.mp hPart with rfl | hPart
    · exact isNameChar_of_isAccountChar (List.all_eq_true.mp hFirst c hMem)
    split at hLast
    case h_2 => cases hLast
    rename_i version hVersion
    rw [Bool.and_eq_true] at hLast
    obtain ⟨hAmount, -⟩ := hLast
    rw [← List.dropLast_append_getLast? _ (Option.mem_def.mpr hVersion)] at hPart
    -- a part before the last is an account name, the last is a version
    rcases List.mem_append.mp hPart with hPart | hPart
    · have hChars := List.all_eq_true.mp hMiddle part hPart
      rw [Bool.and_eq_true] at hChars
      exact isNameChar_of_isAccountChar (List.all_eq_true.mp hChars.2 c hMem)
    · rw [List.mem_singleton.mp hPart] at hMem
      rcases List.mem_cons.mp hMem with rfl | hMem
      · rfl
      · obtain ⟨n, -, hText⟩ := isAmount_iff.mp hAmount
        have hDigit := (eq_toString_iff.mp hText).1.2.1 c (by rwa [String.toList_ofList])
        refine isNameChar_of_isAlphanumeric ?_
        rw [isAlphanumeric, isDigit_eq, hDigit]
        rfl
  refine ⟨fun hNil => ?_, fun c hc => ?_⟩
  · rw [hNil, List.splitOn_nil] at hSplit
    cases hSplit
  · refine (visible_of_isNameChar ?_).1.isSpace
    rcases Separated.mem_splitOnP (p := (· == '.')) c hc with hDot | ⟨part, hPart, hMem⟩
    · rw [beq_iff_eq.mp hDot]
      rfl
    have hPart : part ∈ [owner, name] := hSplit ▸ hPart
    rcases List.mem_cons.mp hPart with rfl | hPart
    · exact isNameChar_of_isAccountChar (hOwnerChars c hMem)
    · rw [List.mem_singleton.mp hPart] at hMem
      exact hNameChars c hMem

/-- A CAIP-2 reference is a field. -/
theorem field_of_reference {reference : String} (h : CAIP2_REFERENCE reference = true) :
    Field reference := by
  refine field_of_tokenOf h (le_refl 1) fun c hc => ?_
  rw [Bool.or_eq_true] at hc
  rcases hc with hc | hc
  · exact isNameChar_of_isAlphanumeric hc
  · rw [beq_iff_eq.mp hc]
    rfl

/-- A number is a field. -/
theorem field_of_number {text : String} {n : Nat} (h : text = toString n) : Field text := by
  obtain ⟨⟨hNe, hDigits, -⟩, -⟩ := eq_toString_iff.mp h
  refine field_of_chars hNe fun c hc => isNameChar_of_isAlphanumeric ?_
  rw [isAlphanumeric, isDigit_eq, hDigits c hc]
  rfl

/-- A NEAR account id is a field. -/
theorem field_of_accountId {address : String} (h : NEAR_ACCOUNT_ID address = true) :
    Field address := by
  unfold NEAR_ACCOUNT_ID at h
  rw [Bool.and_eq_true, Bool.and_eq_true, decide_eq_true_eq, decide_eq_true_eq,
    List.all_eq_true] at h
  obtain ⟨⟨hLength, -⟩, hSegments⟩ := h
  refine field_of_chars (fun hNil => ?_) fun c hc => ?_
  · rw [hNil] at hLength
    exact absurd hLength (by decide)
  rcases Separated.mem_splitOnP (p := isSeparator) c hc with hSeparator | ⟨part, hPart, hMem⟩
  · simp only [isSeparator, Bool.or_eq_true, beq_iff_eq] at hSeparator
    rcases hSeparator with (rfl | rfl) | rfl <;> rfl
  · have hChars := hSegments part hPart
    rw [Bool.and_eq_true] at hChars
    exact isNameChar_of_isAccountChar (List.all_eq_true.mp hChars.2 c hMem)

/-- An address that is read again is spelled as it was. -/
def Respelled (validate : String → String → Option String) (reference raw subject : String) :
    Prop :=
  Field reference ∧ Field raw ∧ validate reference subject = some subject ∧
    utf16Length subject = utf16Length raw

/-- A hexadecimal digit, in either case. -/
theorem isNameChar_of_toLower {c : Char} (h : isHexLower c.toLower = true) :
    isNameChar c = true := by
  by_cases hUpper : 65 ≤ c.toNat ∧ c.toNat ≤ 90
  · refine isNameChar_of_isAlphanumeric ?_
    simp only [isAlphanumeric, isDigit, Bool.or_eq_true, Bool.and_eq_true, decide_eq_true_eq,
      le_iff_toNat, Char.reduceToNat]
    exact .inr hUpper
  · have hSame : c.toLower = c := dif_neg hUpper
    rw [hSame] at h
    exact isNameChar_of_isHexLower h

/-- A text of name characters has one UTF-16 unit a character. -/
theorem utf16Length_of_names {text : String} (h : ∀ c ∈ text.toList, isNameChar c = true) :
    utf16Length text = text.toList.length := by
  have hUnits : text.toList.map (fun c => if c.toNat < 0x10000 then 1 else 2) =
      text.toList.map fun _ => 1 := by
    refine List.map_congr_left fun c hc => if_pos ?_
    have hVisible := (visible_of_isNameChar (h c hc)).1.2
    omega
  rw [utf16Length, hUnits, List.map_const', List.sum_replicate_nat, Nat.mul_one]

/-- The characters of a hexadecimal text. -/
theorem toList_hexText (digits : List Char) :
    ("0x" ++ String.ofList digits).toList = '0' :: 'x' :: digits := by
  rw [String.toList_append, String.toList_ofList, String.toList_ofList]
  rfl

/-- Lower case reaches the digits of a hexadecimal text. -/
theorem toLowerCase_hexText (digits : List Char) :
    toLowerCase ("0x" ++ String.ofList digits) =
      "0x" ++ String.ofList (digits.map Char.toLower) := by
  rw [← String.toList_inj, toLowerCase, toList_hexText, toList_hexText, String.toList_ofList]
  rfl

/-- The characters of a hexadecimal text are name characters. -/
theorem isNameChar_hexText {digits : List Char} (h : ∀ c ∈ digits, isNameChar c = true) :
    ∀ c ∈ ("0x" ++ String.ofList digits).toList, isNameChar c = true := by
  rw [toList_hexText]
  exact List.forall_mem_cons.mpr ⟨rfl, List.forall_mem_cons.mpr ⟨rfl, h⟩⟩

/-- An Ethereum address is respelled once. -/
theorem respelled_eip155 {rt : LineRuntime} (hLibrary : LineLibrary rt)
    {reference raw subject : String} (h : validateEip155Address rt reference raw = some subject) :
    Respelled (validateEip155Address rt) reference raw subject := by
  unfold validateEip155Address at h
  rw [Option.ite_none_left_eq_some, Option.ite_none_left_eq_some, Bool.not_eq_true',
    Bool.not_eq_false, Bool.not_eq_true', Bool.not_eq_false, Option.some.injEq] at h
  obtain ⟨hReference, hAddress, rfl⟩ := h
  obtain ⟨digits, rfl, hLength, hDigits⟩ := hLibrary.addressShape raw hAddress
  -- the reference is a number
  have hField : Field reference := by
    unfold EIP155_REFERENCE at hReference
    rw [Bool.or_eq_true, beq_iff_eq] at hReference
    rcases hReference with rfl | hAmount
    · exact field_of_number (n := 0) rfl
    · obtain ⟨n, -, hText⟩ := isAmount_iff.mp hAmount
      exact field_of_number hText
  -- the address is respelled in lower case, and is then its own spelling
  have hLower : ∀ c ∈ digits.map Char.toLower, isHexLower c = true := by
    intro c hc
    obtain ⟨d, hd, rfl⟩ := List.mem_map.mp hc
    exact hDigits d hd
  have hLowerLength : (digits.map Char.toLower).length = 40 := by
    rw [List.length_map, hLength]
  have hTwice : (digits.map Char.toLower).map Char.toLower = digits.map Char.toLower := by
    rw [List.map_map]
    exact List.map_congr_left fun c hc => toLower_of_isHexLower (hDigits c hc)
  have hRaw := isNameChar_hexText fun c hc => isNameChar_of_toLower (hDigits c hc)
  have hSubject := isNameChar_hexText fun c hc => isNameChar_of_isHexLower (hLower c hc)
  rw [toLowerCase_hexText]
  refine ⟨hField, field_of_chars (by rw [toList_hexText]; exact List.cons_ne_nil _ _) hRaw, ?_, ?_⟩
  · unfold validateEip155Address
    rw [hReference, hLibrary.addressLower _ hLowerLength hLower, toLowerCase_hexText, hTwice]
    rfl
  · rw [utf16Length_of_names hRaw, utf16Length_of_names hSubject, toList_hexText, toList_hexText,
      List.length_cons, List.length_cons, List.length_cons, List.length_cons, List.length_map]

/-- A NEAR account id is respelled once. -/
theorem respelled_near {reference raw subject : String}
    (h : validateNearAccountId reference raw = some subject) :
    Respelled validateNearAccountId reference raw subject := by
  have hKeep := h
  unfold validateNearAccountId at h
  rw [Option.ite_none_left_eq_some, Option.ite_none_left_eq_some, Bool.not_eq_true',
    Bool.not_eq_false, Bool.not_eq_true', Bool.not_eq_false, Option.some.injEq] at h
  obtain ⟨hReference, hAddress, rfl⟩ := h
  exact ⟨field_of_reference hReference, field_of_accountId hAddress, hKeep, rfl⟩

/-- A generic address is respelled once. -/
theorem respelled_generic {reference raw subject : String}
    (h : validateGenericCaip10 reference raw = some subject) :
    Respelled validateGenericCaip10 reference raw subject := by
  have hKeep := h
  unfold validateGenericCaip10 at h
  rw [Option.ite_none_left_eq_some, Option.ite_none_left_eq_some, Bool.not_eq_true',
    Bool.not_eq_false, Bool.not_eq_true', Bool.not_eq_false, Option.some.injEq] at h
  obtain ⟨hReference, hAddress, rfl⟩ := h
  refine ⟨field_of_reference hReference, field_of_tokenOf hAddress (le_refl 1) fun c hc => ?_,
    hKeep, rfl⟩
  simp only [Bool.or_eq_true, beq_iff_eq] at hc
  rcases hc with ((hc | rfl) | rfl) | rfl
  · exact isNameChar_of_isAlphanumeric hc
  · rfl
  · rfl
  · rfl

/-- A base58 letter is a name character. -/
theorem isNameChar_of_base58 {c : Char} (h : BASE58_ALPHABET.contains c = true) :
    isNameChar c = true := by
  have hAll : BASE58_ALPHABET.all isNameChar = true := by decide
  exact List.all_eq_true.mp hAll c (List.contains_iff_mem.mp h)

/-- A Solana address is respelled once. -/
theorem respelled_solana {reference raw subject : String}
    (h : validateSolanaAddress reference raw = some subject) :
    Respelled validateSolanaAddress reference raw subject := by
  have hKeep := h
  unfold validateSolanaAddress at h
  rw [Option.ite_none_left_eq_some, Option.ite_none_left_eq_some, Option.ite_none_left_eq_some,
    Bool.not_eq_true', Bool.not_eq_false, Bool.not_eq_true', Bool.not_eq_false,
    Option.some.injEq] at h
  obtain ⟨hReference, hAddress, -, rfl⟩ := h
  exact ⟨field_of_reference hReference, field_of_tokenOf hAddress (by decide) fun c hc =>
    isNameChar_of_base58 hc, hKeep, rfl⟩

/-- Every address is respelled once: reading its new spelling changes nothing. -/
theorem respelled_address {rt : LineRuntime} (hLibrary : LineLibrary rt)
    {ns reference raw subject : String}
    (h : validateChainAddress rt ns reference raw = some subject) :
    Respelled (validateChainAddress rt ns) reference raw subject := by
  unfold Respelled
  unfold validateChainAddress at h ⊢
  by_cases hEip155 : ns = "eip155"
  · simp only [if_pos hEip155] at h ⊢
    exact respelled_eip155 hLibrary h
  by_cases hNear : ns = "near"
  · simp only [if_neg hEip155, if_pos hNear] at h ⊢
    exact respelled_near h
  by_cases hSolana : ns = "solana"
  · simp only [if_neg hEip155, if_neg hNear, if_pos hSolana] at h ⊢
    exact respelled_solana h
  · simp only [if_neg hEip155, if_neg hNear, if_neg hSolana] at h ⊢
    exact respelled_generic h

/-- Account lines obey the laws of a line form. -/
theorem lawful_accountForm {rt : LineRuntime} (hLibrary : LineLibrary rt)
    {registry : Option NamespacedRailRegistry}
    (hRegistry : ∀ r ∈ registry, ∃ specs, createCustomRailRegistry rt.tclk specs = .ok r) :
    (accountForm rt registry).Lawful where
  -- a rail of the registry or one of the closed list
  railToken rail hRail := by
    have hRail : normalizeRailIdWith rt.tclk rail
        (registry.map NamespacedRailRegistry.toCustomRailRegistry) = some rail := hRail
    have hClosed : rt.tclk.normalizeRailId rail = some rail → Token rail.toList := fun h => by
      obtain ⟨hNe, hChars⟩ := hLibrary.railToken _ _ h
      exact ⟨fun hNil => hNe (String.toList_inj.mp hNil), hChars⟩
    cases registry with
    | none => exact hClosed hRail
    | some r =>
      obtain ⟨specs, hSpecs⟩ := hRegistry r rfl
      rw [Option.map_some] at hRail
      unfold normalizeRailIdWith at hRail
      dsimp only at hRail
      split at hRail
      · rename_i hHas
        exact token_of_customRailId ((registry_shape hSpecs).1 rail hHas)
      · exact hClosed hRail
  -- the namespace of a rail that is built in, or of one in the registry
  nsField rail ns hNs := by
    have hNs : namespaceForRail rail registry = some ns := hNs
    unfold namespaceForRail at hNs
    split at hNs
    · rename_i ns' hLookup
      cases hNs
      have hMem := Entries.mem_of_lookup hLookup
      simp only [RAIL_NAMESPACES, List.mem_cons, Prod.mk.injEq, List.not_mem_nil, or_false] at hMem
      rcases hMem with ⟨-, rfl⟩ | ⟨-, rfl⟩ | ⟨-, rfl⟩
      · exact field_of_all (by decide) (by decide)
      · exact field_of_all (by decide) (by decide)
      · exact field_of_all (by decide) (by decide)
    · obtain ⟨r, rfl, hNs⟩ := Option.bind_eq_some_iff.mp hNs
      obtain ⟨specs, hSpecs⟩ := hRegistry r rfl
      refine field_of_tokenOf ((registry_shape hSpecs).2 rail ns hNs) (by decide) fun c hc => ?_
      rw [Bool.or_eq_true] at hc
      rcases hc with hc | hc
      · exact isNameChar_of_isAccountChar hc
      · rw [beq_iff_eq.mp hc]
        rfl
  fields ns reference raw subject h := by
    obtain ⟨hReference, hRaw, -, -⟩ := respelled_address hLibrary h
    exact ⟨hReference, hRaw⟩
  stable ns reference raw subject h := (respelled_address hLibrary h).2.2

/-- Public key lines obey the laws of a line form. -/
theorem lawful_pubkeyForm {rt : LineRuntime} (hLibrary : LineLibrary rt) :
    (pubkeyForm rt).Lawful where
  railToken rail hRail := by
    obtain ⟨hNe, hChars⟩ := hLibrary.railToken _ _ hRail
    exact ⟨fun hNil => hNe (String.toList_inj.mp hNil), hChars⟩
  nsField rail ns hNs := by
    have hNs : PUBKEY_RAIL_NAMESPACES.lookup rail = some ns := hNs
    have hMem := Entries.mem_of_lookup hNs
    obtain ⟨-, rfl⟩ := Prod.mk.inj (List.mem_singleton.mp hMem)
    exact field_of_all (by decide) (by decide)
  fields ns reference raw subject h := by
    have h : validatePubkeyForNamespace ns reference raw = some subject := h
    unfold validatePubkeyForNamespace at h
    rw [Option.ite_none_left_eq_some, Option.ite_none_left_eq_some, Option.ite_none_left_eq_some,
      Bool.not_eq_true', Bool.not_eq_false, Bool.not_eq_true', Bool.not_eq_false] at h
    obtain ⟨-, hReference, hKey, -⟩ := h
    refine ⟨field_of_tokenOf hReference (by decide) fun c hc => isNameChar_of_isHexLower hc, ?_⟩
    -- a compressed key is a prefix byte and hexadecimal digits
    unfold PUBKEY_SHAPE at hKey
    split at hKey
    case h_2 => cases hKey
    rename_i second rest hText
    rw [Bool.and_eq_true, Bool.and_eq_true, Bool.or_eq_true, List.all_eq_true] at hKey
    obtain ⟨⟨hSecond, -⟩, hRest⟩ := hKey
    refine field_of_chars (by rw [hText]; exact List.cons_ne_nil _ _) ?_
    rw [hText]
    refine List.forall_mem_cons.mpr ⟨rfl, List.forall_mem_cons.mpr ⟨?_, fun c hc =>
      isNameChar_of_isHexLower (hRest c hc)⟩⟩
    rcases hSecond with hSecond | hSecond <;> rw [beq_iff_eq.mp hSecond] <;> rfl
  stable ns reference raw subject h := by
    have hKeep : validatePubkeyForNamespace ns reference raw = some subject := h
    unfold validatePubkeyForNamespace at hKeep
    rw [Option.ite_none_left_eq_some, Option.ite_none_left_eq_some, Option.ite_none_left_eq_some,
      Option.some.injEq] at hKeep
    obtain ⟨-, -, -, rfl⟩ := hKeep
    exact ⟨h, rfl⟩

/-! ## The codec -/

/-- A line that ends with the tokens of its keyword. -/
def BareLine (keyword : String) (arity : Nat) (line : String) : Prop :=
  ∃ tokens : List (List Char), tokens.length = arity ∧ (∀ token ∈ tokens, Token token) ∧
    line.toList = [' '].intercalate ("swap1".toList :: keyword.toList :: tokens)

/-- The lines of one kind. -/
structure LineCodec (form : LineForm) (arity : Nat)
    (format : ParsedLine → Except FormatError String) (parse : String → Option ParsedLine) :
    Prop where
  /-- What is written is read back, as the chain spells it, and with its proof. -/
  back : ∀ input line, format input = .ok line → ∃ ns reference subject,
    input.caip2 = ns ++ ":" ++ reference ∧
      form.validate ns reference input.subject = some subject ∧
      parse line = some { input with subject }
  /-- What is read is written again, and read as it was. -/
  again : ∀ line p, parse line = some p →
    ∃ line', format p = .ok line' ∧ parse line' = some p
  /-- Nothing stands behind the tokens of a line but the proof that is read. -/
  tail : ∀ line p, parse line = some p → ∃ head, BareLine form.kind arity head ∧
    line = head ++ proofTail p.proof ∧ ∀ given ∈ p.proof, ProofShape given

/-- A lawful form that is read by its parser has a codec. -/
theorem lineCodec_of_reads {form : LineForm} {rt : LineRuntime} {arity : Nat}
    {parse : String → Option ParsedLine} (hForm : form.Lawful) (hReads : ReadsForm form rt parse)
    (hTail : ∀ (p : ParsedLine) (raw : String), form.Valid { p with subject := raw } p.subject →
      ∃ tokens : List (List Char), tokens.length = arity ∧ (∀ token ∈ tokens, Token token) ∧
        (form.text { p with subject := raw }).toList =
          [' '].intercalate ("swap1".toList :: form.kind.toList ::
            (tokens ++ tailTokens (p.proof.map proofTokens)))) :
    LineCodec form arity (form.format rt) parse where
  back input line h := by
    obtain ⟨subject, hValid, hParse⟩ := parse_format hForm hReads h
    obtain ⟨ns, reference, -, -, hParts, hSubject, -⟩ := hValid
    exact ⟨ns, reference, subject, (caip2Parts_eq_some.mp hParts).2.2.2.2, hSubject, hParse⟩
  again line p h := format_parse hForm hReads h
  tail line p h := by
    -- the tail stands after the tokens that the form fixes
    obtain ⟨raw, hValid, rfl, -⟩ := (hReads line p).mp h
    obtain ⟨tokens, hLength, hTokens, hText⟩ := hTail p raw hValid
    refine ⟨String.ofList ([' '].intercalate ("swap1".toList :: form.kind.toList :: tokens)),
      ⟨tokens, hLength, hTokens, String.toList_ofList⟩, ?_, ?_⟩
    · have hJoin := join_tail ("swap1".toList :: form.kind.toList :: tokens)
        (List.cons_ne_nil _ _) p.proof
      rw [← String.toList_inj, hText, String.toList_append]
      exact hJoin.trans (congrArg (· ++ (proofTail p.proof).toList) String.toList_ofList.symm)
    · obtain ⟨-, -, -, -, -, -, hShape⟩ := hValid
      exact hShape

/-- Account lines and pubkey lines are read as they are written and written as they are read, and
a line that is read without a proof has nothing behind its account. -/
theorem line_codec (rt : LineRuntime) (hLibrary : LineLibrary rt)
    (registry : Option NamespacedRailRegistry)
    (hRegistry : ∀ r ∈ registry, ∃ specs, createCustomRailRegistry rt.tclk specs = .ok r) :
    LineCodec (accountForm rt registry) 2 (formatAccountLine rt · registry)
      (parseAccountLine rt · registry) ∧
    LineCodec (pubkeyForm rt) 3 (formatPubkeyLine rt) (parsePubkeyLine rt) := by
  have hAccount := lawful_accountForm hLibrary hRegistry
  have hPubkey := lawful_pubkeyForm hLibrary
  constructor
  · refine lineCodec_of_reads hAccount (fun line p => parseAccountLine_eq_some hAccount)
      fun p raw hValid => ⟨[p.railId.toList, (p.caip2 ++ ":" ++ raw).toList], rfl,
        account_tokens hAccount hValid, ?_⟩
    rw [toList_accountText]
    rfl
  · refine lineCodec_of_reads hPubkey (fun line p => parsePubkeyLine_eq_some hPubkey)
      fun p raw hValid => ⟨[p.railId.toList, p.caip2.toList, raw.toList], rfl,
        pubkey_tokens hPubkey hValid, ?_⟩
    rw [toList_pubkeyText]
    rfl

/-! ### A sample -/

namespace Sample

def lineRuntime : LineRuntime where
  tclk := Desk.Sample.railTclk
  isContractId _ := false
  MAX_FRAME_CHARS := 8192
  isAddress value :=
    match value.toList with
    | '0' :: 'x' :: digits => digits.length == 40 && digits.all isHexLower
    | _ => false
  DEFAULT_PROOF_VERIFIERS _ := none

/-- The sample's library behaves as documented. -/
theorem lineLibrary : LineLibrary lineRuntime where
  railToken value rail h := by
    have h : (if value = "evm-htlc" then some "evm-htlc"
      else if value = "flop-htlc" ∨ value = "FLOP-HTLC" then some "flop-htlc" else none) =
        some rail := h
    split at h
    · cases h
      have hToken : Token "evm-htlc".toList := token_of_all (by decide) (by decide)
      exact ⟨by decide, hToken.2⟩
    · split at h
      · cases h
        have hToken : Token "flop-htlc".toList := token_of_all (by decide) (by decide)
        exact ⟨by decide, hToken.2⟩
      · cases h
  addressShape address h := by
    have h : (match address.toList with
      | '0' :: 'x' :: digits => digits.length == 40 && digits.all isHexLower
      | _ => false) = true := h
    split at h
    · rename_i digits hText
      rw [Bool.and_eq_true, beq_iff_eq, List.all_eq_true] at h
      refine ⟨digits, ?_, h.1, fun c hc => ?_⟩
      · rw [← String.toList_inj, hText, toList_hexText]
      · rw [toLower_of_isHexLower (h.2 c hc)]
        exact h.2 c hc
    · cases h
  addressLower digits hLength hDigits := by
    show (match ("0x" ++ String.ofList digits).toList with
      | '0' :: 'x' :: digits => digits.length == 40 && digits.all isHexLower
      | _ => false) = true
    rw [toList_hexText]
    exact Bool.and_eq_true_iff.mpr ⟨beq_iff_eq.mpr hLength, List.all_eq_true.mpr hDigits⟩

def solRegistry : NamespacedRailRegistry where
  has id := ([("trustcore.sol-htlc-v1", "solana")].lookup id).isSome
  namespaceOf id := [("trustcore.sol-htlc-v1", "solana")].lookup id

def accountLine : ParsedLine :=
  ⟨"evm-htlc", "eip155:31337", "0x5200000000000000000000000000000000000052",
    some ⟨"eip191", "ab12", none⟩⟩

end Sample

theorem line_codec_sample :
    ∃ line, formatAccountLine Sample.lineRuntime Sample.accountLine (some Sample.solRegistry) =
        .ok line ∧
      parseAccountLine Sample.lineRuntime line (some Sample.solRegistry) =
        some Sample.accountLine :=
  (line_codec Sample.lineRuntime Sample.lineLibrary (some Sample.solRegistry) (by
      intro r hr
      cases hr
      exact ⟨[⟨"trustcore.sol-htlc-v1", "solana"⟩], rfl⟩)).1.again
    ("swap1 account evm-htlc eip155:31337:0x5200000000000000000000000000000000000052 " ++
      "proof eip191:ab12") Sample.accountLine (by decide)

end SwapDesk.Rails
